import Parley.Condition.Query
import Parley.Value.Syntax

/-!
The language of conditions: constants, combinations, and tests that evaluate values and then ask about
the world.
-/

set_option autoImplicit false
set_option relaxedAutoImplicit false

namespace Parley

/-- A test, with the values it needs. -/
inductive Test
  | fact (slot : Slot) (q : Fact)
  | text (slot : Slot) (q : TextQuery) (value : Source .text)
  | level (slot : Slot) (q : LevelQuery) (value : Ranged .integer)
  | count (slot : Slot) (q : CountQuery) (value : Source .text) (level : Ranged .integer)
  | anyTrait (slot : Slot) (values : List (Source .text))
  | variableIs (ref : Reference) (text : String)
  | compareVariable (ref : Reference) (c : Comparison) (value : Ranged .integer)
  | compareElapsed (ref : Reference) (c : Comparison) (time : Ranged .duration)
  | oneIn (n : Ranged .integer)
  | xInY (x y : Ranged .integer)
  | compareIntegers (c : Comparison) (l r : Operand)
  | compareTexts (l r : Source .text)

inductive Condition
  | constant (b : Bool)
  | all (conditions : List Condition)
  | any (conditions : List Condition)
  | negate (condition : Condition)
  | test (t : Test)

instance : Inhabited Condition := ⟨.constant false⟩

end Parley
