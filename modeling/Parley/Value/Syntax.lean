import Parley.Talk.Context
import Parley.Talk.Reference
import Parley.Value.Operator
import Parley.Value.Reading

/-!
The language of values and effects. A value is a literal, a variable with a default, or computed by an
effect; a measure may also be drawn from a range. Effects write variables; one that reports writes the
reserved variable, and what was reported last is the result of a computed value.
-/

set_option autoImplicit false
set_option relaxedAutoImplicit false

namespace Parley

mutual

inductive Effect
  | report (value : Term)
  | assign (target : Reference) (value : Term)
  | setText (target : Reference) (value : Source .text)
  | sequence (effects : List Effect)

/-- An operand, or an operator between two. -/
inductive Term
  | operand (value : Operand)
  | binary (op : Operator) (l r : Operand)

/-- An integer that effects and comparisons compute with. -/
inductive Operand
  | constant (n : Int32)
  | random (most : Int64)
  | clock (reading : ClockReading)
  | weather (gauge : WeatherGauge)
  | creature (slot : Slot) (reading : CreatureReading)
  | coordinate (slot : Slot) (axis : Axis)
  | variable (ref : Reference)
  | elapsed (ref : Reference)
  | value (range : Ranged .integer)

inductive Source : Kind → Type
  | literal {k : Kind} (value : k.Value) : Source k
  | variable {k : Kind} (ref : Reference) (default : Option k.Value) : Source k
  | computed {k : Kind} (effect : Effect) (default : Option k.Value) : Source k

/-- A value of a measure, or a range to draw one from. -/
inductive Ranged : Measure → Type
  | single {m : Measure} (value : Source (.measure m)) : Ranged m
  | pair {m : Measure} (low high : Source (.measure m)) : Ranged m

end

/-- The ways in which a value can be given. -/
inductive Flavor
  | literal
  | variable
  | computed
  deriving DecidableEq, Repr

def Source.flavor {k : Kind} : Source k → Flavor
  | .literal _ => .literal
  | .variable _ _ => .variable
  | .computed _ _ => .computed

def Effect.step (target : Reference) (delta : Int32) : Effect :=
  .assign target (.binary .add (.variable target) (.constant delta))

end Parley
