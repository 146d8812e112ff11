import Parley.Condition.Syntax
import Parley.Value.Eval

/-!
Evaluation of conditions. The values of a test are evaluated first, in the order in which they are
written; combinations stop at the first condition that decides them.
-/

set_option autoImplicit false
set_option relaxedAutoImplicit false

namespace Parley

open Evaluation

namespace Evaluation

/-- Whether a check is true of the actor in a role, in the world as it is now. -/
def holds (ctx : Context) (slot : Slot) (check : World → Check) : Evaluation Bool :=
  ask fun w => (check w).holds ctx w slot

def texts (ctx : Context) : List (Source .text) → Evaluation (List String)
  | [] => return []
  | value :: rest => do
    let text ← value.evaluate ctx
    return text :: (← texts ctx rest)

def chance (f : Random → Bool × Random) : Evaluation Bool :=
  modifyGet fun s =>
    let (b, random) := f s.random
    (b, { s with random })

end Evaluation

def Test.evaluate (ctx : Context) : Test → Evaluation Bool
  | .fact slot q => holds ctx slot q.check
  | .text slot q value => do
    let text ← value.evaluate ctx
    holds ctx slot fun w => q.check w text
  | .level slot q value => do
    let n ← value.evaluate ctx
    holds ctx slot fun w => q.check w n
  | .count slot q value amount => do
    let text ← value.evaluate ctx
    let n ← amount.evaluate ctx
    holds ctx slot fun w => q.check w text n
  | .anyTrait slot values => do
    let traits ← texts ctx values
    holds ctx slot fun _ => .creature fun c => traits.any c.hasTrait
  | .variableIs ref expected => do
    return (← read ctx ref) == expected
  | .compareVariable ref c value => do
    let n ← value.evaluate ctx
    return c.holds (← integer ctx ref) n
  | .compareElapsed ref c time => do
    let d ← time.evaluate ctx
    return (← elapsed ctx ref).any fun turns => c.holds turns d.turns
  | .oneIn n => do
    let n ← n.evaluate ctx
    chance (·.oneIn n.toInt64)
  | .xInY x y => do
    let x ← x.evaluate ctx
    let y ← y.evaluate ctx
    chance (·.xInY x.toInt64 y.toInt64)
  | .compareIntegers c l r => do
    let a ← l.evaluate ctx
    let b ← r.evaluate ctx
    return c.holds a b
  | .compareTexts l r => do
    let a ← l.evaluate ctx
    let b ← r.evaluate ctx
    return a == b

mutual

def Condition.evaluate (ctx : Context) : Condition → Evaluation Bool
  | .constant b => return b
  | .all conditions => Condition.evaluateAll ctx conditions
  | .any conditions => Condition.evaluateAny ctx conditions
  | .negate condition => do
    return !(← condition.evaluate ctx)
  | .test t => t.evaluate ctx

/-- Whether all of some conditions are true, up to the first that is false. -/
def Condition.evaluateAll (ctx : Context) : List Condition → Evaluation Bool
  | [] => return true
  | condition :: rest => do
    if ← condition.evaluate ctx then Condition.evaluateAll ctx rest else return false

/-- Whether some of the conditions is true, up to the first that is. -/
def Condition.evaluateAny (ctx : Context) : List Condition → Evaluation Bool
  | [] => return false
  | condition :: rest => do
    if ← condition.evaluate ctx then return true else Condition.evaluateAny ctx rest

end

end Parley
