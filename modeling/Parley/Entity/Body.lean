import Parley.Named

/-!
Bodies: the parts that have hit points of their own, the needs of a body and the degrees of fatigue.
-/

set_option autoImplicit false
set_option relaxedAutoImplicit false

namespace Parley

/-- A part of the body with hit points and localized effects. -/
inductive BodyPart
  | torso
  | head
  | armL
  | armR
  | legL
  | legR
  deriving DecidableEq, Repr

namespace BodyPart

/-- The place of a part in the order from torso to right leg. -/
def rank : BodyPart → Nat
  | .torso => 0
  | .head => 1
  | .armL => 2
  | .armR => 3
  | .legL => 4
  | .legR => 5

instance : Ord BodyPart := ⟨compareOn rank⟩

instance : Std.TransOrd BodyPart := inferInstanceAs (Std.TransCmp (compareOn rank))

instance : Std.LawfulEqOrd BodyPart where
  compare_self := Std.compare_self (α := Nat)
  eq_of_compare {a b} h := by
    have hr : a.rank = b.rank := Std.LawfulEqOrd.eq_of_compare (α := Nat) h
    revert hr
    cases a <;> cases b <;> decide

end BodyPart

instance : Named BodyPart where
  all := [.torso, .head, .armL, .armR, .legL, .legR]
  name
    | .torso => "torso"
    | .head => "head"
    | .armL => "arm_l"
    | .armR => "arm_r"
    | .legL => "leg_l"
    | .legR => "leg_r"

instance : LawfulNamed BodyPart := ⟨by intro a; cases a <;> decide⟩

inductive Need
  | hunger
  | thirst
  | fatigue
  deriving DecidableEq, Repr

instance : Named Need where
  all := [.hunger, .thirst, .fatigue]
  name
    | .hunger => "hunger"
    | .thirst => "thirst"
    | .fatigue => "fatigue"

instance : LawfulNamed Need := ⟨by intro a; cases a <;> decide⟩

inductive FatigueLevel
  | tired
  | deadTired
  | exhausted
  | massiveFatigue
  deriving DecidableEq, Repr

instance : Named FatigueLevel where
  all := [.tired, .deadTired, .exhausted, .massiveFatigue]
  name
    | .tired => "TIRED"
    | .deadTired => "DEAD_TIRED"
    | .exhausted => "EXHAUSTED"
    | .massiveFatigue => "MASSIVE_FATIGUE"

instance : LawfulNamed FatigueLevel := ⟨by intro a; cases a <;> decide⟩

def FatigueLevel.threshold : FatigueLevel → Int32
  | .tired => 191
  | .deadTired => 383
  | .exhausted => 575
  | .massiveFatigue => 1000

end Parley
