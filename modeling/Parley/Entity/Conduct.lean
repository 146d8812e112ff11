import Parley.Named

/-!
How non-player characters behave: their attitude to the player and the rules followers go by.
-/

set_option autoImplicit false
set_option relaxedAutoImplicit false

namespace Parley

/-- How a non-player character regards the player. -/
inductive Attitude
  | null
  | talk
  | follow
  | lead
  | wait
  | guard
  | activity
  | heal
  | flee
  | mug
  | waylay
  | kill
  deriving DecidableEq, Repr

instance : Named Attitude where
  all := [.null, .talk, .follow, .lead, .wait, .guard, .activity, .heal, .flee, .mug, .waylay,
    .kill]
  name
    | .null => "NULL"
    | .talk => "TALK"
    | .follow => "FOLLOW"
    | .lead => "LEAD"
    | .wait => "WAIT"
    | .guard => "GUARD"
    | .activity => "ACTIVITY"
    | .heal => "HEAL"
    | .flee => "FLEE"
    | .mug => "MUG"
    | .waylay => "WAYLAY"
    | .kill => "KILL"

instance : LawfulNamed Attitude := ⟨by intro a; cases a <;> decide⟩

namespace Attitude

def isFollowing : Attitude → Bool
  | .follow | .wait | .guard | .activity => true
  | _ => false

def isFriendly : Attitude → Bool
  | .lead | .heal => true
  | a => a.isFollowing

def isHostile : Attitude → Bool
  | .mug | .waylay | .kill => true
  | _ => false

end Attitude

inductive AimRule
  | whenConvenient
  | spray
  | prudent
  | strictlyPrecise
  deriving DecidableEq, Repr

instance : Named AimRule where
  all := [.whenConvenient, .spray, .prudent, .strictlyPrecise]
  name
    | .whenConvenient => "AIM_WHEN_CONVENIENT"
    | .spray => "AIM_SPRAY"
    | .prudent => "AIM_PRUDENT"
    | .strictlyPrecise => "AIM_STRICTLY_PRECISE"

instance : LawfulNamed AimRule := ⟨by intro a; cases a <;> decide⟩

inductive EngagementRule
  | none
  | close
  | weak
  | hit
  | all
  | freeFire
  | noMove
  deriving DecidableEq, Repr

instance : Named EngagementRule where
  all := [.none, .close, .weak, .hit, .all, .freeFire, .noMove]
  name
    | .none => "ENGAGE_NONE"
    | .close => "ENGAGE_CLOSE"
    | .weak => "ENGAGE_WEAK"
    | .hit => "ENGAGE_HIT"
    | .all => "ENGAGE_ALL"
    | .freeFire => "ENGAGE_FREE_FIRE"
    | .noMove => "ENGAGE_NO_MOVE"

instance : LawfulNamed EngagementRule := ⟨by intro a; cases a <;> decide⟩

/-- How much bionic power a follower keeps in reserve. -/
inductive ReserveRule
  | all
  | most
  | some
  | little
  | none
  deriving DecidableEq, Repr

instance : Named ReserveRule where
  all := [.all, .most, .some, .little, .none]
  name
    | .all => "CBM_RESERVE_ALL"
    | .most => "CBM_RESERVE_MOST"
    | .some => "CBM_RESERVE_SOME"
    | .little => "CBM_RESERVE_LITTLE"
    | .none => "CBM_RESERVE_NONE"

instance : LawfulNamed ReserveRule := ⟨by intro a; cases a <;> decide⟩

/-- How far a follower lets bionic power run down before recharging. -/
inductive RechargeRule
  | all
  | most
  | some
  | little
  | none
  deriving DecidableEq, Repr

instance : Named RechargeRule where
  all := [.all, .most, .some, .little, .none]
  name
    | .all => "CBM_RECHARGE_ALL"
    | .most => "CBM_RECHARGE_MOST"
    | .some => "CBM_RECHARGE_SOME"
    | .little => "CBM_RECHARGE_LITTLE"
    | .none => "CBM_RECHARGE_NONE"

instance : LawfulNamed RechargeRule := ⟨by intro a; cases a <;> decide⟩

end Parley
