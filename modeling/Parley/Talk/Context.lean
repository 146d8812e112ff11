import Parley.Talk.Handle

/-!
Contexts of evaluation: who takes part, and whether it is a conversation or the check of a mission's
goal.
-/

set_option autoImplicit false
set_option relaxedAutoImplicit false

namespace Parley

inductive Slot
  | primary
  | secondary
  deriving DecidableEq, Repr

def Slot.other : Slot → Slot
  | .primary => .secondary
  | .secondary => .primary

inductive Shape
  | conversation
  | missionGoal
  deriving DecidableEq, Repr

/-- The occasion of a context; only a conversation has a medium and a reason. -/
inductive Occasion
  | conversation (byRadio : Bool) (reason : String)
  | missionGoal
  deriving DecidableEq, Repr

/-- Who takes part in which role, and on what occasion. -/
structure Context where
  primary : Option Handle
  secondary : Option Handle
  occasion : Occasion
  deriving DecidableEq

namespace Context

def handle? (ctx : Context) : Slot → Option Handle
  | .primary => ctx.primary
  | .secondary => ctx.secondary

def byRadio (ctx : Context) : Bool :=
  match ctx.occasion with
  | .conversation byRadio _ => byRadio
  | .missionGoal => false

/-- Why the conversation was started, empty if for no reason. -/
def reason (ctx : Context) : String :=
  match ctx.occasion with
  | .conversation _ reason => reason
  | .missionGoal => ""

def copy (ctx : Context) : Shape → Context
  | .conversation => { ctx with occasion := .conversation ctx.byRadio ctx.reason }
  | .missionGoal => { ctx with occasion := .missionGoal }

def actor? (ctx : Context) (w : World) (slot : Slot) : Option Actor :=
  (ctx.handle? slot).bind w.actor?

def character? (ctx : Context) (w : World) (slot : Slot) : Option Character :=
  (ctx.actor? w slot).bind (·.character?)

def position? (ctx : Context) (w : World) (slot : Slot) : Option Square :=
  (ctx.handle? slot).bind w.position?

def faction? (ctx : Context) (w : World) (slot : Slot) : Option String :=
  (ctx.actor? w slot).bind (·.faction?)

end Context

end Parley
