import Parley.Talk.Context

/-!
Checks: yes-or-no questions about the actors of a context, sorted by what they look at. A check that
looks at an actor is false where there is none of the sort it needs.
-/

set_option autoImplicit false
set_option relaxedAutoImplicit false

namespace Parley

/-- A question about the actor in a role. -/
inductive Check
  /-- about the character -/
  | creature (p : Character → Bool)
  /-- about a character with a profile -/
  | profile (p : Character → Profile → Bool)
  /-- about the character or item -/
  | actor (p : Actor → Bool)
  /-- about where it is -/
  | place (p : Square → Bool)
  /-- about its faction -/
  | faction (p : String → Bool)
  /-- about the character and the one in the other role -/
  | pair (p : Character → Character → Bool)
  /-- about the character and the faction of the actor in the other role -/
  | versus (p : Character → String → Bool)
  /-- put to the player, anyone else giving the default answer -/
  | prompt (default answer : Bool)
  /-- about the occasion -/
  | occasion (p : Context → Bool)
  /-- about nobody -/
  | world (b : Bool)

def Check.holds (ctx : Context) (w : World) (slot : Slot) : Check → Bool
  | .creature p => (ctx.character? w slot).any p
  | .profile p => (ctx.character? w slot).any fun c => c.profile.any (p c)
  | .actor p => (ctx.actor? w slot).any p
  | .place p => (ctx.position? w slot).any p
  | .faction p => (ctx.faction? w slot).any p
  | .pair p => (ctx.character? w slot).any fun c => (ctx.character? w slot.other).any (p c)
  | .versus p => (ctx.character? w slot).any fun c => (ctx.faction? w slot.other).any (p c)
  | .prompt default answer =>
    if (ctx.character? w slot).any fun c => !c.isNpc then answer else default
  | .occasion p => p ctx
  | .world b => b

end Parley
