import Parley.Talk.State

/-!
Cells: where the variables that references name are stored. Main statements: a read gives what is in the
cell of its reference, and a write puts its text there or, where the reference has no cell, reports it.
-/

set_option autoImplicit false
set_option relaxedAutoImplicit false

namespace Parley

inductive Store
  | globals
  | actor (h : Handle)
  | faction (id : String)
  deriving DecidableEq

/-- What a write to an actor that the world does not have reports. -/
def Handle.missing (name : String) : Handle → Diagnostic
  | .creature id => .missingCharacter name id
  | .item place => .missingItem name place

namespace Context

/-- The store of a scope: that of an actor if the world has the actor, that of a faction if the secondary
actor has one. -/
def store? (ctx : Context) (w : World) : Scope → Option Store
  | .global => some .globals
  | .primary => (ctx.primary.filter fun h => (w.actor? h).isSome).map .actor
  | .secondary => (ctx.secondary.filter fun h => (w.actor? h).isSome).map .actor
  | .faction => (ctx.faction? w .secondary).map .faction
  | .party => some (.faction World.playerFaction)

/-- The cell of a reference: a store, and a name in it. -/
def cell? (ctx : Context) (w : World) (ref : Reference) : Option (Store × String) :=
  (ctx.store? w ref.scope).map fun store => (store, ref.name)

def unresolved (ctx : Context) (ref : Reference) : Diagnostic :=
  match ref.scope with
  | .faction => .noFaction ref.name
  | scope => (State.scopeHandle ctx scope).elim (.noActor ref.name scope) (·.missing ref.name)

theorem severity_unresolved (ctx : Context) (ref : Reference) :
    (ctx.unresolved ref).severity = .warning := by
  unfold unresolved
  split
  · rfl
  · cases State.scopeHandle ctx ref.scope with
    | none => rfl
    | some h => cases h <;> rfl

end Context

namespace State

variable (s : State) (ctx : Context)

def textAt (s : State) : Store × String → String
  | (.globals, name) => s.globalText name
  | (.actor h, name) => s.world.actorText h name
  | (.faction id, name) => s.factionText id name

/-- The state with a text put into a cell. -/
def put (s : State) (cell : Store × String) (text : String) : State :=
  match cell with
  | (.globals, name) => s.writeGlobal name text
  | (.actor h, name) => { s with world := s.world.modifyVars h (·.set name text) }
  | (.faction id, name) => s.writeFaction id name text

/-- A name in the store of an actor, if there is an actor and the world has it. -/
private def actorCell? (w : World) (name : String) (who : Option Handle) : Option (Store × String) :=
  ((who.filter fun h => (w.actor? h).isSome).map Store.actor).map fun store => (store, name)

private theorem actorCell?_of_some {w : World} {h : Handle} {a : Actor} (name : String)
    (hfound : w.actor? h = some a) : actorCell? w name (some h) = some (.actor h, name) := by
  rw [actorCell?, Option.filter_some, hfound]
  rfl

private theorem actorCell?_of_none {w : World} {h : Handle} (name : String)
    (hmissing : w.actor? h = none) : actorCell? w name (some h) = none := by
  rw [actorCell?, Option.filter_some, hmissing]
  rfl

private theorem actorText_eq (name : String) (who : Option Handle) :
    (who.elim "" fun h => s.world.actorText h name) =
      (actorCell? s.world name who).elim "" s.textAt := by
  cases who with
  | none => rfl
  | some h =>
    cases hactor : s.world.actor? h with
    | some a => rw [actorCell?_of_some name hactor]; rfl
    | none =>
      rw [actorCell?_of_none name hactor]
      change s.world.actorText h name = ""
      rw [World.actorText, hactor]
      rfl

private theorem writeActor_eq (h : Handle) (name text : String) :
    s.writeActor h name text =
      (actorCell? s.world name (some h)).elim (s.report (h.missing name)) fun cell =>
        s.put cell text := by
  unfold writeActor
  cases hactor : s.world.actor? h with
  | some a => rw [actorCell?_of_some name hactor]; rfl
  | none => rw [actorCell?_of_none name hactor]; cases h <;> rfl

theorem read_eq (ref : Reference) :
    s.read ctx ref = (ctx.cell? s.world ref).elim "" s.textAt := by
  obtain ⟨scope, name, default⟩ := ref
  cases scope with
  | global | party => rfl
  | primary => exact s.actorText_eq name ctx.primary
  | secondary => exact s.actorText_eq name ctx.secondary
  | faction =>
    change (ctx.faction? s.world .secondary).elim "" _ =
      (((ctx.faction? s.world .secondary).map Store.faction).map _).elim "" s.textAt
    cases ctx.faction? s.world .secondary <;> rfl

theorem write_eq (ref : Reference) (text : String) :
    s.write ctx ref text =
      (ctx.cell? s.world ref).elim (s.report (ctx.unresolved ref)) fun cell => s.put cell text := by
  obtain ⟨scope, name, default⟩ := ref
  cases scope with
  | global | party => rfl
  | primary =>
    obtain ⟨_ | h, q, occasion⟩ := ctx
    · rfl
    · exact s.writeActor_eq h name text
  | secondary =>
    obtain ⟨p, _ | h, occasion⟩ := ctx
    · rfl
    · exact s.writeActor_eq h name text
  | faction =>
    change s.writeAs .faction name ctx.secondary text = _
    unfold writeAs Context.cell? Context.store? Context.faction? Context.actor? Context.handle?
    cases (ctx.secondary.bind s.world.actor?).bind (·.faction?) <;> rfl

end State

end Parley
