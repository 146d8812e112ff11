import Parley.Proofs.Talk.Cell

/-!
Actors that the world does not have. A handle of one is answered as if nobody were there, and what is
written to it or removed from it is lost. Main statement: this holds of every question but one, since
what a character is said to carry and does not hold is still found where that character is.
-/

set_option autoImplicit false
set_option relaxedAutoImplicit false

namespace Parley

private theorem Dict.modify_eq_self {κ ν : Type} [Ord κ] [Std.TransOrd κ] [Std.LawfulEqOrd κ]
    [DecidableEq κ] {d : Dict κ ν} {k : κ} {f : ν → ν} (h : ∀ v, d.get? k = some v → f v = v) :
    d.modify k f = d := by
  refine ext_get? fun k' => ?_
  rw [get?_modify]
  split
  · next hk =>
    subst hk
    cases hv : d.get? k with
    | none => rfl
    | some v => rw [Option.map_some, h v hv]
  · rfl

private theorem Inventory.modify_eq_self {inv : Inventory} {id : EntityId} (h : ∀ i ∈ inv.items, i.id ≠ id)
    (f : Item → Item) : inv.modify id f = inv := by
  obtain ⟨carried, worn, wielded⟩ := inv
  have hcarried : carried.any (·.id = id) = false :=
    List.any_eq_false.2 fun i hi => by
      simpa using h i (List.mem_append_left _ (List.mem_append_left _ hi))
  have hworn : worn.any (·.id = id) = false :=
    List.any_eq_false.2 fun i hi => by
      simpa using h i (List.mem_append_left _ (List.mem_append_right _ hi))
  have hwielded : (wielded.map fun i => if i.id = id then f i else i) = wielded := by
    cases wielded with
    | none => rfl
    | some i =>
      have hi : i.id ≠ id := h i (List.mem_append_right _ (List.mem_singleton_self i))
      rw [Option.map_some, if_neg hi]
  simp only [modify, hcarried, hworn, hwielded, Bool.false_eq_true, if_false]

namespace Handle

/-- Whether the world lacks what a handle names: the creature, the item on the ground, or the owner or
what the owner is said to carry. -/
def Absent (w : World) : Handle → Prop
  | .creature id => w.character? id = none
  | .item (.ground id) => w.items.get? id = none
  | .item (.carried owner id) => ∀ c, w.character? owner = some c → ∀ i ∈ c.items, i.id ≠ id

private theorem absent_iff {w : World} {h : Handle} : h.Absent w ↔ w.actor? h = none := by
  rcases h with id | ⟨id⟩ | ⟨owner, id⟩
  · exact Option.map_eq_none_iff.symm
  · simp only [Absent, World.actor?, World.itemAt?, Option.map_eq_none_iff]
  · simp only [Absent, World.actor?, World.itemAt?, Option.map_eq_none_iff, Option.bind_eq_none_iff,
      Character.item?, List.find?_eq_none, decide_eq_true_eq, ne_eq]

def owner? : Handle → Option EntityId
  | .item (.carried owner _) => some owner
  | .creature _ | .item (.ground _) => none

end Handle

namespace World

variable {w : World} {h : Handle}

private theorem modifyVars_of_absent (habsent : h.Absent w) (f : Variables → Variables) :
    w.modifyVars h f = w := by
  rcases h with id | ⟨id⟩ | ⟨owner, id⟩
  · have hsame : w.characters.modify id (fun c => { c with vars := f c.vars }) = w.characters :=
      Dict.modify_eq_self fun c hc => nomatch habsent.symm.trans hc
    rw [modifyVars, hsame]
  · have hsame : w.items.modify id (fun l => { l with item := { l.item with vars := f l.item.vars } }) =
        w.items :=
      Dict.modify_eq_self fun l hl => nomatch habsent.symm.trans hl
    rw [modifyVars, hsame]
  · -- the owner may be there, and then holds nothing that the change would reach
    have hsame : w.characters.modify owner (fun c =>
        { c with inventory := c.inventory.modify id fun i => { i with vars := f i.vars } }) =
          w.characters :=
      Dict.modify_eq_self fun c hc => by rw [Inventory.modify_eq_self (habsent c hc)]
    rw [modifyVars, hsame]

private theorem position?_of_absent (habsent : h.Absent w) :
    w.position? h = (h.owner?.bind w.character?).map (·.position) := by
  rcases h with id | ⟨id⟩ | ⟨owner, id⟩
  · rw [position?, show w.character? id = none from habsent]
    rfl
  · rw [position?, show w.items.get? id = none from habsent]
    rfl
  · rfl

end World

/-- What is known of an actor that is not there, and what becomes of what is written to it: it has no
name, no text in any variable, no flag and no faction and is neither a character nor an item, and neither
a write nor a removal changes the world. -/
structure State.Neutral (s : State) (h : Handle) : Prop where
  name : s.world.actorName h = ""
  text : ∀ name, s.world.actorText h name = ""
  flag : ∀ flag, s.world.actorHasFlag h flag = false
  faction : s.world.actorFaction? h = none
  character : s.world.actorCharacter? h = none
  item : s.world.actorItem? h = none
  write : ∀ name text, s.writeActor h name text = s.report (h.missing name)
  forget : ∀ name, s.world.forget h name = s.world

private theorem State.neutral_of_absent {s : State} {h : Handle} (habsent : h.Absent s.world) :
    s.Neutral h := by
  have hactor : s.world.actor? h = none := Handle.absent_iff.1 habsent
  exact
    { name := by rw [World.actorName, hactor, Option.elim_none]
      text := fun name => by rw [World.actorText, hactor, Option.elim_none]
      flag := fun flag => by rw [World.actorHasFlag, hactor, Option.any_none]
      faction := by rw [World.actorFaction?, hactor, Option.bind_none]
      character := by rw [World.actorCharacter?, hactor, Option.bind_none]
      item := by rw [World.actorItem?, hactor, Option.bind_none]
      write := fun name text => by
        unfold writeActor
        rw [hactor]
        cases h <;> rfl
      forget := fun name => World.modifyVars_of_absent habsent (·.erase name) }

/-- A state in which a character who holds nothing stands at a place. -/
def State.ofOne (position : Square) : State where
  world := World.empty.addCharacter { Character.ofName "Ann" with id := .ofNat 1, position }
  random := .scripted []
  frames := []
  log := []

/-- An item that the character of `State.ofOne` is said to carry. -/
def Handle.unheld : Handle :=
  .item (.carried (.ofNat 1) (.ofNat 99))

private theorem Handle.absent_unheld (position : Square) :
    unheld.Absent (State.ofOne position).world := by
  intro c hc i hi
  cases hc
  cases hi

/-- An actor that the world does not have is neutral, but it is somewhere if the character that is said to
carry it is: there. -/
theorem State.neutral_but_placed {s : State} {h : Handle} (habsent : h.Absent s.world) :
    s.Neutral h ∧
      s.world.position? h = (h.owner?.bind s.world.character?).map (·.position) :=
  ⟨neutral_of_absent habsent, World.position?_of_absent habsent⟩

/-- What Ann does not hold has no name, and is where Ann is. -/
theorem State.neutral_but_placed_unheld :
    (ofOne ⟨4, 5, 0⟩).Neutral .unheld ∧
      (ofOne ⟨4, 5, 0⟩).world.position? .unheld = some ⟨4, 5, 0⟩ :=
  neutral_but_placed (Handle.absent_unheld ⟨4, 5, 0⟩)

/-- Not every actor that the world does not have is nowhere. -/
theorem State.absent_placed :
    ¬∀ (s : State) (h : Handle), h.Absent s.world → s.Neutral h ∧ s.world.position? h = none := by
  intro hnowhere
  obtain ⟨-, hposition⟩ := hnowhere (ofOne ⟨4, 5, 0⟩) .unheld (Handle.absent_unheld ⟨4, 5, 0⟩)
  cases hposition

end Parley
