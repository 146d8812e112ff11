import Mathlib.Data.List.Forall2
import Parley.Proofs.Talk.Cell

/-!
Development of the world: variables get texts, factions become known, and all else stays. Main
statements: a world that develops twice develops, references keep their cells, and the world develops
whenever a variable is written.
-/

set_option autoImplicit false
set_option relaxedAutoImplicit false

namespace Parley

/-- Variables may get texts, but none loses its text. -/
def Variables.Develops (v v' : Variables) : Prop :=
  ∀ name, v.contains name = true → v'.contains name = true

/-- An item changes in its variables only. -/
structure Item.Develops (i i' : Item) : Prop where
  rest_eq : { i' with vars := .none } = { i with vars := .none }
  vars : i.vars.Develops i'.vars

/-- The items held stay where they are, each changing in its variables only. -/
structure Inventory.Develops (inv inv' : Inventory) : Prop where
  carried : List.Forall₂ Item.Develops inv.carried inv'.carried
  worn : List.Forall₂ Item.Develops inv.worn inv'.worn
  wielded : Option.Rel Item.Develops inv.wielded inv'.wielded

/-- A character changes in its own variables and those of the items it holds only. -/
structure Character.Develops (c c' : Character) : Prop where
  rest_eq : { c' with vars := .none, inventory := .empty } = { c with vars := .none, inventory := .empty }
  vars : c.vars.Develops c'.vars
  inventory : c.inventory.Develops c'.inventory

/-- An item on the ground stays where it is. -/
structure LooseItem.Develops (l l' : LooseItem) : Prop where
  position_eq : l'.position = l.position
  item : l.item.Develops l'.item

/-- A faction keeps its id, its name and its trust. -/
structure Faction.Develops (f f' : Faction) : Prop where
  rest_eq : { f' with vars := .none } = { f with vars := .none }
  vars : f.vars.Develops f'.vars

/-- A world changes in variables only, those of factions included that were not known before. -/
structure World.Develops (w w' : World) : Prop where
  calendar_eq : w'.calendar = w.calendar
  environment_eq : w'.environment = w.environment
  terrain_eq : w'.terrain = w.terrain
  playerId_eq : w'.playerId = w.playerId
  monsters_eq : w'.monsters = w.monsters
  missions_eq : w'.missions = w.missions
  answers_eq : w'.answers = w.answers
  characters : ∀ id, Option.Rel Character.Develops (w.characters.get? id) (w'.characters.get? id)
  items : ∀ id, Option.Rel LooseItem.Develops (w.items.get? id) (w'.items.get? id)
  globals : w.globals.Develops w'.globals
  factions : ∀ id f, w.factions.get? id = some f → ∃ f', w'.factions.get? id = some f' ∧ f.Develops f'
  new_factions : ∀ id f', w.factions.get? id = none → w'.factions.get? id = some f' →
    (Faction.ofId id).Develops f'

section Relations

variable {α : Type} {R : α → α → Prop}

private theorem optionRel_refl (h : ∀ a, R a a) (x : Option α) : Option.Rel R x x := by
  cases x with
  | none => exact .none
  | some a => exact .some (h a)

private theorem optionRel_trans (h : ∀ a b c, R a b → R b c → R a c) {x y z : Option α}
    (hxy : Option.Rel R x y) (hyz : Option.Rel R y z) : Option.Rel R x z := by
  cases hxy with
  | none => exact hyz
  | some hab =>
    cases hyz with
    | some hbc => exact .some (h _ _ _ hab hbc)

private theorem forall₂_trans (h : ∀ a b c, R a b → R b c → R a c) {xs ys zs : List α}
    (hxy : List.Forall₂ R xs ys) (hyz : List.Forall₂ R ys zs) : List.Forall₂ R xs zs := by
  induction hxy generalizing zs with
  | nil => exact hyz
  | cons hab _ ih =>
    cases hyz with
    | cons hbc hrest => exact .cons (h _ _ _ hab hbc) (ih hrest)

private theorem optionRel_find? {p : α → Bool} (hp : ∀ a b, R a b → p b = p a) {xs ys : List α}
    (h : List.Forall₂ R xs ys) : Option.Rel R (xs.find? p) (ys.find? p) := by
  induction h with
  | nil => exact .none
  | @cons a b _ _ hab _ ih =>
    rw [List.find?_cons, List.find?_cons, hp a b hab]
    cases p a with
    | true => exact .some hab
    | false => exact ih

theorem optionRel_map {β : Type} {S : β → β → Prop} {f : α → β}
    (hf : ∀ a b, R a b → S (f a) (f b)) {x y : Option α} (h : Option.Rel R x y) :
    Option.Rel S (x.map f) (y.map f) := by
  cases h with
  | none => exact .none
  | some hab => exact .some (hf _ _ hab)

theorem optionRel_bind {β : Type} {S : β → β → Prop} {f : α → Option β}
    (hf : ∀ a b, R a b → Option.Rel S (f a) (f b)) {x y : Option α} (h : Option.Rel R x y) :
    Option.Rel S (x.bind f) (y.bind f) := by
  cases h with
  | none => exact .none
  | some hab => exact hf _ _ hab

theorem bind_eq_of_optionRel {β : Type} {f : α → Option β} (hf : ∀ a b, R a b → f b = f a)
    {x y : Option α} (h : Option.Rel R x y) : y.bind f = x.bind f := by
  cases h with
  | none => rfl
  | some hab => exact hf _ _ hab

theorem elim_eq_of_optionRel {β : Type} {b : β} {f : α → β} (hf : ∀ a b, R a b → f b = f a) {x y : Option α}
    (h : Option.Rel R x y) : y.elim b f = x.elim b f := by
  cases h with
  | none => rfl
  | some hab => exact hf _ _ hab

theorem isSome_eq_of_optionRel {x y : Option α} (h : Option.Rel R x y) :
    y.isSome = x.isSome := by
  cases h <;> rfl

private theorem forall₂_toList {x y : Option α} (h : Option.Rel R x y) :
    List.Forall₂ R x.toList y.toList := by
  cases h with
  | none => exact .nil
  | some hab => exact .cons hab .nil

end Relations

private theorem Variables.Develops.refl (v : Variables) : v.Develops v :=
  fun _ h => h

private theorem Variables.Develops.trans {v v' v'' : Variables} (h : v.Develops v') (h' : v'.Develops v'') :
    v.Develops v'' :=
  fun name hname => h' name (h name hname)

private theorem Item.Develops.refl (i : Item) : i.Develops i :=
  ⟨rfl, .refl _⟩

private theorem Item.Develops.trans {i i' i'' : Item} (h : i.Develops i') (h' : i'.Develops i'') :
    i.Develops i'' :=
  ⟨h'.rest_eq.trans h.rest_eq, h.vars.trans h'.vars⟩

private theorem Inventory.Develops.refl (inv : Inventory) : inv.Develops inv where
  carried := List.forall₂_same.2 fun i _ => .refl i
  worn := List.forall₂_same.2 fun i _ => .refl i
  wielded := optionRel_refl .refl _

private theorem Inventory.Develops.trans {inv inv' inv'' : Inventory} (h : inv.Develops inv')
    (h' : inv'.Develops inv'') : inv.Develops inv'' where
  carried := forall₂_trans (fun _ _ _ => .trans) h.carried h'.carried
  worn := forall₂_trans (fun _ _ _ => .trans) h.worn h'.worn
  wielded := optionRel_trans (fun _ _ _ => .trans) h.wielded h'.wielded

private theorem Character.Develops.refl (c : Character) : c.Develops c :=
  ⟨rfl, .refl _, .refl _⟩

private theorem Character.Develops.trans {c c' c'' : Character} (h : c.Develops c') (h' : c'.Develops c'') :
    c.Develops c'' :=
  ⟨h'.rest_eq.trans h.rest_eq, h.vars.trans h'.vars, h.inventory.trans h'.inventory⟩

private theorem LooseItem.Develops.refl (l : LooseItem) : l.Develops l :=
  ⟨rfl, .refl _⟩

private theorem LooseItem.Develops.trans {l l' l'' : LooseItem} (h : l.Develops l') (h' : l'.Develops l'') :
    l.Develops l'' :=
  ⟨h'.position_eq.trans h.position_eq, h.item.trans h'.item⟩

private theorem Faction.Develops.refl (f : Faction) : f.Develops f :=
  ⟨rfl, .refl _⟩

private theorem Faction.Develops.trans {f f' f'' : Faction} (h : f.Develops f') (h' : f'.Develops f'') :
    f.Develops f'' :=
  ⟨h'.rest_eq.trans h.rest_eq, h.vars.trans h'.vars⟩

namespace World.Develops

variable {w w' w'' : World}

theorem refl (w : World) : w.Develops w where
  calendar_eq := rfl
  environment_eq := rfl
  terrain_eq := rfl
  playerId_eq := rfl
  monsters_eq := rfl
  missions_eq := rfl
  answers_eq := rfl
  characters _ := optionRel_refl .refl _
  items _ := optionRel_refl .refl _
  globals := .refl _
  factions _ f hf := ⟨f, hf, .refl f⟩
  new_factions id f' hnone hsome := by
    rw [hnone] at hsome
    cases hsome

theorem trans (h : w.Develops w') (h' : w'.Develops w'') : w.Develops w'' where
  calendar_eq := h'.calendar_eq.trans h.calendar_eq
  environment_eq := h'.environment_eq.trans h.environment_eq
  terrain_eq := h'.terrain_eq.trans h.terrain_eq
  playerId_eq := h'.playerId_eq.trans h.playerId_eq
  monsters_eq := h'.monsters_eq.trans h.monsters_eq
  missions_eq := h'.missions_eq.trans h.missions_eq
  answers_eq := h'.answers_eq.trans h.answers_eq
  characters id := optionRel_trans (fun _ _ _ => .trans) (h.characters id) (h'.characters id)
  items id := optionRel_trans (fun _ _ _ => .trans) (h.items id) (h'.items id)
  globals := h.globals.trans h'.globals
  factions id f hf := by
    obtain ⟨f', hf', hdev⟩ := h.factions id f hf
    obtain ⟨f'', hf'', hdev'⟩ := h'.factions id f' hf'
    exact ⟨f'', hf'', hdev.trans hdev'⟩
  new_factions id f'' hnone hsome := by
    -- the faction became known in the second step or in the first
    cases hf' : w'.factions.get? id with
    | none => exact h'.new_factions id f'' hf' hsome
    | some f' =>
      obtain ⟨g, hg, hdev⟩ := h'.factions id f' hf'
      obtain rfl : g = f'' := Option.some.inj (hg.symm.trans hsome)
      exact (h.new_factions id f' hnone hf').trans hdev

end World.Develops

/-- An actor changes in its variables and those of the items it holds only. -/
inductive Actor.Develops : Actor → Actor → Prop
  | creature {c c' : Character} (h : c.Develops c') : Actor.Develops (.creature c) (.creature c')
  | item {i i' : Item} (h : i.Develops i') : Actor.Develops (.item i) (.item i')

private theorem Item.Develops.id_eq {i i' : Item} (h : i.Develops i') : i'.id = i.id := by
  have hid := congrArg Item.id h.rest_eq
  exact hid

private theorem Item.Develops.owner_eq {i i' : Item} (h : i.Develops i') : i'.owner = i.owner := by
  have howner := congrArg Item.owner h.rest_eq
  exact howner

private theorem Character.Develops.profile_eq {c c' : Character} (h : c.Develops c') :
    c'.profile = c.profile := by
  have hprofile := congrArg Character.profile h.rest_eq
  exact hprofile

private theorem Inventory.Develops.items {inv inv' : Inventory} (h : inv.Develops inv') :
    List.Forall₂ Item.Develops inv.items inv'.items :=
  List.rel_append (List.rel_append h.carried h.worn) (forall₂_toList h.wielded)

private theorem Character.Develops.item? {c c' : Character} (h : c.Develops c') (id : EntityId) :
    Option.Rel Item.Develops (c.item? id) (c'.item? id) :=
  optionRel_find? (fun _ _ hi => by rw [hi.id_eq]) h.inventory.items

private theorem Actor.Develops.faction?_eq {a a' : Actor} (h : a.Develops a') : a'.faction? = a.faction? := by
  cases h with
  | creature h => rw [Actor.faction?, Actor.faction?, h.profile_eq]
  | item h => exact h.owner_eq

namespace World.Develops

variable {w w' : World}

theorem actor? (h : w.Develops w') (handle : Handle) :
    Option.Rel Actor.Develops (w.actor? handle) (w'.actor? handle) := by
  rcases handle with id | ⟨id⟩ | ⟨owner, id⟩
  · exact optionRel_map (fun _ _ hc => .creature hc) (h.characters id)
  · exact optionRel_map (fun _ _ hi => .item hi) (optionRel_map (fun _ _ hl => hl.item) (h.items id))
  · exact optionRel_map (fun _ _ hi => .item hi)
      (optionRel_bind (fun _ _ hc => hc.item? id) (h.characters owner))

theorem isSome_actor? (h : w.Develops w') (handle : Handle) :
    (w'.actor? handle).isSome = (w.actor? handle).isSome :=
  isSome_eq_of_optionRel (h.actor? handle)

theorem faction?_eq (h : w.Develops w') (ctx : Context) (slot : Slot) :
    ctx.faction? w' slot = ctx.faction? w slot := by
  unfold Context.faction? Context.actor?
  cases ctx.handle? slot with
  | none => rfl
  | some handle => exact bind_eq_of_optionRel (fun _ _ ha => ha.faction?_eq) (h.actor? handle)

theorem store?_eq (h : w.Develops w') (ctx : Context) (scope : Scope) :
    ctx.store? w' scope = ctx.store? w scope := by
  cases scope with
  | global | party => rfl
  | primary | secondary =>
    unfold Context.store?
    simp only [h.isSome_actor?]
  | faction => exact congrArg (Option.map Store.faction) (h.faction?_eq ctx .secondary)

theorem cell?_eq (h : w.Develops w') (ctx : Context) (ref : Reference) :
    ctx.cell? w' ref = ctx.cell? w ref :=
  congrArg (Option.map fun store => (store, ref.name)) (h.store?_eq ctx ref.scope)

end World.Develops

private theorem Variables.develops_set (v : Variables) (name text : String) : v.Develops (v.set name text) := by
  intro name' h
  simp only [contains, set, Dict.contains, Dict.get?_insert] at h ⊢
  split
  · rfl
  · exact h

private theorem forall₂_modifyFirst (id : EntityId) {f : Item → Item} (hf : ∀ i : Item, i.Develops (f i))
    (items : List Item) : List.Forall₂ Item.Develops items (Inventory.modifyFirst id f items) := by
  induction items with
  | nil => exact .nil
  | cons i rest ih =>
    rw [Inventory.modifyFirst]
    split
    · exact .cons (hf i) (List.forall₂_same.2 fun j _ => .refl j)
    · exact .cons (.refl i) ih

private theorem Inventory.develops_modify (inv : Inventory) (id : EntityId) {f : Item → Item}
    (hf : ∀ i : Item, i.Develops (f i)) : inv.Develops (inv.modify id f) := by
  have hsame := Inventory.Develops.refl inv
  unfold modify
  split
  · exact { hsame with carried := forall₂_modifyFirst id hf inv.carried }
  · split
    · exact { hsame with worn := forall₂_modifyFirst id hf inv.worn }
    · refine { hsame with wielded := ?_ }
      cases inv.wielded with
      | none => exact .none
      | some i =>
        refine .some ?_
        dsimp only
        split
        · exact hf i
        · exact .refl i

namespace World

private theorem optionRel_modify {κ ν : Type} [Ord κ] [DecidableEq κ] {R : ν → ν → Prop}
    (hrefl : ∀ a, R a a) {f : ν → ν} (hf : ∀ a, R a (f a)) (d : Dict κ ν) (k k' : κ) :
    Option.Rel R (d.get? k) ((d.modify k' f).get? k) := by
  rw [Dict.get?_modify]
  split
  · cases d.get? k with
    | none => exact .none
    | some a => exact .some (hf a)
  · exact optionRel_refl hrefl _

private theorem develops_modifyVars (w : World) (h : Handle) {f : Variables → Variables}
    (hf : ∀ v : Variables, v.Develops (f v)) : w.Develops (w.modifyVars h f) := by
  have hsame := Develops.refl w
  rcases h with id | ⟨id⟩ | ⟨owner, id⟩
  · refine { hsame with characters := fun _ => optionRel_modify .refl (fun c => ?_) _ _ _ }
    exact ⟨rfl, hf c.vars, .refl _⟩
  · refine { hsame with items := fun _ => optionRel_modify .refl (fun l => ?_) _ _ _ }
    exact ⟨rfl, rfl, hf l.item.vars⟩
  · refine { hsame with characters := fun _ => optionRel_modify .refl (fun c => ?_) _ _ _ }
    exact ⟨rfl, .refl _, c.inventory.develops_modify id fun i => ⟨rfl, hf i.vars⟩⟩

end World

namespace State

variable (s : State)

private theorem develops_writeGlobal (name text : String) : s.world.Develops (s.writeGlobal name text).world := by
  have hwritten : s.world.Develops
      { s.world with globals := s.world.globals.set name text } :=
    { World.Develops.refl s.world with globals := Variables.develops_set _ name text }
  unfold writeGlobal
  split
  · cases s.frames with
    | nil => exact hwritten
    | cons frame rest => exact .refl _
  · exact hwritten

theorem get?_factions_writeFaction (faction name text id : String) :
    (s.writeFaction faction name text).world.factions.get? id =
      if faction = id then
        let old := (s.world.factions.get? id).getD (.ofId id)
        some { old with vars := old.vars.set name text }
      else s.world.factions.get? id := by
  unfold writeFaction
  rw [Dict.get?_insert]
  split
  case isTrue hid => rw [hid]
  case isFalse => rfl

private theorem develops_writeFaction (faction name text : String) :
    s.world.Develops (s.writeFaction faction name text).world := by
  have hset : ∀ f : Faction, f.Develops { f with vars := f.vars.set name text } :=
    fun f => ⟨rfl, f.vars.develops_set name text⟩
  refine { World.Develops.refl s.world with factions := ?_, new_factions := ?_ }
  · intro id f hf
    rw [get?_factions_writeFaction, hf]
    split
    · exact ⟨_, rfl, hset f⟩
    · exact ⟨f, rfl, .refl f⟩
  · intro id f' hnone hsome
    rw [get?_factions_writeFaction, hnone] at hsome
    split at hsome
    · cases hsome
      exact hset (.ofId id)
    · cases hsome

private theorem develops_put (cell : Store × String) (text : String) :
    s.world.Develops (s.put cell text).world := by
  obtain ⟨store, name⟩ := cell
  cases store with
  | globals => exact s.develops_writeGlobal name text
  | actor h => exact s.world.develops_modifyVars h fun v => v.develops_set name text
  | faction id => exact s.develops_writeFaction id name text

theorem develops_write (ctx : Context) (ref : Reference) (text : String) :
    s.world.Develops (s.write ctx ref text).world := by
  rw [write_eq]
  cases ctx.cell? s.world ref with
  | none => exact .refl _
  | some cell => exact s.develops_put cell text

end State

end Parley
