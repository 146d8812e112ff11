import Mathlib.Algebra.BigOperators.Group.Multiset.Basic
import Parley.Proofs.Talk.Independence

/-!
Where a character keeps its items. Main statements: what is counted of the items held depends on nothing but which
items they are, each of them counted once; and two worlds in which the same characters hold the same items, so that
every item that takes part in a conversation is the same, are still such worlds after a variable is written.
-/

set_option autoImplicit false
set_option relaxedAutoImplicit false

namespace Parley

namespace Inventory

/-- The items held, in no place or order. -/
def held (inv : Inventory) : Multiset Item :=
  (inv.carried : Multiset Item) + (inv.worn : Multiset Item) + (inv.wielded.toList : Multiset Item)

variable {f : Item → Item} {id : EntityId} {inv inv' : Inventory}

theorem coe_items (inv : Inventory) : (inv.items : Multiset Item) = inv.held := by
  rw [items, held, Multiset.coe_add, Multiset.coe_add]

private theorem items_perm (h : inv'.held = inv.held) : inv'.items.Perm inv.items := by
  rw [← Multiset.coe_eq_coe, coe_items, coe_items, h]

private theorem modifyFirst_perm {items : List Item} {i : Item} (h : items.find? (·.id = id) = some i) :
    (modifyFirst id f items).Perm (f i :: items.erase i) := by
  induction items with
  | nil => cases h
  | cons j rest ih =>
    by_cases hj : j.id = id
    · have hji : j = i := by simpa [hj] using h
      rw [modifyFirst, if_pos hj, hji, List.erase_cons_head]
    · have hi : i.id = id := by simpa using List.find?_some h
      have hrest : rest.find? (·.id = id) = some i := by simpa [hj] using h
      have hne : j ≠ i := by
        rintro rfl
        exact hj hi
      rw [modifyFirst, if_neg hj, List.erase_cons_tail (by simpa using hne)]
      exact ((ih hrest).cons j).trans (.swap _ _ _)

private theorem modifyFirst_of_none {items : List Item} (h : items.find? (·.id = id) = none) :
    modifyFirst id f items = items := by
  induction items with
  | nil => rfl
  | cons j rest ih =>
    have hj : j.id ≠ id := by
      intro hj
      simp [hj] at h
    have hrest : rest.find? (·.id = id) = none := by simpa [hj] using h
    rw [modifyFirst, if_neg hj, ih hrest]

private theorem held_modify (h : inv'.held = inv.held)
    (hfound : inv'.items.find? (·.id = id) = inv.items.find? (·.id = id)) :
    (inv'.modify id f).held = (inv.modify id f).held := by
  have hperm := items_perm h
  rw [← coe_items, ← coe_items, Multiset.coe_eq_coe, items_modify, items_modify]
  cases hitem : inv.items.find? (·.id = id) with
  | none =>
    rw [modifyFirst_of_none (hfound.trans hitem), modifyFirst_of_none hitem]
    exact hperm
  | some i =>
    have hbefore := modifyFirst_perm (f := f) hitem
    have hafter := modifyFirst_perm (f := f) (hfound.trans hitem)
    exact hafter.trans (((hperm.erase i).cons _).trans hbefore.symm)

private theorem find?_of_mem {items : List Item} (hdistinct : (items.map (·.id)).Nodup) {i : Item} (hi : i ∈ items) :
    items.find? (·.id = i.id) = some i := by
  induction items with
  | nil => cases hi
  | cons j rest ih =>
    rw [List.map_cons, List.nodup_cons] at hdistinct
    rcases List.mem_cons.1 hi with rfl | hi
    · simp
    · have hne : j.id ≠ i.id := by
        intro heq
        exact hdistinct.1 (heq ▸ List.mem_map_of_mem hi)
      rw [List.find?_cons_of_neg (by simpa using hne)]
      exact ih hdistinct.2 hi

private theorem find?_of_distinct (h : inv'.held = inv.held) (hdistinct : (inv.items.map (·.id)).Nodup)
    (id : EntityId) : inv'.items.find? (·.id = id) = inv.items.find? (·.id = id) := by
  have hperm := items_perm h
  have hdistinct' : (inv'.items.map (·.id)).Nodup := (hperm.map _).nodup_iff.2 hdistinct
  cases hitem : inv.items.find? (·.id = id) with
  | some i =>
    have hid : i.id = id := by simpa using List.find?_some hitem
    have hmem := hperm.mem_iff.2 (List.mem_of_find?_eq_some hitem)
    rw [← hid]
    exact find?_of_mem hdistinct' hmem
  | none =>
    rw [List.find?_eq_none] at hitem ⊢
    intro i hi
    exact hitem i (hperm.mem_iff.1 hi)

end Inventory

/-- What is asked of the items that a character holds. -/
inductive Holding
  | items (typeId : String) (n : Int32)
  | charges (typeId : String) (n : Int32)
  | category (category : String) (n : Int32)
  | flag (flag : String)
  | owner (faction : String)

/-- The charges of a type among some items. -/
def chargesAmong (held : Multiset Item) (typeId : String) : Nat :=
  ((held.filter (·.typeId = typeId)).map (·.charges.toNat)).sum

/-- Whether some items are what is asked. Each of them counts once, or with its charges. -/
def Holding.Of (held : Multiset Item) : Holding → Prop
  | .items typeId n => n.toInt ≤ held.countP (·.typeId = typeId)
  | .charges typeId n => n.toInt ≤ chargesAmong held typeId
  | .category name n => n.toInt ≤ held.countP (·.category = name)
  | .flag name => ∃ i ∈ held, i.hasFlag name = true
  | .owner faction => ∃ i ∈ held, i.owner = some faction

namespace Character

variable (c : Character)

theorem countOf_eq (typeId : String) : c.countOf typeId = c.inventory.held.countP (·.typeId = typeId) := by
  rw [countOf, ← Inventory.coe_items, Multiset.coe_countP]
  exact List.countP_congr fun i _ => by simp

theorem countInCategory_eq (category : String) :
    c.countInCategory category = c.inventory.held.countP (·.category = category) := by
  rw [countInCategory, ← Inventory.coe_items, Multiset.coe_countP]
  exact List.countP_congr fun i _ => by simp

private theorem toNat_foldl_charges (items : List Item) (n : UInt32) :
    (items.foldl (fun n i => n + i.charges) n).toNat =
      (n.toNat + ((items : Multiset Item).map (·.charges.toNat)).sum) % 2 ^ 32 := by
  induction items generalizing n with
  | nil =>
    rw [List.foldl_nil, Multiset.coe_nil, Multiset.map_zero, Multiset.sum_zero, Nat.add_zero]
    exact (Nat.mod_eq_of_lt n.toNat_lt).symm
  | cons i rest ih =>
    -- the sum so far may have been wrapped already
    rw [List.foldl_cons, ih, UInt32.toNat_add, Nat.mod_add_mod, ← Multiset.cons_coe, Multiset.map_cons,
      Multiset.sum_cons, Nat.add_assoc]

theorem chargesOf_eq (typeId : String) :
    c.chargesOf typeId = chargesAmong c.inventory.held typeId % 2 ^ 32 := by
  have hfilter : c.items.filter (·.typeId == typeId) = c.inventory.items.filter (·.typeId = typeId) := by
    refine List.filter_congr fun i _ => ?_
    rw [Bool.eq_iff_iff, beq_iff_eq, decide_eq_true_iff]
  rw [chargesOf, hfilter, toNat_foldl_charges, UInt32.toNat_zero, Nat.zero_add, chargesAmong, ← Inventory.coe_items,
    Multiset.filter_coe]

/-- The charges held of each type add up to a number of 32 bits. -/
def ChargesFit : Prop :=
  ∀ typeId, chargesAmong c.inventory.held typeId < 2 ^ 32

theorem ChargesFit.chargesOf_eq {c : Character} (h : c.ChargesFit) (typeId : String) :
    c.chargesOf typeId = chargesAmong c.inventory.held typeId := by
  rw [c.chargesOf_eq, Nat.mod_eq_of_lt (h typeId)]

/-- They do if all charges held add up to such a number. -/
theorem chargesFit_of_total (h : (c.inventory.held.map (·.charges.toNat)).sum < 2 ^ 32) : c.ChargesFit := by
  intro typeId
  have hsplit := congrArg (fun items => (items.map (·.charges.toNat)).sum)
    (Multiset.filter_add_not (·.typeId = typeId) c.inventory.held)
  simp only [Multiset.map_add, Multiset.sum_add] at hsplit
  rw [chargesAmong]
  omega

theorem hasItemWithFlag_iff {flag : String} :
    c.hasItemWithFlag flag = true ↔ ∃ i ∈ c.inventory.held, i.hasFlag flag = true := by
  rw [hasItemWithFlag, List.any_eq_true, ← Inventory.coe_items]
  rfl

theorem hasItemOwnedBy_iff {faction : String} :
    c.hasItemOwnedBy faction = true ↔ ∃ i ∈ c.inventory.held, i.owner = some faction := by
  rw [hasItemOwnedBy, List.any_eq_true, ← Inventory.coe_items]
  simp only [beq_iff_eq]
  rfl

end Character

/-- A character that holds the same items, in other places or another order. -/
inductive Character.Rearranged (c : Character) : Character → Prop
  | inventory {inv : Inventory} (held_eq : inv.held = c.inventory.held) :
      Character.Rearranged c { c with inventory := inv }

theorem Character.Rearranged.held_eq {c c' : Character} (h : c.Rearranged c') :
    c'.inventory.held = c.inventory.held := by
  cases h with
  | inventory held_eq => exact held_eq

/-- Worlds that differ only in where characters keep the items they hold. -/
structure World.HoldsSame (w w' : World) : Prop where
  rest_eq : w' = { w with characters := w'.characters }
  characters : ∀ id, Option.Rel Character.Rearranged (w.characters.get? id) (w'.characters.get? id)

/-- Worlds that differ only in where characters keep the items they hold, the items that take part in a conversation
being the same ones. -/
structure World.Rearranged (ctx : Context) (w w' : World) : Prop extends w.HoldsSame w' where
  actors : ∀ slot place, ctx.handle? slot = some (.item place) → w'.itemAt? place = w.itemAt? place

/-- An actor that is the same but for where it keeps its items. -/
inductive Actor.Rearranged : Actor → Actor → Prop
  | creature {c c' : Character} (h : c.Rearranged c') : Actor.Rearranged (.creature c) (.creature c')
  | item (i : Item) : Actor.Rearranged (.item i) (.item i)

private theorem Actor.Rearranged.vars_eq {a a' : Actor} (h : a.Rearranged a') : a'.vars = a.vars := by
  rcases h with ⟨⟨-⟩⟩ | _ <;> rfl

private theorem Actor.Rearranged.faction?_eq {a a' : Actor} (h : a.Rearranged a') : a'.faction? = a.faction? := by
  rcases h with ⟨⟨-⟩⟩ | _ <;> rfl

/-- An item is found in its place after the variables of an actor have changed. -/
theorem World.itemAt?_modifyVars (w : World) (handle : Handle) (f : Variables → Variables) (place : ItemPlace) :
    (w.modifyVars handle f).itemAt? place =
      if handle = .item place then (w.itemAt? place).map fun i => { i with vars := f i.vars } else w.itemAt? place := by
  rcases handle with id | ⟨id⟩ | ⟨owner, id⟩ <;> rcases place with id' | ⟨owner', id'⟩
  · rfl
  · simp only [modifyVars, itemAt?, character?, Dict.get?_modify, reduceCtorEq, if_false]
    split
    · cases w.characters.get? owner' <;> rfl
    · rfl
  · simp only [modifyVars, itemAt?, Dict.get?_modify, Handle.item.injEq, ItemPlace.ground.injEq]
    split
    · cases w.items.get? id' <;> rfl
    · rfl
  · rfl
  · rfl
  · simp only [modifyVars, itemAt?, character?, Dict.get?_modify, Handle.item.injEq, ItemPlace.carried.injEq]
    by_cases howner : owner = owner'
    · cases w.characters.get? owner' with
      | none => simp
      | some c =>
        have hitem := c.item?_modify (f := fun i => { i with vars := f i.vars }) (fun _ => rfl) id id'
        simp only [howner, if_true, true_and, Option.map_some, Option.bind_some, hitem]
    · simp only [howner, false_and, if_false]

namespace World.Rearranged

variable {ctx : Context} {w w' : World} {slot : Slot}

/-- Items that are found by their ids are the same. -/
theorem of_distinct (h : w.HoldsSame w')
    (hdistinct : ∀ slot owner id, ctx.handle? slot = some (.item (.carried owner id)) →
      ∀ c, w.character? owner = some c → (c.items.map (·.id)).Nodup) : w.Rearranged ctx w' where
  toHoldsSame := h
  actors slot place hplace := by
    cases place with
    | ground id =>
      rw [h.rest_eq]
      rfl
    | carried owner id =>
      have hrel := h.characters owner
      have hnodup := hdistinct slot owner id hplace
      change (w'.characters.get? owner).bind _ = (w.characters.get? owner).bind _
      change ∀ c, w.characters.get? owner = some c → _ at hnodup
      generalize w.characters.get? owner = found, w'.characters.get? owner = found' at hrel hnodup ⊢
      cases hrel with
      | none => rfl
      | some hc =>
        cases hc with
        | inventory held_eq => exact Inventory.find?_of_distinct held_eq (hnodup _ rfl) id

private theorem actor? (h : w.Rearranged ctx w') (slot : Slot) :
    Option.Rel Actor.Rearranged (ctx.actor? w slot) (ctx.actor? w' slot) := by
  unfold Context.actor?
  cases hhandle : ctx.handle? slot with
  | none => exact .none
  | some handle =>
    cases handle with
    | creature id => exact optionRel_map (fun _ _ hc => .creature hc) (h.characters id)
    | item place =>
      change Option.Rel _ ((w.itemAt? place).map _) ((w'.itemAt? place).map _)
      rw [h.actors slot place hhandle]
      cases w.itemAt? place with
      | none => exact .none
      | some i => exact .some (.item i)

theorem faction?_eq (h : w.Rearranged ctx w') (slot : Slot) : ctx.faction? w' slot = ctx.faction? w slot :=
  bind_eq_of_optionRel (fun _ _ ha => ha.faction?_eq) (h.actor? slot)

theorem character? (h : w.Rearranged ctx w') (slot : Slot) :
    Option.Rel Character.Rearranged (ctx.character? w slot) (ctx.character? w' slot) := by
  refine optionRel_bind (fun a a' ha => ?_) (h.actor? slot)
  cases ha with
  | creature hc => exact .some hc
  | item i => exact .none

theorem position?_eq (h : w.Rearranged ctx w') (slot : Slot) : ctx.position? w' slot = ctx.position? w slot := by
  have hposition (id : EntityId) :
      (w'.character? id).map (·.position) = (w.character? id).map (·.position) := by
    rw [Option.map_eq_bind, Option.map_eq_bind]
    refine bind_eq_of_optionRel (fun _ _ hc => ?_) (h.characters id)
    cases hc
    rfl
  unfold Context.position?
  cases ctx.handle? slot with
  | none => rfl
  | some handle =>
    rcases handle with id | ⟨id⟩ | ⟨owner, id⟩
    · exact hposition id
    · change (w'.items.get? id).map _ = (w.items.get? id).map _
      rw [h.rest_eq]
    · exact hposition owner

private theorem cell?_eq (h : w.Rearranged ctx w') (ref : Reference) : ctx.cell? w' ref = ctx.cell? w ref := by
  have hactor (slot : Slot) : (ctx.handle? slot).filter (fun handle => (w'.actor? handle).isSome) =
      (ctx.handle? slot).filter fun handle => (w.actor? handle).isSome := by
    have hsame := isSome_eq_of_optionRel (h.actor? slot)
    unfold Context.actor? at hsame
    cases hhandle : ctx.handle? slot with
    | none => rfl
    | some handle =>
      rw [hhandle] at hsame
      change (w'.actor? handle).isSome = (w.actor? handle).isSome at hsame
      rw [Option.filter_some, Option.filter_some, hsame]
  unfold Context.cell?
  cases hscope : ref.scope with
  | global | party => rfl
  | primary => exact congrArg (fun who => (who.map Store.actor).map fun store => (store, ref.name)) (hactor .primary)
  | secondary =>
    exact congrArg (fun who => (who.map Store.actor).map fun store => (store, ref.name)) (hactor .secondary)
  | faction => simp only [Context.store?, h.faction?_eq]

/-- The variables of an actor of the conversation change alike. -/
theorem modifyVars (h : w.Rearranged ctx w') {handle : Handle} (hhandle : ctx.handle? slot = some handle)
    (f : Variables → Variables) : (w.modifyVars handle f).Rearranged ctx (w'.modifyVars handle f) where
  rest_eq := by
    rw [h.rest_eq]
    rcases handle with id | ⟨id⟩ | ⟨owner, id⟩ <;> rfl
  characters id' := by
    have hrel := h.characters id'
    rcases handle with id | ⟨id⟩ | ⟨owner, id⟩
    · simp only [World.modifyVars, Dict.get?_modify]
      split
      · refine optionRel_map (fun c c' hc => ?_) hrel
        cases hc with
        | inventory held_eq => exact .inventory held_eq
      · exact hrel
    · exact hrel
    · simp only [World.modifyVars, Dict.get?_modify]
      split
      · rename_i howner
        -- the item that changes is the same one in both inventories
        have hfound : (w'.characters.get? owner).bind (·.item? id) = (w.characters.get? owner).bind (·.item? id) :=
          h.actors slot (.carried owner id) hhandle
        rw [howner] at hfound
        generalize w.characters.get? id' = found, w'.characters.get? id' = found' at hrel hfound ⊢
        cases hrel with
        | none => exact .none
        | some hc =>
          cases hc with
          | inventory held_eq => exact .some (.inventory (Inventory.held_modify held_eq hfound))
      · exact hrel
  actors slot' place hplace := by
    have hitem := h.actors slot' place hplace
    rw [itemAt?_modifyVars, itemAt?_modifyVars, hitem]

private theorem globals_eq (h : w.Rearranged ctx w') : w'.globals = w.globals := by
  rw [h.rest_eq]

private theorem factions_eq (h : w.Rearranged ctx w') : w'.factions = w.factions := by
  rw [h.rest_eq]

private theorem withStores (h : w.Rearranged ctx w') (globals : Variables) (factions : Dict String Faction) :
    ({ w with globals, factions } : World).Rearranged ctx { w' with globals, factions } where
  rest_eq := by rw [h.rest_eq]
  characters := h.characters
  actors := h.actors

end World.Rearranged

private theorem Context.exists_slot {ctx : Context} {w : World} {ref : Reference} {handle : Handle} {name : String}
    (h : ctx.cell? w ref = some (.actor handle, name)) : ∃ slot, ctx.handle? slot = some handle := by
  obtain ⟨store, hstore, heq⟩ := Option.map_eq_some_iff.1 h
  cases heq
  unfold store? at hstore
  cases hscope : ref.scope with
  | global | party => simp [hscope] at hstore
  | faction => simp [hscope] at hstore
  | primary =>
    simp only [hscope, Option.map_eq_some_iff, Option.filter_eq_some_iff, Store.actor.injEq] at hstore
    obtain ⟨_, ⟨hprimary, -⟩, rfl⟩ := hstore
    exact ⟨.primary, hprimary⟩
  | secondary =>
    simp only [hscope, Option.map_eq_some_iff, Option.filter_eq_some_iff, Store.actor.injEq] at hstore
    obtain ⟨_, ⟨hsecondary, -⟩, rfl⟩ := hstore
    exact ⟨.secondary, hsecondary⟩

namespace State

variable {ctx : Context} {s : State} {w' : World}

def inWorld (s : State) (w : World) : State :=
  { s with world := w }

theorem read_inWorld (h : s.world.Rearranged ctx w') (ref : Reference) :
    (s.inWorld w').read ctx ref = s.read ctx ref := by
  have hglobals := h.globals_eq
  have hfactions := h.factions_eq
  have htext (w : World) (slot : Slot) : (ctx.handle? slot).elim "" (w.actorText · ref.name) =
      (ctx.actor? w slot).elim "" (·.vars.get ref.name) := by
    unfold Context.actor?
    cases ctx.handle? slot <;> rfl
  have hactor (slot : Slot) : (ctx.handle? slot).elim "" (w'.actorText · ref.name) =
      (ctx.handle? slot).elim "" (s.world.actorText · ref.name) := by
    rw [htext, htext]
    exact elim_eq_of_optionRel (fun _ _ ha => by rw [ha.vars_eq]) (h.actor? slot)
  unfold read
  cases ref.scope with
  | global => simp only [globalText, inWorld, hglobals]
  | primary => exact hactor .primary
  | secondary => exact hactor .secondary
  | faction => simp only [factionText, inWorld, h.faction?_eq, hfactions]
  | party => simp only [factionText, inWorld, hfactions]

/-- A write changes both worlds alike. -/
theorem write_inWorld (h : s.world.Rearranged ctx w') (ref : Reference) (text : String) :
    ∃ w'', (s.inWorld w').write ctx ref text = (s.write ctx ref text).inWorld w'' ∧
      (s.write ctx ref text).world.Rearranged ctx w'' := by
  have hcells : ctx.cell? (s.inWorld w').world ref = ctx.cell? s.world ref := h.cell?_eq ref
  obtain ⟨cs, rfl⟩ : ∃ cs, w' = { s.world with characters := cs } := ⟨w'.characters, h.rest_eq⟩
  rw [write_eq, write_eq, hcells]
  cases hcell : ctx.cell? s.world ref with
  | none => exact ⟨_, rfl, h⟩
  | some cell =>
    obtain ⟨store, name⟩ := cell
    change ∃ w'', (s.inWorld { s.world with characters := cs }).put (store, name) text =
      (s.put (store, name) text).inWorld w'' ∧ (s.put (store, name) text).world.Rearranged ctx w''
    cases store with
    | globals =>
      have hworld := h.withStores (s.world.globals.set name text) s.world.factions
      simp only [put, writeGlobal]
      by_cases hname : name = Reference.tempName
      · rw [if_pos hname, if_pos hname]
        obtain ⟨w, random, frames, log⟩ := s
        cases frames with
        | nil => exact ⟨_, rfl, hworld⟩
        | cons frame rest => exact ⟨_, rfl, h⟩
      · rw [if_neg hname, if_neg hname]
        exact ⟨_, rfl, hworld⟩
    | actor handle =>
      obtain ⟨slot, hslot⟩ := Context.exists_slot hcell
      have hworld := h.modifyVars hslot (·.set name text)
      exact ⟨_, rfl, hworld⟩
    | faction id =>
      have hworld := h.withStores s.world.globals (s.writeFaction id name text).world.factions
      exact ⟨_, rfl, hworld⟩

end State

end Parley
