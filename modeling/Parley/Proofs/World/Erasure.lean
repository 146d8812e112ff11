import Parley.Proofs.Talk.Independence
import Parley.Proofs.World.Outline

/-!
Variables that hold the empty text. Two states may differ in whether such a variable has an entry; they then have
the same outline and the same text in every cell. Main statements: erasing the entry of a variable that holds the
empty text gives such a state, and a write to both gives two such states again.
-/

set_option autoImplicit false
set_option relaxedAutoImplicit false

namespace Parley

def LooseItem.outline (l : LooseItem) : LooseItem :=
  { l with item := l.item.outline }

def Faction.outline (f : Faction) : Faction :=
  { f with vars := .none }

/-- The world without variables. -/
def World.outline (w : World) : World :=
  { w with
    characters := w.characters.mapValues Character.outline
    items := w.items.mapValues LooseItem.outline
    factions := w.factions.mapValues Faction.outline
    globals := .none }

private theorem Variables.none_develops (v : Variables) : Variables.none.Develops v := by
  intro name h
  cases h

private theorem Item.outline_develops (i : Item) : i.outline.Develops i :=
  ⟨rfl, i.vars.none_develops⟩

private theorem Inventory.outline_develops (inv : Inventory) : inv.outline.Develops inv where
  carried := List.forall₂_map_left_iff.2 (List.forall₂_same.2 fun i _ => i.outline_develops)
  worn := List.forall₂_map_left_iff.2 (List.forall₂_same.2 fun i _ => i.outline_develops)
  wielded := by
    change Option.Rel Item.Develops (inv.wielded.map Item.outline) inv.wielded
    cases inv.wielded with
    | none => exact .none
    | some i => exact .some i.outline_develops

private theorem Character.outline_develops (c : Character) : c.outline.Develops c :=
  ⟨rfl, c.vars.none_develops, c.inventory.outline_develops⟩

private theorem LooseItem.outline_develops (l : LooseItem) : l.outline.Develops l :=
  ⟨rfl, l.item.outline_develops⟩

private theorem Faction.outline_develops (f : Faction) : f.outline.Develops f :=
  ⟨rfl, f.vars.none_develops⟩

namespace World

variable {w w' : World}

private theorem optionRel_mapValues {κ ν : Type} [Ord κ] [DecidableEq κ] {R : ν → ν → Prop} {f : ν → ν}
    (hf : ∀ a, R (f a) a) (d : Dict κ ν) (k : κ) : Option.Rel R ((d.mapValues f).get? k) (d.get? k) := by
  rw [Dict.get?_mapValues]
  cases d.get? k with
  | none => exact .none
  | some a => exact .some (hf a)

private theorem outline_develops (w : World) : w.outline.Develops w where
  calendar_eq := rfl
  environment_eq := rfl
  terrain_eq := rfl
  playerId_eq := rfl
  monsters_eq := rfl
  missions_eq := rfl
  answers_eq := rfl
  characters := optionRel_mapValues Character.outline_develops w.characters
  items := optionRel_mapValues LooseItem.outline_develops w.items
  globals := w.globals.none_develops
  factions id f hf := by
    obtain ⟨f', hf', rfl⟩ : ∃ f', w.factions.get? id = some f' ∧ f'.outline = f := by
      rw [outline, Dict.get?_mapValues] at hf
      exact Option.map_eq_some_iff.1 hf
    exact ⟨f', hf', f'.outline_develops⟩
  new_factions id f' hnone hsome := by
    rw [outline, Dict.get?_mapValues, hsome] at hnone
    cases hnone

/-- What stays when the world develops is the same in worlds of the same outline. -/
theorem eq_of_outline {α : Type} {f : World → α} (hf : ∀ {w w' : World}, w.Develops w' → f w' = f w)
    (h : w'.outline = w.outline) : f w' = f w := by
  rw [hf w'.outline_develops, h, ← hf w.outline_develops]

end World

section Modifying

variable {f : Variables → Variables}

private theorem Inventory.map_outline_modifyFirst {g : Item → Item} (hg : ∀ i : Item, (g i).outline = i.outline)
    (id : EntityId) (items : List Item) :
    (modifyFirst id g items).map Item.outline = items.map Item.outline := by
  induction items with
  | nil => rfl
  | cons i rest ih =>
    rw [modifyFirst]
    split
    · rw [List.map_cons, List.map_cons, hg]
    · rw [List.map_cons, List.map_cons, ih]

private theorem Inventory.outline_modify {g : Item → Item} (hg : ∀ i : Item, (g i).outline = i.outline)
    (inv : Inventory) (id : EntityId) : (inv.modify id g).outline = inv.outline := by
  unfold modify outline
  split
  · simp only [map_outline_modifyFirst hg]
  · split
    · simp only [map_outline_modifyFirst hg]
    · have hwielded : ∀ i : Item, (if i.id = id then g i else i).outline = i.outline := by
        intro i
        split
        · exact hg i
        · rfl
      simp only [Option.map_map, Function.comp_def, hwielded]

namespace World

variable (w : World)

private theorem mapValues_modify {κ ν μ : Type} [Ord κ] [DecidableEq κ] [Std.TransOrd κ] [Std.LawfulEqOrd κ]
    {g : ν → μ} {h : ν → ν} (hg : ∀ a, g (h a) = g a) (d : Dict κ ν) (k : κ) :
    (d.modify k h).mapValues g = d.mapValues g := by
  refine Dict.ext_get? fun k' => ?_
  rw [Dict.get?_mapValues, Dict.get?_mapValues, Dict.get?_modify]
  split
  · rw [Option.map_map]
    exact congrArg (Option.map · _) (funext hg)
  · rfl

private theorem outline_modifyVars (h : Handle) : (w.modifyVars h f).outline = w.outline := by
  rcases h with id | ⟨id⟩ | ⟨owner, id⟩
  · have hcharacters := mapValues_modify (g := Character.outline) (h := fun c => { c with vars := f c.vars })
      (fun _ => rfl) w.characters id
    simp only [modifyVars, outline, hcharacters]
  · have hitems := mapValues_modify (g := LooseItem.outline)
      (h := fun l => { l with item := { l.item with vars := f l.item.vars } }) (fun _ => rfl) w.items id
    simp only [modifyVars, outline, hitems]
  · have hinventory (c : Character) :
        ({ c with inventory := c.inventory.modify id fun i => { i with vars := f i.vars } } : Character).outline =
          c.outline :=
      congrArg (fun inventory => { c with vars := .none, inventory := inventory })
        (c.inventory.outline_modify (g := fun i => { i with vars := f i.vars }) (fun _ => rfl) id)
    simp only [modifyVars, outline, mapValues_modify hinventory]

/-- The text in a cell, whatever frames are open; empty if there is no entry. -/
def text (w : World) : Store × String → String
  | (.globals, name) => w.globals.get name
  | (.actor h, name) => w.actorText h name
  | (.faction id, name) => (w.factions.get? id).elim "" (·.vars.get name)

def erase (w : World) : Store × String → World
  | (.globals, name) => { w with globals := w.globals.erase name }
  | (.actor h, name) => w.modifyVars h (·.erase name)
  | (.faction id, name) =>
    { w with factions := w.factions.modify id fun f => { f with vars := f.vars.erase name } }

private theorem outline_erase (cell : Store × String) : (w.erase cell).outline = w.outline := by
  obtain ⟨store, name⟩ := cell
  cases store with
  | globals => rfl
  | actor h => exact w.outline_modifyVars h
  | faction id =>
    have hfactions := mapValues_modify (g := Faction.outline)
      (h := fun f => { f with vars := f.vars.erase name }) (fun _ => rfl) w.factions id
    simp only [erase, outline, hfactions]

private theorem get_erase_of_empty {v : Variables} {name : String} (h : v.get name = "") (name' : String) :
    (v.erase name).get name' = v.get name' := by
  rw [Variables.get_erase]
  split
  · rename_i heq
    rw [← heq, h]
  · rfl

private theorem actorText_eq_elim (h : Handle) (name : String) :
    w.actorText h name = ((w.actor? h).map Actor.vars).elim "" (·.get name) := by
  unfold actorText
  cases w.actor? h <;> rfl

/-- Without the entry of an empty text the texts are the same. -/
theorem text_erase {cell : Store × String} (hempty : w.text cell = "") (cell' : Store × String) :
    (w.erase cell).text cell' = w.text cell' := by
  obtain ⟨store, name⟩ := cell
  obtain ⟨store', name'⟩ := cell'
  cases store with
  | globals =>
    cases store' with
    | globals => exact get_erase_of_empty hempty name'
    | actor h | faction id => rfl
  | actor h =>
    cases store' with
    | globals | faction id => rcases h with id | ⟨id⟩ | ⟨owner, id⟩ <;> rfl
    | actor h' =>
      change (w.modifyVars h (·.erase name)).actorText h' name' = w.actorText h' name'
      change w.actorText h name = "" at hempty
      rw [actorText_eq_elim] at hempty
      rw [actorText_eq_elim, actorText_eq_elim, vars_modifyVars]
      split
      · rename_i heq
        subst heq
        cases hvars : (w.actor? h).map Actor.vars with
        | none => rfl
        | some v =>
          rw [hvars] at hempty
          exact get_erase_of_empty hempty name'
      · rfl
  | faction id =>
    cases store' with
    | globals | actor h => rfl
    | faction id' =>
      change ((w.factions.modify id fun f => { f with vars := f.vars.erase name }).get? id').elim "" _ =
        (w.factions.get? id').elim "" (·.vars.get name')
      rw [Dict.get?_modify]
      split
      · rename_i heq
        subst heq
        cases hfaction : w.factions.get? id with
        | none => rfl
        | some f =>
          have htext : f.vars.get name = "" := by
            change (w.factions.get? id).elim "" _ = "" at hempty
            rw [hfaction] at hempty
            exact hempty
          exact get_erase_of_empty htext name'
      · rfl

end World

end Modifying

namespace State

/-- The texts reported into the open frames; empty where nothing is. -/
def reports (s : State) : List String :=
  s.frames.map (·.getD "")

/-- States that differ at most in which variables that hold the empty text have an entry. -/
structure ReadsAs (s s' : State) : Prop where
  outline_eq : s'.world.outline = s.world.outline
  text_eq : ∀ cell, s'.world.text cell = s.world.text cell
  random_eq : s'.random = s.random
  reports_eq : s'.reports = s.reports
  log_eq : s'.log = s.log

variable {s s' : State}

/-- The reserved variable, in whose place an open frame is read and written. -/
def reserved : Store × String :=
  (.globals, Reference.tempName)

private theorem textAt_eq (s : State) (cell : Store × String) :
    s.textAt cell = if cell = reserved then s.reports.head?.getD (s.world.text cell) else s.world.text cell := by
  obtain ⟨store, name⟩ := cell
  cases store with
  | globals =>
    change s.globalText name = _
    unfold globalText
    by_cases hname : name = Reference.tempName
    · subst hname
      rw [if_pos rfl, if_pos (by rfl), reports]
      cases s.frames <;> rfl
    · have hcell : ((Store.globals, name) : Store × String) ≠ reserved := fun h => hname (congrArg Prod.snd h)
      rw [if_neg hname, if_neg hcell]
      rfl
  | actor h => rw [if_neg nofun]; rfl
  | faction id => rw [if_neg nofun]; rfl

/-- The state without the entry in a cell: of the reserved variable the one that it is read from. -/
def erase (s : State) (cell : Store × String) : State :=
  match s.frames with
  | [] => { s with world := s.world.erase cell }
  | _ :: rest =>
    if cell = reserved then { s with frames := none :: rest } else { s with world := s.world.erase cell }

/-- Without the entry of a variable that holds the empty text a state reads as before. -/
theorem readsAs_erase {cell : Store × String} (hempty : s.textAt cell = "") : s.ReadsAs (s.erase cell) := by
  rw [textAt_eq] at hempty
  have hworld (htext : s.world.text cell = "") : s.ReadsAs { s with world := s.world.erase cell } :=
    ⟨s.world.outline_erase cell, s.world.text_erase htext, rfl, rfl, rfl⟩
  unfold erase
  cases hframes : s.frames with
  | nil =>
    have htext : s.world.text cell = "" := by
      simpa [reports, hframes] using hempty
    have hreads := hworld htext
    rwa [hframes] at hreads
  | cons frame rest =>
    dsimp only
    split
    · rename_i hcell
      have hreported : frame.getD "" = "" := by
        simpa [reports, hframes, hcell] using hempty
      refine ⟨rfl, fun _ => rfl, rfl, ?_, rfl⟩
      rw [reports, reports, hframes, List.map_cons, List.map_cons, hreported]
      rfl
    · rename_i hcell
      rw [if_neg hcell] at hempty
      have hreads := hworld hempty
      rwa [hframes] at hreads

namespace ReadsAs

variable (h : s.ReadsAs s')
include h

private theorem textAt_eq (cell : Store × String) : s'.textAt cell = s.textAt cell := by
  rw [State.textAt_eq, State.textAt_eq, h.text_eq, h.reports_eq]

private theorem cell?_eq (ctx : Context) (ref : Reference) : ctx.cell? s'.world ref = ctx.cell? s.world ref :=
  World.eq_of_outline (fun hdev => hdev.cell?_eq ctx ref) h.outline_eq

theorem read_eq (ctx : Context) (ref : Reference) : s'.read ctx ref = s.read ctx ref := by
  rw [State.read_eq, State.read_eq, h.cell?_eq]
  cases ctx.cell? s.world ref with
  | none => rfl
  | some cell => exact h.textAt_eq cell

theorem report (d : Diagnostic) : (s.report d).ReadsAs (s'.report d) :=
  { h with log_eq := congrArg (· ++ [d]) h.log_eq }

theorem openFrame : s.openFrame.ReadsAs s'.openFrame :=
  { h with reports_eq := congrArg ("" :: ·) h.reports_eq }

private theorem frames_cases :
    (s.frames = [] ∧ s'.frames = []) ∨
      ∃ frame rest frame' rest', s.frames = frame :: rest ∧ s'.frames = frame' :: rest' ∧
        frame'.getD "" = frame.getD "" ∧ rest'.map (·.getD "") = rest.map (·.getD "") := by
  have hreports := h.reports_eq
  rw [reports, reports] at hreports
  cases hframes : s.frames with
  | nil =>
    rw [hframes, List.map_nil, List.map_eq_nil_iff] at hreports
    exact .inl ⟨rfl, hreports⟩
  | cons frame rest =>
    rw [hframes, List.map_cons, List.map_eq_cons_iff] at hreports
    obtain ⟨frame', rest', hframes', hreported, hrest⟩ := hreports
    exact .inr ⟨frame, rest, frame', rest', rfl, hframes', hreported, hrest⟩

theorem closeFrame :
    s'.closeFrame.1 = s.closeFrame.1 ∧ s.closeFrame.2.ReadsAs s'.closeFrame.2 := by
  rcases h.frames_cases with
    ⟨hframes, hframes'⟩ | ⟨frame, rest, frame', rest', hframes, hframes', hreported, hrest⟩
  · simp only [State.closeFrame, hframes, hframes', true_and]
    exact h
  · simp only [State.closeFrame, hframes, hframes']
    exact ⟨hreported, { h with reports_eq := hrest }⟩

theorem draw (a b : Int64) : (s'.draw a b).1 = (s.draw a b).1 ∧ (s.draw a b).2.ReadsAs (s'.draw a b).2 := by
  unfold State.draw
  rw [h.random_eq]
  exact ⟨rfl, { h with random_eq := rfl }⟩

private theorem writeGlobal (name text : String) : (s.writeGlobal name text).ReadsAs (s'.writeGlobal name text) := by
  have hworld : ({ s with world := { s.world with globals := s.world.globals.set name text } } : State).ReadsAs
      { s' with world := { s'.world with globals := s'.world.globals.set name text } } := by
    refine { h with outline_eq := h.outline_eq, text_eq := ?_ }
    rintro ⟨store, name'⟩
    cases store with
    | globals =>
      have hold : s'.world.globals.get name' = s.world.globals.get name' := h.text_eq (.globals, name')
      change (s'.world.globals.set name text).get name' = (s.world.globals.set name text).get name'
      rw [Variables.get_set, Variables.get_set, hold]
    | actor handle => exact h.text_eq (.actor handle, name')
    | faction id => exact h.text_eq (.faction id, name')
  by_cases hname : name = Reference.tempName
  · rcases h.frames_cases with ⟨hframes, hframes'⟩ | ⟨frame, rest, frame', rest', hframes, hframes', -, hrest⟩
    · simp only [State.writeGlobal, if_pos hname, hframes, hframes']
      rwa [hframes, hframes'] at hworld
    · simp only [State.writeGlobal, if_pos hname, hframes, hframes']
      exact { h with reports_eq := congrArg (text :: ·) hrest }
  · simp only [State.writeGlobal, if_neg hname]
    exact hworld

private theorem setActor {handle : Handle} (hfound : (s.world.actor? handle).isSome = true) (name text : String) :
    ({ s with world := s.world.modifyVars handle (·.set name text) } : State).ReadsAs
      { s' with world := s'.world.modifyVars handle (·.set name text) } := by
  have hfound' : (s'.world.actor? handle).isSome = true := by
    rw [← hfound]
    exact World.eq_of_outline (fun hdev => hdev.isSome_actor? handle) h.outline_eq
  obtain ⟨a, ha⟩ := Option.isSome_iff_exists.1 hfound
  obtain ⟨a', ha'⟩ := Option.isSome_iff_exists.1 hfound'
  refine { h with outline_eq := ?_, text_eq := ?_ }
  · rw [World.outline_modifyVars, World.outline_modifyVars, h.outline_eq]
  · rintro ⟨store, name'⟩
    have hold := h.text_eq (store, name')
    cases store with
    | globals | faction id => rcases handle with id | ⟨id⟩ | ⟨owner, id⟩ <;> exact hold
    | actor handle' =>
      change s'.world.actorText handle' name' = s.world.actorText handle' name' at hold
      change (s'.world.modifyVars handle _).actorText handle' name' =
        (s.world.modifyVars handle _).actorText handle' name'
      rw [World.actorText_modifyVars _ ha, World.actorText_modifyVars _ ha', hold]

private theorem writeFaction (faction name text : String) :
    (s.writeFaction faction name text).ReadsAs (s'.writeFaction faction name text) := by
  refine { h with outline_eq := ?_, text_eq := ?_ }
  · have hfactions := congrArg World.factions h.outline_eq
    have hwritten (t : State) : (t.writeFaction faction name text).world.outline =
        { t.world.outline with
          factions := t.world.outline.factions.insert faction
            ((t.world.outline.factions.get? faction).getD (.ofId faction)) } := by
      have hinsert : (t.writeFaction faction name text).world.factions.mapValues Faction.outline =
          (t.world.factions.mapValues Faction.outline).insert faction
            (((t.world.factions.mapValues Faction.outline).get? faction).getD (.ofId faction)) := by
        refine Dict.ext_get? fun id => ?_
        rw [Dict.get?_insert, Dict.get?_mapValues, Dict.get?_mapValues, Dict.get?_mapValues,
          get?_factions_writeFaction]
        split
        · rename_i heq
          subst heq
          cases t.world.factions.get? faction <;> rfl
        · rfl
      exact congrArg (fun factions => { t.world.outline with factions := factions }) hinsert
    rw [hwritten, hwritten, h.outline_eq]
  · rintro ⟨store, name'⟩
    have hold := h.text_eq (store, name')
    cases store with
    | globals | actor handle => exact hold
    | faction id =>
      change s'.factionText id name' = s.factionText id name' at hold
      change (s'.writeFaction faction name text).factionText id name' =
        (s.writeFaction faction name text).factionText id name'
      rw [factionText_writeFaction, factionText_writeFaction, hold]

theorem write (ctx : Context) (ref : Reference) (text : String) :
    (s.write ctx ref text).ReadsAs (s'.write ctx ref text) := by
  rw [write_eq, write_eq, h.cell?_eq]
  cases hcell : ctx.cell? s.world ref with
  | none => exact h.report _
  | some cell =>
    have hpresent := Context.present_of_cell? hcell
    obtain ⟨store, name⟩ := cell
    cases store with
    | globals => exact h.writeGlobal name text
    | actor handle => exact h.setActor hpresent name text
    | faction id => exact h.writeFaction id name text

end ReadsAs

end State

end Parley
