import Parley.Proofs.World.Development

/-!
Independence of cells. A write finds the variables of an item by its own way through what a character
holds, and finds those that a read finds. Main statement: a text that is written is read from its cell
until another one is written there, and every other cell reads as before.
-/

set_option autoImplicit false
set_option relaxedAutoImplicit false

namespace Parley

namespace Inventory

variable {f : Item → Item}

private theorem find?_modifyFirst (hf : ∀ i, (f i).id = i.id) (id id' : EntityId) (items : List Item) :
    (modifyFirst id f items).find? (·.id = id') =
      if id = id' then (items.find? (·.id = id')).map f else items.find? (·.id = id') := by
  induction items with
  | nil => split <;> rfl
  | cons i rest ih =>
    rw [modifyFirst]
    by_cases hi : i.id = id
    · rw [if_pos hi, List.find?_cons, List.find?_cons, hf, hi]
      by_cases hid : id = id'
      · simp [hid]
      · simp [hid]
    · rw [if_neg hi, List.find?_cons, List.find?_cons, ih]
      by_cases hid : id = id'
      · rw [if_pos hid, if_pos hid, ← hid, decide_eq_false hi]
      · rw [if_neg hid, if_neg hid]

private theorem any_modifyFirst (hf : ∀ i, (f i).id = i.id) (id id' : EntityId) (items : List Item) :
    (modifyFirst id f items).any (·.id = id') = items.any (·.id = id') := by
  induction items with
  | nil => rfl
  | cons i rest ih =>
    rw [modifyFirst]
    split
    · rw [List.any_cons, List.any_cons, hf]
    · rw [List.any_cons, List.any_cons, ih]

private theorem modifyFirst_append (id : EntityId) (items items' : List Item) :
    modifyFirst id f (items ++ items') =
      if items.any (·.id = id) then modifyFirst id f items ++ items'
      else items ++ modifyFirst id f items' := by
  induction items with
  | nil => rfl
  | cons i rest ih =>
    by_cases hi : i.id = id
    · simp [modifyFirst, hi]
    · simp only [List.cons_append, modifyFirst, if_neg hi, ih, List.any_cons, decide_eq_false hi,
        Bool.false_or]
      split <;> rfl

private theorem modifyFirst_toList (id : EntityId) (item? : Option Item) :
    modifyFirst id f item?.toList = (item?.map fun i => if i.id = id then f i else i).toList := by
  cases item? with
  | none => rfl
  | some i =>
    simp only [Option.toList_some, modifyFirst, Option.map_some]
    split <;> rfl

private theorem modifyFirst_modifyFirst (hf : ∀ i, (f i).id = i.id) (g : Item → Item) (id : EntityId)
    (items : List Item) :
    modifyFirst id g (modifyFirst id f items) = modifyFirst id (fun i => g (f i)) items := by
  induction items with
  | nil => rfl
  | cons i rest ih =>
    by_cases hi : i.id = id
    · simp only [modifyFirst, if_pos hi, hf]
    · simp only [modifyFirst, if_neg hi, ih]

theorem items_modify (inv : Inventory) (id : EntityId) :
    (inv.modify id f).items = modifyFirst id f inv.items := by
  rw [items, items, modifyFirst_append, modifyFirst_append, List.any_append, modifyFirst_toList, modify]
  -- the first place that holds the item is the one that is changed
  cases inv.carried.any (·.id = id) with
  | true => rfl
  | false =>
    cases inv.worn.any (·.id = id) <;> rfl

private theorem modify_modify (hf : ∀ i, (f i).id = i.id) (g : Item → Item) (inv : Inventory)
    (id : EntityId) : (inv.modify id f).modify id g = inv.modify id fun i => g (f i) := by
  cases hcarried : inv.carried.any (·.id = id) with
  | true => simp [modify, hcarried, any_modifyFirst hf, modifyFirst_modifyFirst hf]
  | false =>
    cases hworn : inv.worn.any (·.id = id) with
    | true => simp [modify, hcarried, hworn, any_modifyFirst hf, modifyFirst_modifyFirst hf]
    | false =>
      have hstep : ∀ i : Item,
          (let j := if i.id = id then f i else i; if j.id = id then g j else j) =
            if i.id = id then g (f i) else i := by
        intro i
        by_cases hi : i.id = id
        · simp only [if_pos hi, hf]
        · simp only [if_neg hi]
      simp only [modify, hcarried, hworn, Bool.false_eq_true, if_false, Option.map_map]
      congr 2
      exact funext hstep

end Inventory

theorem Character.item?_modify {f : Item → Item} (hf : ∀ i, (f i).id = i.id) (c : Character)
    (id id' : EntityId) :
    ({ c with inventory := c.inventory.modify id f } : Character).item? id' =
      if id = id' then (c.item? id').map f else c.item? id' := by
  change (c.inventory.modify id f).items.find? (·.id = id') = _
  rw [Inventory.items_modify, Inventory.find?_modifyFirst hf]
  rfl

namespace World

variable (w : World) (f : Variables → Variables)

/-- Of all actors one gets other variables. -/
theorem vars_modifyVars (h h' : Handle) :
    ((w.modifyVars h f).actor? h').map Actor.vars =
      if h = h' then ((w.actor? h').map Actor.vars).map f else (w.actor? h').map Actor.vars := by
  rcases h with id | ⟨id⟩ | ⟨owner, id⟩
  · rcases h' with id' | ⟨id'⟩ | ⟨owner', id'⟩
    · simp only [modifyVars, actor?, character?, Dict.get?_modify, Handle.creature.injEq]
      split <;> simp [Actor.vars, Function.comp_def]
    · rfl
    · -- the owner may be the creature that is changed, but it keeps what it holds
      simp only [modifyVars, actor?, itemAt?, character?, Dict.get?_modify, reduceCtorEq, if_false]
      split
      · cases w.characters.get? owner' <;> rfl
      · rfl
  · rcases h' with id' | ⟨id'⟩ | ⟨owner', id'⟩
    · rfl
    · simp only [modifyVars, actor?, itemAt?, Dict.get?_modify, Handle.item.injEq, ItemPlace.ground.injEq]
      split <;> simp [Actor.vars, Function.comp_def]
    · rfl
  · rcases h' with id' | ⟨id'⟩ | ⟨owner', id'⟩
    · -- what a creature holds is changed, not its own variables
      simp only [modifyVars, actor?, character?, Dict.get?_modify, reduceCtorEq, if_false]
      split
      · simp [Actor.vars, Function.comp_def]
      · rfl
    · rfl
    · simp only [modifyVars, actor?, itemAt?, character?, Dict.get?_modify, Handle.item.injEq,
        ItemPlace.carried.injEq]
      by_cases howner : owner = owner'
      · subst howner
        cases w.characters.get? owner with
        | none => simp
        | some c =>
          have hitem :=
            c.item?_modify (f := fun i => { i with vars := f i.vars }) (fun _ => rfl) id id'
          simp only [if_true, true_and, Option.map_some, Option.bind_some, hitem]
          split <;> simp [Actor.vars, Function.comp_def]
      · simp [howner]

theorem actorText_modifyVars {h : Handle} {a : Actor} (ha : w.actor? h = some a) (h' : Handle)
    (name name' text : String) :
    (w.modifyVars h (·.set name text)).actorText h' name' =
      if h = h' ∧ name = name' then text else w.actorText h' name' := by
  have htext : ∀ w' : World,
      w'.actorText h' name' = ((w'.actor? h').map Actor.vars).elim "" (·.get name') := by
    intro w'
    unfold actorText
    cases w'.actor? h' <;> rfl
  rw [htext, htext, vars_modifyVars]
  by_cases hh : h = h'
  · rw [← hh, ha]
    simp only [if_true, true_and, Option.map_some, Option.elim_some, Variables.get_set]
  · simp only [hh, false_and, if_false]

theorem modifyVars_modifyVars (h : Handle) (g : Variables → Variables) :
    (w.modifyVars h f).modifyVars h g = w.modifyVars h fun v => g (f v) := by
  rcases h with id | ⟨id⟩ | ⟨owner, id⟩
  · simp only [modifyVars, Dict.modify_modify]
  · simp only [modifyVars, Dict.modify_modify]
  · simp only [modifyVars, Dict.modify_modify]
    simp only [Inventory.modify_modify (f := fun i => { i with vars := f i.vars }) (fun _ => rfl)]

end World

/-- Whether a store is there: that of an actor is if the world has the actor. -/
def Store.Present (w : World) : Store → Prop
  | .actor h => (w.actor? h).isSome = true
  | .globals | .faction _ => True

private theorem Context.present_of_store? {ctx : Context} {w : World} {scope : Scope} {store : Store}
    (h : ctx.store? w scope = some store) : store.Present w := by
  have hactor : ∀ who : Option Handle,
      (who.filter fun h => (w.actor? h).isSome).map Store.actor = some store → store.Present w := by
    intro who hwho
    obtain ⟨handle, hfound, rfl⟩ := Option.map_eq_some_iff.1 hwho
    exact (Option.filter_eq_some_iff.1 hfound).2
  cases scope with
  | global | party =>
    cases h
    trivial
  | primary => exact hactor ctx.primary h
  | secondary => exact hactor ctx.secondary h
  | faction =>
    obtain ⟨faction, -, rfl⟩ := Option.map_eq_some_iff.1 h
    trivial

theorem Context.present_of_cell? {ctx : Context} {w : World} {ref : Reference}
    {cell : Store × String} (h : ctx.cell? w ref = some cell) : cell.1.Present w := by
  obtain ⟨store, hstore, rfl⟩ := Option.map_eq_some_iff.1 h
  exact present_of_store? hstore

namespace State

variable (s : State)

theorem writeGlobal_cases (name text : String) :
    ((name = Reference.tempName → s.frames = []) ∧ s.writeGlobal name text =
      { s with world := { s.world with globals := s.world.globals.set name text } }) ∨
    (name = Reference.tempName ∧ ∃ frame rest, s.frames = frame :: rest ∧
      s.writeGlobal name text = { s with frames := some text :: rest }) := by
  unfold writeGlobal
  by_cases hname : name = Reference.tempName
  · cases hframes : s.frames with
    | nil => exact .inl ⟨fun _ => rfl, by rw [if_pos hname]⟩
    | cons frame rest => exact .inr ⟨hname, frame, rest, rfl, by rw [if_pos hname]⟩
  · exact .inl ⟨fun h => absurd h hname, if_neg hname⟩

private theorem globalText_writeGlobal (name name' text : String) :
    (s.writeGlobal name text).globalText name' =
      if name = name' then text else s.globalText name' := by
  rcases s.writeGlobal_cases name text with
    ⟨hframes, hwritten⟩ | ⟨rfl, frame, rest, hframes, hwritten⟩
  · rw [hwritten]
    by_cases hname : name = name'
    · subst hname
      rw [if_pos rfl, globalText]
      split
      · rename_i htemp
        rw [hframes htemp, Variables.get_set, if_pos rfl]
      · rw [Variables.get_set, if_pos rfl]
    · simp only [globalText, Variables.get_set, if_neg hname]
  · rw [hwritten, globalText]
    by_cases hname : name' = Reference.tempName
    · rw [if_pos hname, if_pos hname.symm]
      rfl
    · rw [if_neg hname, if_neg (Ne.symm hname), globalText, if_neg hname]

private theorem writeGlobal_writeGlobal (name text text' : String) :
    (s.writeGlobal name text).writeGlobal name text' = s.writeGlobal name text' := by
  rcases s.writeGlobal_cases name text with
    ⟨hframes, hwritten⟩ | ⟨rfl, frame, rest, hframes, hwritten⟩
  · rw [hwritten]
    by_cases hname : name = Reference.tempName
    · simp only [writeGlobal, if_pos hname, hframes hname, Variables.set_set]
    · simp only [writeGlobal, if_neg hname, Variables.set_set]
  · rw [hwritten]
    simp only [writeGlobal, if_true, hframes]

private theorem eq_writeGlobal {α : Type} {f : State → α}
    (hf : ∀ (s : State) (globals : Variables) (frames : List (Option String)),
      f { s with world := { s.world with globals := globals }, frames := frames } = f s)
    (name text : String) : f (s.writeGlobal name text) = f s := by
  rcases s.writeGlobal_cases name text with ⟨-, hwritten⟩ | ⟨-, frame, rest, -, hwritten⟩
  · rw [hwritten]
    exact hf s _ s.frames
  · rw [hwritten]
    exact hf s s.world.globals _

theorem factionText_writeFaction (faction faction' name name' text : String) :
    (s.writeFaction faction name text).factionText faction' name' =
      if faction = faction' ∧ name = name' then text else s.factionText faction' name' := by
  rw [factionText, get?_factions_writeFaction]
  by_cases hfaction : faction = faction'
  · have hold : ((s.world.factions.get? faction').getD (.ofId faction')).vars.get name' =
        s.factionText faction' name' := by
      unfold factionText
      cases s.world.factions.get? faction' <;> rfl
    simp only [hfaction, if_true, true_and, Option.elim_some, Variables.get_set, hold]
  · simp only [hfaction, if_false, false_and]
    rfl

/-- A text that is put into a cell is there, and the texts in all other cells are as before. -/
theorem textAt_put {cell : Store × String} (hcell : cell.1.Present s.world) (cell' : Store × String)
    (text : String) :
    (s.put cell text).textAt cell' = if cell = cell' then text else s.textAt cell' := by
  obtain ⟨store, name⟩ := cell
  obtain ⟨store', name'⟩ := cell'
  cases store with
  | globals =>
    cases store' with
    | globals => simp only [put, textAt, globalText_writeGlobal, Prod.mk.injEq, true_and]
    | actor h =>
      have hkept := s.eq_writeGlobal (f := fun s => s.world.actorText h name')
        (fun _ _ _ => rfl) name text
      simpa [put, textAt] using hkept
    | faction id =>
      have hkept := s.eq_writeGlobal (f := fun s => s.factionText id name')
        (fun _ _ _ => rfl) name text
      simpa [put, textAt] using hkept
  | actor h =>
    cases store' with
    | globals => rcases h with id | ⟨id⟩ | ⟨owner, id⟩ <;> rfl
    | actor h' =>
      have hactor : (s.world.actor? h).isSome = true := hcell
      obtain ⟨a, ha⟩ := Option.isSome_iff_exists.1 hactor
      simp only [put, textAt, s.world.actorText_modifyVars ha, Prod.mk.injEq, Store.actor.injEq]
    | faction id => rcases h with id | ⟨id⟩ | ⟨owner, id⟩ <;> rfl
  | faction id =>
    cases store' with
    | globals => rfl
    | actor h => rfl
    | faction id' =>
      simp only [put, textAt, factionText_writeFaction, Prod.mk.injEq, Store.faction.injEq]

theorem put_put (cell : Store × String) (text text' : String) :
    (s.put cell text).put cell text' = s.put cell text' := by
  obtain ⟨store, name⟩ := cell
  cases store with
  | globals => exact s.writeGlobal_writeGlobal name text text'
  | actor h => simp only [put, World.modifyVars_modifyVars, Variables.set_set]
  | faction id =>
    simp only [put, writeFaction, Dict.insert_insert, Dict.get?_insert, if_true, Option.getD_some,
      Variables.set_set]

variable {s} {ctx : Context} {ref : Reference} {cell : Store × String}

theorem write_of_cell (h : ctx.cell? s.world ref = some cell) (text : String) :
    s.write ctx ref text = s.put cell text := by
  rw [write_eq, h, Option.elim_some]

theorem read_write_of_cell (h : ctx.cell? s.world ref = some cell) (text : String)
    (ref' : Reference) :
    (s.write ctx ref text).read ctx ref' =
      if ctx.cell? s.world ref' = some cell then text else s.read ctx ref' := by
  have hpresent : cell.1.Present s.world := Context.present_of_cell? h
  rw [read_eq, read_eq, (s.develops_write ctx ref text).cell?_eq, write_of_cell h]
  cases hcell' : ctx.cell? s.world ref' with
  | none => rfl
  | some cell' =>
    simp only [Option.elim_some, s.textAt_put hpresent, Option.some.injEq, eq_comm]

private theorem write_write_of_cell (h : ctx.cell? s.world ref = some cell) (text text' : String) :
    (s.write ctx ref text).write ctx ref text' = s.write ctx ref text' := by
  have h' : ctx.cell? (s.write ctx ref text).world ref = some cell :=
    ((s.develops_write ctx ref text).cell?_eq ctx ref).trans h
  rw [write_of_cell h', write_of_cell h, write_of_cell h, put_put]

end State

/-- Variables are independent cells. What is written to a reference that has a cell is read from every
reference to that cell until something else is written to it, and from no other reference. A write that has
no cell is reported with a warning and does nothing else, and such a reference reads as empty. -/
theorem cells_independent (ctx : Context) (s : State) (ref : Reference) (text : String) :
    (∀ cell, ctx.cell? s.world ref = some cell →
      (s.write ctx ref text).read ctx ref = text ∧
      (∀ ref', (s.write ctx ref text).read ctx ref' =
        if ctx.cell? s.world ref' = some cell then text else s.read ctx ref') ∧
      ∀ text', (s.write ctx ref text).write ctx ref text' = s.write ctx ref text') ∧
    (ctx.cell? s.world ref = none →
      (∃ d, d.severity = .warning ∧ s.write ctx ref text = s.report d) ∧
      s.read ctx ref = "" ∧ (s.write ctx ref text).read ctx ref = "") := by
  refine ⟨?_, ?_⟩
  · intro cell hcell
    refine ⟨?_, State.read_write_of_cell hcell text, State.write_write_of_cell hcell text⟩
    rw [State.read_write_of_cell hcell, if_pos hcell]
  · intro hnone
    have hwrite : s.write ctx ref text = s.report (ctx.unresolved ref) := by
      rw [State.write_eq, hnone, Option.elim_none]
    have hread : ∀ s' : State, s'.world = s.world → s'.read ctx ref = "" := by
      intro s' hworld
      rw [State.read_eq, hworld, hnone]
      rfl
    refine ⟨⟨_, ctx.severity_unresolved ref, hwrite⟩, hread s rfl, ?_⟩
    rw [hwrite]
    exact hread _ rfl

/-- With the player in both roles, these share their variables, and the faction has those of the party. With
nobody in them, a write is reported. -/
theorem cells_independent_of_player :
    let s : State := ⟨World.empty.addPlayer (.ofName "Ann"), .scripted [], [], []⟩
    let alone : Context := ⟨some (.creature default), some (.creature default), .missionGoal⟩
    let nobody : Context := ⟨none, none, .missionGoal⟩
    (s.write alone ⟨.primary, "a", none⟩ "x").read alone ⟨.secondary, "a", none⟩ = "x" ∧
    (s.write alone ⟨.faction, "a", none⟩ "x").read alone ⟨.party, "a", none⟩ = "x" ∧
    ∃ d, d.severity = .warning ∧ s.write nobody ⟨.primary, "a", none⟩ "x" = s.report d := by
  intro s alone nobody
  refine ⟨?_, ?_, ?_⟩
  · obtain ⟨-, hread, -⟩ := (cells_independent alone s ⟨.primary, "a", none⟩ "x").1
      (.actor (.creature default), "a") (by rfl)
    rw [hread, if_pos (by rfl)]
  · obtain ⟨-, hread, -⟩ := (cells_independent alone s ⟨.faction, "a", none⟩ "x").1
      (.faction World.playerFaction, "a") (by rfl)
    rw [hread, if_pos (by rfl)]
  · exact ((cells_independent nobody s ⟨.primary, "a", none⟩ "x").2 rfl).1

end Parley
