import Parley.Proofs.Authored
import Parley.Proofs.Talk.Independence

/-!
How variables are named. A name is made of a stem and of the parts that content gives, joined by underscores, and
comes apart again at its underscores if the parts have none. Main statement: both readers of variables make one
name of one text, it is never the reserved one, and variables with different parts have no cell in common.
-/

set_option autoImplicit false
set_option relaxedAutoImplicit false

namespace Parley

/-- The parts of a variable's name as content gives them. A part that is left out is empty. -/
structure Label where
  type : String
  context : String
  name : String

/-- A text that is a part of its own wherever it is joined to others: not empty, and without an underscore. -/
structure Label.IsPart (text : String) : Prop where
  ne_empty : text ≠ ""
  unbroken : '_' ∉ text.toList

namespace Label

def bare (name : String) : Label :=
  ⟨"", "", name⟩

def fullName (label : Label) : String :=
  Reference.fullName label.type label.context label.name

def parts (label : Label) : List String :=
  [label.type, label.context, label.name].filter (· ≠ "")

/-- A label with a name alone, or with a name, a type and a context. With only one of the last two it could not be
seen in the name which of them it is. -/
inductive Plain : Label → Prop
  | bare {name : String} (name_part : IsPart name) : Plain (bare name)
  | full {type context name : String} (type_part : IsPart type) (context_part : IsPart context)
      (name_part : IsPart name) : Plain ⟨type, context, name⟩

variable {label label' : Label} {type context name : String}

private theorem parts_bare (hname : name ≠ "") : (bare name).parts = [name] := by
  simp [parts, bare, hname]

private theorem parts_of_ne_empty (htype : type ≠ "") (hcontext : context ≠ "") (hname : name ≠ "") :
    (Label.mk type context name).parts = [type, context, name] := by
  simp [parts, htype, hcontext, hname]

private theorem Plain.unbroken_of_mem (h : label.Plain) : ∀ part ∈ label.parts, '_' ∉ part.toList := by
  cases h with
  | bare name_part =>
    rw [parts_bare name_part.ne_empty]
    simpa using name_part.unbroken
  | full type_part context_part name_part =>
    rw [parts_of_ne_empty type_part.ne_empty context_part.ne_empty name_part.ne_empty]
    simpa using ⟨type_part.unbroken, context_part.unbroken, name_part.unbroken⟩

/-- A plain label is told by the parts that are not left out. -/
theorem Plain.parts_eq_iff (h : label.Plain) (h' : label'.Plain) : label.parts = label'.parts ↔ label = label' := by
  refine ⟨?_, congrArg parts⟩
  intro hparts
  cases h with
  | bare name_part =>
    rw [parts_bare name_part.ne_empty] at hparts
    cases h' with
    | bare name_part' =>
      rw [parts_bare name_part'.ne_empty] at hparts
      rw [List.singleton_inj.1 hparts]
    | full type_part' context_part' name_part' =>
      rw [parts_of_ne_empty type_part'.ne_empty context_part'.ne_empty name_part'.ne_empty] at hparts
      cases hparts
  | full type_part context_part name_part =>
    rw [parts_of_ne_empty type_part.ne_empty context_part.ne_empty name_part.ne_empty] at hparts
    cases h' with
    | bare name_part' =>
      rw [parts_bare name_part'.ne_empty] at hparts
      cases hparts
    | full type_part' context_part' name_part' =>
      rw [parts_of_ne_empty type_part'.ne_empty context_part'.ne_empty name_part'.ne_empty] at hparts
      cases hparts
      rfl

private theorem fullName_eq_intercalate (label : Label) :
    label.fullName = "_".intercalate ("npctalk" :: "var" :: label.parts) := by
  have hstem : Reference.stem = "npctalk" ++ "_" ++ "var" := rfl
  rw [fullName, Reference.fullName, hstem, String.intercalate_cons_append, String.intercalate_cons_cons]
  rfl

private theorem fullName_bare (hname : name ≠ "") : (bare name).fullName = Reference.stem ++ "_" ++ name := by
  change "_".intercalate (Reference.stem :: (bare name).parts) = _
  rw [parts_bare hname, String.intercalate_cons_cons, String.intercalate_singleton]

private theorem splitOn_fullName (h : ∀ part ∈ label.parts, '_' ∉ part.toList) :
    label.fullName.toList.splitOn '_' = ("npctalk" :: "var" :: label.parts).map String.toList := by
  have hstem : '_' ∉ "npctalk".toList ∧ '_' ∉ "var".toList := by decide
  rw [fullName_eq_intercalate, String.toList_intercalate]
  apply List.splitOn_intercalate
  · intro chars hchars
    obtain ⟨part, hpart, rfl⟩ := List.mem_map.1 hchars
    rcases List.mem_cons.1 hpart with rfl | hpart
    · exact hstem.1
    rcases List.mem_cons.1 hpart with rfl | hpart
    · exact hstem.2
    · exact h part hpart
  · simp

private theorem fullName_eq_iff (h : ∀ part ∈ label.parts, '_' ∉ part.toList)
    (h' : ∀ part ∈ label'.parts, '_' ∉ part.toList) :
    label.fullName = label'.fullName ↔ label.parts = label'.parts := by
  constructor
  · intro hname
    have hwords : ("npctalk" :: "var" :: label.parts).map String.toList =
        ("npctalk" :: "var" :: label'.parts).map String.toList := by
      rw [← splitOn_fullName h, ← splitOn_fullName h', hname]
    have hjoined := (List.map_inj_right fun _ _ => String.toList_injective).1 hwords
    exact (List.cons.inj (List.cons.inj hjoined).2).2
  · intro hparts
    rw [fullName_eq_intercalate, fullName_eq_intercalate, hparts]

/-- A type without a context looks like a context without a type, and an underscore in a part like one between two. -/
example : (Label.mk "trader" "" "met").fullName = (Label.mk "" "trader" "met").fullName ∧
    (Label.mk "day" "first_trader" "met").fullName = (Label.mk "day_first" "trader" "met").fullName := by
  decide

/-- A part of a name under a member: a text, or nothing if there is no such member. -/
inductive PartWritten (ms : Json.Members) (member : String) : String → Prop
  | absent (get_eq : ms.get? member = none) : PartWritten ms member ""
  | text {part : String} (get_eq : ms.get? member = some (.string part)) : PartWritten ms member part

private theorem PartWritten.stringOr_eq {ms : Json.Members} {member part : String} (h : PartWritten ms member part) :
    ms.stringOr member "" = .ok part := by
  cases h with
  | absent get_eq => rw [Json.Members.stringOr, get_eq]
  | text get_eq =>
    rw [Json.Members.stringOr, get_eq]
    rfl

/-- An object that gives the parts of a name: a text under a member, and a type and a context or none. -/
structure WrittenIn (label : Label) (ms : Json.Members) (member : String) : Prop where
  name_eq : ms.get? member = some (.string label.name)
  type_written : PartWritten ms "type" label.type
  context_written : PartWritten ms "context" label.context

private theorem WrittenIn.loadName_eq {ms : Json.Members} {member : String} (h : label.WrittenIn ms member) :
    Reference.loadName ms member = .ok label.fullName :=
  Reference.loadName_eq_ok h.name_eq h.type_written.stringOr_eq h.context_written.stringOr_eq

end Label

namespace Reference

/-- Two references that have no cell in common, whoever talks, so that what is written to one is not read from the
other. -/
def Apart (ref ref' : Reference) : Prop :=
  ∀ (ctx : Context) (s : State),
    (∀ cell, ctx.cell? s.world ref = some cell → ctx.cell? s.world ref' ≠ some cell) ∧
    ∀ text, (s.write ctx ref text).read ctx ref' = s.read ctx ref'

private theorem apart_of_name_ne {ref ref' : Reference} (hname : ref.name ≠ ref'.name) : ref.Apart ref' := by
  intro ctx s
  have hcells : ∀ cell, ctx.cell? s.world ref = some cell → ctx.cell? s.world ref' ≠ some cell := by
    intro cell hcell hcell'
    obtain ⟨store, -, rfl⟩ := Option.map_eq_some_iff.1 hcell
    obtain ⟨store', -, heq⟩ := Option.map_eq_some_iff.1 hcell'
    exact hname (congrArg Prod.snd heq).symm
  refine ⟨hcells, ?_⟩
  intro text
  cases hcell : ctx.cell? s.world ref with
  | some cell => rw [State.read_write_of_cell hcell, if_neg (hcells cell hcell)]
  | none =>
    -- a write that has no cell is reported, which changes no text
    rw [State.write_eq, hcell, Option.elim_none]
    rfl

/-- Names are made consistently. Of a text that is not empty, a reference gets the name that the other reader
makes of it without a type and a context; neither reader ever makes the reserved name; and the names of two plain
labels are equal exactly if all parts are, so that variables with different labels are kept apart. -/
theorem names_consistent (ms os : Json.Members) (member member' : String) :
    (∀ scope name, name ≠ "" → Scope.find? ms = some scope → ms.get? scope.member = some (.string name) →
      (Label.bare name).WrittenIn os member → ∃ full, loadName os member = .ok full ∧
        ∀ requireDefault ref, load ms requireDefault = .ok ref ↔
          ref.scope = scope ∧ ref.name = full ∧ DefaultWritten ms ref.default ∧
            (requireDefault = true → ref.default.isSome = true)) ∧
    (∀ requireDefault ref, load ms requireDefault = .ok ref → ref.name ≠ tempName) ∧
    (∀ full, loadName os member = .ok full → full ≠ tempName) ∧
    ∀ label label' : Label, label.Plain → label'.Plain → label.WrittenIn os member → label'.WrittenIn ms member' →
      ∃ full full', loadName os member = .ok full ∧ loadName ms member' = .ok full' ∧
        (full = full' ↔ label = label') ∧
        (label ≠ label' → ∀ scope scope' default default',
          Apart ⟨scope, full, default⟩ ⟨scope', full', default'⟩) := by
  refine ⟨?_, fun _ _ => authored_of_load, fun _ => ne_tempName_of_loadName, ?_⟩
  · intro scope name hname hscope hget hwritten
    refine ⟨_, hwritten.loadName_eq, ?_⟩
    intro requireDefault ref
    rw [load_eq_ok_iff, Label.fullName_bare hname]
    constructor
    · rintro ⟨name', hscope', hget', hfull, hdefault, hrequire⟩
      obtain rfl : scope = ref.scope := Option.some.inj (hscope.symm.trans hscope')
      obtain rfl : name = name' := by
        have htexts := hget.symm.trans hget'
        cases htexts
        rfl
      exact ⟨rfl, hfull, hdefault, hrequire⟩
    · rintro ⟨rfl, hfull, hdefault, hrequire⟩
      exact ⟨name, hscope, hget, hfull, hdefault, hrequire⟩
  · intro label label' hplain hplain' hwritten hwritten'
    have hnames : label.fullName = label'.fullName ↔ label = label' := by
      rw [Label.fullName_eq_iff hplain.unbroken_of_mem hplain'.unbroken_of_mem, hplain.parts_eq_iff hplain']
    refine ⟨_, _, hwritten.loadName_eq, hwritten'.loadName_eq, hnames, ?_⟩
    intro hlabels scope scope' default default'
    exact apart_of_name_ne fun hname => hlabels (hnames.1 hname)

/-- Whether one was met has one name for both readers. Whether one was met in talk with a trader has another one, and
what is known of the one says nothing of the other. -/
theorem names_consistent_about_meeting :
    let written : Json.Members := [("u_val", .string "met")]
    let asked : Json.Members := [("u_has_var", .string "met")]
    let askedOfTrader : Json.Members :=
      [("context", .string "trader"), ("type", .string "dialogue"), ("u_has_var", .string "met")]
    loadName asked "u_has_var" = .ok "npctalk_var_met" ∧
      load written false = .ok ⟨.primary, "npctalk_var_met", none⟩ ∧ "npctalk_var_met" ≠ tempName ∧
      loadName askedOfTrader "u_has_var" = .ok "npctalk_var_dialogue_trader_met" ∧
      Apart ⟨.primary, "npctalk_var_met", none⟩ ⟨.primary, "npctalk_var_dialogue_trader_met", none⟩ := by
  intro written asked askedOfTrader
  have hasked : loadName asked "u_has_var" = .ok "npctalk_var_met" := rfl
  have htrader : loadName askedOfTrader "u_has_var" = .ok "npctalk_var_dialogue_trader_met" := rfl
  have hbare : (Label.bare "met").WrittenIn asked "u_has_var" := ⟨rfl, .absent rfl, .absent rfl⟩
  have hfull : (Label.mk "dialogue" "trader" "met").WrittenIn askedOfTrader "u_has_var" :=
    ⟨rfl, .text rfl, .text rfl⟩
  have hmet : Label.IsPart "met" := ⟨by decide, by decide⟩
  obtain ⟨hsame, -, hnotTemp, -⟩ := names_consistent written asked "u_has_var" "u_has_var"
  obtain ⟨-, -, -, hdistinct⟩ := names_consistent askedOfTrader asked "u_has_var" "u_has_var"
  refine ⟨hasked, ?_, hnotTemp _ hasked, htrader, ?_⟩
  · obtain ⟨full, hname, hload⟩ := hsame .primary "met" hmet.ne_empty rfl rfl hbare
    obtain rfl : full = "npctalk_var_met" := Except.ok.inj (hname.symm.trans hasked)
    exact (hload false _).2 ⟨rfl, rfl, .absent rfl, nofun⟩
  · obtain ⟨full, full', hname, hname', -, hapart⟩ := hdistinct _ _ (.bare hmet)
      (.full ⟨by decide, by decide⟩ ⟨by decide, by decide⟩ hmet) hbare hfull
    obtain rfl : full = "npctalk_var_met" := Except.ok.inj (hname.symm.trans hasked)
    obtain rfl : full' = "npctalk_var_dialogue_trader_met" := Except.ok.inj (hname'.symm.trans htrader)
    exact hapart (by simp [Label.bare]) .primary .primary none none

end Reference

end Parley
