import Parley.Library.Basic
import Parley.Proofs.Condition.Keys

/-!
Loading of libraries: which entries of a document are compiled and which fail, and what becomes of them.
Main statement: a document gives a library of all its entries, or none and a report of every entry that
fails.
-/

set_option autoImplicit false
set_option relaxedAutoImplicit false

namespace Parley.Library

variable {ms : Json.Members} {name : String}

private theorem mem_compiled_iff {condition : Condition} :
    (name, condition) ∈ compiled ms ↔
      ∃ json, (name, json) ∈ ms ∧ Condition.load json = .ok condition := by
  rw [compiled, List.mem_filterMap]
  constructor
  · rintro ⟨⟨other, json⟩, hmem, heq⟩
    cases hload : Condition.load json <;> rw [hload] at heq <;> cases heq
    exact ⟨json, hmem, hload⟩
  · rintro ⟨json, hmem, hload⟩
    exact ⟨(name, json), hmem, by rw [hload]⟩

private theorem mem_failures_iff {defect : Defect} :
    (name, defect) ∈ failures ms ↔
      ∃ json, (name, json) ∈ ms ∧ Condition.load json = .error defect := by
  rw [failures, List.mem_filterMap]
  constructor
  · rintro ⟨⟨other, json⟩, hmem, heq⟩
    cases hload : Condition.load json <;> rw [hload] at heq <;> cases heq
    exact ⟨json, hmem, hload⟩
  · rintro ⟨json, hmem, hload⟩
    exact ⟨(name, json), hmem, by rw [hload]⟩

private theorem failures_eq_nil_iff :
    failures ms = [] ↔ ∀ name json, (name, json) ∈ ms → ∃ c, Condition.load json = .ok c := by
  rw [failures, List.filterMap_eq_nil_iff]
  constructor
  · intro h name json hmem
    have hnone := h (name, json) hmem
    cases hload : Condition.load json with
    | ok c => exact ⟨c, rfl⟩
    | error defect =>
      simp only [hload] at hnone
      cases hnone
  · rintro h ⟨name, json⟩ hmem
    obtain ⟨c, hload⟩ := h name json hmem
    simp only [hload]

private theorem failures_names_sublist : ((failures ms).map Prod.fst).Sublist ms.names := by
  induction ms with
  | nil => exact .slnil
  | cons e rest ih =>
    rw [failures, List.filterMap_cons]
    cases hload : Condition.load e.2 with
    | ok c => exact ih.cons e.1
    | error defect => exact ih.cons_cons e.1

private theorem compiled_names (h : failures ms = []) : (compiled ms).map Prod.fst = ms.names := by
  induction ms with
  | nil => rfl
  | cons e rest ih =>
    rw [failures_eq_nil_iff] at h
    obtain ⟨c, hload⟩ := h e.1 e.2 List.mem_cons_self
    have hrest : failures rest = [] :=
      failures_eq_nil_iff.2 fun name json hmem => h name json (List.mem_cons_of_mem e hmem)
    rw [compiled, List.filterMap_cons, hload]
    exact congrArg (e.1 :: ·) (ih hrest)

section Sorted

variable (sorted : Entries.Sorted ms)
include sorted

private theorem mem_iff_get? {json : Json} : (name, json) ∈ ms ↔ ms.get? name = some json :=
  ⟨Entries.find?_of_mem sorted.nodup, Entries.mem_of_find?⟩

private theorem failures_names_increase : ((failures ms).map Prod.fst).Pairwise (· < ·) :=
  (Condition.names_increase sorted).sublist failures_names_sublist

private theorem entries_compiled (h : failures ms = []) :
    (Dict.ofList (compiled ms)).entries = compiled ms := by
  have hsorted : Entries.Sorted (compiled ms) := by
    have hnames : ((compiled ms).map Prod.fst).Pairwise fun a b => compare a b = .lt := by
      rw [compiled_names h]
      exact List.pairwise_map.2 sorted
    exact List.pairwise_map.1 hnames
  have heq : Dict.ofList (compiled ms) = ⟨compiled ms, hsorted⟩ := Dict.ofList_eq_of_perm (.refl _)
  rw [heq]

end Sorted

private theorem evaluate_of_get? {l : Library} {condition : Condition} (h : l.get? name = some condition)
    (ctx : Context) : l.evaluate ctx name = condition.evaluate ctx := by
  rw [evaluate, h]

private theorem evaluate_of_unknown {l : Library} (h : name ∉ l.names) (ctx : Context) (s : State) :
    l.evaluate ctx name s = (false, { s with log := s.log ++ [.unknownCondition name] }) := by
  have hnone : l.get? name = none := Entries.find?_eq_none_iff.2 h
  rw [evaluate, hnone]
  rfl

private theorem ofDocument_of_not_object {document : Json} (h : ∀ ms, document ≠ .object ms) :
    ofDocument document =
      (.error (.document (.invalidValue "document" (.expected .object))), []) := by
  cases document with
  | object ms => exact absurd rfl (h ms)
  | _ => rfl

private theorem reported_of_object :
    (ofDocument (.object ms)).2 = (failures ms).map fun f => .unloadable f.1 f.2 :=
  rfl

private theorem loaded_eq_ok_iff {l : Library} :
    (ofDocument (.object ms)).1 = .ok l ↔
      failures ms = [] ∧ l = ⟨Dict.ofList (compiled ms)⟩ := by
  simp only [ofDocument, Json.asObject]
  rcases failures ms with _ | ⟨⟨name, defect⟩, _ | ⟨f, rest⟩⟩
  · simp [eq_comm]
  · simp
  · simp

private theorem loaded_eq_error_iff {failure : Failure} :
    (ofDocument (.object ms)).1 = .error failure ↔
      (∃ name defect, failures ms = [(name, defect)] ∧ failure = .entry name defect) ∨
      (2 ≤ (failures ms).length ∧ failure = .entries (failures ms)) := by
  simp only [ofDocument, Json.asObject]
  rcases failures ms with _ | ⟨⟨name, defect⟩, _ | ⟨f, rest⟩⟩
  · simp
  · simp only [Except.error.injEq, List.cons.injEq, Prod.mk.injEq, and_true]
    constructor
    · rintro rfl
      exact .inl ⟨name, defect, ⟨rfl, rfl⟩, rfl⟩
    · rintro (⟨_, _, ⟨rfl, rfl⟩, rfl⟩ | ⟨hlength, -⟩)
      · rfl
      · cases hlength
        contradiction
  · simp [eq_comm]

/-- A document that is no object is refused as such. An object gives a library exactly if every entry is
compiled: then nothing is reported, the names are those of the entries, and each stands for what its entry is
compiled to. Otherwise the entries that fail are reported in the order of their names, each with its name and the
defect of its own, and the failure is the only one of them, or lists all. A name without an entry is false, which is
reported. -/
theorem loads_all_or_reports_failures :
    (∀ document : Json, (∀ ms, document ≠ .object ms) →
      ofDocument document =
        (.error (.document (.invalidValue "document" (.expected .object))), [])) ∧
    (∀ ms : Json.Members, Entries.Sorted ms →
      ((∃ library, (ofDocument (.object ms)).1 = .ok library) ↔
        ∀ name json, ms.get? name = some json → ∃ c, Condition.load json = .ok c) ∧
      (∀ library, (ofDocument (.object ms)).1 = .ok library →
        (ofDocument (.object ms)).2 = [] ∧
        library.names = ms.names ∧
        ∀ name json c, ms.get? name = some json → Condition.load json = .ok c →
          ∀ ctx, library.evaluate ctx name = c.evaluate ctx) ∧
      (∀ failure, (ofDocument (.object ms)).1 = .error failure →
        ∃ failed : List (String × Defect),
          (failed.map Prod.fst).Pairwise (· < ·) ∧
          (∀ name defect, (name, defect) ∈ failed ↔
            ∃ json, ms.get? name = some json ∧ Condition.load json = .error defect) ∧
          (ofDocument (.object ms)).2 = failed.map (fun f => .unloadable f.1 f.2) ∧
          (∀ d ∈ (ofDocument (.object ms)).2, d.severity = .error) ∧
          ((∃ name defect, failed = [(name, defect)] ∧ failure = .entry name defect) ∨
            (2 ≤ failed.length ∧ failure = .entries failed)))) ∧
    (∀ (library : Library) (ctx : Context) (name : String) (s : State), name ∉ library.names →
      (Diagnostic.unknownCondition name).severity = .warning ∧
      library.evaluate ctx name s =
        (false, { s with log := s.log ++ [.unknownCondition name] })) := by
  refine ⟨fun document => ofDocument_of_not_object, ?_, ?_⟩
  · intro ms sorted
    have hmem {name : String} {json : Json} : (name, json) ∈ ms ↔ ms.get? name = some json :=
      mem_iff_get? sorted
    refine ⟨?_, ?_, ?_⟩
    · constructor
      · rintro ⟨library, hloaded⟩ name json hget
        exact failures_eq_nil_iff.1 (loaded_eq_ok_iff.1 hloaded).1 name json (hmem.2 hget)
      · intro h
        have hnil : failures ms = [] :=
          failures_eq_nil_iff.2 fun name json hin => h name json (hmem.1 hin)
        exact ⟨_, loaded_eq_ok_iff.2 ⟨hnil, rfl⟩⟩
    · intro library hloaded
      obtain ⟨hnil, rfl⟩ := loaded_eq_ok_iff.1 hloaded
      have hentries := entries_compiled sorted hnil
      have hnames : ((Dict.ofList (compiled ms)).entries).map Prod.fst = ms.names := by
        rw [hentries, compiled_names hnil]
      refine ⟨by rw [reported_of_object, hnil]; rfl, hnames, ?_⟩
      intro name json c hget hload
      refine evaluate_of_get? ?_
      have hin : (name, c) ∈ (Dict.ofList (compiled ms)).entries := by
        rw [hentries]
        exact mem_compiled_iff.2 ⟨json, hmem.2 hget, hload⟩
      exact Entries.find?_of_mem (Dict.sorted _).nodup hin
    · intro failure hloaded
      refine ⟨failures ms, failures_names_increase sorted, ?_, reported_of_object, ?_,
        loaded_eq_error_iff.1 hloaded⟩
      · intro name defect
        simp only [mem_failures_iff, hmem]
      · intro d hd
        obtain ⟨f, -, rfl⟩ := List.mem_map.1 hd
        rfl
  · intro library ctx name s hname
    exact ⟨rfl, evaluate_of_unknown hname ctx s⟩

/-- Two of three entries fail, and both are listed. The empty document gives a library without names, in
which every name is unknown. -/
theorem loads_all_or_reports_failures_of_teapot :
    (∃ failed : List (String × Defect),
      (ofDocument
        (.object [("a", .string "nope"), ("b", .bool true), ("c", .string "u_is_a_teapot")])).1 =
          .error (.entries failed) ∧
        ("a", .unknownCondition "nope") ∈ failed ∧
        ("c", .unknownCondition "u_is_a_teapot") ∈ failed) ∧
      (∃ library, (ofDocument (.object [])).1 = .ok library ∧ library.names = []) ∧
      ofDocument .null = (.error (.document (.invalidValue "document" (.expected .object))), []) ∧
      ∀ ctx s, (empty.evaluate ctx "missing" s).1 = false := by
  obtain ⟨hother, hobject, hunknown⟩ := loads_all_or_reports_failures
  refine ⟨?_, ?_, hother .null nofun, ?_⟩
  · have hload (key : String) (h : Catalog.isKey key = false) (htrue : key ≠ "true")
        (hfalse : key ≠ "false") : Condition.load (.string key) = .error (.unknownCondition key) := by
      rw [Condition.load_string, Condition.loadKey_of_not_isKey htrue hfalse h]
    have hnope := hload "nope" (by decide) (by decide) (by decide)
    have hteapot := hload "u_is_a_teapot" (by decide) (by decide) (by decide)
    have sorted : Entries.Sorted
        [("a", Json.string "nope"), ("b", .bool true), ("c", .string "u_is_a_teapot")] := by
      simp only [Entries.Sorted, List.pairwise_cons]
      decide
    obtain ⟨hsome, -, hfailed⟩ := hobject _ sorted
    generalize (ofDocument (.object
      [("a", .string "nope"), ("b", .bool true), ("c", .string "u_is_a_teapot")])).1 = outcome
      at hsome hfailed ⊢
    cases outcome with
    | ok library =>
      obtain ⟨c, hok⟩ := hsome.1 ⟨library, rfl⟩ "a" _ rfl
      rw [hnope] at hok
      cases hok
    | error failure =>
      obtain ⟨failed, -, hmem, -, -, hfailure⟩ := hfailed failure rfl
      have ha := (hmem "a" _).2 ⟨_, rfl, hnope⟩
      have hc := (hmem "c" _).2 ⟨_, rfl, hteapot⟩
      rcases hfailure with ⟨name, defect, rfl, -⟩ | ⟨-, rfl⟩
      · have hname : "a" = name := congrArg Prod.fst (List.mem_singleton.1 ha)
        have hother : "c" = name := congrArg Prod.fst (List.mem_singleton.1 hc)
        exact absurd (hname.trans hother.symm) (by decide)
      · exact ⟨failed, rfl, ha, hc⟩
  · obtain ⟨hsome, hlibrary, -⟩ := hobject [] .nil
    obtain ⟨library, hloaded⟩ := hsome.2 (by intro name json hget; cases hget)
    exact ⟨library, hloaded, (hlibrary library hloaded).2.1⟩
  · intro ctx s
    rw [(hunknown empty ctx "missing" s (by decide)).2]

end Parley.Library
