import Parley.Condition.Load

/-!
The keys of conditions: what an object with no key, with several and with one is compiled to, and what
trees of combinations are compiled to. Main statement: content is compiled exactly if there is one key
wherever a condition stands, and its defect is that of the first condition that is not compiled.
-/

set_option autoImplicit false
set_option relaxedAutoImplicit false

namespace Parley

def Loaded.defect? {α : Type} : Loaded α → Option Defect
  | .ok _ => none
  | .error defect => some defect

namespace Loaded

variable {α β : Type} {x : Loaded α}

private theorem defect?_map (f : α → β) : defect? (x.map f) = defect? x := by
  cases x <;> rfl

private theorem defect?_eq_none_iff : defect? x = none ↔ ∃ a, x = .ok a := by
  cases x with
  | ok a => exact ⟨fun _ => ⟨a, rfl⟩, fun _ => rfl⟩
  | error defect => exact ⟨nofun, nofun⟩

private theorem defect?_eq_some_iff {defect : Defect} : defect? x = some defect ↔ x = .error defect := by
  cases x with
  | ok a => exact ⟨nofun, nofun⟩
  | error other =>
    rw [defect?, Option.some.injEq]
    exact ⟨congrArg _, Except.error.inj⟩

end Loaded

namespace Catalog

theorem isKey_of_isSimple {key : String} (h : isSimple key = true) : isKey key = true := by
  rw [isKey, h, Bool.true_or]

theorem isKey_of_takesArguments {key : String} (h : takesArguments key = true) :
    isKey key = true := by
  rw [isKey, h, Bool.or_true]

theorem takesArguments_of_isSimple {key : String} (h : isSimple key = true) :
    takesArguments key = false := by
  have apart : ∀ e ∈ simple, takesArguments e.1 = false := by decide +kernel
  obtain ⟨e, he⟩ := Option.isSome_iff_exists.1 h
  exact apart _ (Entries.mem_of_find? he)

private theorem isKey_truth : isKey "true" = false ∧ isKey "false" = false := by
  decide

end Catalog

namespace Condition

variable {ms : Json.Members} {key : String}

theorem load_string : load (.string key) = loadKey key := by
  rw [load.eq_def]

private theorem loadKey_of_not_truth (htrue : key ≠ "true") (hfalse : key ≠ "false") :
    loadKey key =
      match Catalog.fact? key with
      | some (slot, q) => .ok (.test (.fact slot q))
      | none =>
        if Catalog.takesArguments key then .error (.missingArguments key)
        else .error (.unknownCondition key) := by
  unfold loadKey
  split
  · exact absurd rfl htrue
  · exact absurd rfl hfalse
  · rfl

theorem loadKey_of_isKey (h : Catalog.isKey key = true) :
    loadKey key =
      match Catalog.fact? key with
      | some (slot, q) => .ok (.test (.fact slot q))
      | none => .error (.missingArguments key) := by
  have htrue : key ≠ "true" := by
    rintro rfl
    rw [Catalog.isKey_truth.1] at h
    cases h
  have hfalse : key ≠ "false" := by
    rintro rfl
    rw [Catalog.isKey_truth.2] at h
    cases h
  rw [loadKey_of_not_truth htrue hfalse]
  cases hfact : Catalog.fact? key with
  | some e => rfl
  | none =>
    rw [Catalog.isKey, Catalog.isSimple, hfact, Option.isSome_none, Bool.false_or] at h
    rw [h]
    rfl

private theorem loadKey_of_isSimple (h : Catalog.isSimple key = true) : ∃ c, loadKey key = .ok c := by
  obtain ⟨⟨slot, q⟩, hfact⟩ := Option.isSome_iff_exists.1 h
  rw [loadKey_of_isKey (Catalog.isKey_of_isSimple h), hfact]
  exact ⟨_, rfl⟩

theorem loadKey_of_takesArguments (h : Catalog.takesArguments key = true) :
    loadKey key = .error (.missingArguments key) := by
  rw [loadKey_of_isKey (Catalog.isKey_of_takesArguments h)]
  cases hfact : Catalog.fact? key with
  | none => rfl
  | some e =>
    have hsimple : Catalog.isSimple key = true := by
      rw [Catalog.isSimple, hfact]
      rfl
    rw [Catalog.takesArguments_of_isSimple hsimple] at h
    cases h

theorem loadKey_of_not_isKey (htrue : key ≠ "true") (hfalse : key ≠ "false")
    (h : Catalog.isKey key = false) : loadKey key = .error (.unknownCondition key) := by
  obtain ⟨hsimple, harguments⟩ := Bool.or_eq_false_iff.1 h
  rw [Catalog.isSimple, Option.isSome_eq_false_iff, Option.isNone_iff_eq_none] at hsimple
  rw [loadKey_of_not_truth htrue hfalse, hsimple, harguments]
  rfl

private theorem loadKey_eq_ok_iff :
    (∃ c, loadKey key = .ok c) ↔ key = "true" ∨ key = "false" ∨ Catalog.isSimple key = true := by
  constructor
  · rintro ⟨c, h⟩
    by_cases htrue : key = "true"
    · exact .inl htrue
    by_cases hfalse : key = "false"
    · exact .inr (.inl hfalse)
    refine .inr (.inr ?_)
    rw [loadKey_of_not_truth htrue hfalse] at h
    rw [Catalog.isSimple]
    cases hfact : Catalog.fact? key with
    | some e => rfl
    | none =>
      rw [hfact] at h
      cases harguments : Catalog.takesArguments key <;> rw [harguments] at h <;> cases h
  · rintro (rfl | rfl | h)
    · exact ⟨_, rfl⟩
    · exact ⟨_, rfl⟩
    · exact loadKey_of_isSimple h

private theorem load_object : load (.object ms) = loadObject ms := by
  rw [load.eq_def]

theorem names_increase (h : Entries.Sorted ms) : ms.names.Pairwise (· < ·) := by
  have hlt : ms.Pairwise fun a b => a.1 < b.1 := h.imp fun h => compareOfLessAndEq_eq_lt.1 h
  exact List.pairwise_map.2 hlt

theorem load_of_no_key (h : ms.names.countP Catalog.isKey = 0) :
    load (.object ms) = .error (.unknownCondition (", ".intercalate ms.names)) := by
  have hkeys : keysOf ms = [] := List.filter_eq_nil_iff.2 (List.countP_eq_zero.1 h)
  rw [load_object, loadObject.eq_def, hkeys]

theorem load_of_two_keys (h : 2 ≤ ms.names.countP Catalog.isKey) :
    load (.object ms) = .error (.conflictingConditions (ms.names.filter Catalog.isKey)) := by
  rw [List.countP_eq_length_filter] at h
  change 2 ≤ (keysOf ms).length at h
  change _ = Except.error (Defect.conflictingConditions (keysOf ms))
  rw [load_object, loadObject.eq_def]
  split
  · rename_i hkeys
    rw [hkeys] at h
    cases h
  · rename_i hkeys
    rw [hkeys] at h
    cases h
    contradiction
  · rfl

private theorem keysOf_eq_singleton (h : ms.names.countP Catalog.isKey = 1) (hmem : key ∈ ms.names)
    (hkey : Catalog.isKey key = true) : keysOf ms = [key] := by
  rw [List.countP_eq_length_filter] at h
  obtain ⟨only, honly⟩ := List.length_eq_one_iff.1 h
  have hmem : key ∈ ms.names.filter Catalog.isKey := List.mem_filter.2 ⟨hmem, hkey⟩
  rw [honly, List.mem_singleton] at hmem
  rw [keysOf, honly, hmem]

theorem load_of_simple_key (keys_eq : keysOf ms = [key]) (h : Catalog.isSimple key = true) :
    load (.object ms) = load (.string key) := by
  obtain ⟨harguments, hcombinator⟩ :=
    Bool.or_eq_false_iff.1 (Catalog.takesArguments_of_isSimple h)
  rw [load_object, load_string, loadObject.eq_def, keys_eq]
  simp only [Option.isSome_eq_false_iff, Option.isNone_iff_eq_none] at harguments hcombinator
  simp only [hcombinator, harguments]

theorem load_of_arguments {slot : Slot} {arguments : Arguments} (keys_eq : keysOf ms = [key])
    (combinator_eq : Catalog.combinator? key = none)
    (arguments_eq : Catalog.arguments? key = some (slot, arguments)) :
    load (.object ms) = (Test.load ms key slot arguments).map .test := by
  rw [load_object, loadObject.eq_def, keys_eq]
  simp only [combinator_eq, arguments_eq]

theorem load_of_level {slot : Slot} {query : LevelQuery} {value : Json} {amount : Ranged .integer}
    (keys_eq : keysOf ms = [key]) (combinator_eq : Catalog.combinator? key = none)
    (arguments_eq : Catalog.arguments? key = some (slot, .level query))
    (load_eq : Ranged.load .integer value key = .ok amount) (member_eq : ms.get? key = some value) :
    load (.object ms) = .ok (.test (.level slot query amount)) := by
  have htest : Test.load ms key slot (.level query) = .ok (.level slot query amount) := by
    unfold Test.load Ranged.loadMember
    simp only [member_eq, load_eq]
    rfl
  rw [load_of_arguments keys_eq combinator_eq arguments_eq, htest]
  rfl

def loadCombined (key : String) (value : Json) : Combinator → Loaded Condition
  | .negate => (load value).map .negate
  | .all => (loadItems key value).map .all
  | .any => (loadItems key value).map .any

theorem load_combination {combinator : Combinator} {value : Json} (keys_eq : keysOf ms = [key])
    (combinator_eq : Catalog.combinator? key = some combinator)
    (member_eq : ms.get? key = some value) :
    load (.object ms) = loadCombined key value combinator := by
  rw [load_object, loadObject.eq_def, keys_eq]
  simp only [combinator_eq]
  split
  · rename_i hnone
    rw [member_eq] at hnone
    cases hnone
  · rename_i other hsome
    rw [member_eq] at hsome
    cases hsome
    cases combinator <;> rfl

theorem loadItems_array {items : List Json} : loadItems key (.array items) = loadAll items := by
  rw [loadItems.eq_def]

private theorem defect?_loadAll (items : List Json) :
    (loadAll items).defect? = items.findSome? fun item => (load item).defect? := by
  induction items with
  | nil =>
    rw [loadAll.eq_def]
    rfl
  | cons item rest ih =>
    rw [loadAll, List.findSome?_cons, ← ih]
    cases load item with
    | error defect => rfl
    | ok c => exact Loaded.defect?_map _

mutual

/-- A tree of combinations whose combinators have what they take, and the conditions at its leaves, from
left to right. -/
inductive Tree : Json → List Json → Prop
  | leaf (json : Json) : Tree json [json]
  | negate {ms : Json.Members} {key : String} {value : Json} {leaves : List Json}
      (keys_eq : keysOf ms = [key])
      (combinator_eq : Catalog.combinator? key = some .negate)
      (member_eq : ms.get? key = some value)
      (inner : Tree value leaves) :
      Tree (.object ms) leaves
  | all {ms : Json.Members} {key : String} {items leaves : List Json}
      (keys_eq : keysOf ms = [key])
      (combinator_eq : Catalog.combinator? key = some .all)
      (member_eq : ms.get? key = some (.array items))
      (inner : Trees items leaves) :
      Tree (.object ms) leaves
  | any {ms : Json.Members} {key : String} {items leaves : List Json}
      (keys_eq : keysOf ms = [key])
      (combinator_eq : Catalog.combinator? key = some .any)
      (member_eq : ms.get? key = some (.array items))
      (inner : Trees items leaves) :
      Tree (.object ms) leaves

/-- Trees in order, and their leaves. -/
inductive Trees : List Json → List Json → Prop
  | nil : Trees [] []
  | cons {item : Json} {rest leaves others : List Json}
      (head : Tree item leaves) (tail : Trees rest others) :
      Trees (item :: rest) (leaves ++ others)

end

mutual

private theorem Tree.defect?_load {json : Json} {leaves : List Json} (h : Tree json leaves) :
    (load json).defect? = leaves.findSome? fun leaf => (load leaf).defect? := by
  match h with
  | .leaf json =>
    rw [List.findSome?_cons, List.findSome?_nil]
    cases (load json).defect? <;> rfl
  | .negate keys_eq combinator_eq member_eq inner =>
    rw [load_combination keys_eq combinator_eq member_eq, loadCombined, ← inner.defect?_load]
    exact Loaded.defect?_map _
  | .all keys_eq combinator_eq member_eq inner =>
    rw [load_combination keys_eq combinator_eq member_eq, loadCombined, loadItems_array,
      ← inner.defect?_load, ← defect?_loadAll]
    exact Loaded.defect?_map _
  | .any keys_eq combinator_eq member_eq inner =>
    rw [load_combination keys_eq combinator_eq member_eq, loadCombined, loadItems_array,
      ← inner.defect?_load, ← defect?_loadAll]
    exact Loaded.defect?_map _

private theorem Trees.defect?_load {items leaves : List Json} (h : Trees items leaves) :
    (items.findSome? fun item => (load item).defect?) =
      leaves.findSome? fun leaf => (load leaf).defect? := by
  match h with
  | .nil => rfl
  | .cons head tail =>
    rw [List.findSome?_append, List.findSome?_cons, ← head.defect?_load, ← tail.defect?_load]
    cases (load _).defect? <;> rfl

end

private theorem Tree.load_eq_ok_iff {json : Json} {leaves : List Json} (h : Tree json leaves) :
    (∃ c, load json = .ok c) ↔ ∀ leaf ∈ leaves, ∃ c, load leaf = .ok c := by
  rw [← Loaded.defect?_eq_none_iff, h.defect?_load, List.findSome?_eq_none_iff]
  exact forall₂_congr fun leaf _ => Loaded.defect?_eq_none_iff

private theorem Tree.load_eq_error_iff {json : Json} {leaves : List Json} (h : Tree json leaves)
    {defect : Defect} :
    load json = .error defect ↔
      ∃ before leaf after, leaves = before ++ leaf :: after ∧
        (∀ other ∈ before, ∃ c, load other = .ok c) ∧ load leaf = .error defect := by
  rw [← Loaded.defect?_eq_some_iff, h.defect?_load, List.findSome?_eq_some_iff]
  constructor
  · rintro ⟨before, leaf, after, hleaves, hleaf, hbefore⟩
    exact ⟨before, leaf, after, hleaves,
      fun other hother => Loaded.defect?_eq_none_iff.1 (hbefore other hother),
      Loaded.defect?_eq_some_iff.1 hleaf⟩
  · rintro ⟨before, leaf, after, hleaves, hbefore, hleaf⟩
    exact ⟨before, leaf, after, hleaves, Loaded.defect?_eq_some_iff.2 hleaf,
      fun other hother => Loaded.defect?_eq_none_iff.2 (hbefore other hother)⟩

/-- An object is compiled only if exactly one of its members is a key: without one all its members are
reported, with several these are, in the order of their names and whatever they hold, and one that needs no
arguments stands for the bare key. A bare text has to be a truth value or a key that needs no arguments. So a
tree of combinations is compiled if all its leaves are, and has the defect of the first that is not. -/
theorem load_needs_one_key :
    (∀ ms : Json.Members, Entries.Sorted ms →
      ms.names.Pairwise (· < ·) ∧
      (ms.names.countP Catalog.isKey = 0 →
        load (.object ms) = .error (.unknownCondition (", ".intercalate ms.names))) ∧
      (2 ≤ ms.names.countP Catalog.isKey →
        load (.object ms) = .error (.conflictingConditions (ms.names.filter Catalog.isKey))) ∧
      (ms.names.countP Catalog.isKey = 1 → ∀ key ∈ ms.names, Catalog.isSimple key = true →
        load (.object ms) = load (.string key) ∧ ∃ c, load (.string key) = .ok c)) ∧
    (∀ key : String,
      ((∃ c, load (.string key) = .ok c) ↔
        key = "true" ∨ key = "false" ∨ Catalog.isSimple key = true) ∧
      (Catalog.takesArguments key = true →
        load (.string key) = .error (.missingArguments key)) ∧
      (key ≠ "true" → key ≠ "false" → Catalog.isKey key = false →
        load (.string key) = .error (.unknownCondition key))) ∧
    (∀ json leaves, Tree json leaves →
      ((∃ c, load json = .ok c) ↔ ∀ leaf ∈ leaves, ∃ c, load leaf = .ok c) ∧
      ∀ defect, load json = .error defect ↔
        ∃ before leaf after, leaves = before ++ leaf :: after ∧
          (∀ other ∈ before, ∃ c, load other = .ok c) ∧ load leaf = .error defect) := by
  refine ⟨?_, ?_, ?_⟩
  · intro ms hsorted
    refine ⟨names_increase hsorted, load_of_no_key, load_of_two_keys, ?_⟩
    intro hone key hmem hsimple
    have keys_eq := keysOf_eq_singleton hone hmem (Catalog.isKey_of_isSimple hsimple)
    refine ⟨load_of_simple_key keys_eq hsimple, ?_⟩
    rw [load_string]
    exact loadKey_of_isSimple hsimple
  · intro key
    rw [load_string]
    exact ⟨loadKey_eq_ok_iff, loadKey_of_takesArguments, loadKey_of_not_isKey⟩
  · intro json leaves htree
    exact ⟨htree.load_eq_ok_iff, fun defect => htree.load_eq_error_iff⟩

/-- Of two keys neither is read, though the value of one is no array; a member that is no key changes nothing;
and the second leaf of a conjunction is reported through a negation. -/
theorem load_needs_one_key_of_pets :
    load (.object [("and", .null), ("npc_male", .null)]) =
        .error (.conflictingConditions ["and", "npc_male"]) ∧
      load (.object [("comment", .null), ("npc_male", .null)]) = load (.string "npc_male") ∧
      load (.string "and") = .error (.missingArguments "and") ∧
      load (.object [("not", .object [("and", .array [.bool true, .string "npc_is_a_pet"])])]) =
        .error (.unknownCondition "npc_is_a_pet") := by
  obtain ⟨hobject, hstring, htree⟩ := load_needs_one_key
  have hpet : load (.string "npc_is_a_pet") = .error (.unknownCondition "npc_is_a_pet") :=
    (hstring _).2.2 (by decide) (by decide) (by decide)
  have tree : Tree (.object [("not", .object [("and", .array [.bool true, .string "npc_is_a_pet"])])])
      [.bool true, .string "npc_is_a_pet"] := by
    refine .negate (show _ = ["not"] by decide) (by decide) rfl ?_
    refine .all (show _ = ["and"] by decide) (by decide) rfl ?_
    exact .cons (.leaf _) (.cons (.leaf _) .nil)
  refine ⟨?_, ?_, ?_, ?_⟩
  · have sorted : Entries.Sorted [("and", Json.null), ("npc_male", .null)] :=
      List.pairwise_pair.2 (by decide)
    exact (hobject _ sorted).2.2.1 (by decide)
  · have sorted : Entries.Sorted [("comment", Json.null), ("npc_male", .null)] :=
      List.pairwise_pair.2 (by decide)
    exact ((hobject _ sorted).2.2.2 (by decide) "npc_male" (by decide) (by decide)).1
  · exact (hstring "and").2.1 (by decide)
  · refine ((htree _ _ tree).2 _).2 ⟨[.bool true], _, [], rfl, ?_, hpet⟩
    intro other hother
    cases List.mem_singleton.1 hother
    exact ⟨_, by rw [load.eq_def]⟩

end Condition

end Parley
