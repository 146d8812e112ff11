import Parley.Proofs.Condition.Tests

/-!
The values of a test, and the content that they come from. Main statement: every value that a compiled condition
evaluates is compiled from a value among the arguments of a key in its content, or is a literal that stands in
for one that is left out.
-/

set_option autoImplicit false
set_option relaxedAutoImplicit false

namespace Parley

namespace Json

namespace Members

def valuesAt (ms : Members) (names : List String) : List Json :=
  names.filterMap ms.get?

def itemsAt (ms : Members) (name : String) : List Json :=
  match ms.get? name with
  | some (.array items) => items
  | _ => []

def membersAt (ms : Members) (name : String) : Members :=
  match ms.get? name with
  | some (.object params) => params
  | _ => []

end Members

end Json

/-- The values among the arguments of a key: what is compiled to a source, a range or an operand. -/
def Arguments.values (ms : Json.Members) (key : String) : Arguments → List Json
  | .text _ | .prompt | .level _ | .hitPoints | .oneIn => ms.valuesAt [key]
  | .category => ms.valuesAt [key, "count"]
  | .effect => ms.valuesAt [key, "intensity"]
  | .nearLocation => ms.valuesAt [key, "range"]
  | .need => if ms.has "level" then [] else ms.valuesAt ["amount"]
  | .compareVariable => ms.valuesAt ["value"]
  | .compareElapsed => ms.valuesAt ["time"]
  | .anyTrait | .compareIntegers | .compareTexts => ms.itemsAt key
  | .skill => (ms.membersAt key).valuesAt ["skill", "level"]
  | .xInY => (ms.membersAt key).valuesAt ["x", "y"]
  | .items =>
    let params := ms.membersAt key
    params.valuesAt ["item", if params.has "count" then "count" else "charges"]
  | .direction | .aimRule | .engagementRule | .reserveRule | .rechargeRule | .season | .missionGoal |
    .variableIs => []

namespace Json

mutual

/-- The values among the arguments of all keys that content uses where conditions stand. -/
def argumentValues : Json → List Json
  | .null | .bool _ | .number _ | .string _ => []
  | .array items => argumentValuesOfItems items
  | .object ms => argumentValuesOfMembers ms ms

def argumentValuesOfItems : List Json → List Json
  | [] => []
  | item :: rest => argumentValues item ++ argumentValuesOfItems rest

/-- The values among the arguments of some keys, which stand among all members. -/
def argumentValuesOfMembers (all : Members) : List (String × Json) → List Json
  | [] => []
  | (name, value) :: rest =>
    (if (Catalog.combinator? name).isSome then argumentValues value
      else match Catalog.arguments? name with
        | some (_, arguments) => arguments.values all name
        | none => []) ++ argumentValuesOfMembers all rest

end

private theorem argumentValues_subset_of_combinator {ms : Members} {name : String} {value : Json}
    {combinator : Combinator} (hcombinator : Catalog.combinator? name = some combinator)
    (hmember : ms.get? name = some value) : value.argumentValues ⊆ (Json.object ms).argumentValues := by
  have go (all rest : Members) (hmem : (name, value) ∈ rest) :
      value.argumentValues ⊆ argumentValuesOfMembers all rest := by
    induction rest with
    | nil => cases hmem
    | cons first rest ih =>
      intro v hv
      rw [argumentValuesOfMembers, List.mem_append]
      rcases List.mem_cons.1 hmem with rfl | hrest
      · rw [if_pos (Option.isSome_of_eq_some hcombinator)]
        exact .inl hv
      · exact .inr (ih hrest hv)
  exact go ms ms (Entries.mem_of_find? hmember)

private theorem argumentValues_subset_of_arguments {ms : Members} {name : String} {slot : Slot} {arguments : Arguments}
    (hname : name ∈ ms.names) (hcombinator : Catalog.combinator? name = none)
    (harguments : Catalog.arguments? name = some (slot, arguments)) :
    arguments.values ms name ⊆ (Json.object ms).argumentValues := by
  have go (all rest : Members) (hmem : name ∈ rest.names) :
      arguments.values all name ⊆ argumentValuesOfMembers all rest := by
    induction rest with
    | nil => cases hmem
    | cons first rest ih =>
      intro v hv
      rw [argumentValuesOfMembers, List.mem_append]
      rcases List.mem_cons.1 hmem with rfl | hrest
      · rw [hcombinator, harguments]
        exact .inl hv
      · exact .inr (ih hrest hv)
  exact go ms ms hname

end Json

/-- A value that a test evaluates before it asks about the world. -/
inductive Test.Value
  | text (v : Source .text)
  | range {m : Measure} (v : Ranged m)
  | operand (o : Operand)

/-- The values of a test. A variable that the test is of is none of them. -/
def Test.values : Test → List Test.Value
  | .fact .. | .variableIs .. => []
  | .text _ _ value => [.text value]
  | .level _ _ value | .compareVariable _ _ value | .oneIn value => [.range value]
  | .compareElapsed _ _ time => [.range time]
  | .count _ _ value amount => [.text value, .range amount]
  | .anyTrait _ values => values.map .text
  | .xInY x y => [.range x, .range y]
  | .compareIntegers _ l r => [.operand l, .operand r]
  | .compareTexts l r => [.text l, .text r]

def Test.Value.accesses : Test.Value → List Access
  | .text v => v.accesses
  | .range v => v.accesses
  | .operand o => o.accesses

/-- A test accesses what its values do. -/
theorem Test.accesses_of_value {t : Test} {v : Test.Value} (hv : v ∈ t.values) :
    v.accesses ⊆ t.accesses := by
  intro x hx
  cases t with
  | fact | variableIs => cases hv
  | text | level =>
    cases List.mem_singleton.1 hv
    exact hx
  | compareVariable | compareElapsed =>
    cases List.mem_singleton.1 hv
    exact List.mem_cons_of_mem _ hx
  | oneIn =>
    cases List.mem_singleton.1 hv
    exact List.mem_append_left _ hx
  | count | compareIntegers | compareTexts =>
    rcases List.mem_cons.1 hv with rfl | hv
    · exact List.mem_append_left _ hx
    · cases List.mem_singleton.1 hv
      exact List.mem_append_right _ hx
  | xInY =>
    rcases List.mem_cons.1 hv with rfl | hv
    · exact List.mem_append_left _ (List.mem_append_left _ hx)
    · cases List.mem_singleton.1 hv
      exact List.mem_append_left _ (List.mem_append_right _ hx)
  | anyTrait slot values =>
    obtain ⟨trait, htrait, rfl⟩ := List.mem_map.1 hv
    exact List.mem_flatMap_of_mem htrait hx

/-- A value that is compiled from one of some values of content, or a literal that stands in for one. -/
inductive Test.Value.WrittenIn (contents : List Json) : Test.Value → Prop
  | defaultText (s : String) : WrittenIn contents (.text (.literal s))
  | defaultRange {m : Measure} (n : m.Value) : WrittenIn contents (.range (.single (.literal n)))
  | text {json : Json} {member : String} {v : Source .text} (mem : json ∈ contents)
      (written : Source.Written .text member json v) :
      WrittenIn contents (.text v)
  | range {m : Measure} {json : Json} {member : String} {v : Ranged m} (mem : json ∈ contents)
      (written : Ranged.Written m member json v) :
      WrittenIn contents (.range v)
  | operand {json : Json} {member : String} {o : Operand} (mem : json ∈ contents)
      (written : Operand.Written member json o) :
      WrittenIn contents (.operand o)

private theorem Test.Value.WrittenIn.mono {contents others : List Json} (hsubset : contents ⊆ others) {v : Test.Value}
    (h : v.WrittenIn contents) : v.WrittenIn others := by
  cases h with
  | defaultText s => exact .defaultText s
  | defaultRange n => exact .defaultRange n
  | text mem written => exact .text (hsubset mem) written
  | range mem written => exact .range (hsubset mem) written
  | operand mem written => exact .operand (hsubset mem) written

namespace Json.Members

variable {ms : Members} {names : List String} {member : String}

private theorem source_writtenIn {default : Option String} {v : Source .text} (hmember : member ∈ names)
    (h : Source.loadMember .text ms member default = .ok v) :
    Test.Value.WrittenIn (ms.valuesAt names) (.text v) := by
  unfold Source.loadMember at h
  split at h
  · rename_i hget
    exact .text (List.mem_filterMap.2 ⟨member, hmember, hget⟩) (Source.written_of_load h)
  · cases h
    exact .defaultText _
  · cases h

private theorem ranged_writtenIn {m : Measure} {default : Option m.Value} {v : Ranged m} (hmember : member ∈ names)
    (h : Ranged.loadMember m ms member default = .ok v) :
    Test.Value.WrittenIn (ms.valuesAt names) (.range v) := by
  unfold Ranged.loadMember at h
  split at h
  · rename_i hget
    exact .range (List.mem_filterMap.2 ⟨member, hmember, hget⟩) (Ranged.written_of_load h)
  · cases h
    exact .defaultRange _
  · cases h

private theorem membersAt_eq {params : Members} (h : ms.get? member = some (.object params)) :
    ms.membersAt member = params := by
  rw [membersAt, h]

private theorem itemsAt_eq {items : List Json} (h : ms.get? member = some (.array items)) :
    ms.itemsAt member = items := by
  rw [itemsAt, h]

end Json.Members

private theorem Source.writtenIn_of_loadAll {member : String} {items : List Json} {vs : List (Source .text)}
    (h : loadAll .text member items = .ok vs) :
    ∀ v ∈ vs, Test.Value.WrittenIn items (.text v) := by
  induction items generalizing vs with
  | nil =>
    cases h
    nofun
  | cons item rest ih =>
    rw [loadAll] at h
    split at h
    · cases h
    · rename_i v hitem
      obtain ⟨others, hrest, rfl⟩ := Loaded.map_eq_ok_iff.1 h
      have hfirst : Test.Value.WrittenIn (item :: rest) (.text v) :=
        .text List.mem_cons_self (written_of_load hitem)
      exact List.forall_mem_cons.2
        ⟨hfirst, fun v hv => (ih hrest v hv).mono (List.subset_cons_self item rest)⟩

namespace Test

variable {ms : Json.Members} {key : String} {slot : Slot} {t : Test}

private theorem needLevel_writtenIn {n : Ranged .integer} (h : loadNeedLevel ms = .ok n) :
    Value.WrittenIn (Arguments.need.values ms key) (.range n) := by
  unfold loadNeedLevel at h
  rw [Arguments.values]
  split at h
  · obtain ⟨level, -, h⟩ := Loaded.bind_eq_ok_iff.1 h
    cases h
    exact .defaultRange _
  · rename_i hlevel
    rw [if_neg hlevel]
    exact Json.Members.ranged_writtenIn (List.mem_singleton.2 rfl) h

private theorem values_writtenIn_pair {contents : List Json} {v v' : Value} (h : v.WrittenIn contents)
    (h' : v'.WrittenIn contents) : ∀ x ∈ [v, v'], x.WrittenIn contents :=
  List.forall_mem_cons.2 ⟨h, List.forall_mem_singleton.2 h'⟩

/-- The values of a compiled test come from the values among the arguments that it is compiled from. -/
theorem values_writtenIn_of_load {arguments : Arguments} (h : load ms key slot arguments = .ok t) :
    ∀ v ∈ t.values, v.WrittenIn (arguments.values ms key) := by
  cases written_of_load h with
  | anyTrait items_eq traits_eq =>
    rw [Arguments.values, Json.Members.itemsAt_eq items_eq]
    exact List.forall_mem_map.2 (Source.writtenIn_of_loadAll traits_eq)
  | text text_eq | prompt text_eq =>
    exact List.forall_mem_singleton.2 (Json.Members.source_writtenIn (List.mem_singleton.2 rfl) text_eq)
  | level level_eq | hitPoints level_eq | oneIn level_eq =>
    exact List.forall_mem_singleton.2 (Json.Members.ranged_writtenIn (List.mem_singleton.2 rfl) level_eq)
  | need _ level_eq => exact List.forall_mem_singleton.2 (needLevel_writtenIn level_eq)
  | items params_eq item_eq counts amount_eq =>
    simp only [Arguments.values, Json.Members.membersAt_eq params_eq, if_pos counts]
    exact values_writtenIn_pair (Json.Members.source_writtenIn (by simp) item_eq)
      (Json.Members.ranged_writtenIn (by simp) amount_eq)
  | charges params_eq item_eq no_count amount_eq =>
    simp only [Arguments.values, Json.Members.membersAt_eq params_eq, no_count]
    exact values_writtenIn_pair (Json.Members.source_writtenIn (by simp) item_eq)
      (Json.Members.ranged_writtenIn (by simp) amount_eq)
  | category text_eq amount_eq | effect text_eq amount_eq | nearLocation text_eq amount_eq =>
    exact values_writtenIn_pair (Json.Members.source_writtenIn (by simp) text_eq)
      (Json.Members.ranged_writtenIn (by simp) amount_eq)
  | skill params_eq text_eq amount_eq =>
    rw [Arguments.values, Json.Members.membersAt_eq params_eq]
    exact values_writtenIn_pair (Json.Members.source_writtenIn (by simp) text_eq)
      (Json.Members.ranged_writtenIn (by simp) amount_eq)
  | direction | aimRule | engagementRule | reserveRule | rechargeRule | season | missionGoal | variableIs => nofun
  | compareVariable _ _ bound_eq | compareElapsed _ _ bound_eq =>
    exact List.forall_mem_singleton.2 (Json.Members.ranged_writtenIn (List.mem_singleton.2 rfl) bound_eq)
  | xInY params_eq x_eq y_eq =>
    rw [Arguments.values, Json.Members.membersAt_eq params_eq]
    exact values_writtenIn_pair (Json.Members.ranged_writtenIn (by simp) x_eq)
      (Json.Members.ranged_writtenIn (by simp) y_eq)
  | compareIntegers values_eq left_eq right_eq =>
    rw [Arguments.values, Json.Members.itemsAt_eq values_eq]
    exact values_writtenIn_pair (.operand (by simp) (Operand.written_of_load left_eq))
      (.operand (by simp) (Operand.written_of_load right_eq))
  | compareTexts values_eq left_eq right_eq =>
    rw [Arguments.values, Json.Members.itemsAt_eq values_eq]
    exact values_writtenIn_pair (.text (by simp) (Source.written_of_load left_eq))
      (.text (by simp) (Source.written_of_load right_eq))

end Test

namespace Condition

private theorem values_of_loadKey {key : String} {c : Condition} (h : loadKey key = .ok c) :
    ∀ t ∈ c.tests, t.values = [] := by
  unfold loadKey at h
  split at h
  · cases h
    nofun
  · cases h
    nofun
  · split at h
    · cases h
      exact List.forall_mem_singleton.2 rfl
    · split at h <;> cases h

mutual

/-- The values that the tests of a compiled condition evaluate come from the values among its arguments. -/
theorem Written.values {json : Json} {c : Condition} (h : Written json c) :
    ∀ t ∈ c.tests, ∀ v ∈ t.values, v.WrittenIn json.argumentValues := by
  match h with
  | .constant b => nofun
  | .key key_eq =>
    intro t ht v hv
    rw [values_of_loadKey key_eq t ht] at hv
    cases hv
  | .negate _ combinator_eq member_eq inner =>
    have hsubset := Json.argumentValues_subset_of_combinator combinator_eq member_eq
    exact fun t ht v hv => (inner.values t ht v hv).mono hsubset
  | .all _ combinator_eq member_eq inner =>
    have hsubset := Json.argumentValues_subset_of_combinator combinator_eq member_eq
    exact fun t ht v hv => (inner.values t ht v hv).mono hsubset
  | .any _ combinator_eq member_eq inner =>
    have hsubset := Json.argumentValues_subset_of_combinator combinator_eq member_eq
    exact fun t ht v hv => (inner.values t ht v hv).mono hsubset
  | .test keys_eq combinator_eq arguments_eq test_eq =>
    have hname := (List.mem_filter.1 (keys_eq ▸ List.mem_singleton.2 rfl)).1
    have hsubset := Json.argumentValues_subset_of_arguments hname combinator_eq arguments_eq
    exact List.forall_mem_singleton.2 fun v hv => (Test.values_writtenIn_of_load test_eq v hv).mono hsubset
  | .bare _ _ _ key_eq =>
    intro t ht v hv
    rw [values_of_loadKey key_eq t ht] at hv
    cases hv

private theorem WrittenAll.values {items : List Json} {cs : List Condition} (h : WrittenAll items cs) :
    ∀ t ∈ testsAll cs, ∀ v ∈ t.values, v.WrittenIn (Json.array items).argumentValues := by
  match h with
  | .nil => nofun
  | .cons head tail =>
    refine List.forall_mem_append.2 ⟨?_, ?_⟩
    · exact fun t ht v hv => (head.values t ht v hv).mono (List.subset_append_left _ _)
    · exact fun t ht v hv => (tail.values t ht v hv).mono (List.subset_append_right _ _)

end

end Condition

end Parley
