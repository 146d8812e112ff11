import Parley.Proofs.Content.Granting
import Parley.Proofs.Value.WellFormed

/-!
What content mentions. Main statement: no compiled condition has an access whose construct does not stand
in its content.
-/

set_option autoImplicit false
set_option relaxedAutoImplicit false

namespace Parley

namespace Json

variable {c : Construct}

private theorem anyContains_of_mem {place : Place} {items : List Json} {item : Json} (hitem : item ∈ items)
    (h : containsAt c place item = true) : anyContains c place items = true := by
  induction items with
  | nil => cases hitem
  | cons first rest ih =>
    rw [anyContains, Bool.or_eq_true]
    rcases List.mem_cons.1 hitem with rfl | hrest
    · exact .inl h
    · exact .inr (ih hrest)

private theorem memberContains_of_mem {ms : Members} {name : String} {value : Json}
    (hmember : (name, value) ∈ ms) (h : containsAt c (.under name) value = true) :
    memberContains c ms = true := by
  induction ms with
  | nil => cases hmember
  | cons first rest ih =>
    obtain ⟨name', value'⟩ := first
    rw [memberContains, Bool.or_eq_true]
    rcases List.mem_cons.1 hmember with heq | hrest
    · cases heq
      exact .inl h
    · exact .inr (ih hrest)

private theorem containsAt_of_isObject {place : Place} {ms : Members} (h : c.isObject ms = true) :
    containsAt c place (.object ms) = true := by
  rw [containsAt, h, Bool.true_or]

end Json

def Access.constructs : Access → List Construct
  | .read _ | .write _ => [.variable]
  | .draw => [.pair, .random, .chance]
  | .compute => [.computed]

/-- One of the constructs of an access stands in content at some place. -/
def Access.MentionedAt (place : Place) (json : Json) (x : Access) : Prop :=
  ∃ c ∈ x.constructs, json.containsAt c place = true

private theorem Reference.isSome_find?_of_load {ms : Json.Members} {requireDefault : Bool} {ref : Reference}
    (h : load ms requireDefault = .ok ref) : (Scope.find? ms).isSome = true := by
  obtain ⟨_, hscope, -⟩ := load_eq_ok_iff.1 h
  rw [hscope]
  rfl

private theorem Test.has_of_loadReference {ms : Json.Members} {key : String} {slot : Slot} {ref : Reference}
    (h : loadReference ms key slot = .ok ref) : ms.has key = true := by
  obtain ⟨name, hname, -⟩ := Loaded.bind_eq_ok_iff.1 h
  obtain ⟨base, hbase, -⟩ := Loaded.bind_eq_ok_iff.1 hname
  obtain ⟨json, hjson, -⟩ := Loaded.bind_eq_ok_iff.1 hbase
  exact Json.Members.has_of_get? (Json.Members.require_eq_ok_iff.1 hjson)

/-- Content grants what it mentions. -/
theorem granting_mentioned : Granting Access.MentionedAt where
  member := by
    rintro place ms name json x hmember ⟨c, hc, h⟩
    refine ⟨c, hc, ?_⟩
    rw [Json.containsAt, Json.memberContains_of_mem (Entries.mem_of_find? hmember) h, Bool.or_true]
  item := by
    rintro place items item x hitem ⟨c, hc, h⟩
    refine ⟨c, hc, ?_⟩
    rw [Json.containsAt, Json.anyContains_of_mem hitem h, Bool.or_true]
  pair := ⟨.pair, by decide, by simp [Json.containsAt]⟩
  computed := by
    intro place ms name json hle hname hmember
    refine ⟨.computed, List.mem_singleton.2 rfl, Json.containsAt_of_isObject ?_⟩
    have hhas := Json.Members.has_of_get? hmember
    -- a second source beside the computed one would not have compiled
    simp only [List.mem_cons, List.not_mem_nil, or_false] at hname
    rcases hname with rfl | rfl
    · rw [Construct.isObject, Source.membersOf_eq hle (by decide) hhas]
      rfl
    · rw [Construct.isObject, Source.membersOf_eq hle (by decide) hhas]
      rfl
  random h := ⟨.random, by decide, Json.containsAt_of_isObject (Json.Members.has_of_get? h)⟩
  chance hkey h := ⟨.chance, by decide, Json.containsAt_of_isObject
    (List.any_eq_true.2 ⟨_, hkey, Json.Members.has_of_get? h⟩)⟩
  reference h := by
    have hobject : Construct.variable.isObject _ = true :=
      Bool.or_eq_true_iff.2 (.inl (Reference.isSome_find?_of_load h))
    exact ⟨⟨.variable, List.mem_singleton.2 rfl, Json.containsAt_of_isObject hobject⟩,
      ⟨.variable, List.mem_singleton.2 rfl, Json.containsAt_of_isObject hobject⟩⟩
  stored h _ := ⟨.variable, List.mem_singleton.2 rfl, Json.containsAt_of_isObject
    (Bool.or_eq_true_iff.2 (.inl (Scope.isSome_find? (Json.Members.has_of_get? h))))⟩
  keyed hkey h := ⟨.variable, List.mem_singleton.2 rfl, Json.containsAt_of_isObject
    (Bool.or_eq_true_iff.2 (.inr (List.any_eq_true.2 ⟨_, hkey, Test.has_of_loadReference h⟩)))⟩

/-- The accesses of a compiled condition come from constructs that its content contains. -/
theorem Condition.mentioned_of_load {json : Json} {c : Condition} (h : load json = .ok c) :
    ∀ x ∈ c.accesses, ∃ construct ∈ x.constructs, json.contains construct = true :=
  granting_mentioned.condition .other (written_of_load h)

end Parley
