import Parley.Proofs.Evaluation.Composition
import Parley.Proofs.Evaluation.Occasion

/-!
The keys that the tests of a condition come from. Main statement: every test of a compiled
condition is what one of the keys in its content asks for.
-/

set_option autoImplicit false
set_option relaxedAutoImplicit false

namespace Parley

/-- A test that a key asks for, with the arguments of some object or without any. -/
inductive Test.AskedBy (key : String) : Test → Prop
  | fact {slot : Slot} {q : Fact} (fact_eq : Catalog.fact? key = some (slot, q)) :
      Test.AskedBy key (.fact slot q)
  | arguments {ms : Json.Members} {slot : Slot} {arguments : Arguments} {t : Test}
      (arguments_eq : Catalog.arguments? key = some (slot, arguments))
      (test_eq : Test.load ms key slot arguments = .ok t) :
      Test.AskedBy key t

namespace Condition

theorem conditionKeys_subset_of_combinator {ms : Json.Members} {name : String} {value : Json}
    {combinator : Combinator} (hcombinator : Catalog.combinator? name = some combinator)
    (hmember : ms.get? name = some value) :
    ∀ key ∈ value.conditionKeys, key ∈ (Json.object ms).conditionKeys :=
  Json.conditionKeys_subset_of_member (Entries.mem_of_find? hmember)
    (Option.isSome_of_eq_some hcombinator)

private theorem asked_of_loadKey {key : String} {c : Condition} (h : loadKey key = .ok c) :
    ∀ t ∈ c.tests, t.AskedBy key := by
  unfold loadKey at h
  split at h
  · cases h
    nofun
  · cases h
    nofun
  · split at h
    · rename_i hfact
      cases h
      exact List.forall_mem_singleton.2 (.fact hfact)
    · split at h <;> cases h

mutual

theorem Written.asked {json : Json} {c : Condition} (h : Written json c) :
    ∀ t ∈ c.tests, ∃ key ∈ json.conditionKeys, t.AskedBy key := by
  match h with
  | .constant b => nofun
  | .key key_eq => exact fun t ht => ⟨_, List.mem_singleton.2 rfl, asked_of_loadKey key_eq t ht⟩
  | .negate _ combinator_eq member_eq inner =>
    intro t ht
    obtain ⟨key, hkey, hasked⟩ := inner.asked t ht
    exact ⟨key, conditionKeys_subset_of_combinator combinator_eq member_eq key hkey, hasked⟩
  | .all _ combinator_eq member_eq inner =>
    intro t ht
    obtain ⟨key, hkey, hasked⟩ := inner.asked t ht
    exact ⟨key, conditionKeys_subset_of_combinator combinator_eq member_eq key hkey, hasked⟩
  | .any _ combinator_eq member_eq inner =>
    intro t ht
    obtain ⟨key, hkey, hasked⟩ := inner.asked t ht
    exact ⟨key, conditionKeys_subset_of_combinator combinator_eq member_eq key hkey, hasked⟩
  | .test keys_eq _ arguments_eq test_eq =>
    exact List.forall_mem_singleton.2
      ⟨_, mem_conditionKeys_of_keysOf keys_eq, .arguments arguments_eq test_eq⟩
  | .bare keys_eq _ _ key_eq =>
    exact fun t ht => ⟨_, mem_conditionKeys_of_keysOf keys_eq, asked_of_loadKey key_eq t ht⟩

private theorem WrittenAll.asked {items : List Json} {cs : List Condition} (h : WrittenAll items cs) :
    ∀ t ∈ testsAll cs, ∃ key ∈ (Json.array items).conditionKeys, t.AskedBy key := by
  match h with
  | .nil => nofun
  | .cons head tail =>
    intro t ht
    rcases List.mem_append.1 ht with ht | ht
    · obtain ⟨key, hkey, hasked⟩ := head.asked t ht
      exact ⟨key, List.mem_append_left _ hkey, hasked⟩
    · obtain ⟨key, hkey, hasked⟩ := tail.asked t ht
      exact ⟨key, List.mem_append_right _ hkey, hasked⟩

end

end Condition

/-- The test of a role that a form of arguments makes. -/
inductive Arguments.Makes (slot : Slot) : Arguments → Test → Prop
  | anyTrait (traits : List (Source .text)) : Makes slot .anyTrait (.anyTrait slot traits)
  | text (q : TextQuery) (text : Source .text) : Makes slot (.text q) (.text slot q text)
  | prompt (default : Bool) (message : Source .text) :
      Makes slot .prompt (.text slot (.prompt default) message)
  | level (q : LevelQuery) (n : Ranged .integer) : Makes slot (.level q) (.level slot q n)
  | hitPoints (part : Option BodyPart) (n : Ranged .integer) :
      Makes slot .hitPoints (.level slot (.hitPoints part) n)
  | need (kind : Need) (n : Ranged .integer) : Makes slot .need (.level slot (.need kind) n)
  | items (item : Source .text) (n : Ranged .integer) : Makes slot .items (.count slot .items item n)
  | charges (item : Source .text) (n : Ranged .integer) : Makes slot .items (.count slot .charges item n)
  | category (text : Source .text) (n : Ranged .integer) :
      Makes slot .category (.count slot .category text n)
  | effect (part : Option BodyPart) (text : Source .text) (n : Ranged .integer) :
      Makes slot .effect (.count slot (.effect part) text n)
  | nearLocation (text : Source .text) (n : Ranged .integer) :
      Makes slot .nearLocation (.count slot .nearLocation text n)
  | skill (text : Source .text) (n : Ranged .integer) : Makes slot .skill (.count slot .skill text n)
  | direction (d : Direction) : Makes slot .direction (.fact slot (.monstersToward d))
  | aimRule (rule : AimRule) : Makes slot .aimRule (.fact slot (.aimRule rule))
  | engagementRule (rule : EngagementRule) : Makes slot .engagementRule (.fact slot (.engagementRule rule))
  | reserveRule (rule : ReserveRule) : Makes slot .reserveRule (.fact slot (.reserveRule rule))
  | rechargeRule (rule : RechargeRule) : Makes slot .rechargeRule (.fact slot (.rechargeRule rule))
  | season (season : Season) : Makes slot .season (.fact slot (.season season))
  | missionGoal (goal : MissionGoal) : Makes slot .missionGoal (.fact slot (.missionGoal goal))
  | variableIs (name expected : String) :
      Makes slot .variableIs (.variableIs ⟨Operand.scopeOf slot, name, none⟩ expected)
  | compareVariable (name : String) (c : Comparison) (n : Ranged .integer) :
      Makes slot .compareVariable (.compareVariable ⟨Operand.scopeOf slot, name, none⟩ c n)
  | compareElapsed (name : String) (c : Comparison) (time : Ranged .duration) :
      Makes slot .compareElapsed (.compareElapsed ⟨Operand.scopeOf slot, name, none⟩ c time)
  | oneIn (n : Ranged .integer) : Makes slot .oneIn (.oneIn n)
  | xInY (x y : Ranged .integer) : Makes slot .xInY (.xInY x y)
  | compareIntegers (c : Comparison) (l r : Operand) :
      Makes slot .compareIntegers (.compareIntegers c l r)
  | compareTexts (l r : Source .text) : Makes slot .compareTexts (.compareTexts l r)

theorem Test.made_of_load {ms : Json.Members} {key : String} {slot : Slot} {arguments : Arguments} {t : Test}
    (h : load ms key slot arguments = .ok t) : arguments.Makes slot t := by
  cases written_of_load h <;> constructor

theorem Test.AskedBy.trust {key : String} {slot : Slot} {value : Ranged .integer}
    (h : Test.AskedBy key (.level slot .factionTrust value)) :
    key = "u_has_faction_trust" ∧ slot = .secondary := by
  have hall : ∀ e ∈ Catalog.parameterized, e.2.2 = .level .factionTrust →
      e.1 = "u_has_faction_trust" ∧ e.2.1 = .secondary := by decide
  cases h with
  | arguments arguments_eq test_eq =>
    cases made_of_load test_eq with
    | level => exact hall _ (Entries.mem_of_find? arguments_eq) rfl

def Test.reference? : Test → Option Reference
  | .variableIs ref _ | .compareVariable ref _ _ | .compareElapsed ref _ _ => some ref
  | _ => none

theorem Test.AskedBy.scope {key : String} {t : Test} {ref : Reference} (h : t.AskedBy key)
    (href : t.reference? = some ref) : ∃ slot, ref.scope = Operand.scopeOf slot := by
  cases h with
  | fact => cases href
  | arguments _ test_eq =>
    cases made_of_load test_eq with
    | variableIs | compareVariable | compareElapsed =>
      cases href
      exact ⟨_, rfl⟩
    | _ => cases href

end Parley
