import Parley.Condition.Load

/-!
What content is compiled to what test and what condition, as rules. Main statements: what the compiler gives has
been written so.
-/

set_option autoImplicit false
set_option relaxedAutoImplicit false

namespace Parley

/-- The content that is compiled to a test: the arguments of a key, under the key itself and beside it. -/
inductive Test.Written (ms : Json.Members) (key : String) (slot : Slot) : Arguments → Test → Prop
  | anyTrait {items : List Json} {traits : List (Source .text)} (items_eq : ms.get? key = some (.array items))
      (traits_eq : Source.loadAll .text key items = .ok traits) :
      Test.Written ms key slot .anyTrait (.anyTrait slot traits)
  | text {q : TextQuery} {value : Source .text} (value_eq : Source.loadMember .text ms key none = .ok value) :
      Test.Written ms key slot (.text q) (.text slot q value)
  | prompt {default : Bool} {message : Source .text}
      (message_eq : Source.loadMember .text ms key none = .ok message) (default_eq : ms.bool "default" = .ok default) :
      Test.Written ms key slot .prompt (.text slot (.prompt default) message)
  | level {q : LevelQuery} {n : Ranged .integer} (level_eq : Ranged.loadMember .integer ms key none = .ok n) :
      Test.Written ms key slot (.level q) (.level slot q n)
  | hitPoints {part : Option BodyPart} {n : Ranged .integer}
      (level_eq : Ranged.loadMember .integer ms key none = .ok n) (part_eq : loadBodyPart ms = .ok part) :
      Test.Written ms key slot .hitPoints (.level slot (.hitPoints part) n)
  | need {kind : Need} {n : Ranged .integer} (kind_eq : ms.choice Need key = .ok kind)
      (level_eq : loadNeedLevel ms = .ok n) : Test.Written ms key slot .need (.level slot (.need kind) n)
  | items {params : Json.Members} {item : Source .text} {n : Ranged .integer}
      (params_eq : ms.get? key = some (.object params))
      (item_eq : Source.loadMember .text params "item" none = .ok item)
      (counts : params.has "count" = true) (count_eq : Ranged.loadMember .integer params "count" none = .ok n) :
      Test.Written ms key slot .items (.count slot .items item n)
  | charges {params : Json.Members} {item : Source .text} {n : Ranged .integer}
      (params_eq : ms.get? key = some (.object params))
      (item_eq : Source.loadMember .text params "item" none = .ok item)
      (no_count : params.has "count" = false) (charges_eq : Ranged.loadMember .integer params "charges" none = .ok n) :
      Test.Written ms key slot .items (.count slot .charges item n)
  | category {category : Source .text} {n : Ranged .integer}
      (category_eq : Source.loadMember .text ms key none = .ok category)
      (count_eq : Ranged.loadMember .integer ms "count" (some 1) = .ok n) :
      Test.Written ms key slot .category (.count slot .category category n)
  | effect {effectId : Source .text} {n : Ranged .integer} {part : Option BodyPart}
      (effect_eq : Source.loadMember .text ms key none = .ok effectId)
      (intensity_eq : Ranged.loadMember .integer ms "intensity" (some CountQuery.anyIntensity) = .ok n)
      (part_eq : loadBodyPart ms = .ok part) : Test.Written ms key slot .effect (.count slot (.effect part) effectId n)
  | nearLocation {location : Source .text} {n : Ranged .integer}
      (location_eq : Source.loadMember .text ms key none = .ok location)
      (range_eq : Ranged.loadMember .integer ms "range" (some 1) = .ok n) :
      Test.Written ms key slot .nearLocation (.count slot .nearLocation location n)
  | skill {params : Json.Members} {skill : Source .text} {n : Ranged .integer}
      (params_eq : ms.get? key = some (.object params))
      (skill_eq : Source.loadMember .text params "skill" none = .ok skill)
      (level_eq : Ranged.loadMember .integer params "level" none = .ok n) :
      Test.Written ms key slot .skill (.count slot .skill skill n)
  | direction {d : Direction} (choice_eq : ms.choice Direction key = .ok d) :
      Test.Written ms key slot .direction (.fact slot (.monstersToward d))
  | aimRule {rule : AimRule} (choice_eq : ms.choice AimRule key = .ok rule) :
      Test.Written ms key slot .aimRule (.fact slot (.aimRule rule))
  | engagementRule {rule : EngagementRule} (choice_eq : ms.choice EngagementRule key = .ok rule) :
      Test.Written ms key slot .engagementRule (.fact slot (.engagementRule rule))
  | reserveRule {rule : ReserveRule} (choice_eq : ms.choice ReserveRule key = .ok rule) :
      Test.Written ms key slot .reserveRule (.fact slot (.reserveRule rule))
  | rechargeRule {rule : RechargeRule} (choice_eq : ms.choice RechargeRule key = .ok rule) :
      Test.Written ms key slot .rechargeRule (.fact slot (.rechargeRule rule))
  | season {season : Season} (choice_eq : ms.choice Season key = .ok season) :
      Test.Written ms key slot .season (.fact slot (.season season))
  | missionGoal {goal : MissionGoal} (choice_eq : ms.choice MissionGoal key = .ok goal) :
      Test.Written ms key slot .missionGoal (.fact slot (.missionGoal goal))
  | variableIs {name expected : String} (name_eq : Reference.loadName ms key = .ok name)
      (expected_eq : ms.stringOr "value" "" = .ok expected) :
      Test.Written ms key slot .variableIs (.variableIs ⟨Operand.scopeOf slot, name, none⟩ expected)
  | compareVariable {name : String} {c : Comparison} {n : Ranged .integer}
      (name_eq : Reference.loadName ms key = .ok name) (comparison_eq : loadComparison ms = .ok c)
      (value_eq : Ranged.loadMember .integer ms "value" none = .ok n) :
      Test.Written ms key slot .compareVariable (.compareVariable ⟨Operand.scopeOf slot, name, none⟩ c n)
  | compareElapsed {name : String} {c : Comparison} {time : Ranged .duration}
      (name_eq : Reference.loadName ms key = .ok name) (comparison_eq : loadComparison ms = .ok c)
      (time_eq : Ranged.loadMember .duration ms "time" none = .ok time) :
      Test.Written ms key slot .compareElapsed (.compareElapsed ⟨Operand.scopeOf slot, name, none⟩ c time)
  | oneIn {n : Ranged .integer} (n_eq : Ranged.loadMember .integer ms key none = .ok n) :
      Test.Written ms key slot .oneIn (.oneIn n)
  | xInY {params : Json.Members} {x y : Ranged .integer} (params_eq : ms.get? key = some (.object params))
      (x_eq : Ranged.loadMember .integer params "x" none = .ok x)
      (y_eq : Ranged.loadMember .integer params "y" none = .ok y) : Test.Written ms key slot .xInY (.xInY x y)
  | compareIntegers {l r : Json} {c : Comparison} {a b : Operand} (values_eq : ms.get? key = some (.array [l, r]))
      (left_eq : Operand.load l key = .ok a) (right_eq : Operand.load r key = .ok b)
      (comparison_eq : loadComparison ms = .ok c) :
      Test.Written ms key slot .compareIntegers (.compareIntegers c a b)
  | compareTexts {l r : Json} {a b : Source .text} (values_eq : ms.get? key = some (.array [l, r]))
      (left_eq : Source.load .text l key = .ok a) (right_eq : Source.load .text r key = .ok b) :
      Test.Written ms key slot .compareTexts (.compareTexts a b)

namespace Test

variable {ms : Json.Members} {key member : String} {slot : Slot}

private theorem get?_of_twoValues {l r : Json} (h : twoValues ms member = .ok (l, r)) :
    ms.get? member = some (.array [l, r]) := by
  obtain ⟨items, hitems, h⟩ := Loaded.bind_eq_ok_iff.1 h
  rw [Json.Members.arrayAt_eq_ok_iff.1 hitems]
  split at h
  · cases h; rfl
  · cases h

theorem loadReference_eq_ok_iff {ref : Reference} : loadReference ms member slot = .ok ref ↔
    ∃ name, Reference.loadName ms member = .ok name ∧ ref = ⟨Operand.scopeOf slot, name, none⟩ := by
  rw [loadReference, Loaded.bind_eq_ok_iff]
  refine exists_congr fun name => and_congr_right fun _ => ?_
  rw [Loaded.pure_eq_ok_iff, eq_comm]

private theorem written_of_loadItems {params : Json.Members} {t : Test}
    (params_eq : ms.get? key = some (.object params)) (h : loadItems key slot params = .ok t) :
    Written ms key slot .items t := by
  obtain ⟨item, item_eq, h⟩ := Loaded.bind_eq_ok_iff.1 h
  split at h
  · rename_i counts
    obtain ⟨n, count_eq, h⟩ := Loaded.bind_eq_ok_iff.1 h
    cases h
    exact .items params_eq item_eq counts count_eq
  · rename_i no_count
    split at h
    · obtain ⟨n, charges_eq, h⟩ := Loaded.bind_eq_ok_iff.1 h
      cases h
      exact .charges params_eq item_eq (Bool.eq_false_iff.2 no_count) charges_eq
    · cases h

/-- The arguments of a key are read one after another, as far as its test needs them. -/
theorem written_of_load {arguments : Arguments} {t : Test} (h : load ms key slot arguments = .ok t) :
    Written ms key slot arguments t := by
  cases arguments with
  | text | level | direction | aimRule | engagementRule | reserveRule | rechargeRule | season | missionGoal | oneIn =>
    obtain ⟨_, hfirst, h⟩ := Loaded.bind_eq_ok_iff.1 h
    cases h
    constructor
    exact hfirst
  | prompt | hitPoints | need | category | nearLocation =>
    obtain ⟨_, hfirst, h⟩ := Loaded.bind_eq_ok_iff.1 h
    obtain ⟨_, hsecond, h⟩ := Loaded.bind_eq_ok_iff.1 h
    cases h
    constructor
    · exact hfirst
    · exact hsecond
  | effect =>
    obtain ⟨effectId, effect_eq, h⟩ := Loaded.bind_eq_ok_iff.1 h
    obtain ⟨n, intensity_eq, h⟩ := Loaded.bind_eq_ok_iff.1 h
    obtain ⟨part, part_eq, h⟩ := Loaded.bind_eq_ok_iff.1 h
    cases h
    exact .effect effect_eq intensity_eq part_eq
  | anyTrait =>
    obtain ⟨items, items_eq, h⟩ := Loaded.bind_eq_ok_iff.1 h
    obtain ⟨traits, traits_eq, h⟩ := Loaded.bind_eq_ok_iff.1 h
    cases h
    exact .anyTrait (Json.Members.arrayAt_eq_ok_iff.1 items_eq) traits_eq
  | items =>
    obtain ⟨params, params_eq, h⟩ := Loaded.bind_eq_ok_iff.1 h
    exact written_of_loadItems (Json.Members.objectAt_eq_ok_iff.1 params_eq) h
  | skill =>
    obtain ⟨params, params_eq, h⟩ := Loaded.bind_eq_ok_iff.1 h
    obtain ⟨skill, skill_eq, h⟩ := Loaded.bind_eq_ok_iff.1 h
    obtain ⟨n, level_eq, h⟩ := Loaded.bind_eq_ok_iff.1 h
    cases h
    exact .skill (Json.Members.objectAt_eq_ok_iff.1 params_eq) skill_eq level_eq
  | xInY =>
    obtain ⟨params, params_eq, h⟩ := Loaded.bind_eq_ok_iff.1 h
    obtain ⟨x, x_eq, h⟩ := Loaded.bind_eq_ok_iff.1 h
    obtain ⟨y, y_eq, h⟩ := Loaded.bind_eq_ok_iff.1 h
    cases h
    exact .xInY (Json.Members.objectAt_eq_ok_iff.1 params_eq) x_eq y_eq
  | variableIs =>
    obtain ⟨ref, ref_eq, h⟩ := Loaded.bind_eq_ok_iff.1 h
    obtain ⟨expected, expected_eq, h⟩ := Loaded.bind_eq_ok_iff.1 h
    obtain ⟨name, name_eq, rfl⟩ := loadReference_eq_ok_iff.1 ref_eq
    cases h
    exact .variableIs name_eq expected_eq
  | compareVariable | compareElapsed =>
    obtain ⟨ref, ref_eq, h⟩ := Loaded.bind_eq_ok_iff.1 h
    obtain ⟨c, comparison_eq, h⟩ := Loaded.bind_eq_ok_iff.1 h
    obtain ⟨_, bound_eq, h⟩ := Loaded.bind_eq_ok_iff.1 h
    obtain ⟨name, name_eq, rfl⟩ := loadReference_eq_ok_iff.1 ref_eq
    cases h
    constructor
    · exact name_eq
    · exact comparison_eq
    · exact bound_eq
  | compareIntegers =>
    obtain ⟨⟨l, r⟩, values_eq, h⟩ := Loaded.bind_eq_ok_iff.1 h
    obtain ⟨a, left_eq, h⟩ := Loaded.bind_eq_ok_iff.1 h
    obtain ⟨b, right_eq, h⟩ := Loaded.bind_eq_ok_iff.1 h
    obtain ⟨c, comparison_eq, h⟩ := Loaded.bind_eq_ok_iff.1 h
    cases h
    exact .compareIntegers (get?_of_twoValues values_eq) left_eq right_eq comparison_eq
  | compareTexts =>
    obtain ⟨⟨l, r⟩, values_eq, h⟩ := Loaded.bind_eq_ok_iff.1 h
    obtain ⟨a, left_eq, h⟩ := Loaded.bind_eq_ok_iff.1 h
    obtain ⟨b, right_eq, h⟩ := Loaded.bind_eq_ok_iff.1 h
    cases h
    exact .compareTexts (get?_of_twoValues values_eq) left_eq right_eq

end Test

mutual

/-- The content that is compiled to a condition. -/
inductive Condition.Written : Json → Condition → Prop
  | constant (b : Bool) : Condition.Written (.bool b) (.constant b)
  | key {key : String} {condition : Condition}
      (key_eq : Condition.loadKey key = .ok condition) :
      Condition.Written (.string key) condition
  | negate {ms : Json.Members} {key : String} {value : Json} {condition : Condition}
      (keys_eq : Condition.keysOf ms = [key])
      (combinator_eq : Catalog.combinator? key = some .negate)
      (member_eq : ms.get? key = some value)
      (inner : Condition.Written value condition) :
      Condition.Written (.object ms) (.negate condition)
  | all {ms : Json.Members} {key : String} {items : List Json} {conditions : List Condition}
      (keys_eq : Condition.keysOf ms = [key])
      (combinator_eq : Catalog.combinator? key = some .all)
      (member_eq : ms.get? key = some (.array items))
      (inner : Condition.WrittenAll items conditions) :
      Condition.Written (.object ms) (.all conditions)
  | any {ms : Json.Members} {key : String} {items : List Json} {conditions : List Condition}
      (keys_eq : Condition.keysOf ms = [key])
      (combinator_eq : Catalog.combinator? key = some .any)
      (member_eq : ms.get? key = some (.array items))
      (inner : Condition.WrittenAll items conditions) :
      Condition.Written (.object ms) (.any conditions)
  | test {ms : Json.Members} {key : String} {slot : Slot} {arguments : Arguments} {t : Test}
      (keys_eq : Condition.keysOf ms = [key])
      (combinator_eq : Catalog.combinator? key = none)
      (arguments_eq : Catalog.arguments? key = some (slot, arguments))
      (test_eq : Test.load ms key slot arguments = .ok t) :
      Condition.Written (.object ms) (.test t)
  | bare {ms : Json.Members} {key : String} {condition : Condition}
      (keys_eq : Condition.keysOf ms = [key])
      (combinator_eq : Catalog.combinator? key = none)
      (arguments_eq : Catalog.arguments? key = none)
      (key_eq : Condition.loadKey key = .ok condition) :
      Condition.Written (.object ms) condition

/-- The items that are compiled to conditions, one by one. -/
inductive Condition.WrittenAll : List Json → List Condition → Prop
  | nil : Condition.WrittenAll [] []
  | cons {item : Json} {condition : Condition} {rest : List Json} {conditions : List Condition}
      (head : Condition.Written item condition) (tail : Condition.WrittenAll rest conditions) :
      Condition.WrittenAll (item :: rest) (condition :: conditions)

end

namespace Condition

private theorem items_of_loadItems {key : String} {value : Json} {conditions : List Condition}
    (h : loadItems key value = .ok conditions) :
    ∃ items, value = .array items ∧ loadAll items = .ok conditions := by
  rw [loadItems.eq_def] at h
  split at h
  · rename_i items
    exact ⟨items, rfl, h⟩
  · cases h

mutual

theorem written_of_load {json : Json} {condition : Condition}
    (h : load json = .ok condition) : Condition.Written json condition := by
  rw [load.eq_def] at h
  split at h
  · cases h
    exact .constant _
  · exact .key h
  · exact written_of_loadObject h
  · cases h
  termination_by 2 * sizeOf json

private theorem written_of_loadObject {ms : Json.Members} {condition : Condition}
    (h : loadObject ms = .ok condition) : Condition.Written (.object ms) condition := by
  rw [loadObject.eq_def] at h
  split at h
  · cases h
  · rename_i key hkeys
    split at h
    · rename_i combinator hcombinator
      split at h
      · cases h
      · rename_i value hmember
        have hlt := Json.Members.sizeOf_lt_of_get? hmember
        cases combinator with
        | negate =>
          obtain ⟨inner, hvalue, rfl⟩ := Loaded.map_eq_ok_iff.1 h
          exact .negate hkeys hcombinator hmember (written_of_load hvalue)
        | all =>
          obtain ⟨inner, hvalue, rfl⟩ := Loaded.map_eq_ok_iff.1 h
          obtain ⟨items, rfl, hitems⟩ := items_of_loadItems hvalue
          exact .all hkeys hcombinator hmember (writtenAll_of_loadAll hitems)
        | any =>
          obtain ⟨inner, hvalue, rfl⟩ := Loaded.map_eq_ok_iff.1 h
          obtain ⟨items, rfl, hitems⟩ := items_of_loadItems hvalue
          exact .any hkeys hcombinator hmember (writtenAll_of_loadAll hitems)
    · rename_i hcombinator
      split at h
      · rename_i harguments
        obtain ⟨t, ht, rfl⟩ := Loaded.map_eq_ok_iff.1 h
        exact .test hkeys hcombinator harguments ht
      · rename_i harguments
        exact .bare hkeys hcombinator harguments h
  · cases h
  termination_by 2 * sizeOf ms
  decreasing_by
    all_goals subst_vars
    all_goals try simp only [Json.array.sizeOf_spec] at hlt
    all_goals omega

private theorem writtenAll_of_loadAll {items : List Json} {conditions : List Condition}
    (h : loadAll items = .ok conditions) : Condition.WrittenAll items conditions := by
  rw [loadAll.eq_def] at h
  split at h
  · cases h
    exact .nil
  · split at h
    · cases h
    · rename_i hitem
      obtain ⟨others, hrest, rfl⟩ := Loaded.map_eq_ok_iff.1 h
      exact .cons (written_of_load hitem) (writtenAll_of_loadAll hrest)
  termination_by 2 * sizeOf items

end

end Condition

end Parley
