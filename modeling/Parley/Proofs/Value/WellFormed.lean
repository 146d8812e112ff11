import Mathlib.Logic.ExistsUnique
import Parley.Proofs.Talk.Reference

/-!
Value expressions that are well formed. Main statements: a value is accepted exactly if it is a literal, or an
object with one source that is valid and a default that is a literal; a range exactly if its two ends are.
-/

set_option autoImplicit false
set_option relaxedAutoImplicit false

namespace Parley

theorem Scope.member_mem_members (scope : Scope) : scope.member ∈ Source.members :=
  List.mem_append_right _ (List.mem_map_of_mem scope.mem_all)

namespace Source

variable {k : Kind} {ms : Json.Members} {member name : String}

private theorem members_nodup : members.Nodup := by decide

/-- An object has one member that says where its value comes from. -/
theorem membersOf_eq_singleton_iff : membersOf ms = [name] ↔
    name ∈ members ∧ ms.has name = true ∧ ∀ other ∈ members, ms.has other = true → other = name := by
  have hmem {other : String} : other ∈ membersOf ms ↔ other ∈ members ∧ ms.has other = true :=
    List.mem_filter
  constructor
  · intro h
    simp only [h, List.mem_singleton] at hmem
    refine ⟨(hmem.1 rfl).1, (hmem.1 rfl).2, ?_⟩
    intro other hother hhas
    exact hmem.2 ⟨hother, hhas⟩
  · rintro ⟨hname, hhas, hunique⟩
    have hnodup : (membersOf ms).Nodup := members_nodup.filter _
    have hall : ∀ other ∈ membersOf ms, other = name := by
      intro other hother
      exact hunique other (hmem.1 hother).1 (hmem.1 hother).2
    rw [List.eq_replicate_of_mem hall] at hnodup ⊢
    have hlength : 0 < (membersOf ms).length := List.length_pos_of_mem (hmem.2 ⟨hname, hhas⟩)
    have hle := List.nodup_replicate.1 hnodup
    have hone : (membersOf ms).length = 1 := by omega
    rw [hone]
    rfl

theorem membersOf_eq (hle : (membersOf ms).length ≤ 1) (hname : name ∈ members)
    (hhas : ms.has name = true) : membersOf ms = [name] := by
  have hmem : name ∈ membersOf ms := List.mem_filter.2 ⟨hname, hhas⟩
  match hmembers : membersOf ms with
  | [] => simp [hmembers] at hmem
  | [_] => simpa [hmembers, eq_comm] using hmem
  | _ :: _ :: _ => simp [hmembers] at hle

private theorem get?_eq_none_of_other {other : String} (h : membersOf ms = [name]) (hother : other ∈ members)
    (hne : other ≠ name) : ms.get? other = none := by
  have hunique := (membersOf_eq_singleton_iff.1 h).2.2 other hother
  exact Json.Members.get?_eq_none_of_has (Bool.eq_false_iff.2 fun hhas => hne (hunique hhas))

/-- The value that the member of a name gives. -/
inductive Given (k : Kind) (ms : Json.Members) (default : Option k.Value) : String → Source k → Prop
  | arithmetic {items : List Json} {effect : Effect} (get_eq : ms.get? "arithmetic" = some (.array items))
      (effect_eq : Effect.arithmetic items = .ok effect) :
      Given k ms default "arithmetic" (.computed effect default)
  | effect {json : Json} {effect : Effect} (get_eq : ms.get? "effect" = some json)
      (effect_eq : Effect.load json = .ok effect) :
      Given k ms default "effect" (.computed effect default)
  | reference {ref : Reference} (ref_eq : Reference.load ms true = .ok ref) :
      Given k ms default ref.scope.member (.variable ref default)

private theorem given_of_load {v : Source k} (h : Source.load k (.object ms) member = .ok v) :
    ∃ name default, membersOf ms = [name] ∧ k.loadDefault ms = .ok default ∧ Given k ms default name v := by
  rw [Source.load.eq_def] at h
  simp only at h
  split at h
  · cases h
  · rename_i hlength
    have hle : (membersOf ms).length ≤ 1 := Nat.le_of_not_lt hlength
    split at h
    · cases h
    · rename_i default hdefault
      split at h
      · rename_i items hget
        obtain ⟨effect, heffect, rfl⟩ := Loaded.map_eq_ok_iff.1 h
        have hmembers := membersOf_eq hle (by decide) (Json.Members.has_of_get? hget)
        exact ⟨_, default, hmembers, hdefault, .arithmetic hget heffect⟩
      · cases h
      · split at h
        · rename_i hget
          obtain ⟨effect, heffect, rfl⟩ := Loaded.map_eq_ok_iff.1 h
          have hmembers := membersOf_eq hle (by decide) (Json.Members.has_of_get? hget)
          exact ⟨_, default, hmembers, hdefault, .effect hget heffect⟩
        · split at h
          · cases h
          · obtain ⟨ref, href, rfl⟩ := Loaded.map_eq_ok_iff.1 h
            obtain ⟨_, hscope, -⟩ := Reference.load_eq_ok_iff.1 href
            have hmembers := membersOf_eq hle ref.scope.member_mem_members (Scope.has_of_find? hscope)
            exact ⟨_, default, hmembers, hdefault, .reference href⟩

private theorem load_of_given {default : Option k.Value} {v : Source k} (hmembers : membersOf ms = [name])
    (hdefault : k.loadDefault ms = .ok default) (h : Given k ms default name v) :
    Source.load k (.object ms) member = .ok v := by
  have hnot : ¬1 < (membersOf ms).length := by simp [hmembers]
  have hempty : (membersOf ms).isEmpty = false := by simp [hmembers]
  rw [Source.load.eq_def]
  simp only
  rw [if_neg hnot, hdefault]
  simp only [hempty]
  -- the members are looked at in order; the source is the only one, so the ones before it are not there
  cases h with
  | arithmetic get_eq effect_eq => split <;> simp_all [Except.map]
  | effect get_eq effect_eq =>
    have hnone : ms.get? "arithmetic" = none := get?_eq_none_of_other hmembers (by decide) (by decide)
    split
    · simp_all
    · simp_all
    · split <;> simp_all [Except.map]
  | reference ref_eq =>
    have hne (other : String) (hother : ∀ scope : Scope, other ≠ scope.member) (hmem : other ∈ members) :
        ms.get? other = none := get?_eq_none_of_other hmembers hmem (hother _)
    have harithmetic := hne "arithmetic" (by intro scope; cases scope <;> decide) (by decide)
    have heffect := hne "effect" (by intro scope; cases scope <;> decide) (by decide)
    split
    · simp_all
    · simp_all
    · split <;> simp_all [Except.map]

theorem load_object_eq_ok_iff {v : Source k} : Source.load k (.object ms) member = .ok v ↔
    ∃ name default, membersOf ms = [name] ∧ k.loadDefault ms = .ok default ∧ Given k ms default name v :=
  ⟨given_of_load, fun ⟨_, _, hmembers, hdefault, hgiven⟩ => load_of_given hmembers hdefault hgiven⟩

/-- The members that are valid sources: an effect that compiles, or the name of a variable beside a default. -/
inductive ValidSource (ms : Json.Members) : String → Prop
  | arithmetic {items : List Json} {effect : Effect} (get_eq : ms.get? "arithmetic" = some (.array items))
      (effect_eq : Effect.arithmetic items = .ok effect) :
      ValidSource ms "arithmetic"
  | effect {json : Json} {effect : Effect} (get_eq : ms.get? "effect" = some json)
      (effect_eq : Effect.load json = .ok effect) :
      ValidSource ms "effect"
  | reference {scope : Scope} {name : String} (get_eq : ms.get? scope.member = some (.string name))
      (has_default : ms.has "default" = true) :
      ValidSource ms scope.member

/-- The objects that a value of a kind is read from: exactly one of the seven sources is there, it is valid, and
the default, if there is one, is a literal of the kind. -/
structure WellFormed (k : Kind) (ms : Json.Members) : Prop where
  one_source : ∃! name, name ∈ ["arithmetic", "effect", "u_val", "npc_val", "global_val", "faction_val",
    "party_val"] ∧ ms.has name = true
  source_valid : ∃ name, ValidSource ms name
  default_literal : ∀ json, ms.get? "default" = some json → ∃ value, k.IsLiteral json value

def flavorOf (name : String) : Flavor :=
  if name = "arithmetic" ∨ name = "effect" then .computed else .variable

theorem loadDefault_eq_ok_iff {default : Option k.Value} : k.loadDefault ms = .ok default ↔
    ms.get? "default" = none ∧ default = none ∨
      ∃ json value, ms.get? "default" = some json ∧ k.IsLiteral json value ∧ default = some value := by
  unfold Kind.loadDefault
  cases hget : ms.get? "default" with
  | none => simp [eq_comm]
  | some json =>
    simp only [Loaded.map_eq_ok_iff, Kind.literal_eq_ok_iff]
    simp [eq_comm]

private theorem exists_defaultWritten {json : Json} {value : k.Value} (hget : ms.get? "default" = some json)
    (h : k.IsLiteral json value) : ∃ text, Reference.DefaultWritten ms (some text) := by
  have hnumber : ∀ n, json.int? = some n → ∃ text, Reference.DefaultWritten ms (some text) := by
    intro n hn
    cases json with
    | number m => exact ⟨_, .number hget⟩
    | null | bool _ | string _ | array _ | object _ => cases hn
  rcases k with _ | _ | _
  · cases h
    exact ⟨_, .text hget⟩
  · obtain ⟨m, hm, -⟩ := h
    exact hnumber m hm
  · rcases h.1 with ⟨text, rfl, -⟩ | hint
    · exact ⟨_, .text hget⟩
    · exact hnumber _ hint

private theorem exists_default (h : ∀ json, ms.get? "default" = some json → ∃ value, k.IsLiteral json value) :
    ∃ default, k.loadDefault ms = .ok default := by
  cases hget : ms.get? "default" with
  | none => exact ⟨none, loadDefault_eq_ok_iff.2 (.inl ⟨hget, rfl⟩)⟩
  | some json =>
    obtain ⟨value, hvalue⟩ := h json hget
    exact ⟨some value, loadDefault_eq_ok_iff.2 (.inr ⟨json, value, hget, hvalue, rfl⟩)⟩

private theorem Given.valid {default : Option k.Value} {v : Source k} (h : Given k ms default name v) :
    ValidSource ms name := by
  cases h with
  | arithmetic get_eq effect_eq => exact .arithmetic get_eq effect_eq
  | effect get_eq effect_eq => exact .effect get_eq effect_eq
  | reference ref_eq =>
    obtain ⟨name, -, hget, -, hdefault, hrequired⟩ := Reference.load_eq_ok_iff.1 ref_eq
    exact .reference hget (hdefault.has_default (hrequired rfl))

private theorem ValidSource.mem (h : ValidSource ms name) : name ∈ members ∧ ms.has name = true := by
  cases h with
  | arithmetic get_eq => exact ⟨by decide, Json.Members.has_of_get? get_eq⟩
  | effect get_eq => exact ⟨by decide, Json.Members.has_of_get? get_eq⟩
  | reference get_eq => exact ⟨Scope.member_mem_members _, Json.Members.has_of_get? get_eq⟩

private theorem ValidSource.exists_given (h : ValidSource ms name) (hmembers : membersOf ms = [name])
    (hliteral : ∀ json, ms.get? "default" = some json → ∃ value, k.IsLiteral json value)
    (default : Option k.Value) : ∃ v, Given k ms default name v := by
  cases h with
  | arithmetic get_eq effect_eq => exact ⟨_, .arithmetic get_eq effect_eq⟩
  | effect get_eq effect_eq => exact ⟨_, .effect get_eq effect_eq⟩
  | @reference scope text get_eq has_default =>
    obtain ⟨json, hdefault⟩ := Option.isSome_iff_exists.1 has_default
    obtain ⟨value, hvalue⟩ := hliteral json hdefault
    obtain ⟨kept, hkept⟩ := exists_defaultWritten hdefault hvalue
    -- no other scope has a member, and so the one that is found is this one
    obtain ⟨found, hfound⟩ := Option.isSome_iff_exists.1 (Scope.isSome_find? (Json.Members.has_of_get? get_eq))
    have hmember := (membersOf_eq_singleton_iff.1 hmembers).2.2 _ found.member_mem_members
      (Scope.has_of_find? hfound)
    obtain rfl := Scope.member_injective hmember
    have href : Reference.load ms true = .ok ⟨found, Reference.stem ++ "_" ++ text, some kept⟩ :=
      Reference.load_eq_ok_iff.2 ⟨text, hfound, get_eq, rfl, hkept, fun _ => rfl⟩
    exact ⟨_, .reference href⟩

/-- An object is accepted exactly if it is well formed. -/
theorem exists_load_iff_wellFormed : (∃ v, Source.load k (.object ms) member = .ok v) ↔ WellFormed k ms := by
  constructor
  · rintro ⟨v, hload⟩
    obtain ⟨name, default, hmembers, hdefault, hgiven⟩ := load_object_eq_ok_iff.1 hload
    obtain ⟨hname, hhas, hunique⟩ := membersOf_eq_singleton_iff.1 hmembers
    refine ⟨⟨name, ⟨hname, hhas⟩, fun other h => hunique other h.1 h.2⟩, ⟨name, hgiven.valid⟩, ?_⟩
    intro json hget
    rcases loadDefault_eq_ok_iff.1 hdefault with ⟨hnone, -⟩ | ⟨_, value, hsome, hvalue, -⟩
    · rw [hget] at hnone
      cases hnone
    · rw [hget] at hsome
      cases hsome
      exact ⟨value, hvalue⟩
  · rintro ⟨hone, ⟨name, hvalid⟩, hliteral⟩
    have hmembers : membersOf ms = [name] :=
      membersOf_eq_singleton_iff.2 ⟨hvalid.mem.1, hvalid.mem.2, fun other hother hhas =>
        hone.unique ⟨hother, hhas⟩ hvalid.mem⟩
    obtain ⟨default, hdefault⟩ := exists_default hliteral
    obtain ⟨v, hv⟩ := hvalid.exists_given hmembers hliteral default
    exact ⟨v, load_object_eq_ok_iff.2 ⟨name, default, hmembers, hdefault, hv⟩⟩

theorem load_literal_eq_ok_iff {json : Json} {v : Source k} (hobject : ∀ ms, json ≠ .object ms) :
    Source.load k json member = .ok v ↔ ∃ value, k.IsLiteral json value ∧ v = .literal value := by
  have hload : Source.load k json member = (k.literal json member).map .literal := by
    rw [Source.load.eq_def]
    cases json with
    | object ms => exact absurd rfl (hobject ms)
    | null | bool _ | number _ | string _ | array _ => rfl
  rw [hload, Loaded.map_eq_ok_iff]
  simp only [Kind.literal_eq_ok_iff, @eq_comm _ v]

theorem load_array_ne_ok (items : List Json) (v : Source k) : Source.load k (.array items) member ≠ .ok v := by
  intro h
  obtain ⟨value, hvalue, -⟩ := (load_literal_eq_ok_iff (by simp)).1 h
  rcases k with _ | _ | _
  · cases hvalue
  · obtain ⟨_, hint, -⟩ := hvalue
    cases hint
  · rcases hvalue.1 with ⟨_, hstring, -⟩ | hint
    · cases hstring
    · cases hint

private theorem Given.flavor_eq {default : Option k.Value} {v : Source k} (h : Given k ms default name v) :
    v.flavor = flavorOf name := by
  cases h with
  | arithmetic | effect => rfl
  | @reference ref =>
    obtain ⟨scope, _, _⟩ := ref
    cases scope <;> rfl

end Source

/-- A range is accepted exactly if it is a value, or an array of two. -/
theorem Ranged.load_eq_ok_iff {m : Measure} {json : Json} {member : String} {v : Ranged m} :
    Ranged.load m json member = .ok v ↔
      (∃ value, Source.load (.measure m) json member = .ok value ∧ v = .single value) ∨
        ∃ low high a b, json = .array [low, high] ∧ Source.load (.measure m) low member = .ok a ∧
          Source.load (.measure m) high member = .ok b ∧ v = .pair a b := by
  rw [Ranged.load.eq_def]
  split
  · rename_i low high
    constructor
    · intro h
      split at h
      · cases h
      · rename_i a hlow
        obtain ⟨b, hhigh, rfl⟩ := Loaded.map_eq_ok_iff.1 h
        exact .inr ⟨low, high, a, b, rfl, hlow, hhigh, rfl⟩
    · rintro (⟨value, hvalue, -⟩ | ⟨_, _, a, b, ⟨⟩, hlow, hhigh, rfl⟩)
      · exact absurd hvalue (Source.load_array_ne_ok _ value)
      · rw [hlow, hhigh]
        rfl
  · rename_i items hpair
    constructor
    · intro h
      cases h
    · rintro (⟨value, hvalue, -⟩ | ⟨low, high, _, _, ⟨⟩, -⟩)
      · exact absurd hvalue (Source.load_array_ne_ok items value)
      · exact absurd rfl (hpair low high)
  · rename_i hpair _
    rw [Loaded.map_eq_ok_iff]
    constructor
    · rintro ⟨value, hvalue, rfl⟩
      exact .inl ⟨value, hvalue, rfl⟩
    · rintro (⟨value, hvalue, rfl⟩ | ⟨low, high, _, _, rfl, -⟩)
      · exact ⟨value, hvalue, rfl⟩
      · exact absurd rfl (hpair low high)

theorem Operand.load_eq_ok_iff {json : Json} {member : String} {o : Operand} :
    Operand.load json member = .ok o ↔
      (∃ ms, json = .object ms ∧ Operand.loadReading ms = .ok (some o)) ∨
        (∀ ms, json = .object ms → Operand.loadReading ms = .ok none) ∧
          ∃ range, Ranged.load .integer json member = .ok range ∧ o = .value range := by
  rw [Operand.load.eq_def]
  cases json with
  | object ms =>
    simp only [Json.object.injEq, exists_eq_left', forall_eq']
    cases Operand.loadReading ms with
    | error e => simp
    | ok reading =>
      cases reading with
      | none => simp [Loaded.map_eq_ok_iff, @eq_comm _ o]
      | some operand => simp
  | null | bool _ | number _ | string _ | array _ => simp [Loaded.map_eq_ok_iff, @eq_comm _ o]

/-- Values are accepted exactly if they are well formed: literals, objects with one source, and for a range the
arrays of two values. What is compiled has the flavor of its source, and a variable has a default of its kind. -/
theorem Source.accepted_iff_wellFormed (k : Kind) (member : String) :
    (∀ json : Json, (∀ ms, json ≠ .object ms) → ∀ v : Source k,
      Source.load k json member = .ok v ↔ ∃ value, k.IsLiteral json value ∧ v = .literal value) ∧
    (∀ ms : Json.Members, (∃ v, Source.load k (.object ms) member = .ok v) ↔ WellFormed k ms) ∧
    (∀ (ms : Json.Members) (v : Source k), Source.load k (.object ms) member = .ok v →
      (∀ name ∈ members, ms.has name = true → v.flavor = flavorOf name) ∧
        ∀ ref default, v = .variable ref default →
          ∃ name json value, ms.get? ref.scope.member = some (.string name) ∧
            ref.name = "npctalk_var_" ++ name ∧ ms.get? "default" = some json ∧ k.IsLiteral json value ∧
            default = some value) ∧
    (∀ m json, (∃ v, Ranged.load m json member = .ok v) ↔
      (∃ v, Source.load (.measure m) json member = .ok v) ∨
        ∃ low high, json = .array [low, high] ∧ (∃ v, Source.load (.measure m) low member = .ok v) ∧
          ∃ v, Source.load (.measure m) high member = .ok v) ∧
    ∀ items v, Source.load k (.array items) member ≠ .ok v := by
  refine ⟨fun json hobject v => load_literal_eq_ok_iff hobject, fun ms => exists_load_iff_wellFormed, ?_, ?_,
    load_array_ne_ok⟩
  · intro ms v h
    obtain ⟨name, default, hmembers, hdefault, hgiven⟩ := load_object_eq_ok_iff.1 h
    refine ⟨?_, ?_⟩
    · intro other hother hhas
      rw [(membersOf_eq_singleton_iff.1 hmembers).2.2 other hother hhas]
      exact hgiven.flavor_eq
    · rintro ref default' rfl
      cases hgiven with
      | reference ref_eq =>
        obtain ⟨name, -, hget, hname, hwritten, hrequired⟩ := Reference.load_eq_ok_iff.1 ref_eq
        rcases loadDefault_eq_ok_iff.1 hdefault with ⟨hnone, -⟩ | ⟨json, value, hsome, hvalue, rfl⟩
        · have hhas := hwritten.has_default (hrequired rfl)
          rw [Json.Members.has, hnone] at hhas
          cases hhas
        · exact ⟨name, json, value, hget, hname, hsome, hvalue, rfl⟩
  · intro m json
    constructor
    · rintro ⟨v, h⟩
      rcases Ranged.load_eq_ok_iff.1 h with ⟨value, hvalue, -⟩ | ⟨low, high, a, b, hpair, hlow, hhigh, -⟩
      · exact .inl ⟨value, hvalue⟩
      · exact .inr ⟨low, high, hpair, ⟨a, hlow⟩, ⟨b, hhigh⟩⟩
    · rintro (⟨value, hvalue⟩ | ⟨low, high, hpair, ⟨a, hlow⟩, ⟨b, hhigh⟩⟩)
      · exact ⟨_, Ranged.load_eq_ok_iff.2 (.inl ⟨value, hvalue, rfl⟩)⟩
      · exact ⟨_, Ranged.load_eq_ok_iff.2 (.inr ⟨low, high, a, b, hpair, hlow, hhigh, rfl⟩)⟩

theorem Source.accepted_with_one_source :
    Source.load .integer (.int 5) "amount" = .ok (.literal 5) ∧
      ∃ v : Source .integer,
        Source.load .integer (.object [("default", .int 3), ("u_val", .string "mood")]) "amount" = .ok v ∧
          v.flavor = .variable := by
  obtain ⟨hliteral, hobject, hresult, -⟩ := accepted_iff_wellFormed .integer "amount"
  have hformed : WellFormed .integer [("default", .int 3), ("u_val", .string "mood")] := by
    refine ⟨⟨"u_val", by decide, by simp +decide⟩, ⟨Scope.primary.member, .reference rfl rfl⟩, ?_⟩
    rintro json ⟨⟩
    exact ⟨3, 3, by decide, rfl⟩
  obtain ⟨v, hv⟩ := (hobject _).2 hformed
  refine ⟨(hliteral (.int 5) nofun _).2 ⟨5, ⟨5, by decide, rfl⟩, rfl⟩, v, hv, ?_⟩
  exact (hresult _ v hv).1 "u_val" (by decide) rfl
end Parley
