import Parley.Proofs.Value.Literal

/-!
References as content writes them: the first member for a scope holds the name, and the default is kept as a
text. Main statement: the objects that a reference is loaded from.
-/

set_option autoImplicit false
set_option relaxedAutoImplicit false

namespace Parley

variable {ms : Json.Members}

theorem Json.Members.get?_eq_none_of_has {name : String} (h : ms.has name = false) : ms.get? name = none := by
  rw [has, Option.isSome_eq_false_iff] at h
  exact Option.isNone_iff_eq_none.1 h

theorem Json.Members.string_eq_ok_iff {member text : String} :
    ms.string member = .ok text ↔ ms.get? member = some (.string text) := by
  simp [string, Loaded.bind_eq_ok_iff, require_eq_ok_iff, asString_eq_ok_iff]

namespace Scope

theorem member_injective : Function.Injective member := by
  intro s t
  cases s <;> cases t <;> decide

theorem mem_all (scope : Scope) : scope ∈ all := by
  cases scope <;> decide

theorem find?_eq_some_iff {scope : Scope} :
    find? ms = some scope ↔
      ["u_val", "npc_val", "global_val", "faction_val", "party_val"].find? ms.has = some scope.member := by
  have hmembers : ["u_val", "npc_val", "global_val", "faction_val", "party_val"] = all.map member := rfl
  rw [hmembers, List.find?_map, Option.map_eq_some_iff]
  constructor
  · intro h
    exact ⟨scope, h, rfl⟩
  · rintro ⟨other, h, hmember⟩
    rw [← member_injective hmember]
    exact h

theorem isSome_find? {scope : Scope} (h : ms.has scope.member = true) : (find? ms).isSome = true :=
  List.find?_isSome.2 ⟨scope, scope.mem_all, h⟩

theorem has_of_find? {scope : Scope} (h : find? ms = some scope) : ms.has scope.member = true := by
  have hhas := List.find?_some h
  exact hhas

end Scope

namespace Reference

/-- A variable whose default, if it has one, is an integer. -/
def DefaultsToInteger (ref : Reference) : Prop :=
  ∀ text, ref.default = some text → ∃ n, Kind.readInteger text = .ok n

/-- The default as it is kept: a text, or a number as it is printed. -/
inductive DefaultWritten (ms : Json.Members) : Option String → Prop
  | absent (get_eq : ms.get? "default" = none) : DefaultWritten ms none
  | text {text : String} (get_eq : ms.get? "default" = some (.string text)) : DefaultWritten ms (some text)
  | number {n : Json.Number} (get_eq : ms.get? "default" = some (.number n)) : DefaultWritten ms (some n.text)

theorem DefaultWritten.has_default {default : Option String} (h : DefaultWritten ms default)
    (hsome : default.isSome = true) : ms.has "default" = true := by
  cases h with
  | absent => cases hsome
  | text get_eq => exact Json.Members.has_of_get? get_eq
  | number get_eq => exact Json.Members.has_of_get? get_eq

/-- A reference is loaded exactly if the first member for a scope holds a text, and the default is a text or a
number, or is left out where it may be. -/
theorem load_eq_ok_iff {requireDefault : Bool} {ref : Reference} :
    load ms requireDefault = .ok ref ↔
      ∃ name, Scope.find? ms = some ref.scope ∧ ms.get? ref.scope.member = some (.string name) ∧
        ref.name = stem ++ "_" ++ name ∧ DefaultWritten ms ref.default ∧
        (requireDefault = true → ref.default.isSome = true) := by
  constructor
  · intro h
    unfold load at h
    split at h
    · cases h
    · rename_i scope hscope
      split at h
      · cases h
      · rename_i name hname
        have hget := Json.Members.string_eq_ok_iff.1 hname
        split at h
        · rename_i text hdefault
          cases h
          exact ⟨name, hscope, hget, rfl, .text hdefault, fun _ => rfl⟩
        · rename_i n hdefault
          cases h
          exact ⟨name, hscope, hget, rfl, .number hdefault, fun _ => rfl⟩
        · cases h
        · rename_i hdefault
          split at h
          · cases h
          · rename_i hrequire
            cases h
            exact ⟨name, hscope, hget, rfl, .absent hdefault, fun hrequired => absurd hrequired hrequire⟩
  · rintro ⟨name, hscope, hget, hname, hdefault, hrequire⟩
    have hstring := Json.Members.string_eq_ok_iff.2 hget
    obtain ⟨scope, _, default⟩ := ref
    subst hname
    unfold load
    rw [hscope]
    simp only [hstring]
    cases hdefault with
    | absent get_eq =>
      rw [get_eq]
      cases requireDefault with
      | true => exact nomatch hrequire rfl
      | false => rfl
    | text get_eq => rw [get_eq]
    | number get_eq => rw [get_eq]

theorem loadName_eq_ok {member name type context : String} (hname : ms.get? member = some (.string name))
    (htype : ms.stringOr "type" "" = .ok type) (hcontext : ms.stringOr "context" "" = .ok context) :
    loadName ms member = .ok (fullName type context name) := by
  refine Loaded.bind_eq_ok_iff.2 ⟨name, Json.Members.string_eq_ok_iff.2 hname, ?_⟩
  refine Loaded.bind_eq_ok_iff.2 ⟨type, htype, ?_⟩
  exact Loaded.bind_eq_ok_iff.2 ⟨context, hcontext, rfl⟩

end Reference

end Parley
