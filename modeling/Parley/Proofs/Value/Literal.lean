import Parley.Value.Load

/-!
The literals of each kind, apart from how a defect is worded. Main statement: a literal is accepted
exactly if it is one, under whatever member it stands.
-/

set_option autoImplicit false
set_option relaxedAutoImplicit false

namespace Parley

namespace Json

variable {json : Json} {member : String}

theorem asString_eq_ok_iff {text : String} :
    json.asString member = .ok text ↔ json = .string text := by
  cases json <;> simp [asString]

theorem asInt_eq_ok_iff {n : Int64} : json.asInt member = .ok n ↔ json.int? = some n := by
  unfold asInt
  cases json.int? <;> simp

theorem asInt32_eq_ok_iff {n : Int32} :
    json.asInt32 member = .ok n ↔ ∃ m, json.int? = some m ∧ m.toInt = n.toInt := by
  have hnarrow : ∀ m : Int64, m.toInt = n.toInt ↔ Narrow.int32? m.toInt = some n := by
    intro m
    rw [Narrow.int32?_eq_some_iff]
    exact eq_comm
  unfold asInt32
  cases hint : json.asInt member with
  | error e =>
    simp only [reduceCtorEq, false_iff, not_exists, not_and]
    intro m hm
    rw [asInt_eq_ok_iff.2 hm] at hint
    cases hint
  | ok m =>
    have hm := asInt_eq_ok_iff.1 hint
    simp only [hm, Option.some.injEq, exists_eq_left', hnarrow]
    cases Narrow.int32? m.toInt <;> simp

end Json

/-- The literals of a kind: a text, an integer of 32 bits, a count of turns or a text with units that is
not negative. -/
def Kind.IsLiteral : (k : Kind) → Json → k.Value → Prop
  | .text, json, s => json = .string s
  | .integer, json, n => ∃ m, json.int? = some m ∧ m.toInt = n.toInt
  | .duration, json, d =>
    ((∃ s, json = .string s ∧ Duration.parse s = .ok d) ∨ json.int? = some d.turns) ∧ ¬d.turns < 0

namespace Kind

variable {json : Json} {member : String}

/-- A duration as it is written, before its sign is looked at. -/
private def written (json : Json) (member : String) : Loaded Duration :=
  match json with
  | .string s => (Duration.parse s).mapError (.duration member)
  | _ => (json.asInt member).map Duration.mk

private theorem written_eq_ok_iff {d : Duration} : written json member = .ok d ↔
    (∃ s, json = .string s ∧ Duration.parse s = .ok d) ∨ json.int? = some d.turns := by
  cases json with
  | string s =>
    simp only [Json.string.injEq, exists_eq_left', Json.int?, reduceCtorEq, or_false, written]
    cases Duration.parse s with
    | error fault =>
      constructor
      · intro h
        cases h
      · intro h
        cases h
    | ok d' =>
      constructor
      · intro h
        cases h
        rfl
      · intro h
        cases h
        rfl
  | null | bool _ | number _ | array _ | object _ =>
    simp only [reduceCtorEq, false_and, exists_false, false_or, written, Loaded.map_eq_ok_iff,
      Json.asInt_eq_ok_iff]
    constructor
    · rintro ⟨n, hn, rfl⟩
      exact hn
    · intro h
      exact ⟨d.turns, h, rfl⟩

private theorem literal_duration : literal .duration json member =
    (written json member >>= fun d =>
      if d.turns < 0 then .error (.invalidValue member (.unreadable (.negative d))) else .ok d) := by
  cases json with
  | string s =>
    simp only [literal, written]
    cases Duration.parse s <;> rfl
  | number n =>
    simp only [literal, written]
    cases (Json.number n).asInt member <;> rfl
  | null | bool _ | array _ | object _ => rfl

theorem literal_eq_ok_iff {k : Kind} {value : k.Value} :
    k.literal json member = .ok value ↔ k.IsLiteral json value := by
  rcases k with _ | _ | _
  · exact Json.asString_eq_ok_iff
  · exact Json.asInt32_eq_ok_iff
  · rw [literal_duration, Loaded.bind_eq_ok_iff, IsLiteral]
    constructor
    · rintro ⟨d, hd, h⟩
      split at h
      · cases h
      · rename_i hnot
        cases h
        exact ⟨written_eq_ok_iff.1 hd, hnot⟩
    · rintro ⟨hwritten, hnot⟩
      exact ⟨value, written_eq_ok_iff.2 hwritten, if_neg hnot⟩

end Kind

end Parley
