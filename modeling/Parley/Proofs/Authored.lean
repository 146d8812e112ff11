import Parley.Proofs.Content.Granting
import Parley.Proofs.Talk.Reference

/-!
The variables that content names. The names that content makes start with a stem of their own, so none
is the reserved one. Main statement: whatever is compiled from content has authored accesses only.
-/

set_option autoImplicit false
set_option relaxedAutoImplicit false

namespace Parley

/-- A reference to another variable than the reserved one. -/
def Reference.Authored (ref : Reference) : Prop :=
  ref.name ≠ Reference.tempName

/-- An access that does not name the reserved variable. -/
def Access.Authored : Access → Prop
  | .read ref | .write ref => ref.Authored
  | .draw | .compute => True

namespace Reference

private theorem stem_append_ne_tempName (rest : String) : stem ++ rest ≠ tempName := by
  intro h
  have hchars := congrArg String.toList h
  simp [stem, tempName] at hchars

private theorem fullName_ne_tempName (type context name : String) :
    fullName type context name ≠ tempName := by
  have hstem : fullName type context name =
      stem ++ "_".intercalate ("" :: [type, context, name].filter (· ≠ "")) := by
    rw [fullName, ← String.intercalate_cons_append, String.append_empty]
  rw [hstem]
  exact stem_append_ne_tempName _

theorem authored_of_load {ms : Json.Members} {requireDefault : Bool} {ref : Reference}
    (h : load ms requireDefault = .ok ref) : ref.Authored := by
  obtain ⟨name, -, -, hname, -⟩ := load_eq_ok_iff.1 h
  rw [Authored, hname, String.append_assoc]
  exact stem_append_ne_tempName _

theorem ne_tempName_of_loadName {ms : Json.Members} {member name : String}
    (h : loadName ms member = .ok name) : name ≠ tempName := by
  simp only [loadName, Loaded.bind_eq_ok_iff, Loaded.pure_eq_ok_iff] at h
  obtain ⟨base, _, type, _, context, _, rfl⟩ := h
  exact fullName_ne_tempName type context base

end Reference

private theorem Operand.authored_of_loadVariable {ms : Json.Members} {slot : Slot} {ref : Reference}
    (h : loadVariable ms slot = .ok ref) : ref.Authored := by
  simp only [loadVariable, Loaded.bind_eq_ok_iff] at h
  obtain ⟨name, hname, href⟩ := h
  have hne := Reference.ne_tempName_of_loadName hname
  split at href
  · obtain rfl := Loaded.pure_eq_ok_iff.1 href
    exact hne
  · simp only [Loaded.bind_eq_ok_iff, Loaded.pure_eq_ok_iff] at href
    obtain ⟨_, _, rfl⟩ := href
    exact hne

private theorem Test.authored_of_loadReference {ms : Json.Members} {member : String} {slot : Slot}
    {ref : Reference} (h : loadReference ms member slot = .ok ref) : ref.Authored := by
  obtain ⟨name, hname, rfl⟩ := loadReference_eq_ok_iff.1 h
  exact Reference.ne_tempName_of_loadName hname

private theorem granting_authored : Granting fun _ _ x => x.Authored where
  member _ h := h
  item _ h := h
  pair := trivial
  computed _ _ _ := trivial
  random _ := trivial
  chance _ _ := trivial
  reference h := ⟨Reference.authored_of_load h, Reference.authored_of_load h⟩
  stored _ h := Operand.authored_of_loadVariable h
  keyed _ h := Test.authored_of_loadReference h

theorem Source.authored_of_load {k : Kind} {json : Json} {member : String} {source : Source k}
    (h : Source.load k json member = .ok source) : ∀ x ∈ source.accesses, x.Authored :=
  granting_authored.source .other (written_of_load h)

theorem Ranged.authored_of_load {m : Measure} {json : Json} {member : String} {range : Ranged m}
    (h : Ranged.load m json member = .ok range) : ∀ x ∈ range.accesses, x.Authored :=
  granting_authored.ranged (written_of_load h)

theorem Operand.authored_of_load {json : Json} {member : String} {operand : Operand}
    (h : Operand.load json member = .ok operand) : ∀ x ∈ operand.accesses, x.Authored :=
  granting_authored.operand (written_of_load h)

theorem Effect.authored_of_load {json : Json} {effect : Effect}
    (h : Effect.load json = .ok effect) : ∀ x ∈ effect.accesses, x.Authored :=
  granting_authored.effect (written_of_load h)

theorem Effect.WrittenAll.authored {items : List Json} {effects : List Effect}
    (h : Effect.WrittenAll items effects) : ∀ x ∈ Effect.accessesAll effects, x.Authored := by
  intro x hx
  obtain ⟨_, _, hauthored⟩ := granting_authored.effects h x hx
  exact hauthored

theorem Condition.authored_of_load {json : Json} {condition : Condition}
    (h : load json = .ok condition) : ∀ x ∈ condition.accesses, x.Authored :=
  granting_authored.condition .other (written_of_load h)

end Parley
