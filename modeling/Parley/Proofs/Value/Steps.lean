import Parley.Proofs.Value.Written
import Parley.Value.Eval

/-!
The steps of an effect: its arithmetic and text assignments in the order in which they are run, nested
arrays being flattened. Main statements: an effect runs its steps in order, and the steps of content are
compiled to the steps of what it is compiled to.
-/

set_option autoImplicit false
set_option relaxedAutoImplicit false

namespace Parley

mutual

def Effect.steps : Effect → List Effect
  | .sequence effects => Effect.stepsAll effects
  | .report value => [.report value]
  | .assign target value => [.assign target value]
  | .setText target value => [.setText target value]

def Effect.stepsAll : List Effect → List Effect
  | [] => []
  | effect :: rest => effect.steps ++ Effect.stepsAll rest

end

mutual

def Json.steps : Json → List Json
  | .array items => Json.stepsAll items
  | .null => [.null]
  | .bool b => [.bool b]
  | .number n => [.number n]
  | .string text => [.string text]
  | .object ms => [.object ms]

def Json.stepsAll : List Json → List Json
  | [] => []
  | item :: rest => item.steps ++ Json.stepsAll rest

end

/-- Whether an arithmetic array gives a value and has no target: an operand, or an operator between
two. -/
def Effect.isValueForm : List Json → Bool
  | [_] => true
  | [_, sign, _] => !Effect.isAssign sign
  | _ => false

def Json.isValueStep : Json → Bool
  | .object ms =>
    match Json.Members.get? ms "arithmetic" with
    | some (.array items) => Effect.isValueForm items
    | _ => false
  | _ => false

/-- A step that writes a variable and reports nothing. -/
def Effect.IsSilent : Effect → Prop
  | .assign .. | .setText .. => True
  | .report _ | .sequence _ => False

namespace Effect

variable {ctx : Context}

theorem runAll_append (es fs : List Effect) (s : State) :
    runAll ctx (es ++ fs) s = runAll ctx fs (runAll ctx es s).2 := by
  induction es generalizing s with
  | nil => rfl
  | cons e rest ih => exact ih (e.run ctx s).2

mutual

theorem run_eq_runAll_steps (e : Effect) (s : State) : e.run ctx s = runAll ctx e.steps s := by
  match e with
  | .report value => rfl
  | .assign target value => rfl
  | .setText target value => rfl
  | .sequence effects => exact runAll_eq_runAll_stepsAll effects s

private theorem runAll_eq_runAll_stepsAll (es : List Effect) (s : State) :
    runAll ctx es s = runAll ctx (stepsAll es) s := by
  match es with
  | [] => rfl
  | e :: rest =>
    rw [stepsAll, runAll_append, ← run_eq_runAll_steps e s]
    exact runAll_eq_runAll_stepsAll rest (e.run ctx s).2

end

theorem loadAll_cons_eq_ok_iff {item : Json} {rest : List Json} {all : List Effect} :
    loadAll (item :: rest) = .ok all ↔
      ∃ e es, load item = .ok e ∧ loadAll rest = .ok es ∧ all = e :: es := by
  rw [loadAll]
  constructor
  · intro h
    split at h
    · cases h
    · rename_i e he
      obtain ⟨es, hes, rfl⟩ := Loaded.map_eq_ok_iff.1 h
      exact ⟨e, es, he, hes, rfl⟩
  · rintro ⟨e, es, he, hes, rfl⟩
    simp only [he]
    exact Loaded.map_eq_ok_iff.2 ⟨es, hes, rfl⟩

theorem loadAll_append_eq_ok_iff {items others : List Json} {all : List Effect} :
    loadAll (items ++ others) = .ok all ↔
      ∃ es fs, loadAll items = .ok es ∧ loadAll others = .ok fs ∧ all = es ++ fs := by
  induction items generalizing all with
  | nil =>
    constructor
    · intro h
      exact ⟨[], all, by rw [loadAll], h, rfl⟩
    · rintro ⟨es, fs, hes, hfs, rfl⟩
      rw [loadAll] at hes
      cases hes
      exact hfs
  | cons item rest ih =>
    rw [List.cons_append, loadAll_cons_eq_ok_iff]
    constructor
    · rintro ⟨e, es, he, hes, rfl⟩
      obtain ⟨es', fs, hes', hfs, rfl⟩ := ih.1 hes
      exact ⟨e :: es', fs, loadAll_cons_eq_ok_iff.2 ⟨e, es', he, hes', rfl⟩, hfs, rfl⟩
    · rintro ⟨es, fs, hes, hfs, rfl⟩
      obtain ⟨e, es', he, hes', rfl⟩ := loadAll_cons_eq_ok_iff.1 hes
      exact ⟨e, es' ++ fs, he, ih.2 ⟨es', fs, hes', hfs, rfl⟩, rfl⟩

private theorem loadAll_singleton {item : Json} {e : Effect} (h : load item = .ok e) :
    loadAll [item] = .ok [e] := by
  refine loadAll_cons_eq_ok_iff.2 ⟨e, [], h, ?_, rfl⟩
  rw [loadAll]

private theorem WrittenArithmetic.reports_or_silent {items : List Json} {e : Effect}
    (h : WrittenArithmetic items e) :
    (isValueForm items = true ∧ ∃ t, e = .report t) ∨
      (isValueForm items = false ∧ e.IsSilent) := by
  cases h with
  | value a_written => exact .inl ⟨rfl, _, rfl⟩
  | step sign_ne target_eq sign_eq => exact .inr ⟨rfl, trivial⟩
  | assign sign_eq target_eq a_written =>
    refine .inr ⟨?_, trivial⟩
    rw [isValueForm, sign_eq]
    rfl
  | binary sign_ne sign_eq a_written b_written =>
    refine .inl ⟨?_, _, rfl⟩
    rw [isValueForm, sign_ne]
    rfl
  | assignBinary assign_eq sign_eq target_eq a_written b_written => exact .inr ⟨rfl, trivial⟩

private theorem reports_or_silent_of_load {ms : Json.Members} {e : Effect} (h : load (.object ms) = .ok e) :
    ((Json.object ms).isValueStep = true ∧ ∃ t, e = .report t) ∨
      ((Json.object ms).isValueStep = false ∧ e.IsSilent) := by
  cases written_of_load h with
  | arithmetic member_eq inner =>
    rw [Json.isValueStep, member_eq]
    exact inner.reports_or_silent
  | setText arithmetic_eq member_eq target_eq ref_eq inner =>
    refine .inr ⟨?_, trivial⟩
    rw [Json.isValueStep, arithmetic_eq]

private theorem steps_of_object {ms : Json.Members} {e : Effect} (h : load (.object ms) = .ok e) :
    e.steps = [e] := by
  rcases reports_or_silent_of_load h with ⟨-, t, rfl⟩ | ⟨-, hsilent⟩
  · rfl
  · cases e with
    | report value | sequence effects => exact hsilent.elim
    | assign target value | setText target value => rfl

mutual

theorem loadAll_steps {json : Json} {e : Effect} (h : load json = .ok e) :
    loadAll json.steps = .ok e.steps := by
  match json with
  | .array items =>
    rw [load.eq_def] at h
    obtain ⟨es, hes, rfl⟩ := Loaded.map_eq_ok_iff.1 h
    rw [Json.steps, steps]
    exact loadAll_stepsAll hes
  | .object ms =>
    rw [Json.steps, steps_of_object h]
    exact loadAll_singleton h
  | .null | .bool _ | .number _ | .string _ =>
    rw [load.eq_def] at h
    cases h

private theorem loadAll_stepsAll {items : List Json} {es : List Effect} (h : loadAll items = .ok es) :
    loadAll (Json.stepsAll items) = .ok (stepsAll es) := by
  match items with
  | [] =>
    rw [loadAll] at h
    cases h
    rw [Json.stepsAll, stepsAll, loadAll]
  | item :: rest =>
    obtain ⟨e, es', he, hes', rfl⟩ := loadAll_cons_eq_ok_iff.1 h
    rw [Json.stepsAll, stepsAll]
    exact loadAll_append_eq_ok_iff.2
      ⟨e.steps, stepsAll es', loadAll_steps he, loadAll_stepsAll hes', rfl⟩

end

end Effect

mutual

theorem Json.not_array_of_mem_steps {json j : Json} (h : j ∈ json.steps) :
    ∀ items, j ≠ .array items := by
  match json with
  | .array items =>
    rw [Json.steps] at h
    exact Json.not_array_of_mem_stepsAll h
  | .null | .bool _ | .number _ | .string _ | .object _ =>
    rw [Json.steps, List.mem_singleton] at h
    rintro items rfl
    cases h

private theorem Json.not_array_of_mem_stepsAll {items : List Json} {j : Json}
    (h : j ∈ Json.stepsAll items) : ∀ items, j ≠ .array items := by
  match items with
  | [] =>
    rw [Json.stepsAll] at h
    cases h
  | item :: rest =>
    rw [Json.stepsAll, List.mem_append] at h
    rcases h with h | h
    · exact Json.not_array_of_mem_steps h
    · exact Json.not_array_of_mem_stepsAll h

end

theorem Effect.reports_or_silent_of_step {j : Json} {e : Effect} (h : Effect.load j = .ok e)
    (hstep : ∀ items, j ≠ .array items) :
    (j.isValueStep = true ∧ ∃ t, e = .report t) ∨ (j.isValueStep = false ∧ e.IsSilent) := by
  cases j with
  | object ms => exact Effect.reports_or_silent_of_load h
  | array items => exact absurd rfl (hstep items)
  | null | bool _ | number _ | string _ =>
    rw [Effect.load.eq_def] at h
    cases h

theorem Effect.silent_of_loadAll {items : List Json} {es : List Effect}
    (h : Effect.loadAll items = .ok es) (hsteps : ∀ j ∈ items, ∀ items, j ≠ .array items)
    (hvalue : ∀ j ∈ items, j.isValueStep = false) : ∀ e ∈ es, e.IsSilent := by
  induction items generalizing es with
  | nil =>
    rw [Effect.loadAll] at h
    cases h
    intro e he
    cases he
  | cons item rest ih =>
    obtain ⟨e, es', he, hes', rfl⟩ := Effect.loadAll_cons_eq_ok_iff.1 h
    rw [List.forall_mem_cons] at hsteps hvalue ⊢
    refine ⟨?_, ih hes' hsteps.2 hvalue.2⟩
    rcases Effect.reports_or_silent_of_step he hsteps.1 with ⟨hitem, -⟩ | ⟨-, hsilent⟩
    · rw [hvalue.1] at hitem
      cases hitem
    · exact hsilent

end Parley
