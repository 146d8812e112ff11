import Parley.Proofs.Evaluation.Isolation
import Parley.Proofs.Value.Steps

/-!
Results of computed values. The silent steps of an effect, and whatever is computed inside its steps,
keep what was reported, and a step that gives a value reports it. Main statements: the result of an
effect is the value of its last step that gives one, and a run without an open frame reports the result
in the reserved variable.
-/

set_option autoImplicit false
set_option relaxedAutoImplicit false

namespace Parley

namespace Effect

open Evaluation

variable {ctx : Context}

/-- What steps come to when they are run from a state: the value that the last one that gives a value
has where it stands, the empty text if none gives one. -/
inductive Reports (ctx : Context) (s : State) : List Json → String → Prop
  | nothing {steps : List Json} (none_gives : ∀ j ∈ steps, j.isValueStep = false) :
      Reports ctx s steps ""
  | value {before after : List Json} {j : Json} {es : List Effect} {t : Term}
      (before_eq : loadAll before = .ok es) (value_eq : load j = .ok (.report t))
      (gives : j.isValueStep = true) (none_gives : ∀ x ∈ after, x.isValueStep = false) :
      Reports ctx s (before ++ j :: after)
        (Numeral.text (t.evaluate ctx (runAll ctx es s).2).1.toInt)

private theorem reported_run_of_silent {e : Effect} (hsilent : e.IsSilent)
    (haccesses : ∀ x ∈ e.accesses, x.Authored) (s : State) :
    (e.run ctx s).2.reported = s.reported := by
  cases e with
  | report value | sequence effects => exact hsilent.elim
  | assign target value =>
    rw [accesses, List.forall_mem_cons] at haccesses
    have hvalue := (isolation ctx).term value haccesses.2
    change ((value.evaluate ctx s).2.write ctx target _).reported = _
    rw [State.reported_write _ haccesses.1, hvalue.reported_eq]
  | setText target value =>
    rw [accesses, List.forall_mem_cons] at haccesses
    have hvalue := (isolation ctx).source value haccesses.2
    change ((value.evaluate ctx s).2.write ctx target _).reported = _
    rw [State.reported_write _ haccesses.1, hvalue.reported_eq]

private theorem reported_runAll_of_silent {es : List Effect} (hsilent : ∀ e ∈ es, e.IsSilent)
    (haccesses : ∀ x ∈ accessesAll es, x.Authored) (s : State) :
    (runAll ctx es s).2.reported = s.reported := by
  induction es generalizing s with
  | nil => rfl
  | cons e rest ih =>
    rw [List.forall_mem_cons] at hsilent
    rw [accessesAll, List.forall_mem_append] at haccesses
    have hrest := ih hsilent.2 haccesses.2 (e.run ctx s).2
    exact hrest.trans (reported_run_of_silent hsilent.1 haccesses.1 s)

private theorem reported_run_report (t : Term) (s : State) :
    ((Effect.report t).run ctx s).2.reported = Numeral.text (t.evaluate ctx s).1.toInt := by
  change ((t.evaluate ctx s).2.write ctx .temp _).reported = _
  rw [State.reported_write_temp]

private theorem result_eq_reported {e : Effect} (h : Confined (e.run ctx)) (s : State) :
    e.result ctx s = ((e.run ctx s.openFrame).2.reported,
      { (e.run ctx s.openFrame).2 with frames := s.frames }) := by
  obtain ⟨frame, hframes⟩ := h.frames_of_cons s.openFrame none s.frames rfl
  exact State.closeFrame_of_cons hframes

private theorem exists_last (p : Json → Bool) (items : List Json) :
    (∀ j ∈ items, p j = false) ∨
      ∃ before j after, items = before ++ j :: after ∧ p j = true ∧ ∀ x ∈ after, p x = false := by
  induction items with
  | nil => exact .inl fun j hj => by cases hj
  | cons item rest ih =>
    rcases ih with hnone | ⟨before, j, after, rfl, hj, hafter⟩
    · cases hitem : p item with
      | true => exact .inr ⟨[], item, rest, rfl, hitem, hnone⟩
      | false => exact .inl (List.forall_mem_cons.2 ⟨hitem, hnone⟩)
    · exact .inr ⟨item :: before, j, after, rfl, hj, hafter⟩

/-- What steps have reported once they have been run from a state in which nothing was reported. -/
theorem reports_of_loadAll {items : List Json} {es : List Effect} (h : loadAll items = .ok es)
    (hsteps : ∀ j ∈ items, ∀ items, j ≠ .array items) {s : State} (hs : s.reported = "") :
    Reports ctx s items (runAll ctx es s).2.reported := by
  rcases exists_last Json.isValueStep items with hnone | ⟨before, j, after, rfl, hj, hafter⟩
  · have hsilent := silent_of_loadAll h hsteps hnone
    rw [reported_runAll_of_silent hsilent (writtenAll_of_loadAll h).authored, hs]
    exact .nothing hnone
  · obtain ⟨fs, gs, hbefore, hrest, rfl⟩ := loadAll_append_eq_ok_iff.1 h
    obtain ⟨e, gs, he, hlast, rfl⟩ := loadAll_cons_eq_ok_iff.1 hrest
    rw [List.forall_mem_append, List.forall_mem_cons] at hsteps
    obtain ⟨t, rfl⟩ : ∃ t, e = .report t := by
      rcases reports_or_silent_of_step he hsteps.2.1 with ⟨-, ht⟩ | ⟨hj', -⟩
      · exact ht
      · rw [hj] at hj'
        cases hj'
    have hsilent := silent_of_loadAll hlast hsteps.2.2 hafter
    have hreported : (runAll ctx (fs ++ .report t :: gs) s).2.reported =
        Numeral.text (t.evaluate ctx (runAll ctx fs s).2).1.toInt := by
      rw [runAll_append]
      change (runAll ctx gs ((Effect.report t).run ctx (runAll ctx fs s).2).2).2.reported = _
      rw [reported_runAll_of_silent hsilent (writtenAll_of_loadAll hlast).authored]
      exact reported_run_report t _
    rw [hreported]
    exact .value hbefore he hj hafter

private theorem reports_of_load {json : Json} {e : Effect} (h : load json = .ok e) (s : State) :
    Reports ctx s.openFrame json.steps (e.result ctx s).1 := by
  rw [result_eq_reported (confined_of_load ctx h), run_eq_runAll_steps]
  exact reports_of_loadAll (loadAll_steps h) (fun j hj => Json.not_array_of_mem_steps hj) rfl

/-- The result of an effect, and of an arithmetic array, is the value of the last of its own steps that
gives one. -/
theorem result_is_last_value (ctx : Context) (s : State) :
    (∀ json e, load json = .ok e → Reports ctx s.openFrame json.steps (e.result ctx s).1) ∧
    (∀ items e, arithmetic items = .ok e →
      Reports ctx s.openFrame [.object [("arithmetic", .array items)]] (e.result ctx s).1) := by
  constructor
  · intro json e h
    exact reports_of_load h s
  · intro items e h
    have hload : load (.object [("arithmetic", .array items)]) = .ok e := by
      rw [load.eq_def]
      exact h
    exact reports_of_load hload s

/-- The sum of turn and hour is what an assignment after it leaves, though the assignment computes a value
of its own. -/
theorem result_is_last_value_before_assignment :
    Reports ⟨none, none, .missionGoal⟩ (State.openFrame ⟨.empty, .scripted [], [], []⟩)
      (Json.array
        [.object [("arithmetic", .array [.object [("time", .string "now")], .string "+",
            .object [("time", .string "hour")]])],
          .object [("arithmetic", .array [.object [("global_val", .string "a")], .string "=",
            .object [("arithmetic", .array [.object [("time", .string "now")]])]])]]).steps
      ((Effect.sequence
        [.report (.binary .add (.clock .now) (.clock .hour)),
          .assign ⟨.global, "npctalk_var_a", none⟩ (.operand (.value (.single (.computed
            (.report (.operand (.clock .now))) none))))]).result
        ⟨none, none, .missionGoal⟩ ⟨.empty, .scripted [], [], []⟩).1 :=
  (result_is_last_value _ _).1 _ _ (by cbv)

/-- With no frame open and nothing reported, a run reports the result of the effect in the reserved
variable, and differs from its evaluation in nothing else. -/
theorem run_reports_result {json : Json} {e : Effect} (h : load json = .ok e) (ctx : Context)
    (s : State) (hframes : s.frames = []) (htemp : s.world.globals.get Reference.tempName = "") :
    (e.run ctx s).2.read ctx .temp = (e.result ctx s).1 ∧
    (e.run ctx s).2.world.withoutTemp = (e.result ctx s).2.world.withoutTemp ∧
    (e.result ctx s).2.world.temp? = s.world.temp? ∧
    (e.run ctx s).2.random = (e.result ctx s).2.random ∧
    (e.run ctx s).2.log = (e.result ctx s).2.log ∧
    (e.run ctx s).2.frames = [] ∧ (e.result ctx s).2.frames = [] := by
  have hconfined := confined_of_load ctx h
  -- the two runs start from states that differ in what a report is written to
  have hcore : s.core = s.openFrame.core := rfl
  have hreported : s.reported = s.openFrame.reported := by
    rw [State.reported_of_nil hframes, htemp]
    rfl
  have hcores : (e.run ctx s).2.core = (e.run ctx s.openFrame).2.core :=
    (hconfined.uniform _ _ hcore).2
  have hworlds := congrArg State.world hcores
  have hrandom := congrArg State.random hcores
  have hlog := congrArg State.log hcores
  rw [result_eq_reported hconfined]
  refine ⟨?_, ?_, ?_, ?_, ?_, ?_, ?_⟩
  · exact hconfined.reported_eq _ _ hcore hreported
  · exact hworlds
  · exact hconfined.temp_eq s.openFrame (List.cons_ne_nil _ _)
  · exact hrandom
  · exact hlog
  · exact hconfined.frames_of_nil s hframes
  · exact hframes

/-- The sum of turn and hour in a world without variables. -/
theorem run_reports_result_of_sum :
    ((Effect.report (.binary .add (.clock .now) (.clock .hour))).run ⟨none, none, .missionGoal⟩
      ⟨.empty, .scripted [], [], []⟩).2.read ⟨none, none, .missionGoal⟩ .temp =
    ((Effect.report (.binary .add (.clock .now) (.clock .hour))).result ⟨none, none, .missionGoal⟩
      ⟨.empty, .scripted [], [], []⟩).1 := by
  have hload : load (.object [("arithmetic", .array [.object [("time", .string "now")], .string "+",
      .object [("time", .string "hour")]])]) = .ok (.report (.binary .add (.clock .now) (.clock .hour))) := by
    cbv
  exact (run_reports_result hload ⟨none, none, .missionGoal⟩ ⟨.empty, .scripted [], [], []⟩ rfl
    rfl).1

end Effect

end Parley
