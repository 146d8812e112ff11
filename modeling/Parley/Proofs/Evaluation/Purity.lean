import Mathlib.Logic.Function.Iterate
import Parley.Proofs.Content.Mention
import Parley.Proofs.Evaluation.Development

/-!
Purity of evaluation. What computes no value writes nothing, and what draws no number either does nothing
but report, always the same. Main statement: a condition whose content computes no value leaves the world
alone, and gives the same answer again and again if its content draws nothing either.
-/

set_option autoImplicit false
set_option relaxedAutoImplicit false

namespace Parley

namespace Evaluation

variable {α β : Type} {ctx : Context}

def conservation (ctx : Context) : Logic ctx fun x => x ≠ .compute :=
  along (R := fun w w' => w' = w)
    { refl := fun _ => rfl
      trans := fun _ _ _ h h' => h'.trans h
      write := fun hcompute => absurd rfl hcompute }

/-- An evaluation that does nothing but add diagnostics to the log, which it does not look at. -/
def Steady (m : Evaluation α) : Prop :=
  ∀ s, ∃ ds, ∀ log, m { s with log := log } = ((m s).1, { s with log := log ++ ds })

namespace Steady

private theorem of_value {f : State → α} (h : ∀ s log, f { s with log := log } = f s) :
    Steady fun s => (f s, s) := by
  intro s
  refine ⟨[], fun log => ?_⟩
  rw [List.append_nil]
  exact Prod.ext (h s log) rfl

private theorem report (d : Diagnostic) : Steady (report d) :=
  fun _ => ⟨[d], fun _ => rfl⟩

private theorem bind {m : Evaluation α} {f : α → Evaluation β} (hm : Steady m) (hf : ∀ a, Steady (f a)) :
    Steady (m >>= f) := by
  intro s
  obtain ⟨ds, hm⟩ := hm s
  obtain ⟨ds', hf⟩ := hf (m s).1 s
  have hrun : ∀ log, (m >>= f) { s with log := log } =
      ((f (m s).1 s).1, { s with log := log ++ (ds ++ ds') }) := by
    intro log
    change f (m { s with log := log }).1 (m { s with log := log }).2 = _
    rw [hm log, hf (log ++ ds), List.append_assoc]
  refine ⟨ds ++ ds', fun log => ?_⟩
  have hvalue := congrArg Prod.fst (hrun s.log)
  rw [hrun log]
  exact Prod.ext hvalue.symm rfl

private theorem iterate {m : Evaluation α} (hm : Steady m) (s : State) :
    ∃ ds, ∀ n, m ((fun t => (m t).2)^[n] s) =
      ((m s).1, { s with log := s.log ++ (List.replicate (n + 1) ds).flatten }) := by
  obtain ⟨ds, hm⟩ := hm s
  refine ⟨ds, fun n => ?_⟩
  -- only the log has changed after n evaluations, so the next one adds the same diagnostics to it
  induction n with
  | zero => simpa using hm s.log
  | succ n ih =>
    rw [Function.iterate_succ_apply', ih, hm, List.append_assoc, ← List.flatten_concat,
      ← List.replicate_succ']

end Steady

/-- What neither computes a value nor draws a number is steady. -/
def steadiness (ctx : Context) : Logic ctx fun x => x ≠ .compute ∧ x ≠ .draw where
  Value := Steady
  Run _ := True
  value_pure _ := Steady.of_value fun _ _ => rfl
  value_bind := .bind
  value_report := .report
  value_ask _ := Steady.of_value fun _ _ => rfl
  value_read _ := Steady.of_value fun _ _ => rfl
  value_draw h := absurd rfl h.2
  value_chance h := absurd rfl h.2
  value_framed h := absurd rfl h.1
  run_pure := trivial
  run_bind _ _ := trivial
  run_report _ _ := trivial
  run_write _ _ _ := trivial

end Evaluation

open Evaluation

namespace Condition

variable {json : Json} {c : Condition}

theorem not_computes_of_load (h : load json = .ok c) (hcomputed : json.contains .computed = false) :
    ∀ x ∈ c.accesses, x ≠ .compute := by
  rintro x hx rfl
  obtain ⟨construct, hconstruct, hcontains⟩ := mentioned_of_load h _ hx
  obtain rfl := List.mem_singleton.1 hconstruct
  rw [hcomputed] at hcontains
  cases hcontains

private theorem not_draws_of_load (h : load json = .ok c)
    (hdrawn : ∀ construct ∈ [Construct.pair, .random, .chance], json.contains construct = false) :
    ∀ x ∈ c.accesses, x ≠ .draw := by
  rintro x hx rfl
  obtain ⟨construct, hconstruct, hcontains⟩ := mentioned_of_load h _ hx
  rw [hdrawn construct hconstruct] at hcontains
  cases hcontains

/-- A condition whose content computes no value leaves the world alone. If its content has no range to draw
from, no random operand and no chance either, it draws no number, and evaluated again and again it gives
the same answer and reports the same each time. -/
theorem pure_of_load (h : load json = .ok c) (ctx : Context)
    (hcomputed : json.contains .computed = false) :
    (∀ s, (c.evaluate ctx s).2.world = s.world) ∧
    ((∀ construct ∈ [Construct.pair, .random, .chance], json.contains construct = false) →
      ∀ s, ∃ ds, ∀ n, c.evaluate ctx ((fun t => (c.evaluate ctx t).2)^[n] s) =
        ((c.evaluate ctx s).1, { s with log := s.log ++ (List.replicate (n + 1) ds).flatten })) := by
  have hcompute := not_computes_of_load h hcomputed
  refine ⟨(conservation ctx).condition c hcompute, fun hdrawn => ?_⟩
  have hdraw := not_draws_of_load h hdrawn
  have hsteady : Steady (c.evaluate ctx) :=
    (steadiness ctx).condition c fun x hx => ⟨hcompute x hx, hdraw x hx⟩
  exact hsteady.iterate

/-- Two texts that are compared are no range. -/
theorem pure_of_load_comparison :
    let c : Condition := .test (.compareTexts
      (.variable ⟨.global, "npctalk_var_a", some "b"⟩ (some "b")) (.literal "b"))
    let ctx : Context := ⟨none, none, .missionGoal⟩
    let s : State := ⟨.empty, .scripted [], [], []⟩
    (c.evaluate ctx s).2.world = .empty ∧
    ∃ ds, ∀ n, c.evaluate ctx ((fun t => (c.evaluate ctx t).2)^[n] s) =
      ((c.evaluate ctx s).1, { s with log := s.log ++ (List.replicate (n + 1) ds).flatten }) := by
  intro c ctx s
  have hload : load (.object [("compare_string", .array
      [.object [("default", .string "b"), ("global_val", .string "a")], .string "b"])]) = .ok c := by
    cbv
  obtain ⟨hworld, hagain⟩ := pure_of_load hload ctx (by cbv)
  refine ⟨hworld s, hagain ?_ s⟩
  decide

end Condition

end Parley
