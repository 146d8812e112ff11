import Parley.Condition.Eval
import Parley.Proofs.Access

/-!
Evaluations put together from the evaluations of their parts. Main statement: a property that composition keeps
holds of the evaluation of a condition if it holds of the evaluation of each of its tests.
-/

set_option autoImplicit false
set_option relaxedAutoImplicit false

namespace Parley

namespace Condition

mutual

def tests : Condition → List Test
  | .constant _ => []
  | .all conditions | .any conditions => testsAll conditions
  | .negate condition => condition.tests
  | .test t => [t]

def testsAll : List Condition → List Test
  | [] => []
  | condition :: rest => condition.tests ++ testsAll rest

end

mutual

theorem accesses_eq_flatMap_tests (c : Condition) : c.accesses = c.tests.flatMap Test.accesses := by
  match c with
  | .constant b => rfl
  | .all cs | .any cs => exact accessesAll_eq_flatMap_tests cs
  | .negate inner => exact accesses_eq_flatMap_tests inner
  | .test t => exact (List.flatMap_singleton Test.accesses t).symm

private theorem accessesAll_eq_flatMap_tests (cs : List Condition) :
    accessesAll cs = (testsAll cs).flatMap Test.accesses := by
  match cs with
  | [] => rfl
  | c :: rest =>
    rw [accessesAll, testsAll, List.flatMap_append, ← accesses_eq_flatMap_tests c,
      ← accessesAll_eq_flatMap_tests rest]

end

end Condition

namespace State

def reportAll (s : State) (ds : List Diagnostic) : State :=
  { s with log := s.log ++ ds }

@[simp] theorem reportAll_nil (s : State) : s.reportAll [] = s := by
  rw [reportAll, List.append_nil]

theorem reportAll_reportAll (s : State) (ds ds' : List Diagnostic) :
    (s.reportAll ds).reportAll ds' = s.reportAll (ds ++ ds') := by
  simp only [reportAll, List.append_assoc]

end State

theorem Evaluation.settle_eq {α : Type} (outcome : α × Option Diagnostic) (s : State) :
    settle outcome s = (outcome.1, s.reportAll outcome.2.toList) := by
  obtain ⟨a, _ | d⟩ := outcome
  · exact congrArg (Prod.mk a) s.reportAll_nil.symm
  · rfl

namespace Evaluation

/-- A property of evaluations that composition keeps. -/
structure Composed (P : {α : Type} → Evaluation α → Prop) : Prop where
  pure : ∀ {α : Type} (a : α), P (Pure.pure a)
  bind : ∀ {α β : Type} {m : Evaluation α} {f : α → Evaluation β},
    P m → (∀ a, P (f a)) → P (m >>= f)

namespace Composed

variable {P : {α : Type} → Evaluation α → Prop} {ctx : Context}

theorem texts (C : Composed P) {values : List (Source .text)} (h : ∀ v ∈ values, P (v.evaluate ctx)) :
    P (texts ctx values) := by
  induction values with
  | nil => exact C.pure _
  | cons value rest ih =>
    obtain ⟨hvalue, hrest⟩ := List.forall_mem_cons.1 h
    exact C.bind hvalue fun _ => C.bind (ih hrest) fun _ => C.pure _

mutual

theorem condition (C : Composed P) (c : Condition) (h : ∀ t ∈ c.tests, P (t.evaluate ctx)) :
    P (c.evaluate ctx) := by
  match c with
  | .constant b => exact C.pure b
  | .all cs => exact C.conditionsAll cs h
  | .any cs => exact C.conditionsAny cs h
  | .negate inner => exact C.bind (C.condition inner h) fun _ => C.pure _
  | .test t => exact h t (List.mem_singleton.2 rfl)

private theorem conditionsAll (C : Composed P) (cs : List Condition)
    (h : ∀ t ∈ Condition.testsAll cs, P (t.evaluate ctx)) : P (Condition.evaluateAll ctx cs) := by
  match cs with
  | [] => exact C.pure true
  | c :: rest =>
    rw [Condition.testsAll, List.forall_mem_append] at h
    refine C.bind (C.condition c h.1) fun b => ?_
    cases b with
    | true => exact C.conditionsAll rest h.2
    | false => exact C.pure false

private theorem conditionsAny (C : Composed P) (cs : List Condition)
    (h : ∀ t ∈ Condition.testsAll cs, P (t.evaluate ctx)) : P (Condition.evaluateAny ctx cs) := by
  match cs with
  | [] => exact C.pure false
  | c :: rest =>
    rw [Condition.testsAll, List.forall_mem_append] at h
    refine C.bind (C.condition c h.1) fun b => ?_
    cases b with
    | true => exact C.pure true
    | false => exact C.conditionsAny rest h.2

end

end Composed

end Evaluation

end Parley
