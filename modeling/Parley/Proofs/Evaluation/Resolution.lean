import Parley.Proofs.Evaluation.Indifference
import Parley.Proofs.Value.Stored

/-!
What a text stands for as a value: the default where it is empty, else what it reads as, and the zero with one
error where there is none. Main statement: variables and computed values resolve by this rule, whatever the kind,
and nothing tells an empty text from a missing one.
-/

set_option autoImplicit false
set_option relaxedAutoImplicit false

namespace Parley

open Evaluation

/-- The value that a text stands for and the state after that is settled: nothing is logged but one error where the
zero stands in. -/
inductive Resolves (k : Kind) (text : String) : Option k.Value → State → k.Value × State → Prop
  | default {value : k.Value} {s : State} (empty : text = "") : Resolves k text (some value) s (value, s)
  | missing {s : State} {d : Diagnostic} (empty : text = "") (error : d.severity = .error) :
      Resolves k text none s (k.zero, s.report d)
  | read {default : Option k.Value} {s : State} {value : k.Value} (nonempty : text ≠ "")
      (is_text : k.IsText text value) : Resolves k text default s (value, s)
  | unreadable {default : Option k.Value} {s : State} {d : Diagnostic} (nonempty : text ≠ "")
      (no_text : ∀ value, ¬k.IsText text value) (error : d.severity = .error) :
      Resolves k text default s (k.zero, s.report d)

variable {k : Kind} {ctx : Context} {s : State}

private theorem Kind.resolves (origin : Origin) (text : String) (default : Option k.Value) (s : State) :
    Resolves k text default s (settle (k.resolve origin text default) s) := by
  by_cases hempty : text = ""
  · cases default with
    | some value =>
      rw [Kind.resolve.eq_def, if_pos hempty]
      exact .default hempty
    | none =>
      rw [Kind.resolve.eq_def, if_pos hempty]
      exact .missing hempty rfl
  · cases hread : k.read text with
    | ok value =>
      rw [Kind.resolve.eq_def, if_neg hempty, hread]
      exact .read hempty (Kind.read_eq_ok_iff.1 hread)
    | error fault =>
      have hnone : ∀ value, ¬k.IsText text value := Kind.read_eq_error_iff.1 ⟨fault, hread⟩
      rw [Kind.resolve.eq_def, if_neg hempty, hread]
      exact .unreadable hempty hnone rfl

theorem Source.resolves_variable (ref : Reference) (default : Option k.Value) :
    Resolves k (s.read ctx ref) default s ((Source.variable ref default).evaluate ctx s) :=
  Kind.resolves (.variable ref.name) _ default s

theorem Source.resolves_computed (effect : Effect) (default : Option k.Value) :
    Resolves k (effect.result ctx s).1 default (effect.result ctx s).2
      ((Source.computed effect default).evaluate ctx s) :=
  Kind.resolves .computed _ default _

/-- A variable resolves what is read from it, and a computed value what its effect reports: the default if that is
empty, else the value that it is a text of, and the zero with one error if there is none. What is read as a value
is exactly its texts. Without the entry of a variable that holds the empty text every effect, value and condition
does as before. -/
theorem Source.resolution (k : Kind) (ctx : Context) (s : State) :
    (∀ ref default, Resolves k (s.read ctx ref) default s ((Source.variable ref default).evaluate ctx s)) ∧
    (∀ effect default, Resolves k (effect.result ctx s).1 default (effect.result ctx s).2
      ((Source.computed effect default).evaluate ctx s)) ∧
    (∀ text value, k.read text = .ok value ↔ k.IsText text value) ∧
    ∀ cell, s.textAt cell = "" →
      let s' := s.erase cell
      (∀ e : Effect, (e.run ctx s).2.ReadsAs (e.run ctx s').2) ∧
      (∀ v : Source k, (v.evaluate ctx s').1 = (v.evaluate ctx s).1 ∧
        (v.evaluate ctx s).2.ReadsAs (v.evaluate ctx s').2) ∧
      ∀ c : Condition, (c.evaluate ctx s').1 = (c.evaluate ctx s).1 ∧
        (c.evaluate ctx s).2.ReadsAs (c.evaluate ctx s').2 := by
  refine ⟨?_, ?_, fun text value => Kind.read_eq_ok_iff, ?_⟩
  · intro ref default
    exact resolves_variable ref default
  · intro effect default
    exact resolves_computed effect default
  · intro cell hempty s'
    have hreads : s.ReadsAs s' := s.readsAs_erase hempty
    refine ⟨?_, ?_, ?_⟩
    · intro e
      exact (e.indifferent s s' hreads).2
    · intro v
      exact v.indifferent s s' hreads
    · intro c
      exact c.indifferent s s' hreads

/-- A mood set to the empty text has the default 5, and so has one that was never set. -/
theorem Source.resolution_of_empty_mood :
    let mood : Reference := ⟨.global, "npctalk_var_mood", none⟩
    let ctx : Context := ⟨none, none, .missionGoal⟩
    let s : State := ⟨{ World.empty with globals := Variables.none.set mood.name "" }, .scripted [], [], []⟩
    let v : Source .integer := .variable mood (some 5)
    s.textAt (.globals, mood.name) = "" ∧ (v.evaluate ctx s).1 = 5 ∧
      (v.evaluate ctx (s.erase (.globals, mood.name))).1 = (v.evaluate ctx s).1 := by
  intro mood ctx s v
  have hempty : s.textAt (.globals, mood.name) = "" := by decide
  obtain ⟨hvariable, -, -, herased⟩ := resolution .integer ctx s
  have hresolves := hvariable mood (some 5)
  refine ⟨hempty, ?_, ((herased _ hempty).2.1 v).1⟩
  generalize (Source.variable mood (some 5) : Source .integer).evaluate ctx s = outcome at hresolves ⊢
  cases hresolves with
  | default => rfl
  | read nonempty | unreadable nonempty => exact absurd hempty nonempty

end Parley
