import Parley.Condition.Eval
import Parley.Proofs.Condition.Keys

/-!
Rewriting of combinations. Conditions have effects, so that it matters which of them are evaluated, in which
order and in which states. Main statement: pushing negations inward, dropping double ones and flattening
nested combinations keeps the defect of content, and else its answers and all that is done for them.
-/

set_option autoImplicit false
set_option relaxedAutoImplicit false

namespace Parley

namespace Condition

mutual

/-- The tests that are evaluated for a condition, in order. -/
def visits (ctx : Context) : Condition → State → List Test
  | .constant _, _ => []
  | .all conditions, s => visitsUntil ctx false conditions s
  | .any conditions, s => visitsUntil ctx true conditions s
  | .negate condition, s => visits ctx condition s
  | .test t, _ => [t]

/-- The tests that are evaluated for some conditions, up to the first condition with a given answer. -/
def visitsUntil (ctx : Context) (stop : Bool) : List Condition → State → List Test
  | [], _ => []
  | condition :: rest, s =>
    let outcome := condition.evaluate ctx s
    visits ctx condition s ++ if outcome.1 = stop then [] else visitsUntil ctx stop rest outcome.2

end

/-- Conditions that have the same answers, effects, draws and diagnostics in all contexts and states, by the
same tests in the same order. -/
def Agree (c d : Condition) : Prop :=
  ∀ ctx s, c.evaluate ctx s = d.evaluate ctx s ∧ c.visits ctx s = d.visits ctx s

/-- The combination that is decided by the first condition with a given answer: a disjunction if that is true,
else a conjunction. -/
def junction : Bool → List Condition → Condition
  | false => .all
  | true => .any

variable (ctx : Context)

/-- The answer of a junction, and the state that it leaves. -/
def evaluateUntil (stop : Bool) : List Condition → State → Bool × State
  | [], s => (!stop, s)
  | condition :: rest, s =>
    let outcome := condition.evaluate ctx s
    if outcome.1 = stop then outcome else evaluateUntil stop rest outcome.2

private theorem evaluateAll_eq_until (cs : List Condition) (s : State) :
    evaluateAll ctx cs s = evaluateUntil ctx false cs s := by
  induction cs generalizing s with
  | nil => rfl
  | cons c rest ih =>
    rw [evaluateAll, evaluateUntil, ← ih]
    change (if (c.evaluate ctx s).1 = true then evaluateAll ctx rest else pure false)
      (c.evaluate ctx s).2 = _
    obtain ⟨answer, s'⟩ := c.evaluate ctx s
    cases answer <;> rfl

private theorem evaluateAny_eq_until (cs : List Condition) (s : State) :
    evaluateAny ctx cs s = evaluateUntil ctx true cs s := by
  induction cs generalizing s with
  | nil => rfl
  | cons c rest ih =>
    rw [evaluateAny, evaluateUntil, ← ih]
    change (if (c.evaluate ctx s).1 = true then pure true else evaluateAny ctx rest)
      (c.evaluate ctx s).2 = _
    obtain ⟨answer, s'⟩ := c.evaluate ctx s
    cases answer <;> rfl

private theorem evaluate_junction (stop : Bool) (cs : List Condition) (s : State) :
    (junction stop cs).evaluate ctx s = evaluateUntil ctx stop cs s := by
  cases stop with
  | false => exact evaluateAll_eq_until ctx cs s
  | true => exact evaluateAny_eq_until ctx cs s

private theorem visits_junction (stop : Bool) (cs : List Condition) (s : State) :
    (junction stop cs).visits ctx s = visitsUntil ctx stop cs s := by
  cases stop <;> rfl

private theorem evaluate_negate (c : Condition) (s : State) :
    (Condition.negate c).evaluate ctx s = (!(c.evaluate ctx s).1, (c.evaluate ctx s).2) := by
  rw [evaluate]
  rfl

mutual

theorem evaluate_snd_eq_foldl_visits (c : Condition) (s : State) :
    (c.evaluate ctx s).2 = (c.visits ctx s).foldl (fun s t => (t.evaluate ctx s).2) s := by
  match c with
  | .constant b => rfl
  | .all cs =>
    rw [visits, ← until_snd_eq_foldl_visits, ← evaluate_junction, junction]
  | .any cs =>
    rw [visits, ← until_snd_eq_foldl_visits, ← evaluate_junction, junction]
  | .negate inner =>
    rw [evaluate_negate, visits]
    exact evaluate_snd_eq_foldl_visits inner s
  | .test t => rfl

private theorem until_snd_eq_foldl_visits (stop : Bool) (cs : List Condition) (s : State) :
    (evaluateUntil ctx stop cs s).2 =
      (visitsUntil ctx stop cs s).foldl (fun s t => (t.evaluate ctx s).2) s := by
  match cs with
  | [] => rfl
  | c :: rest =>
    rw [evaluateUntil, visitsUntil, List.foldl_append, ← evaluate_snd_eq_foldl_visits c s]
    by_cases hstop : (c.evaluate ctx s).1 = stop
    · simp only [if_pos hstop, List.foldl_nil]
    · simp only [if_neg hstop]
      exact until_snd_eq_foldl_visits stop rest _

end

private theorem agree_negate_negate (c : Condition) : Agree (.negate (.negate c)) c := by
  intro ctx s
  refine ⟨?_, rfl⟩
  rw [evaluate_negate, evaluate_negate]
  exact Prod.ext (Bool.not_not _) rfl

private theorem until_negated (stop : Bool) (cs : List Condition) (s : State) :
    evaluateUntil ctx (!stop) (cs.map .negate) s =
        (!(evaluateUntil ctx stop cs s).1, (evaluateUntil ctx stop cs s).2) ∧
      visitsUntil ctx (!stop) (cs.map .negate) s = visitsUntil ctx stop cs s := by
  induction cs generalizing s with
  | nil => exact ⟨rfl, rfl⟩
  | cons c rest ih =>
    obtain ⟨hevaluate, hvisits⟩ := ih (c.evaluate ctx s).2
    rw [List.map_cons, evaluateUntil, evaluateUntil, visitsUntil, visitsUntil, evaluate_negate]
    -- a negated operand decides the one junction exactly if the operand decides the other
    by_cases hstop : (c.evaluate ctx s).1 = stop
    · simp only [hstop, if_true]
      exact ⟨trivial, rfl⟩
    · have hnegated : (!(c.evaluate ctx s).1) ≠ !stop := fun h => hstop (Bool.not_inj h)
      simp only [if_neg hstop, if_neg hnegated]
      exact ⟨hevaluate, congrArg (visits ctx c s ++ ·) hvisits⟩

private theorem agree_negate_junction (stop : Bool) (cs : List Condition) :
    Agree (.negate (junction stop cs)) (junction (!stop) (cs.map .negate)) := by
  intro ctx s
  obtain ⟨hevaluate, hvisits⟩ := until_negated ctx stop cs s
  rw [evaluate_negate, evaluate_junction, evaluate_junction, hevaluate, visits, visits_junction,
    visits_junction, hvisits]
  exact ⟨rfl, rfl⟩

private theorem until_append (stop : Bool) (cs ds : List Condition) (s : State) :
    let first := evaluateUntil ctx stop cs s
    evaluateUntil ctx stop (cs ++ ds) s =
        (if first.1 = stop then first else evaluateUntil ctx stop ds first.2) ∧
      visitsUntil ctx stop (cs ++ ds) s =
        visitsUntil ctx stop cs s ++
          if first.1 = stop then [] else visitsUntil ctx stop ds first.2 := by
  induction cs generalizing s with
  | nil =>
    have hopen : (!stop) ≠ stop := by cases stop <;> nofun
    exact ⟨(if_neg hopen).symm, (if_neg hopen).symm⟩
  | cons c rest ih =>
    obtain ⟨hevaluate, hvisits⟩ := ih (c.evaluate ctx s).2
    simp only [List.cons_append, evaluateUntil, visitsUntil]
    by_cases hstop : (c.evaluate ctx s).1 = stop
    · simp only [if_pos hstop, List.append_nil, and_self]
    · simp only [if_neg hstop, hevaluate, hvisits, List.append_assoc, and_self]

private theorem agree_flatten (stop : Bool) (cs ds es : List Condition) :
    Agree (junction stop (cs ++ junction stop ds :: es)) (junction stop (cs ++ (ds ++ es))) := by
  intro ctx s
  -- a nested junction is evaluated like its operands, after the same operands
  have inner (s : State) :
      evaluateUntil ctx stop (junction stop ds :: es) s = evaluateUntil ctx stop (ds ++ es) s ∧
        visitsUntil ctx stop (junction stop ds :: es) s = visitsUntil ctx stop (ds ++ es) s := by
    obtain ⟨hevaluate, hvisits⟩ := until_append ctx stop ds es s
    rw [evaluateUntil, visitsUntil, evaluate_junction, visits_junction, hevaluate, hvisits]
    exact ⟨rfl, rfl⟩
  obtain ⟨hnested, hvisitsNested⟩ := until_append ctx stop cs (junction stop ds :: es) s
  obtain ⟨hflat, hvisitsFlat⟩ := until_append ctx stop cs (ds ++ es) s
  obtain ⟨hrest, hvisitsRest⟩ := inner (evaluateUntil ctx stop cs s).2
  rw [evaluate_junction, evaluate_junction, visits_junction, visits_junction, hnested, hflat, hrest,
    hvisitsNested, hvisitsFlat, hvisitsRest]
  exact ⟨rfl, rfl⟩

end Condition

def Json.combined (combinator : Combinator) (value : Json) : Json :=
  .object [(Named.name combinator, value)]

namespace Condition

def combinatorOf : Bool → Combinator
  | false => .all
  | true => .any

private theorem load_combined (combinator : Combinator) (value : Json) :
    load (.combined combinator value) = loadCombined (Named.name combinator) value combinator := by
  have hcombinator : Catalog.combinator? (Named.name combinator) = some combinator := by
    cases combinator <;> rfl
  have harguments : Catalog.takesArguments (Named.name combinator) = true := by
    rw [Catalog.takesArguments, hcombinator, Option.isSome_some, Bool.or_true]
  have hkeys : keysOf [(Named.name combinator, value)] = [Named.name combinator] :=
    List.filter_cons_of_pos (Catalog.isKey_of_takesArguments harguments)
  exact load_combination hkeys hcombinator (if_pos rfl)

private theorem load_negated (value : Json) : load (.combined .negate value) = (load value).map .negate :=
  load_combined .negate value

private theorem load_junction (stop : Bool) (items : List Json) :
    load (.combined (combinatorOf stop) (.array items)) = (loadAll items).map (junction stop) := by
  rw [load_combined]
  cases stop <;> rw [combinatorOf, loadCombined, loadItems_array, junction]

private theorem loadAll_map_negate (items : List Json) :
    loadAll (items.map (.combined .negate)) = (loadAll items).map (List.map .negate) := by
  induction items with
  | nil =>
    rw [List.map_nil, loadAll]
    rfl
  | cons item rest ih =>
    rw [List.map_cons, loadAll, loadAll, load_negated, ih]
    cases load item with
    | error defect => rfl
    | ok c => cases loadAll rest <;> rfl

private theorem loadAll_append (items others : List Json) :
    loadAll (items ++ others) = do return (← loadAll items) ++ (← loadAll others) := by
  induction items with
  | nil =>
    rw [List.nil_append, loadAll]
    cases loadAll others <;> rfl
  | cons item rest ih =>
    rw [List.cons_append, loadAll, loadAll, ih]
    cases load item with
    | error defect => rfl
    | ok c =>
      cases loadAll rest with
      | error defect => rfl
      | ok cs => cases loadAll others <;> rfl

/-- Content that has the same defect, or is compiled to conditions that agree. -/
def Interchangeable (a b : Json) : Prop :=
  (∃ defect, load a = .error defect ∧ load b = .error defect) ∨
    ∃ c d, load a = .ok c ∧ load b = .ok d ∧ Agree c d

private theorem interchangeable_of_parts {α : Type} {a b : Json} (parts : Loaded α) {f g : α → Condition}
    (ha : load a = parts.map f) (hb : load b = parts.map g) (h : ∀ v, Agree (f v) (g v)) :
    Interchangeable a b := by
  cases parts with
  | error defect => exact .inl ⟨defect, ha, hb⟩
  | ok v => exact .inr ⟨f v, g v, ha, hb, h v⟩

private theorem interchangeable_negation (stop : Bool) (items : List Json) :
    Interchangeable (.combined .negate (.combined (combinatorOf stop) (.array items)))
      (.combined (combinatorOf (!stop)) (.array (items.map (.combined .negate)))) := by
  refine interchangeable_of_parts (loadAll items) ?_ ?_ (agree_negate_junction stop)
  · rw [load_negated, load_junction]
    cases loadAll items <;> rfl
  · rw [load_junction, loadAll_map_negate]
    cases loadAll items <;> rfl

private theorem interchangeable_flattening (stop : Bool) (before inner after : List Json) :
    Interchangeable
      (.combined (combinatorOf stop)
        (.array (before ++ [.combined (combinatorOf stop) (.array inner)] ++ after)))
      (.combined (combinatorOf stop) (.array (before ++ inner ++ after))) := by
  let parts : Loaded (List Condition × List Condition × List Condition) := do
    return (← loadAll before, ← loadAll inner, ← loadAll after)
  have hnested : loadAll [.combined (combinatorOf stop) (.array inner)] =
      (loadAll inner).map fun ds => [junction stop ds] := by
    rw [loadAll, loadAll, load_junction]
    cases loadAll inner <;> rfl
  refine interchangeable_of_parts parts ?_ ?_ fun v => agree_flatten stop v.1 v.2.1 v.2.2
  · simp only [parts, List.append_assoc, load_junction, loadAll_append, hnested]
    cases loadAll before with
    | error defect => rfl
    | ok cs => cases loadAll inner <;> cases loadAll after <;> rfl
  · simp only [parts, List.append_assoc, load_junction, loadAll_append]
    cases loadAll before with
    | error defect => rfl
    | ok cs => cases loadAll inner <;> cases loadAll after <;> rfl

private theorem interchangeable_double_negation (json : Json) :
    Interchangeable (.combined .negate (.combined .negate json)) json := by
  refine interchangeable_of_parts (f := fun c => .negate (.negate c)) (g := id) (load json) ?_ ?_
    agree_negate_negate
  · rw [load_negated, load_negated]
    cases load json <;> rfl
  · cases load json <;> rfl

/-- A negation may be pushed into a conjunction or a disjunction, a double negation dropped, and a combination
merged with the same one around it: content keeps its defect, or its answers with everything that is done for
them. -/
theorem rewriting_preserves_meaning :
    (∀ items : List Json,
      Interchangeable (.combined .negate (.combined .all (.array items)))
        (.combined .any (.array (items.map (.combined .negate)))) ∧
      Interchangeable (.combined .negate (.combined .any (.array items)))
        (.combined .all (.array (items.map (.combined .negate))))) ∧
    (∀ json : Json, Interchangeable (.combined .negate (.combined .negate json)) json) ∧
    (∀ xs ys zs : List Json,
      Interchangeable (.combined .all (.array (xs ++ [.combined .all (.array ys)] ++ zs)))
        (.combined .all (.array (xs ++ ys ++ zs))) ∧
      Interchangeable (.combined .any (.array (xs ++ [.combined .any (.array ys)] ++ zs)))
        (.combined .any (.array (xs ++ ys ++ zs)))) := by
  refine ⟨?_, interchangeable_double_negation, ?_⟩
  · intro items
    exact ⟨interchangeable_negation false items, interchangeable_negation true items⟩
  · intro xs ys zs
    exact ⟨interchangeable_flattening false xs ys zs, interchangeable_flattening true xs ys zs⟩

end Condition

end Parley
