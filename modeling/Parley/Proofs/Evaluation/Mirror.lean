import Parley.Condition.Eval
import Parley.Proofs.Condition.Impartial
import Parley.Proofs.Condition.Mirror

/-!
Evaluation with exchanged roles. Main statement: mirrored content is compiled whenever the content is, and is
evaluated with exchanged actors as the content itself, so long as its values name no actor.
-/

set_option autoImplicit false
set_option relaxedAutoImplicit false

namespace Parley

open Evaluation

def Context.swapped (ctx : Context) : Context :=
  { ctx with primary := ctx.secondary, secondary := ctx.primary }

variable (ctx : Context)

private theorem Evaluation.read_swapped_of_impartial {ref : Reference} (h : ref.Impartial) :
    read ctx.swapped ref = read ctx ref := by
  have hread (s : State) : s.read ctx.swapped ref = s.read ctx ref := by
    unfold State.read
    rcases h with h | h <;> rw [h]
  funext s
  exact congrArg (·, s) (hread s)

private theorem Source.evaluate_swapped {k : Kind} (v : Source k) (h : v.Impartial) :
    v.evaluate ctx.swapped = v.evaluate ctx := by
  match v with
  | .literal value => rfl
  | .variable ref default => rw [Source.evaluate, Source.evaluate, read_swapped_of_impartial ctx h]
  | .computed e default => exact h.elim

private theorem Ranged.evaluate_swapped {m : Measure} (v : Ranged m) (h : v.Impartial) :
    v.evaluate ctx.swapped = v.evaluate ctx := by
  match v with
  | .single value => exact value.evaluate_swapped ctx h
  | .pair low high =>
    rw [Ranged.evaluate, Ranged.evaluate, low.evaluate_swapped ctx h.1, high.evaluate_swapped ctx h.2]

private theorem Operand.evaluate_swapped (o : Operand) (h : o.Impartial) :
    o.evaluate ctx.swapped = o.evaluate ctx := by
  match o with
  | .constant _ | .random _ | .clock _ | .weather _ => rfl
  | .creature .. | .coordinate .. => exact h.elim
  | .variable ref =>
    rw [Operand.evaluate, Operand.evaluate, integer, integer, read_swapped_of_impartial ctx h]
  | .elapsed ref =>
    rw [Operand.evaluate, Operand.evaluate, Evaluation.elapsed, Evaluation.elapsed,
      read_swapped_of_impartial ctx h]
  | .value range => exact range.evaluate_swapped ctx h

private theorem Evaluation.texts_swapped (values : List (Source .text)) (h : ∀ value ∈ values, value.Impartial) :
    texts ctx.swapped values = texts ctx values := by
  induction values with
  | nil => rfl
  | cons value rest ih =>
    rw [List.forall_mem_cons] at h
    rw [texts, texts, value.evaluate_swapped ctx h.1, ih h.2]

namespace Context

variable (w : World) (slot : Slot)

private theorem handle?_swapped : ctx.swapped.handle? slot.other = ctx.handle? slot := by
  cases slot <;> rfl

private theorem actor?_swapped : ctx.swapped.actor? w slot.other = ctx.actor? w slot := by
  rw [actor?, actor?, handle?_swapped]

private theorem character?_swapped : ctx.swapped.character? w slot.other = ctx.character? w slot := by
  rw [character?, character?, actor?_swapped]

private theorem position?_swapped : ctx.swapped.position? w slot.other = ctx.position? w slot := by
  rw [position?, position?, handle?_swapped]

private theorem faction?_swapped : ctx.swapped.faction? w slot.other = ctx.faction? w slot := by
  rw [faction?, faction?, actor?_swapped]

end Context

private theorem Check.holds_swapped (w : World) (slot : Slot) (check : Check)
    (h : ∀ p, check = .occasion p → p ctx.swapped = p ctx) :
    check.holds ctx.swapped w slot.other = check.holds ctx w slot := by
  cases check with
  | creature p | profile p | prompt default answer =>
    rw [holds, holds, ctx.character?_swapped]
  | actor p => rw [holds, holds, ctx.actor?_swapped]
  | place p => rw [holds, holds, ctx.position?_swapped]
  | faction p => rw [holds, holds, ctx.faction?_swapped]
  | pair p => rw [holds, holds, ctx.character?_swapped, ctx.character?_swapped]
  | versus p => rw [holds, holds, ctx.character?_swapped, ctx.faction?_swapped]
  | occasion p => exact h p rfl
  | world b => rfl

private theorem Evaluation.holds_swapped (slot : Slot) {check : World → Check}
    (h : ∀ w p, check w = .occasion p → p ctx.swapped = p ctx) :
    holds ctx.swapped slot.other check = holds ctx slot check := by
  have hcheck (w : World) :
      (check w).holds ctx.swapped w slot.other = (check w).holds ctx w slot :=
    (check w).holds_swapped ctx w slot (h w)
  exact congrArg ask (funext hcheck)

private theorem Fact.occasion_swapped (w : World) (q : Fact) (p : Context → Bool) (h : q.check w = .occasion p) :
    p ctx.swapped = p ctx := by
  cases q <;> cases h <;> rfl

private theorem Evaluation.read_swapped {ref : Reference} {slot : Slot} (h : ref.scope = Operand.scopeOf slot) :
    read ctx.swapped ref.mirrored = read ctx ref := by
  have hread (s : State) : s.read ctx.swapped ref.mirrored = s.read ctx ref := by
    unfold State.read Reference.mirrored
    rw [h]
    cases slot <;> rfl
  funext s
  exact congrArg (·, s) (hread s)

/-- A test of one role has the same outcome for the other one if they are exchanged. -/
theorem Test.evaluate_swapped (t : Test) (h : t.Impartial)
    (hown : ∀ ref, t.reference? = some ref → ∃ slot, ref.scope = Operand.scopeOf slot) :
    t.mirrored.evaluate ctx.swapped = t.evaluate ctx := by
  match t with
  | .fact slot q =>
    rw [mirrored, evaluate, evaluate]
    exact holds_swapped ctx slot fun w p => q.occasion_swapped ctx w p
  | .text slot q value =>
    have hholds (text : String) : holds ctx.swapped slot.other (fun w => q.check w text) =
        holds ctx slot fun w => q.check w text :=
      holds_swapped ctx slot fun w p hp => by cases q <;> cases hp
    simp only [mirrored, evaluate, value.evaluate_swapped ctx h, hholds]
  | .level slot q value =>
    have hholds (n : Int32) : holds ctx.swapped slot.other (fun w => q.check w n) =
        holds ctx slot fun w => q.check w n :=
      holds_swapped ctx slot fun w p hp => by cases q <;> cases hp
    simp only [mirrored, evaluate, value.evaluate_swapped ctx h, hholds]
  | .count slot q value amount =>
    have hholds (text : String) (n : Int32) : holds ctx.swapped slot.other (fun w => q.check w text n) =
        holds ctx slot fun w => q.check w text n :=
      holds_swapped ctx slot fun w p hp => by cases q <;> cases hp
    simp only [mirrored, evaluate, value.evaluate_swapped ctx h.1, amount.evaluate_swapped ctx h.2, hholds]
  | .anyTrait slot values =>
    have hholds (traits : List String) :
        holds ctx.swapped slot.other (fun _ => .creature fun c => traits.any c.hasTrait) =
          holds ctx slot fun _ => .creature fun c => traits.any c.hasTrait :=
      holds_swapped ctx slot fun w p hp => by cases hp
    simp only [mirrored, evaluate, texts_swapped ctx values h, hholds]
  | .variableIs ref expected =>
    obtain ⟨slot, hscope⟩ := hown ref rfl
    rw [mirrored, evaluate, evaluate, read_swapped ctx hscope]
  | .compareVariable ref c value =>
    obtain ⟨slot, hscope⟩ := hown ref rfl
    rw [mirrored, evaluate, evaluate, value.evaluate_swapped ctx h, integer, integer, read_swapped ctx hscope]
    rfl
  | .compareElapsed ref c time =>
    obtain ⟨slot, hscope⟩ := hown ref rfl
    rw [mirrored, evaluate, evaluate, time.evaluate_swapped ctx h, elapsed, elapsed, read_swapped ctx hscope]
    rfl
  | .oneIn n => rw [mirrored, evaluate, evaluate, n.evaluate_swapped ctx h]
  | .xInY a b => rw [mirrored, evaluate, evaluate, a.evaluate_swapped ctx h.1, b.evaluate_swapped ctx h.2]
  | .compareIntegers c l r =>
    rw [mirrored, evaluate, evaluate, l.evaluate_swapped ctx h.1, r.evaluate_swapped ctx h.2]
  | .compareTexts l r =>
    rw [mirrored, evaluate, evaluate, l.evaluate_swapped ctx h.1, r.evaluate_swapped ctx h.2]

namespace Condition

mutual

private theorem evaluate_swapped (c : Condition)
    (h : ∀ t ∈ c.tests, t.mirrored.evaluate ctx.swapped = t.evaluate ctx) :
    c.mirrored.evaluate ctx.swapped = c.evaluate ctx := by
  match c with
  | .constant b => rfl
  | .all cs => exact (evaluateAll_swapped cs h).1
  | .any cs => exact (evaluateAll_swapped cs h).2
  | .negate inner => rw [mirrored, evaluate, evaluate, evaluate_swapped inner h]
  | .test t => exact h t (List.mem_singleton.2 rfl)

private theorem evaluateAll_swapped (cs : List Condition)
    (h : ∀ t ∈ testsAll cs, t.mirrored.evaluate ctx.swapped = t.evaluate ctx) :
    evaluateAll ctx.swapped (mirroredAll cs) = evaluateAll ctx cs ∧
      evaluateAny ctx.swapped (mirroredAll cs) = evaluateAny ctx cs := by
  match cs with
  | [] => exact ⟨rfl, rfl⟩
  | c :: rest =>
    rw [testsAll, List.forall_mem_append] at h
    have hhead := evaluate_swapped c h.1
    obtain ⟨hall, hany⟩ := evaluateAll_swapped rest h.2
    refine ⟨?_, ?_⟩
    · rw [mirroredAll, evaluateAll, evaluateAll, hhead, hall]
    · rw [mirroredAll, evaluateAny, evaluateAny, hhead, hany]

end

/-- Content whose keys combine conditions or exist in two spellings is compiled exactly when the content with
all spellings exchanged is. If its values are literals, ranges of literals or variables of no actor, the one is
evaluated in a context as the other one with exchanged roles, from all states: they have the same answers and
leave the same world, the same random source and the same log. -/
theorem mirrored_answers {json : Json} (hordered : json.Ordered) (hdoubled : json.Doubled) :
    ((∃ c, load json = .ok c) ↔ ∃ c, load json.mirrored = .ok c) ∧
    ((∀ value ∈ json.argumentValues, value.Impartial) →
      ∀ c c', load json = .ok c → load json.mirrored = .ok c' →
        ∀ ctx : Context, c'.evaluate ctx.swapped = c.evaluate ctx) := by
  have hloads := load_corresponds json hordered hdoubled
  refine ⟨hloads.exists_ok_iff, ?_⟩
  intro hvalues c c' hc hc' ctx
  have hwritten := written_of_load hc
  have himpartial := hwritten.impartial hvalues
  rw [hloads.related hc hc']
  refine evaluate_swapped ctx c fun t ht => t.evaluate_swapped ctx (himpartial t ht) ?_
  intro ref href
  obtain ⟨key, -, hasked⟩ := hwritten.asked t ht
  exact hasked.scope href

/-- Being free of pain, asked for in either role; how much pain it has to be is the world's variable. -/
theorem mirrored_answers_of_pain :
    let limits : Ranged .integer :=
      .pair (.variable ⟨.global, "npctalk_var_limit", some "1"⟩ (some 1)) (.literal 5)
    let own : Condition := .negate (.test (.level .primary (.attribute .pain) limits))
    let other : Condition := .negate (.test (.level .secondary (.attribute .pain) limits))
    let ctx : Context := ⟨some (.creature default), none, .missionGoal⟩
    other.evaluate ctx.swapped = own.evaluate ctx := by
  intro limits own other ctx
  let limit : Json.Members := [("default", .int 1), ("global_val", .string "limit")]
  let range : Json := .array [.object limit, .int 5]
  let content (key : String) : Json := .object [("not", .object [(key, range)])]
  have hrange (member : String) : Ranged.load .integer range member = .ok limits := by
    have hlimit : Source.load .integer (.object limit) member =
        .ok (.variable ⟨.global, "npctalk_var_limit", some "1"⟩ (some 1)) := by
      rw [Source.load.eq_def]
      rfl
    have hfive : Source.load .integer (.int 5) member = .ok (.literal 5) := by
      rw [Json.int, Source.load.eq_def]
      rfl
    rw [Ranged.load.eq_def]
    simp only [range, hlimit, hfive]
    rfl
  have hload (key : String) (slot : Slot) (hkeys : keysOf [(key, range)] = [key])
      (hcombinator : Catalog.combinator? key = none)
      (harguments : Catalog.arguments? key = some (slot, .level (.attribute .pain))) :
      load (content key) = .ok (.negate (.test (.level slot (.attribute .pain) limits))) := by
    have hnot : keysOf [("not", Json.object [(key, range)])] = ["not"] :=
      show ["not"].filter Catalog.isKey = ["not"] by decide
    rw [load_combination hnot (show _ = some .negate by decide) rfl, loadCombined,
      load_of_level hkeys hcombinator harguments (hrange key) (if_pos rfl)]
    rfl
  have hordered : (content "u_has_pain").Ordered := by
    have hsorted : Entries.Sorted limit := List.pairwise_pair.2 (by decide)
    have hrange : range.Ordered := ⟨⟨hsorted, trivial, trivial, trivial⟩, trivial, trivial⟩
    exact ⟨List.pairwise_singleton _ _, ⟨List.pairwise_singleton _ _, hrange, trivial⟩, trivial⟩
  have hdoubled : (content "u_has_pain").Doubled := by
    unfold Json.Doubled
    decide +kernel
  have hvalues : ∀ value ∈ (content "u_has_pain").argumentValues, value.Impartial := by
    have hrange : range.Impartial := ⟨show ∀ name ∈ Source.membersOf limit, _ by decide, trivial⟩
    exact List.forall_mem_singleton.2 hrange
  have hmirrored : (content "u_has_pain").mirrored = content "npc_has_pain" := by
    rfl
  have hown := hload "u_has_pain" .primary (by decide) (by decide) (by decide)
  have hother := hload "npc_has_pain" .secondary (by decide) (by decide) (by decide)
  exact (mirrored_answers hordered hdoubled).2 hvalues own other hown (hmirrored ▸ hother) ctx

end Condition

end Parley
