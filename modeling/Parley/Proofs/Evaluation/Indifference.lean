import Parley.Proofs.Evaluation.Pervasive
import Parley.Proofs.World.Erasure

/-!
Evaluations that cannot tell a variable that holds the empty text from one without an entry. Main statement: every
effect, value and condition does the same in two states that differ only in such entries.
-/

set_option autoImplicit false
set_option relaxedAutoImplicit false

namespace Parley

namespace Evaluation

variable {α β : Type}

/-- An evaluation that does the same in states that differ only in which empty variables have an entry. -/
def Indifferent (m : Evaluation α) : Prop :=
  ∀ s s', s.ReadsAs s' → (m s').1 = (m s).1 ∧ (m s).2.ReadsAs (m s').2

namespace Indifferent

private theorem pure (a : α) : Indifferent (Pure.pure a : Evaluation α) :=
  fun _ _ h => ⟨rfl, h⟩

private theorem bind {m : Evaluation α} {f : α → Evaluation β} (hm : Indifferent m) (hf : ∀ a, Indifferent (f a)) :
    Indifferent (m >>= f) := by
  intro s s' h
  obtain ⟨hvalue, hafter⟩ := hm s s' h
  have hrun (t : State) : (m >>= f) t = f (m t).1 (m t).2 := rfl
  rw [hrun, hrun, hvalue]
  exact hf (m s).1 _ _ hafter

private theorem ask_outline {f : World → α} (hf : ∀ w w' : World, w'.outline = w.outline → f w' = f w) :
    Indifferent (ask f) :=
  fun s s' h => ⟨hf s.world s'.world h.outline_eq, h⟩

private theorem chance (f : Random → Bool × Random) : Indifferent (chance f) := by
  intro s s' h
  change (f s'.random).1 = (f s.random).1 ∧ _
  rw [h.random_eq]
  exact ⟨rfl, { h with random_eq := congrArg (fun r => (f r).2) h.random_eq }⟩

private theorem pervasive (ctx : Context) : Pervasive ctx Indifferent where
  pure := pure
  bind := bind
  report d _ _ h := ⟨rfl, h.report d⟩
  read ref _ _ h := ⟨h.read_eq ctx ref, h⟩
  write ref text _ _ h := ⟨rfl, h.write ctx ref text⟩
  openFrame _ _ h := ⟨rfl, h.openFrame⟩
  closeFrame _ _ h := h.closeFrame
  draw a b _ _ h := h.draw a b
  ask hf := ask_outline fun _ _ h => World.eq_of_outline hf h

end Indifferent

end Evaluation

open Evaluation

variable {ctx : Context}

theorem Effect.indifferent (e : Effect) : Indifferent (e.run ctx) :=
  (Indifferent.pervasive ctx).stepwise.effect e

private theorem Operand.indifferent (o : Operand) : Indifferent (o.evaluate ctx) :=
  (Indifferent.pervasive ctx).stepwise.operand o

theorem Source.indifferent {k : Kind} (v : Source k) : Indifferent (v.evaluate ctx) :=
  (Indifferent.pervasive ctx).stepwise.source v

private theorem Ranged.indifferent {m : Measure} (v : Ranged m) : Indifferent (v.evaluate ctx) :=
  (Indifferent.pervasive ctx).stepwise.ranged v

private theorem World.holds_trust_of_outline {w w' : World} (h : w'.outline = w.outline) (slot : Slot) (n : Int32) :
    (LevelQuery.factionTrust.check w' n).holds ctx w' slot =
      (LevelQuery.factionTrust.check w n).holds ctx w slot := by
  have hfaction : ctx.faction? w' slot = ctx.faction? w slot :=
    World.eq_of_outline (fun hdev => hdev.faction?_eq ctx slot) h
  have htrusts (id : String) :
      (w'.factions.get? id).any (fun f => n ≤ f.trust) = (w.factions.get? id).any fun f => n ≤ f.trust := by
    have hoverOutline (v : World) : (v.factions.get? id).any (fun f => decide (n ≤ f.trust)) =
        (v.outline.factions.get? id).any fun f => n ≤ f.trust := by
      rw [outline, Dict.get?_mapValues, Option.any_map]
      rfl
    rw [hoverOutline, h, ← hoverOutline]
  simp only [LevelQuery.check, Check.holds, hfaction, htrusts]

private theorem Test.indifferent (t : Test) : Indifferent (t.evaluate ctx) := by
  have hcheck {slot : Slot} {check : World → Check} (hsame : ∀ {w w' : World}, w.Develops w' →
      (check w').holds ctx w' slot = (check w).holds ctx w slot) : Indifferent (holds ctx slot check) :=
    (Indifferent.pervasive ctx).ask hsame
  match t with
  | .fact slot q =>
    refine hcheck fun {w _} h => ?_
    rw [h.check_fact, h.holds_eq ctx slot (q.ofOutline_check w)]
  | .text slot q value =>
    refine value.indifferent.bind fun text => hcheck fun {w _} h => ?_
    rw [h.check_text, h.holds_eq ctx slot (q.ofOutline_check w text)]
  | .level slot q value =>
    refine value.indifferent.bind fun n => ?_
    by_cases hq : q = .factionTrust
    · subst hq
      exact .ask_outline fun w w' h => World.holds_trust_of_outline h slot n
    · refine hcheck fun {w _} h => ?_
      rw [h.check_level q hq, h.holds_eq ctx slot (q.ofOutline_check w n)]
  | .count slot q value amount =>
    refine value.indifferent.bind fun text => amount.indifferent.bind fun n => hcheck fun {w _} h => ?_
    rw [h.check_count, h.holds_eq ctx slot (q.ofOutline_check w text n)]
  | .anyTrait slot values =>
    refine ((Indifferent.pervasive ctx).texts fun v _ => v.indifferent).bind fun traits => ?_
    have houtline : (Check.creature fun c => traits.any c.hasTrait).OfOutline := fun _ => rfl
    exact hcheck fun h => h.holds_eq ctx slot houtline
  | .variableIs ref _ =>
    have hread : Indifferent (read ctx ref) := (Indifferent.pervasive ctx).read ref
    exact hread.bind fun _ => .pure _
  | .compareVariable ref _ value =>
    have hinteger : Indifferent (integer ctx ref) := (Indifferent.pervasive ctx).stepwise.integer ref
    exact value.indifferent.bind fun _ => hinteger.bind fun _ => .pure _
  | .compareElapsed ref _ time =>
    have helapsed : Indifferent (elapsed ctx ref) := (Indifferent.pervasive ctx).stepwise.elapsed ref
    exact time.indifferent.bind fun _ => helapsed.bind fun _ => .pure _
  | .oneIn n => exact n.indifferent.bind fun _ => .chance _
  | .xInY a b => exact a.indifferent.bind fun _ => b.indifferent.bind fun _ => .chance _
  | .compareIntegers _ l r => exact l.indifferent.bind fun _ => r.indifferent.bind fun _ => .pure _
  | .compareTexts l r => exact l.indifferent.bind fun _ => r.indifferent.bind fun _ => .pure _

/-- No condition can tell an empty variable from one without an entry. -/
theorem Condition.indifferent (c : Condition) : Indifferent (c.evaluate ctx) :=
  (Indifferent.pervasive ctx).condition c fun t _ => t.indifferent

end Parley
