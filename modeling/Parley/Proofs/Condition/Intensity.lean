import Parley.Proofs.Condition.Threshold

/-!
Conditions that ask how intense an effect is. A creature may have an effect on several parts of the body, with an
intensity on each. Main statement: the first effect that matches decides. Whether any of the effects that match is
intense enough, in whatever order they are, is answered right exactly if they all say the same.
-/

set_option autoImplicit false
set_option relaxedAutoImplicit false

namespace Parley

namespace ActiveEffect

/-- An effect of a kind, on a given part of the body if one is asked for. -/
def Matches (e : ActiveEffect) (effectId : String) (part : Option BodyPart) : Prop :=
  e.effectId = effectId ∧ (part = none ∨ e.bodyPart = part)

instance (e : ActiveEffect) (effectId : String) (part : Option BodyPart) : Decidable (e.Matches effectId part) :=
  inferInstanceAs (Decidable (_ ∧ _))

def First (effects : List ActiveEffect) (effectId : String) (part : Option BodyPart) (e : ActiveEffect) : Prop :=
  e.Matches effectId part ∧ ∃ before after, effects = before ++ e :: after ∧ ∀ b ∈ before, ¬b.Matches effectId part

def Reached (effects : List ActiveEffect) (effectId : String) (part : Option BodyPart) (n : Int32) : Prop :=
  ∃ e ∈ effects, e.Matches effectId part ∧ n ≤ e.intensity

/-- Whether all the effects that match are intense enough or none of them is. -/
def Unanimous (effects : List ActiveEffect) (effectId : String) (part : Option BodyPart) (n : Int32) : Prop :=
  ∀ e ∈ effects, ∀ e' ∈ effects, e.Matches effectId part → e'.Matches effectId part →
    n ≤ e.intensity → n ≤ e'.intensity

variable {effects effects' : List ActiveEffect} {effectId : String} {part : Option BodyPart} {n : Int32}
  {e : ActiveEffect}

private theorem find?_matches_iff :
    effects.find? (fun e => e.effectId == effectId && (part.isNone || e.bodyPart == part)) = some e ↔
      First effects effectId part e := by
  have hmatches (e : ActiveEffect) : (e.effectId == effectId && (part.isNone || e.bodyPart == part)) = true ↔
      e.Matches effectId part := by
    simp only [Matches, Bool.and_eq_true, Bool.or_eq_true, beq_iff_eq, Option.isNone_iff_eq_none]
  rw [List.find?_eq_some_iff_append, hmatches]
  simp only [First, Bool.not_eq_true', ← Bool.not_eq_true, hmatches]

private theorem First.mem (h : First effects effectId part e) : e ∈ effects := by
  obtain ⟨-, before, after, rfl, -⟩ := h
  exact List.mem_append_right _ List.mem_cons_self

private theorem first_cons (h : e.Matches effectId part) (rest : List ActiveEffect) :
    First (e :: rest) effectId part e :=
  ⟨h, [], rest, rfl, nofun⟩

private theorem First.unique {e' : ActiveEffect} (h : First effects effectId part e)
    (h' : First effects effectId part e') : e = e' :=
  Option.some.inj ((find?_matches_iff.2 h).symm.trans (find?_matches_iff.2 h'))

private theorem exists_first (hmem : e ∈ effects) (h : e.Matches effectId part) :
    ∃ e', First effects effectId part e' := by
  induction effects with
  | nil => cases hmem
  | cons first rest ih =>
    by_cases hfirst : first.Matches effectId part
    · exact ⟨first, first_cons hfirst rest⟩
    · have hrest : e ∈ rest := by
        rcases List.mem_cons.1 hmem with rfl | hrest
        · exact absurd h hfirst
        · exact hrest
      obtain ⟨e', hmatches, before, after, rfl, hbefore⟩ := ih hrest
      exact ⟨e', hmatches, first :: before, after, rfl, List.forall_mem_cons.2 ⟨hfirst, hbefore⟩⟩

private theorem first_reaches_iff_unanimous :
    (∀ effects', effects'.Perm effects →
      ((∃ e, First effects' effectId part e ∧ n ≤ e.intensity) ↔ Reached effects effectId part n)) ↔
    Unanimous effects effectId part n := by
  constructor
  · intro h e he e' he' hmatches hmatches' hreached
    -- with `e'` put first it is `e'` that decides
    obtain ⟨first, hfirst, hintense⟩ :=
      (h _ (List.perm_cons_erase he').symm).2 ⟨e, he, hmatches, hreached⟩
    rw [First.unique hfirst (first_cons hmatches' _)] at hintense
    exact hintense
  · intro hunanimous effects' hperm
    constructor
    · rintro ⟨e, hfirst, hintense⟩
      exact ⟨e, hperm.mem_iff.1 hfirst.mem, hfirst.1, hintense⟩
    · rintro ⟨e, he, hmatches, hintense⟩
      obtain ⟨first, hfirst⟩ := exists_first (hperm.mem_iff.2 he) hmatches
      exact ⟨first, hfirst, hunanimous e he first (hperm.mem_iff.1 hfirst.mem) hmatches hfirst.1 hintense⟩

end ActiveEffect

open ActiveEffect (First Reached Unanimous)

namespace Condition

variable {slot : Slot} {effectId : String} {part : Option BodyPart} {n : Int32} {ms : Json.Members}

private theorem evaluate_effect (effectId : String) (part : Option BodyPart) {ctx : Context} {s : State}
    {creature : Character} (hcreature : ctx.character? s.world slot = some creature) (hn : 0 ≤ n.toInt) :
    let outcome := evaluate ctx (.test (.count slot (.effect part) (.literal effectId) (.single (.literal n)))) s
    outcome.2 = s ∧ (outcome.1 = true ↔ ∃ e, First creature.effects effectId part e ∧ n ≤ e.intensity) := by
  refine ⟨rfl, ?_⟩
  change Check.holds ctx s.world slot (.creature fun c =>
    (c.effect? effectId part).any fun e => n == CountQuery.anyIntensity || decide (n ≤ e.intensity)) = true ↔ _
  rw [Check.holds, hcreature, Option.any_some, Option.any_eq_true, beq_eq_false_iff_ne.2 (ne_anyIntensity hn)]
  simp only [Bool.false_or, decide_eq_true_eq, Character.effect?, ActiveEffect.find?_matches_iff]

/-- A creature that bleeds a little from an arm and, stored after that, much from a leg. -/
def bleeding : Character :=
  { Character.ofName "Ann" with effects := [⟨"bleed", 1, some .armL, none⟩, ⟨"bleed", 3, some .legR, none⟩] }

def bleedingState : State :=
  ⟨World.empty.addCharacter bleeding, .scripted [], [], []⟩

def bleedingContext : Context :=
  ⟨some (.creature bleeding.id), none, .missionGoal⟩

/-- The question whether the creature bleeds with an intensity of 2. -/
def bleedsTwice : Json.Members :=
  [("intensity", .int 2), ("u_has_effect", .string "bleed")]

private theorem hasEffect_bleedsTwice : HasEffect .primary "bleed" none 2 bleedsTwice where
  effect_is := by
    have hkeys : ["intensity", "u_has_effect"].filter Catalog.isKey = ["u_has_effect"] := by decide
    exact ⟨"u_has_effect", _, by decide, ⟨hkeys, rfl⟩, Source.load_string⟩
  part_is := rfl
  intensity_is := ⟨_, rfl, 2, by decide, rfl⟩

private theorem reached_bleeding : Reached bleeding.effects "bleed" none 2 :=
  ⟨⟨"bleed", 3, some .legR, none⟩, by decide, by decide, by decide⟩

/-- A condition on the intensity of an effect compares the first effect that matches, and changes nothing. So if it is
true some effect that matches is intense enough. Conversely, of creatures with given effects in whatever order, it is
true if some effect that matches is intense enough, and else false, exactly if all that match agree. -/
theorem first_effect_decides (h : HasEffect slot effectId part n ms) (hn : 0 ≤ n.toInt) :
    ∃ c, load (.object ms) = .ok c ∧
      (∀ ctx s creature, ctx.character? s.world slot = some creature → (c.evaluate ctx s).2 = s ∧
        ((c.evaluate ctx s).1 = true ↔ ∃ e, First creature.effects effectId part e ∧ n ≤ e.intensity) ∧
        ((c.evaluate ctx s).1 = true → Reached creature.effects effectId part n)) ∧
      ∀ effects, (∀ ctx s creature, ctx.character? s.world slot = some creature → creature.effects.Perm effects →
          ((c.evaluate ctx s).1 = true ↔ Reached effects effectId part n)) ↔
        Unanimous effects effectId part n := by
  refine ⟨_, h.load, ?_, ?_⟩
  · intro ctx s creature hcreature
    obtain ⟨hstate, hanswer⟩ := evaluate_effect effectId part hcreature hn
    refine ⟨hstate, hanswer, ?_⟩
    intro htrue
    obtain ⟨e, hfirst, hintense⟩ := hanswer.1 htrue
    exact ⟨e, hfirst.mem, hfirst.1, hintense⟩
  · intro effects
    rw [← ActiveEffect.first_reaches_iff_unanimous]
    constructor
    · intro hright effects' hperm
      -- a creature with the effects in this order, whoever asks
      let creature : Character := { Character.ofName "Ann" with effects := effects' }
      let ctx : Context := ⟨some (.creature creature.id), some (.creature creature.id), .missionGoal⟩
      let s : State := ⟨World.empty.addCharacter creature, .scripted [], [], []⟩
      have hcreature : ctx.character? s.world slot = some creature := by cases slot <;> rfl
      exact (evaluate_effect effectId part hcreature hn).2.symm.trans (hright ctx s creature hcreature hperm)
    · intro hright ctx s creature hcreature hperm
      exact (evaluate_effect effectId part hcreature hn).2.trans (hright _ hperm)

/-- The bleeding of the leg is intense enough, but overlooked behind that of the arm, which is not. -/
theorem first_effect_decides_bleeding :
    HasEffect .primary "bleed" none 2 bleedsTwice ∧ ∃ c, load (.object bleedsTwice) = .ok c ∧
      (c.evaluate bleedingContext bleedingState).1 = false ∧ Reached bleeding.effects "bleed" none 2 ∧
      ¬Unanimous bleeding.effects "bleed" none 2 := by
  obtain ⟨c, hload, hfirst, horder⟩ := first_effect_decides hasEffect_bleedsTwice (by decide)
  obtain ⟨-, hanswer, -⟩ := hfirst bleedingContext bleedingState bleeding rfl
  have hfalse : (c.evaluate bleedingContext bleedingState).1 = false := by
    refine Bool.eq_false_iff.2 fun htrue => ?_
    obtain ⟨e, hfirst, hintense⟩ := hanswer.1 htrue
    have hmatches : ActiveEffect.Matches ⟨"bleed", 1, some .armL, none⟩ "bleed" none := by decide
    rw [hfirst.unique (ActiveEffect.first_cons hmatches _)] at hintense
    exact absurd hintense (by decide)
  refine ⟨hasEffect_bleedsTwice, c, hload, hfalse, reached_bleeding, ?_⟩
  intro hunanimous
  have hright := (horder bleeding.effects).2 hunanimous bleedingContext bleedingState bleeding rfl (List.Perm.refl _)
  rw [hright.2 reached_bleeding] at hfalse
  cases hfalse

/-- It is not so that a condition on the intensity of an effect is true wherever some effect that matches is intense
enough: one that is stored behind a weaker one is overlooked. -/
theorem intense_effect_overlooked :
    ¬∀ (slot : Slot) (effectId : String) (part : Option BodyPart) (n : Int32) (ms : Json.Members),
      HasEffect slot effectId part n ms → 0 ≤ n.toInt → ∃ c, load (.object ms) = .ok c ∧
        ∀ ctx s creature, ctx.character? s.world slot = some creature →
          ((c.evaluate ctx s).1 = true ↔ Reached creature.effects effectId part n) := by
  intro hclaim
  obtain ⟨c, hload, hright⟩ := hclaim .primary "bleed" none 2 bleedsTwice hasEffect_bleedsTwice (by decide)
  cases hasEffect_bleedsTwice.load.symm.trans hload
  have htrue := (hright bleedingContext bleedingState bleeding rfl).2 reached_bleeding
  revert htrue
  decide

end Condition

end Parley
