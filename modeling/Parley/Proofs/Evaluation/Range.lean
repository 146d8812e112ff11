import Parley.Proofs.Evaluation.Resolution
import Parley.Proofs.Random
import Parley.Proofs.Value.Arithmetic

/-!
Draws from ranges. Evaluation makes draws but does not change what a random source answers to them. Main
statements: a pair draws once, between the ends that it has just evaluated, and its value is that draw; a compiled
duration is never negative.
-/

set_option autoImplicit false
set_option relaxedAutoImplicit false

namespace Parley

namespace Measure

variable {m : Measure}

/-- The number that a value of a measure is; of a duration that of its turns. -/
def amount : (m : Measure) → m.Value → Int
  | .integer, n => n.toInt
  | .duration, d => d.turns.toInt

private theorem amount_injective {a b : m.Value} (h : m.amount a = m.amount b) : a = b := by
  match m, a, b, h with
  | .integer, a, b, h => exact Int32.toInt_inj.1 h
  | .duration, ⟨a⟩, ⟨b⟩, h => exact congrArg Duration.mk (Int64.toInt_inj.1 h)

@[simp] theorem toInt_toBound (a : m.Value) : (m.toBound a).toInt = m.amount a := by
  match m, a with
  | .integer, a => exact Int32.toInt_toInt64 a
  | .duration, a => rfl

private theorem amount_ofDraw {a b : m.Value} {n : Int64} (hleast : min (m.amount a) (m.amount b) ≤ n.toInt)
    (hmost : n.toInt ≤ max (m.amount a) (m.amount b)) : m.amount (m.ofDraw n) = n.toInt := by
  match m, a, b with
  | .integer, a, b =>
    change min a.toInt b.toInt ≤ n.toInt at hleast
    change n.toInt ≤ max a.toInt b.toInt at hmost
    have hlow := Int32.le_toInt a
    have hlow' := Int32.le_toInt b
    have hhigh := Int32.toInt_lt a
    have hhigh' := Int32.toInt_lt b
    change (Narrow.clamp32 n.toInt).toInt = n.toInt
    rw [Narrow.toInt_clamp32]
    omega
  | .duration, _, _ => rfl

end Measure

namespace Evaluation

/-- An evaluation after which the random source answers as before. -/
def KeepsSource {α : Type} (m : Evaluation α) : Prop :=
  ∀ s, (m s).2.random.sample = s.random.sample

private theorem KeepsSource.pervasive (ctx : Context) : Pervasive ctx KeepsSource where
  pure _ _ := rfl
  bind hm hf s := (hf _ _).trans (hm s)
  report _ _ := rfl
  read _ _ := rfl
  write ref text s := congrArg Random.sample (s.random_write ctx ref text)
  openFrame _ := rfl
  closeFrame s := by
    change s.closeFrame.2.random.sample = s.random.sample
    unfold State.closeFrame
    split <;> rfl
  draw _ _ _ := rfl
  ask _ _ := rfl

end Evaluation

open Evaluation

namespace Ranged

variable {m : Measure} (low high : Source (.measure m)) (ctx : Context) {s : State}

/-- The values of the two ends of a pair, the lower one evaluated first. -/
def ends : Evaluation (m.Value × m.Value) := do
  let a ← low.evaluate ctx
  let b ← high.evaluate ctx
  return (a, b)

def pairDraw (s : State) : Int64 × Random :=
  let ((a, b), s) := ends low high ctx s
  s.random.draw (m.toBound a) (m.toBound b)

private theorem keepsSource_ends : KeepsSource (ends low high ctx) :=
  have H := (KeepsSource.pervasive ctx).stepwise
  H.bind (H.source low) fun _ => H.bind (H.source high) fun _ => H.pure _

private theorem lawful_ends (h : s.random.Lawful) : (ends low high ctx s).2.random.Lawful := by
  intro k least most hle
  rw [keepsSource_ends low high ctx s]
  exact h k least most hle

private theorem evaluate_pair : (pair low high).evaluate ctx s =
    (m.ofDraw (pairDraw low high ctx s).1,
      { (ends low high ctx s).2 with random := (pairDraw low high ctx s).2 }) :=
  rfl

private theorem pairDraw_between (h : s.random.Lawful) :
    let e := (ends low high ctx s).1
    min (m.amount e.1) (m.amount e.2) ≤ (pairDraw low high ctx s).1.toInt ∧
      (pairDraw low high ctx s).1.toInt ≤ max (m.amount e.1) (m.amount e.2) := by
  intro e
  have hbetween := (lawful_ends low high ctx h).draw_between (m.toBound e.1) (m.toBound e.2)
  rwa [Measure.toInt_toBound, Measure.toInt_toBound] at hbetween

private theorem amount_pair (h : s.random.Lawful) :
    m.amount ((pair low high).evaluate ctx s).1 = (pairDraw low high ctx s).1.toInt := by
  obtain ⟨hleast, hmost⟩ := pairDraw_between low high ctx h
  rw [evaluate_pair]
  exact Measure.amount_ofDraw hleast hmost

/-- A pair evaluates its lower end, then its upper end in the state after that, and then draws once. From a source
whose answers lie in the ranges asked for, its value is that draw, from the smaller end to the larger one, and so
the value of both ends if they are equal; from a scripted source it is the next value brought between the ends, or
the smaller end if there are no values. -/
theorem pair_draws_between_ends (s : State) :
    let a := low.evaluate ctx s
    let b := high.evaluate ctx a.2
    let draw := b.2.random.draw (m.toBound a.1) (m.toBound b.1)
    let r := (pair low high).evaluate ctx s
    let least := min (m.amount a.1) (m.amount b.1)
    let most := max (m.amount a.1) (m.amount b.1)
    r.2 = { b.2 with random := { b.2.random with drawn := b.2.random.drawn + 1 } } ∧
    (s.random.Lawful →
      m.amount r.1 = draw.1.toInt ∧ least ≤ m.amount r.1 ∧ m.amount r.1 ≤ most ∧ (a.1 = b.1 → r.1 = a.1)) ∧
    ∀ values, s.random.sample = (Random.scripted values).sample →
      (values = [] → m.amount r.1 = least) ∧
      ∀ next, values[b.2.random.drawn % values.length]? = some next →
        m.amount r.1 = max least (min next.toInt most) := by
  intro a b draw r least most
  refine ⟨rfl, ?_, ?_⟩
  · intro hlawful
    have hamount : m.amount r.1 = draw.1.toInt := amount_pair low high ctx hlawful
    have hbetween : least ≤ draw.1.toInt ∧ draw.1.toInt ≤ most := pairDraw_between low high ctx hlawful
    refine ⟨hamount, ?_, ?_, ?_⟩
    · rw [hamount]
      exact hbetween.1
    · rw [hamount]
      exact hbetween.2
    · intro hends
      have hsame : m.amount a.1 = m.amount b.1 := congrArg m.amount hends
      refine Measure.amount_injective ?_
      omega
  · intro values hsample
    have hafter : b.2.random.sample = (Random.scripted values).sample :=
      (keepsSource_ends low high ctx s).trans hsample
    have hamount : m.amount r.1 = draw.1.toInt :=
      amount_pair low high ctx (Random.lawful_of_scripted hsample)
    refine ⟨?_, ?_⟩
    · intro hvalues
      rw [hamount, Random.toInt_draw_of_nil hafter hvalues, Measure.toInt_toBound, Measure.toInt_toBound]
    · intro next hnext
      rw [hamount, Random.toInt_draw_of_next hafter hnext, Measure.toInt_toBound, Measure.toInt_toBound]

/-- A pair whose lower end writes the variable that is its upper end has the ends 3 and 9, between which the next
value of the source lies. A pair of equal ends is that value, drawn from a source without values. -/
theorem pair_draws_between_new_ends :
    let n : Reference := ⟨.global, "npctalk_var_n", none⟩
    let effects : List Effect := [.assign n (.operand (.constant 9)), .report (.operand (.constant 3))]
    let low : Source .integer := .computed (.sequence effects) none
    let high : Source .integer := .variable n (some 0)
    let four : Source .integer := .literal 4
    let ctx : Context := ⟨none, none, .missionGoal⟩
    let s (values : List Int64) : State := ⟨.empty, .scripted values, [], []⟩
    let r := ((pair low high).evaluate ctx (s [7])).1
    let r' := ((pair four four).evaluate ctx (s [])).1
    (∀ values, (s values).random.Lawful) ∧ 3 ≤ r.toInt ∧ r.toInt ≤ 9 ∧ r.toInt = 7 ∧ r' = 4 ∧ r'.toInt = 4 := by
  intro n effects low high four ctx s r r'
  have hlawful (values : List Int64) : (s values).random.Lawful := Random.lawful_of_scripted rfl
  have hlow : (low.evaluate ctx (s [7])).1 = 3 := by decide
  have hhigh : (high.evaluate ctx (low.evaluate ctx (s [7])).2).1 = 9 := by decide
  obtain ⟨-, hbetween, hscripted⟩ := pair_draws_between_ends low high ctx (s [7])
  obtain ⟨-, hleast, hmost, -⟩ := hbetween (hlawful [7])
  have hnext := (hscripted [7] rfl).2 7 (by decide)
  rw [hlow, hhigh] at hleast hmost hnext
  obtain ⟨-, hequal, hempty⟩ := pair_draws_between_ends four four ctx (s [])
  have hsame : r' = 4 := (hequal (hlawful [])).2.2.2 rfl
  exact ⟨hlawful, hleast, hmost, hnext, hsame, (hempty [] rfl).1 rfl⟩

end Ranged

/-- A duration for which nothing negative is written. -/
def Source.Nonnegative : Source .duration → Prop
  | .literal d => 0 ≤ d.turns.toInt
  | .variable _ default | .computed _ default => ∀ d, default = some d → 0 ≤ d.turns.toInt

section Durations

variable {ctx : Context} {s : State} {json : Json} {member : String}

private theorem Kind.IsLiteral.nonnegative {d : Duration} (h : Kind.IsLiteral .duration json d) :
    0 ≤ d.turns.toInt := by
  have hsign := h.2
  rw [Int64.lt_iff_toInt_lt] at hsign
  exact Int.not_lt.1 hsign

private theorem Resolves.nonnegative {text : String} {default : Option Kind.duration.Value}
    {outcome : Kind.duration.Value × State}
    (h : Resolves .duration text default s outcome) (hdefault : ∀ d, default = some d → 0 ≤ d.turns.toInt) :
    0 ≤ outcome.1.turns.toInt := by
  have hzero : 0 ≤ Duration.zero.turns.toInt := by decide
  cases h with
  | default empty => exact hdefault _ rfl
  | missing | unreadable => exact hzero
  | read nonempty is_text => exact is_text.2.1

private theorem Source.Nonnegative.evaluate {v : Source .duration} (h : v.Nonnegative) :
    0 ≤ (v.evaluate ctx s).1.turns.toInt := by
  match v with
  | .literal d => exact h
  | .variable ref default => exact (resolves_variable ref default).nonnegative h
  | .computed effect default => exact (resolves_computed effect default).nonnegative h

private theorem Source.nonnegative_of_load {v : Source .duration} (h : Source.load .duration json member = .ok v) :
    v.Nonnegative := by
  by_cases hobject : ∃ ms, json = .object ms
  · obtain ⟨ms, rfl⟩ := hobject
    obtain ⟨name, default, -, hdefault, hgiven⟩ := load_object_eq_ok_iff.1 h
    have hnonnegative : ∀ d, default = some d → 0 ≤ d.turns.toInt := by
      rintro d rfl
      rcases loadDefault_eq_ok_iff.1 hdefault with ⟨-, hnone⟩ | ⟨written, value, -, hliteral, hvalue⟩
      · cases hnone
      · cases hvalue
        exact hliteral.nonnegative
    cases hgiven with
    | arithmetic | effect | reference => exact hnonnegative
  · have hliteral := (load_literal_eq_ok_iff fun ms hms => hobject ⟨ms, hms⟩).1 h
    obtain ⟨d, hd, rfl⟩ := hliteral
    exact hd.nonnegative

/-- A duration that content gives is never negative: not one that is a literal, is read from a variable or is
computed, and not one drawn from a range of such, if the source answers in the ranges asked for. -/
theorem Ranged.duration_never_negative :
    (∀ json member (v : Source .duration), Source.load .duration json member = .ok v →
      ∀ ctx s, 0 ≤ (v.evaluate ctx s).1.turns.toInt) ∧
    ∀ json member (v : Ranged .duration), Ranged.load .duration json member = .ok v →
      ∀ ctx s, s.random.Lawful → 0 ≤ (v.evaluate ctx s).1.turns.toInt := by
  have hsource : ∀ json member (v : Source .duration), Source.load .duration json member = .ok v →
      ∀ ctx s, 0 ≤ (v.evaluate ctx s).1.turns.toInt :=
    fun json member v h ctx s => (Source.nonnegative_of_load h).evaluate
  refine ⟨hsource, ?_⟩
  intro json member v h ctx s hlawful
  rcases Ranged.load_eq_ok_iff.1 h with ⟨value, hvalue, rfl⟩ | ⟨low, high, a, b, -, hlow, hhigh, rfl⟩
  · exact hsource json member value hvalue ctx s
  · have ha : 0 ≤ (a.evaluate ctx s).1.turns.toInt := hsource low member a hlow ctx s
    have hb : 0 ≤ (b.evaluate ctx (a.evaluate ctx s).2).1.turns.toInt := hsource high member b hhigh ctx _
    have hleast : min (a.evaluate ctx s).1.turns.toInt (b.evaluate ctx (a.evaluate ctx s).2).1.turns.toInt ≤
        (pairDraw a b ctx s).1.toInt := (pairDraw_between a b ctx hlawful).1
    have hamount : ((pair a b).evaluate ctx s).1.turns.toInt = (pairDraw a b ctx s).1.toInt :=
      amount_pair a b ctx hlawful
    rw [hamount]
    omega

/-- A computed -5 stands for no duration, so that the pair of it and an hour starts at zero. -/
theorem Ranged.duration_never_negative_from_difference :
    let difference : Json := .object [("arithmetic", .array [.object [("const", .int (-5))]])]
    let low : Source .duration := .computed (.report (.operand (.constant (-5)))) none
    let range : Ranged .duration := .pair low (.literal ⟨3600⟩)
    let ctx : Context := ⟨none, none, .missionGoal⟩
    let s : State := ⟨.empty, .scripted [-7], [], []⟩
    Source.load .duration difference "time" = .ok low ∧ 0 ≤ (low.evaluate ctx s).1.turns.toInt ∧
      Ranged.load .duration (.array [difference, .string "1 h"]) "time" = .ok range ∧ s.random.Lawful ∧
      0 ≤ (range.evaluate ctx s).1.turns.toInt := by
  intro difference low range ctx s
  have hoperand : Operand.load (.object [("const", .int (-5))]) "arithmetic" = .ok (.constant (-5)) :=
    Operand.load_eq_ok_iff.2 (.inl ⟨_, rfl, rfl⟩)
  have hlow : Source.load .duration difference "time" = .ok low := by
    refine Source.load_object_eq_ok_iff.2 ⟨"arithmetic", none, by decide, rfl, ?_⟩
    exact .arithmetic rfl (Effect.arithmetic_eq_ok_iff.2 (.alone hoperand))
  have hhour : Source.load .duration (.string "1 h") "time" = .ok (.literal ⟨3600⟩) :=
    (Source.load_literal_eq_ok_iff (by rintro ms ⟨⟩)).2 ⟨⟨3600⟩, ⟨.inl ⟨"1 h", rfl, by decide⟩, by decide⟩, rfl⟩
  have hrange : Ranged.load .duration (.array [difference, .string "1 h"]) "time" = .ok range :=
    Ranged.load_eq_ok_iff.2 (.inr ⟨_, _, low, _, rfl, hlow, hhour, rfl⟩)
  have hlawful : s.random.Lawful := Random.lawful_of_scripted rfl
  obtain ⟨hsource, hranged⟩ := duration_never_negative
  exact ⟨hlow, hsource _ _ low hlow ctx s, hrange, hlawful, hranged _ _ range hrange ctx s hlawful⟩

end Durations

end Parley
