import Parley.Proofs.Random

/-!
Whole runs on a scripted source. Main statement: however draws and chances follow one another, the source moves on
by one value for each draw and each chance that is neither impossible nor certain, and by none for the others; every
answer is the one that the value at its place gives, brought between the bounds.
-/

set_option autoImplicit false
set_option relaxedAutoImplicit false

namespace Parley

inductive Request where
  | draw (a b : Int64)
  | oneIn (n : Int64)
  | xInY (x y : Int64)

inductive Answer where
  | number (value : Int64)
  | verdict (holds : Bool)
deriving DecidableEq

namespace Request

def draws : Request → Bool
  | draw _ _ => true
  | oneIn n => 2 ≤ n.toInt
  | xInY x y => 0 < x.toInt ∧ x.toInt < y.toInt

def perform (r : Random) : Request → Answer × Random
  | draw a b => ((.number (r.draw a b).1), (r.draw a b).2)
  | oneIn n => ((.verdict (r.oneIn n).1), (r.oneIn n).2)
  | xInY x y => ((.verdict (r.xInY x y).1), (r.xInY x y).2)

/-- The answers to requests made one after the other, and the source after them. -/
def performAll (r : Random) : List Request → List Answer × Random
  | [] => ([], r)
  | request :: requests =>
    let (answer, r) := request.perform r
    let (answers, r) := performAll r requests
    (answer :: answers, r)

end Request

/-- What draw `k` of a script is between two bounds, in whatever order they are given: the value at that place of
the endlessly repeated list, brought between them; the smaller bound if the list is empty. -/
def scriptedDraw (values : List Int64) (k : Nat) (a b : Int) : Int :=
  match values[k % values.length]? with
  | none => min a b
  | some value => max (min a b) (min value.toInt (max a b))

/-- `Prescribes values k request answer`: the answer to a request made after `k` draws from a script. -/
inductive Prescribes (values : List Int64) (k : Nat) : Request → Answer → Prop
  | draw {a b value : Int64} (hvalue : value.toInt = scriptedDraw values k a.toInt b.toInt) :
      Prescribes values k (.draw a b) (.number value)
  | oneInCertain {n : Int64} (hn : n.toInt ≤ 1) : Prescribes values k (.oneIn n) (.verdict true)
  | oneIn {n : Int64} (hn : 2 ≤ n.toInt) :
      Prescribes values k (.oneIn n) (.verdict (scriptedDraw values k 0 (n.toInt - 1) = 0))
  | xInYImpossible {x y : Int64} (hx : x.toInt ≤ 0) : Prescribes values k (.xInY x y) (.verdict false)
  | xInYCertain {x y : Int64} (hx : 0 < x.toInt) (hxy : y.toInt ≤ x.toInt) :
      Prescribes values k (.xInY x y) (.verdict true)
  | xInY {x y : Int64} (hx : 0 < x.toInt) (hxy : x.toInt < y.toInt) :
      Prescribes values k (.xInY x y) (.verdict (scriptedDraw values k 1 y.toInt ≤ x.toInt))

theorem Prescribes.unique {values : List Int64} {k : Nat} {request : Request} {first second : Answer}
    (hfirst : Prescribes values k request first) (hsecond : Prescribes values k request second) : first = second := by
  cases hfirst <;> cases hsecond
  case draw.draw _ _ hvalue _ hvalue' =>
    exact congrArg Answer.number (Int64.toInt_inj.1 (hvalue.trans hvalue'.symm))
  all_goals first | rfl | omega

namespace Random

def scriptedAt (values : List Int64) (k : Nat) : Random :=
  { scripted values with drawn := k }

section ScriptedAt

variable (values : List Int64) (k : Nat)

private theorem toInt_draw_scriptedAt (a b : Int64) :
    ((scriptedAt values k).draw a b).1.toInt = scriptedDraw values k a.toInt b.toInt := by
  have hsample : (scriptedAt values k).sample = (scripted values).sample := rfl
  unfold scriptedDraw
  split
  case h_1 hnone =>
    have hlength : values.length ≤ k % values.length := List.getElem?_eq_none_iff.1 hnone
    have hempty : values = [] := by
      rcases Nat.eq_zero_or_pos values.length with hzero | hpos
      · exact List.length_eq_zero_iff.1 hzero
      · have hmod := Nat.mod_lt k hpos
        omega
    exact toInt_draw_of_nil hsample hempty a b
  case h_2 value hvalue =>
    exact toInt_draw_of_next hsample hvalue a b

private theorem draw_comm (r : Random) (a b : Int64) : r.draw a b = r.draw b a := by
  unfold draw
  by_cases hab : a ≤ b <;> by_cases hba : b ≤ a
  · have heq : a = b := Int64.le_antisymm hab hba
    rw [heq]
  · rw [if_pos hab, if_neg hba]
  · rw [if_neg hab, if_pos hba]
  · have hlt := Int64.not_le.1 hab
    exact absurd (Int64.le_of_lt hlt) hba

/-- A chance that has been taken with `x` is taken with more. -/
theorem xInY_mono {r : Random} {x more y : Int64} (hmore : x ≤ more) (htaken : (r.xInY x y).1 = true) :
    (r.xInY more y).1 = true := by
  have hints := Int64.le_iff_toInt_le.1 hmore
  unfold xInY at htaken ⊢
  by_cases hx : x ≤ 0
  · rw [if_pos hx] at htaken
    cases htaken
  · have hpositive : ¬ more ≤ 0 := fun h => hx (Int64.le_trans hmore h)
    rw [if_neg hx] at htaken
    rw [if_neg hpositive]
    by_cases hcertain : y ≤ more
    · rw [if_pos hcertain]
    · have huncertain : ¬ y ≤ x := fun h => hcertain (Int64.le_trans h hmore)
      rw [if_neg huncertain] at htaken
      rw [if_neg hcertain]
      simp only [decide_eq_true_eq] at htaken ⊢
      exact Int64.le_trans htaken hmore

private theorem perform_oneIn_scriptedAt (n : Int64) :
    Prescribes values k (.oneIn n) (.verdict ((scriptedAt values k).oneIn n).1) ∧
      ((scriptedAt values k).oneIn n).2 = scriptedAt values (k + if 2 ≤ n.toInt then 1 else 0) := by
  by_cases hn : n ≤ 1
  · have hint : n.toInt ≤ 1 := Int64.le_iff_toInt_le.1 hn
    have hcertain : ¬ 2 ≤ n.toInt := by omega
    rw [oneIn, if_pos hn, if_neg hcertain]
    exact ⟨.oneInCertain hint, rfl⟩
  · have hint : ¬ n.toInt ≤ 1 := fun h => hn (Int64.le_iff_toInt_le.2 h)
    have huncertain : 2 ≤ n.toInt := by omega
    have hmost := n.toInt_lt
    have hbound : (n - 1).toInt = n.toInt - 1 := by
      rw [Int64.toInt_sub]
      apply Int.bmod_eq_of_le <;> simp only [Int64.toInt_one] <;> omega
    have hdraw := toInt_draw_scriptedAt values k 0 (n - 1)
    rw [hbound, Int64.toInt_zero] at hdraw
    have hverdict : (((scriptedAt values k).draw 0 (n - 1)).1 == 0) =
        decide (scriptedDraw values k 0 (n.toInt - 1) = 0) := by
      rw [Bool.eq_iff_iff, beq_iff_eq, decide_eq_true_iff, ← hdraw, ← Int64.toInt_zero, Int64.toInt_inj]
    rw [oneIn, if_neg hn, if_pos huncertain]
    refine ⟨?_, rfl⟩
    simp only [hverdict]
    exact .oneIn huncertain

private theorem perform_xInY_scriptedAt (x y : Int64) :
    Prescribes values k (.xInY x y) (.verdict ((scriptedAt values k).xInY x y).1) ∧
      ((scriptedAt values k).xInY x y).2 =
        scriptedAt values (k + if 0 < x.toInt ∧ x.toInt < y.toInt then 1 else 0) := by
  have hzero : x ≤ 0 ↔ x.toInt ≤ 0 := Int64.le_iff_toInt_le
  have hle : y ≤ x ↔ y.toInt ≤ x.toInt := Int64.le_iff_toInt_le
  by_cases hx : x.toInt ≤ 0
  · have hstays : ¬ (0 < x.toInt ∧ x.toInt < y.toInt) := by omega
    rw [xInY, if_pos (hzero.2 hx), if_neg hstays]
    exact ⟨.xInYImpossible hx, rfl⟩
  · have hpositive : 0 < x.toInt := by omega
    by_cases hcertain : y.toInt ≤ x.toInt
    · have hstays : ¬ (0 < x.toInt ∧ x.toInt < y.toInt) := by omega
      rw [xInY, if_neg (mt hzero.1 hx), if_pos (hle.2 hcertain), if_neg hstays]
      exact ⟨.xInYCertain hpositive hcertain, rfl⟩
    · have hmoves : 0 < x.toInt ∧ x.toInt < y.toInt := by omega
      have hdraw := toInt_draw_scriptedAt values k 1 y
      rw [Int64.toInt_one] at hdraw
      have hverdict : decide (((scriptedAt values k).draw 1 y).1 ≤ x) =
          decide (scriptedDraw values k 1 y.toInt ≤ x.toInt) := by
        rw [decide_eq_decide, ← hdraw]
        exact Int64.le_iff_toInt_le
      rw [xInY, if_neg (mt hzero.1 hx), if_neg (mt hle.1 hcertain), if_pos hmoves]
      refine ⟨?_, rfl⟩
      simp only [hverdict]
      exact .xInY hpositive hmoves.2

private theorem perform_scriptedAt (request : Request) :
    Prescribes values k request (request.perform (scriptedAt values k)).1 ∧
      (request.perform (scriptedAt values k)).2 = scriptedAt values (k + if request.draws then 1 else 0) := by
  cases request with
  | draw a b => exact ⟨.draw (toInt_draw_scriptedAt values k a b), rfl⟩
  | oneIn n =>
    simp only [Request.draws, decide_eq_true_eq]
    exact perform_oneIn_scriptedAt values k n
  | xInY x y =>
    simp only [Request.draws, decide_eq_true_eq]
    exact perform_xInY_scriptedAt values k x y

end ScriptedAt

section Runs

variable (r : Random) (before after : List Request) (request : Request)

private theorem performAll_cons : Request.performAll r (request :: after) =
    ((request.perform r).1 :: (Request.performAll (request.perform r).2 after).1,
      (Request.performAll (request.perform r).2 after).2) :=
  rfl

private theorem performAll_append : Request.performAll r (before ++ after) =
    ((Request.performAll r before).1 ++ (Request.performAll (Request.performAll r before).2 after).1,
      (Request.performAll (Request.performAll r before).2 after).2) := by
  induction before generalizing r with
  | nil => rfl
  | cons first before ih => simp only [List.cons_append, performAll_cons, ih]

private theorem length_performAll : (Request.performAll r before).1.length = before.length := by
  induction before generalizing r with
  | nil => rfl
  | cons first before ih => simp only [performAll_cons, List.length_cons, ih]

private theorem answer_performAll : (Request.performAll r (before ++ request :: after)).1[before.length]? =
    some (request.perform (Request.performAll r before).2).1 := by
  have hlength := length_performAll r before
  rw [performAll_append, performAll_cons, ← hlength]
  simp only [List.getElem?_append_right (Nat.le_refl _), Nat.sub_self, List.getElem?_cons_zero]

end Runs

/-- A run moves a script on by the draws that its requests need. -/
theorem performAll_scriptedAt (values : List Int64) (k : Nat) (requests : List Request) :
    (Request.performAll (scriptedAt values k) requests).2 = scriptedAt values (k + requests.countP Request.draws) := by
  induction requests generalizing k with
  | nil => rfl
  | cons request requests ih =>
    have hstep := (perform_scriptedAt values k request).2
    simp only [performAll_cons]
    rw [hstep, ih, List.countP_cons]
    congr 1
    omega

/-- A script replays exactly: after any run it has moved on by the draws that were needed, each answer is the
prescribed one for the draws before it, and at any place of the script the bounds of a draw may be exchanged and a
chance that is taken is taken with more. -/
theorem script_replays (values : List Int64) (requests : List Request) :
    (Request.performAll (scripted values) requests).2 = scriptedAt values (requests.countP Request.draws) ∧
    (Request.performAll (scripted values) requests).1.length = requests.length ∧
    (∀ before request after, requests = before ++ request :: after →
      ∃ answer, (Request.performAll (scripted values) requests).1[before.length]? = some answer ∧
        Prescribes values (before.countP Request.draws) request answer) ∧
    (∀ k a b, (scriptedAt values k).draw a b = (scriptedAt values k).draw b a) ∧
    ∀ k x more y, x ≤ more → ((scriptedAt values k).xInY x y).1 = true →
      ((scriptedAt values k).xInY more y).1 = true := by
  have hstart : scripted values = scriptedAt values 0 := rfl
  have hrun (requests : List Request) :
      (Request.performAll (scripted values) requests).2 = scriptedAt values (requests.countP Request.draws) := by
    rw [hstart, performAll_scriptedAt, Nat.zero_add]
  refine ⟨hrun requests, length_performAll _ requests, ?_, ?_, ?_⟩
  · rintro before request after rfl
    have hanswer := (perform_scriptedAt values (before.countP Request.draws) request).1
    rw [← hrun before] at hanswer
    exact ⟨_, answer_performAll _ before after request, hanswer⟩
  · intro k a b
    exact draw_comm _ a b
  · intro k x more y hmore htaken
    exact xInY_mono hmore htaken

/-- One in one needs no draw, so the draw after it is the first of the script, and one in three the second. -/
theorem script_replays_after_certain_chance :
    (∃ answer, (Request.performAll (scripted [7, -2]) [.oneIn 1, .draw 9 0, .oneIn 3]).1[2]? = some answer ∧
      Prescribes [7, -2] 1 (.oneIn 3) answer) ∧
    ((scriptedAt [7, -2] 0).xInY 8 9).1 = true := by
  obtain ⟨-, -, hanswers, -, hmono⟩ := script_replays [7, -2] [.oneIn 1, .draw 9 0, .oneIn 3]
  exact ⟨hanswers [.oneIn 1, .draw 9 0] (.oneIn 3) [] rfl, hmono 0 7 8 9 (by decide) (by decide)⟩

end Random

end Parley
