import Parley.Random

/-!
Draws from random sources. Main statements: a draw from a source whose answers lie in the ranges asked for lies
between its two bounds, in whatever order they are given; a scripted source is such a source, and draws its next
value brought between the bounds.
-/

set_option autoImplicit false
set_option relaxedAutoImplicit false

namespace Parley.Random

variable {r : Random}

private theorem toInt_clamp {low high : Int64} (h : low ≤ high) (value : Int64) :
    (clamp low high value).toInt = max low.toInt (min value.toInt high.toInt) := by
  rw [Int64.le_iff_toInt_le] at h
  unfold clamp
  split
  · rename_i hbelow
    rw [Int64.lt_iff_toInt_lt] at hbelow
    omega
  · rename_i hnotBelow
    rw [Int64.lt_iff_toInt_lt] at hnotBelow
    split
    · rename_i habove
      rw [Int64.lt_iff_toInt_lt] at habove
      omega
    · rename_i hnotAbove
      rw [Int64.lt_iff_toInt_lt] at hnotAbove
      omega

private theorem draw_eq (a b : Int64) : ∃ low high, low ≤ high ∧ (r.draw a b).1 = r.sample r.drawn low high ∧
    low.toInt = min a.toInt b.toInt ∧ high.toInt = max a.toInt b.toInt := by
  by_cases hle : a ≤ b
  · have hints := Int64.le_iff_toInt_le.1 hle
    exact ⟨a, b, hle, if_pos hle, by omega, by omega⟩
  · have hge : b ≤ a := Int64.le_of_lt (Int64.not_le.1 hle)
    have hints := Int64.le_iff_toInt_le.1 hge
    exact ⟨b, a, hge, if_neg hle, by omega, by omega⟩

theorem Lawful.draw_between (h : r.Lawful) (a b : Int64) :
    min a.toInt b.toInt ≤ (r.draw a b).1.toInt ∧ (r.draw a b).1.toInt ≤ max a.toInt b.toInt := by
  obtain ⟨low, high, hle, hdraw, hlow, hhigh⟩ := r.draw_eq a b
  obtain ⟨hleast, hmost⟩ := h r.drawn low high hle
  rw [Int64.le_iff_toInt_le] at hleast hmost
  rw [hdraw, ← hlow, ← hhigh]
  exact ⟨hleast, hmost⟩

section Scripted

variable {values : List Int64} (hsample : r.sample = (scripted values).sample)
include hsample

theorem toInt_draw_of_next {next : Int64} (hnext : values[r.drawn % values.length]? = some next) (a b : Int64) :
    (r.draw a b).1.toInt = max (min a.toInt b.toInt) (min next.toInt (max a.toInt b.toInt)) := by
  obtain ⟨low, high, hle, hdraw, hlow, hhigh⟩ := r.draw_eq a b
  have hanswer : r.sample r.drawn low high = clamp low high next := by
    rw [hsample]
    simp only [scripted, hnext]
  rw [hdraw, hanswer, toInt_clamp hle, hlow, hhigh]

theorem toInt_draw_of_nil (hvalues : values = []) (a b : Int64) :
    (r.draw a b).1.toInt = min a.toInt b.toInt := by
  obtain ⟨low, high, -, hdraw, hlow, -⟩ := r.draw_eq a b
  have hanswer : r.sample r.drawn low high = low := by
    rw [hsample, hvalues]
    rfl
  rw [hdraw, hanswer, hlow]

theorem lawful_of_scripted : r.Lawful := by
  intro k low high hle
  have hints := Int64.le_iff_toInt_le.1 hle
  rw [hsample]
  simp only [scripted]
  split
  · exact ⟨Int64.le_refl low, hle⟩
  · rw [Int64.le_iff_toInt_le, Int64.le_iff_toInt_le, toInt_clamp hle]
    omega

end Scripted

end Parley.Random
