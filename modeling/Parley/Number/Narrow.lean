/-!
Narrowing of exact integers to the widths that records and values are stored in. Arithmetic is done
on `Int`; a result is then kept, refused or clamped here.
-/

set_option autoImplicit false
set_option relaxedAutoImplicit false

namespace Parley.Narrow

/-- The 32-bit integer of value `n`, if there is one. -/
def int32? (n : Int) : Option Int32 :=
  if -0x80000000 ≤ n ∧ n < 0x80000000 then some (Int32.ofInt n) else none

/-- The 64-bit integer of value `n`, if there is one. -/
def int64? (n : Int) : Option Int64 :=
  if -0x8000000000000000 ≤ n ∧ n < 0x8000000000000000 then some (Int64.ofInt n) else none

def uint32? (n : Int) : Option UInt32 :=
  if 0 ≤ n ∧ n < 0x100000000 then some (UInt32.ofNat n.toNat) else none

def clamp32 (n : Int) : Int32 :=
  Int32.ofInt (max (-0x80000000) (min n 0x7fffffff))

theorem int32?_eq_some_iff {n : Int} {x : Int32} : int32? n = some x ↔ x.toInt = n := by
  unfold int32?
  constructor
  · intro h
    split at h
    · rename_i hn
      cases h
      exact Int32.toInt_ofInt_of_le hn.1 hn.2
    · cases h
  · rintro rfl
    rw [if_pos ⟨Int32.le_toInt x, Int32.toInt_lt x⟩, Int32.ofInt_toInt]

theorem int64?_eq_some_iff {n : Int} {x : Int64} : int64? n = some x ↔ x.toInt = n := by
  unfold int64?
  constructor
  · intro h
    split at h
    · rename_i hn
      cases h
      exact Int64.toInt_ofInt_of_le hn.1 hn.2
    · cases h
  · rintro rfl
    rw [if_pos ⟨Int64.le_toInt x, Int64.toInt_lt x⟩, Int64.ofInt_toInt]

theorem uint32?_toNat (x : UInt32) : uint32? (x.toNat : Int) = some x := by
  have h := x.toNat_lt
  unfold uint32?
  rw [if_pos ⟨by omega, by omega⟩]
  simp

@[simp] theorem int32?_toInt (x : Int32) : int32? x.toInt = some x :=
  int32?_eq_some_iff.2 rfl

@[simp] theorem int64?_toInt (x : Int64) : int64? x.toInt = some x :=
  int64?_eq_some_iff.2 rfl

@[simp] theorem clamp32_toInt (x : Int32) : clamp32 x.toInt = x := by
  have h₁ := Int32.le_toInt x
  have h₂ := Int32.toInt_lt x
  unfold clamp32
  rw [show max (-0x80000000) (min x.toInt 0x7fffffff) = x.toInt by omega, Int32.ofInt_toInt]

theorem toInt_clamp32 (n : Int) : (clamp32 n).toInt = max (-0x80000000) (min n 0x7fffffff) :=
  Int32.toInt_ofInt_of_le (by omega) (by omega)

end Parley.Narrow
