/-!
Places on the map: squares, the overmap tiles that they lie in, and distances between them.
-/

set_option autoImplicit false
set_option relaxedAutoImplicit false

namespace Parley

def chebyshev (dx dy : Int) : Nat :=
  max dx.natAbs dy.natAbs

structure Square where
  x : Int32
  y : Int32
  z : Int32
  deriving DecidableEq, Inhabited

structure Tile where
  x : Int32
  y : Int32
  z : Int32
  deriving DecidableEq, Inhabited

namespace Square

def order : Square → Square → Ordering :=
  compareLex (compareOn x) (compareLex (compareOn y) (compareOn z))

private theorem order_eq_then (a b : Square) :
    order a b = (compare a.x b.x).then ((compare a.y b.y).then (compare a.z b.z)) :=
  rfl

instance : Ord Square := ⟨order⟩

instance : Std.TransOrd Square := inferInstanceAs (Std.TransCmp
  (compareLex (compareOn x) (compareLex (compareOn y) (compareOn z))))

instance : Std.LawfulEqOrd Square where
  compare_self {a} := by
    change order a a = .eq
    simp only [order_eq_then, Std.compare_self, Ordering.then_eq]
  eq_of_compare {a b} h := by
    obtain ⟨x, y, z⟩ := a
    obtain ⟨x', y', z'⟩ := b
    change order _ _ = .eq at h
    simp only [order_eq_then, Ordering.then_eq_eq] at h
    have hx : x = x' := Std.LawfulEqOrd.eq_of_compare h.1
    have hy : y = y' := Std.LawfulEqOrd.eq_of_compare h.2.1
    have hz : z = z' := Std.LawfulEqOrd.eq_of_compare h.2.2
    rw [hx, hy, hz]

def distance (a b : Square) : Nat :=
  chebyshev (a.x.toInt - b.x.toInt) (a.y.toInt - b.y.toInt)

def tile (s : Square) : Tile :=
  ⟨.ofInt (s.x.toInt / 24), .ofInt (s.y.toInt / 24), s.z⟩

end Square

namespace Tile

def order : Tile → Tile → Ordering :=
  compareLex (compareOn x) (compareLex (compareOn y) (compareOn z))

private theorem order_eq_then (a b : Tile) :
    order a b = (compare a.x b.x).then ((compare a.y b.y).then (compare a.z b.z)) :=
  rfl

instance : Ord Tile := ⟨order⟩

instance : Std.TransOrd Tile := inferInstanceAs (Std.TransCmp
  (compareLex (compareOn x) (compareLex (compareOn y) (compareOn z))))

instance : Std.LawfulEqOrd Tile where
  compare_self {a} := by
    change order a a = .eq
    simp only [order_eq_then, Std.compare_self, Ordering.then_eq]
  eq_of_compare {a b} h := by
    obtain ⟨x, y, z⟩ := a
    obtain ⟨x', y', z'⟩ := b
    change order _ _ = .eq at h
    simp only [order_eq_then, Ordering.then_eq_eq] at h
    have hx : x = x' := Std.LawfulEqOrd.eq_of_compare h.1
    have hy : y = y' := Std.LawfulEqOrd.eq_of_compare h.2.1
    have hz : z = z' := Std.LawfulEqOrd.eq_of_compare h.2.2
    rw [hx, hy, hz]

def distance (a b : Tile) : Nat :=
  chebyshev (a.x.toInt - b.x.toInt) (a.y.toInt - b.y.toInt)

/-- The integers from `-range` to `range`; only 0 for a negative range. -/
def offsets (range : Int) : List Int :=
  (List.range (2 * range.toNat + 1)).map fun i : Nat => (i : Int) - range.toNat

def shift (t : Tile) (dx dy : Int) : Tile :=
  ⟨.ofInt (t.x.toInt + dx), .ofInt (t.y.toInt + dy), t.z⟩

/-- The tiles of the same level at most `range` away, column by column. -/
def within (t : Tile) (range : Int) : List Tile :=
  (offsets range).flatMap fun dx => (offsets range).map fun dy => t.shift dx dy

def anyFrom (p : Int → Bool) (first : Int) : Nat → Bool
  | 0 => false
  | count + 1 => p first || anyFrom p (first + 1) count

def anyOffset (range : Int) (p : Int → Bool) : Bool :=
  anyFrom p (-(range.toNat : Int)) (2 * range.toNat + 1)

/-- Whether a tile of the same level at most `range` away passes a test. Looks no further than the
first one that does. -/
def anyWithin (t : Tile) (range : Int) (p : Tile → Bool) : Bool :=
  anyOffset range fun dx => anyOffset range fun dy => p (t.shift dx dy)

private theorem anyFrom_eq_any (p : Int → Bool) (first : Int) (count : Nat) :
    anyFrom p first count = (List.range count).any fun i => p (first + (i : Int)) := by
  induction count generalizing first with
  | zero => rfl
  | succ count ih =>
    have h : (fun i : Nat => p (first + 1 + (i : Int))) = fun i => p (first + (i.succ : Int)) := by
      funext i
      congr 1
      omega
    rw [anyFrom, ih, h, List.range_succ_eq_map, List.any_cons, List.any_map]
    congr 2
    simp

private theorem anyOffset_eq_any (range : Int) (p : Int → Bool) :
    anyOffset range p = (offsets range).any p := by
  have h : (fun i : Nat => p (-(range.toNat : Int) + (i : Int))) =
      p ∘ fun i : Nat => (i : Int) - range.toNat := by
    funext i
    simp only [Function.comp]
    congr 1
    omega
  rw [anyOffset, anyFrom_eq_any, offsets, List.any_map, h]

theorem anyWithin_eq_any (t : Tile) (range : Int) (p : Tile → Bool) :
    t.anyWithin range p = (t.within range).any p := by
  simp only [anyWithin, anyOffset_eq_any, within, List.any_flatMap, List.any_map]
  rfl

end Tile

end Parley
