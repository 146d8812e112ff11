import Mathlib.Algebra.BigOperators.Group.List.Basic
import Mathlib.Algebra.GroupWithZero.Nat
import Parley.World.Basic

/-!
Monsters and the directions that they are in. Main statement: the eight directions share out the monsters around a
square, each monster to one of them, but for those on the square itself.
-/

set_option autoImplicit false
set_option relaxedAutoImplicit false

namespace Parley

namespace Direction

variable {a b : Square}

private theorem count_all (d : Direction) : (Named.all : List Direction).count d = 1 := by
  cases d <;> decide

private theorem between?_eq_none_iff : between? a b = none ↔ b.x = a.x ∧ b.y = a.y := by
  have hx : b.x.toInt - a.x.toInt = 0 ↔ b.x = a.x := by
    rw [← Int32.toInt_inj]
    omega
  have hy : b.y.toInt - a.y.toInt = 0 ↔ b.y = a.y := by
    rw [← Int32.toInt_inj]
    omega
  simp only [between?, hx, hy]
  split
  · next h => exact ⟨fun _ => h, fun _ => rfl⟩
  · next h => exact ⟨nofun, fun hsame => absurd hsame h⟩

private theorem between?_eq_none_iff_eq (hz : b.z = a.z) : between? a b = none ↔ b = a := by
  rw [between?_eq_none_iff]
  constructor
  · rintro ⟨hx, hy⟩
    obtain ⟨x, y, z⟩ := a
    obtain ⟨x', y', z'⟩ := b
    rw [Square.mk.injEq]
    exact ⟨hx, hy, hz⟩
  · rintro rfl
    exact ⟨rfl, rfl⟩

private theorem countP_between? (a b : Square) :
    (Named.all : List Direction).countP (fun d => between? a b == some d) = if between? a b = none then 0 else 1 := by
  cases between? a b with
  | none => rfl
  | some d =>
    rw [if_neg nofun, ← count_all d, List.count_eq_countP]
    refine List.countP_congr fun d' _ => ?_
    rw [beq_iff_eq, beq_iff_eq, Option.some.injEq]
    exact eq_comm

def tally (center : Square) (p : Monster → Bool) (ms : List Monster) : Nat :=
  ((Named.all : List Direction).map fun d => ms.countP fun m => p m && between? center m.position == some d).sum

variable {center : Square} {p : Monster → Bool}

private theorem sum_map_ite (q : Direction → Bool) (ds : List Direction) :
    (ds.map fun d => if q d = true then 1 else 0).sum = ds.countP q := by
  induction ds with
  | nil => rfl
  | cons d ds ih => rw [List.map_cons, List.sum_cons, ih, List.countP_cons, Nat.add_comm]

private theorem tally_cons (m : Monster) (ms : List Monster) : tally center p (m :: ms) =
    tally center p ms + (Named.all : List Direction).countP fun d => p m && between? center m.position == some d := by
  simp only [tally, List.countP_cons]
  rw [List.sum_map_add, sum_map_ite]

private theorem tally_eq_countP (hp : ∀ m, p m = true → m.position.z = center.z) (ms : List Monster) :
    tally center p ms = ms.countP fun m => p m && m.position != center := by
  induction ms with
  | nil => rfl
  | cons m ms ih =>
    rw [tally_cons, ih, List.countP_cons]
    congr 1
    cases hm : p m with
    | false => rfl
    | true =>
      simp only [Bool.true_and, countP_between?, between?_eq_none_iff_eq (hp m hm), bne_iff_ne, ne_eq, ite_not]

end Direction

/-- The directions share out the monsters, or the hostile ones, on the level of a square and within a range of it:
each is counted in one direction, but for those on the square itself, which are counted in none. In every direction
there are at most as many hostile monsters as monsters. -/
theorem World.directions_share_out_monsters (w : World) (center : Square) (range : Int) :
    (∀ d : Direction, (Named.all : List Direction).count d = 1) ∧
    (∀ hostileOnly, ((Named.all : List Direction).map fun d => w.countMonsters center d range hostileOnly).sum =
      (w.monsters.filter fun m => (hostileOnly = true → m.hostile = true) ∧ m.position.z = center.z ∧
        m.position.distance center ≤ range ∧ m.position ≠ center).length) ∧
    ∀ d, w.countMonsters center d range true ≤ w.countMonsters center d range false := by
  refine ⟨Direction.count_all, ?_, ?_⟩
  · intro hostileOnly
    have hlevel : ∀ m : Monster, ((!hostileOnly || m.hostile) && isNear m.position center range) = true →
        m.position.z = center.z := by
      intro m hm
      have hnear : isNear m.position center range = true := (Bool.and_eq_true_iff.1 hm).2
      exact beq_iff_eq.1 (Bool.and_eq_true_iff.1 hnear).1
    refine (Direction.tally_eq_countP hlevel w.monsters).trans ?_
    rw [← List.countP_eq_length_filter]
    refine List.countP_congr fun m _ => ?_
    cases hostileOnly <;> simp [isNear, and_assoc]
  · intro d
    refine List.countP_mono_left fun m _ hm => ?_
    simp only [Bool.and_eq_true] at hm ⊢
    exact ⟨⟨rfl, hm.1.2⟩, hm.2⟩

end Parley
