import Mathlib.Data.List.Nodup
import Parley.Place.Point

/-!
The tiles around a tile and the squares that they hold. Main statement: around the tile of a square each tile within a
range is listed once, together they hold every square at most that many tile widths away, and no square that is
another tile width away.
-/

set_option autoImplicit false
set_option relaxedAutoImplicit false

namespace Parley

private theorem chebyshev_le_iff {dx dy : Int} {n : Nat} : chebyshev dx dy ≤ n ↔ dx.natAbs ≤ n ∧ dy.natAbs ≤ n :=
  Nat.max_le

namespace Tile

variable {t u : Tile} {range : Int} {dx dy : Int}

private theorem mem_offsets {d : Int} : d ∈ offsets range ↔ d.natAbs ≤ range.toNat := by
  simp only [offsets, List.mem_map, List.mem_range]
  constructor
  · rintro ⟨i, hi, rfl⟩
    omega
  · intro hd
    exact ⟨(d + range.toNat).toNat, by omega, by omega⟩

private theorem nodup_offsets : (offsets range).Nodup := by
  refine List.Nodup.map ?_ List.nodup_range
  intro i j hij
  have hcast : (i : Int) - range.toNat = (j : Int) - range.toNat := hij
  omega

private theorem offsets_of_nonpositive (h : range ≤ 0) : offsets range = [0] := by
  have hzero : range.toNat = 0 := Int.toNat_of_nonpos h
  rw [offsets, hzero]
  rfl

private theorem offsets_subset {range' : Int} (h : range ≤ range') : offsets range ⊆ offsets range' := by
  intro d hd
  have hle : range.toNat ≤ range'.toNat := Int.toNat_le_toNat h
  rw [mem_offsets] at hd ⊢
  exact Nat.le_trans hd hle

private theorem shift_zero : t.shift 0 0 = t := by
  simp only [shift, Int.add_zero, Int32.ofInt_toInt]

private theorem mem_within : u ∈ t.within range ↔ ∃ dx ∈ offsets range, ∃ dy ∈ offsets range, t.shift dx dy = u := by
  simp only [within, List.mem_flatMap, List.mem_map]

theorem mem_within_self : t ∈ t.within range := by
  have hzero : (0 : Int) ∈ offsets range := mem_offsets.2 (Nat.zero_le _)
  exact mem_within.2 ⟨0, hzero, 0, hzero, shift_zero⟩

theorem within_of_nonpositive (h : range ≤ 0) : t.within range = [t] := by
  rw [within, offsets_of_nonpositive h]
  exact congrArg ([·]) shift_zero

theorem within_subset {range' : Int} (h : range ≤ range') : t.within range ⊆ t.within range' := by
  intro u hu
  obtain ⟨dx, hdx, dy, hdy, hshift⟩ := mem_within.1 hu
  exact mem_within.2 ⟨dx, offsets_subset h hdx, dy, offsets_subset h hdy, hshift⟩

/-- Room for a range around a tile: no coordinate within the range is beyond the 32 bits that it is stored in. -/
structure HasRoom (t : Tile) (range : Int) : Prop where
  west : -0x80000000 ≤ t.x.toInt - range.toNat
  east : t.x.toInt + range.toNat < 0x80000000
  north : -0x80000000 ≤ t.y.toInt - range.toNat
  south : t.y.toInt + range.toNat < 0x80000000

namespace HasRoom

private theorem toInt_shift (h : t.HasRoom range) (hdx : dx ∈ offsets range) (hdy : dy ∈ offsets range) :
    (t.shift dx dy).x.toInt = t.x.toInt + dx ∧ (t.shift dx dy).y.toInt = t.y.toInt + dy := by
  obtain ⟨west, east, north, south⟩ := h
  rw [mem_offsets] at hdx hdy
  constructor
  · exact Int32.toInt_ofInt_of_le (by omega) (by omega)
  · exact Int32.toInt_ofInt_of_le (by omega) (by omega)

/-- Where there is room the tiles within a range are those at that distance. -/
theorem mem_within_iff (h : t.HasRoom range) :
    u ∈ t.within range ↔ u.z = t.z ∧ t.distance u ≤ range.toNat := by
  rw [mem_within]
  constructor
  · rintro ⟨dx, hdx, dy, hdy, rfl⟩
    obtain ⟨hx, hy⟩ := h.toInt_shift hdx hdy
    rw [mem_offsets] at hdx hdy
    refine ⟨rfl, chebyshev_le_iff.2 ?_⟩
    rw [hx, hy]
    omega
  · rintro ⟨hz, hdistance⟩
    obtain ⟨hdx, hdy⟩ := chebyshev_le_iff.1 hdistance
    have hx : u.x.toInt - t.x.toInt ∈ offsets range := mem_offsets.2 (by omega)
    have hy : u.y.toInt - t.y.toInt ∈ offsets range := mem_offsets.2 (by omega)
    refine ⟨_, hx, _, hy, ?_⟩
    rw [shift, show t.x.toInt + (u.x.toInt - t.x.toInt) = u.x.toInt by omega,
      show t.y.toInt + (u.y.toInt - t.y.toInt) = u.y.toInt by omega, Int32.ofInt_toInt, Int32.ofInt_toInt, ← hz]

/-- Where there is room no tile is listed twice. -/
theorem nodup_within (h : t.HasRoom range) : (t.within range).Nodup := by
  rw [within, List.nodup_flatMap]
  constructor
  · intro dx hdx
    refine List.Nodup.map_on ?_ nodup_offsets
    intro dy hdy dy' hdy' heq
    have hy := (h.toInt_shift hdx hdy).2
    rw [heq, (h.toInt_shift hdx hdy').2] at hy
    omega
  · refine nodup_offsets.imp_of_mem ?_
    intro dx dx' hdx hdx' hne
    -- two columns share no tile, for the tiles of a column have its coordinate
    refine List.disjoint_left.2 fun u hu hu' => hne ?_
    obtain ⟨dy, hdy, rfl⟩ := List.mem_map.1 hu
    obtain ⟨dy', hdy', heq⟩ := List.mem_map.1 hu'
    have hx := (h.toInt_shift hdx' hdy').1
    rw [heq, (h.toInt_shift hdx hdy).1] at hx
    omega

end HasRoom

end Tile

namespace Square

variable {p q : Square} {n : Nat}

private theorem toInt_tile (p : Square) : p.tile.x.toInt = p.x.toInt / 24 ∧ p.tile.y.toInt = p.y.toInt / 24 := by
  have hx := Int32.le_toInt p.x
  have hx' := Int32.toInt_lt p.x
  have hy := Int32.le_toInt p.y
  have hy' := Int32.toInt_lt p.y
  constructor
  · exact Int32.toInt_ofInt_of_le (by omega) (by omega)
  · exact Int32.toInt_ofInt_of_le (by omega) (by omega)

private theorem tile_distance_le (h : p.distance q ≤ 24 * n) : p.tile.distance q.tile ≤ n := by
  obtain ⟨hx, hy⟩ := chebyshev_le_iff.1 h
  refine chebyshev_le_iff.2 ?_
  rw [(toInt_tile p).1, (toInt_tile p).2, (toInt_tile q).1, (toInt_tile q).2]
  omega

private theorem distance_lt (h : p.tile.distance q.tile ≤ n) : p.distance q < 24 * (n + 1) := by
  obtain ⟨hx, hy⟩ := chebyshev_le_iff.1 h
  rw [(toInt_tile p).1, (toInt_tile q).1] at hx
  rw [(toInt_tile p).2, (toInt_tile q).2] at hy
  have hsquares : p.distance q ≤ 24 * n + 23 := chebyshev_le_iff.2 (by omega)
  omega

/-- Around the tile of a square the tiles of its level at most a range away are listed once each, and no others. They
hold every square of the level at most that many tile widths away; the squares they hold are less than one tile width
farther. -/
theorem covered_by_tiles_within (p : Square) {range : Int} (hrange : 0 ≤ range) (hroom : p.tile.HasRoom range) :
    (∀ t : Tile, (p.tile.within range).count t = if t.z = p.z ∧ p.tile.distance t ≤ range then 1 else 0) ∧
    (∀ q : Square, q.z = p.z → p.distance q ≤ 24 * range → q.tile ∈ p.tile.within range) ∧
    ∀ q : Square, q.tile ∈ p.tile.within range → p.distance q ≤ 24 * (range + 1) - 1 := by
  have hcast : (range.toNat : Int) = range := Int.toNat_of_nonneg hrange
  have hmem (t : Tile) : t ∈ p.tile.within range ↔ t.z = p.z ∧ p.tile.distance t ≤ range := by
    rw [hroom.mem_within_iff, ← Int.ofNat_le, hcast]
    rfl
  refine ⟨?_, ?_, ?_⟩
  · intro t
    split
    · next h => exact List.count_eq_one_of_mem hroom.nodup_within ((hmem t).2 h)
    · next h => exact List.count_eq_zero_of_not_mem fun ht => h ((hmem t).1 ht)
  · intro q hz hdistance
    have htiles : p.tile.distance q.tile ≤ range.toNat := tile_distance_le (by omega)
    exact hroom.mem_within_iff.2 ⟨hz, htiles⟩
  · intro q hq
    have hsquares : p.distance q < 24 * (range.toNat + 1) := distance_lt (hroom.mem_within_iff.1 hq).2
    omega

/-- To the west of the origin a square two tiles away at most is in one of the nine tiles around. -/
theorem covered_by_tiles_west_of_origin :
    let p : Square := ⟨-30, 5, 0⟩
    let q : Square := ⟨-54, -19, 0⟩
    p.tile.HasRoom 1 ∧ (p.tile.within 1).count q.tile = 1 ∧ q.tile ∈ p.tile.within 1 ∧ p.distance q ≤ 47 := by
  intro p q
  have hroom : p.tile.HasRoom 1 := ⟨by decide, by decide, by decide, by decide⟩
  obtain ⟨hcount, hcovered, hnear⟩ := covered_by_tiles_within p (by decide : (0 : Int) ≤ 1) hroom
  have hq : q.tile ∈ p.tile.within 1 := hcovered q rfl (by decide)
  have hdistance : (p.distance q : Int) ≤ 24 * (1 + 1) - 1 := hnear q hq
  exact ⟨hroom, (hcount q.tile).trans (if_pos (by decide)), hq, by omega⟩

end Square

end Parley
