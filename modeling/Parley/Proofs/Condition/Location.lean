import Parley.Proofs.Condition.Requirement
import Parley.Proofs.Condition.Threshold
import Parley.Proofs.Place.Within

/-!
Conditions that ask where on the overmap an actor is. Main statement: an actor is near a location exactly if one of
the tiles within the range is at it; with no range that is being at it, and a larger range never loses it.
-/

set_option autoImplicit false
set_option relaxedAutoImplicit false

namespace Parley

namespace Terrain

variable {t : Terrain} {p : Tile} {location : String} {range range' : Int}

/-- A tile that is at a location: it has a camp, or that terrain; where no terrain is known it is a field. -/
inductive Located (t : Terrain) (p : Tile) : String → Prop
  | camp (has_camp : (t.camps.get? p).isSome = true) : Located t p "FACTION_CAMP_ANY"
  | known {location : String} (not_camp : location ≠ "FACTION_CAMP_ANY")
      (terrain_eq : t.overmap.get? p = some location) : Located t p location
  | unknown (terrain_eq : t.overmap.get? p = none) : Located t p "field"

private theorem isAt_iff : t.isAt p location = true ↔ t.Located p location := by
  constructor
  · intro h
    rw [isAt] at h
    split at h
    · next hcamp =>
      subst hcamp
      exact .camp h
    · next hcamp =>
      have hterrain : t.overmapAt p = location := beq_iff_eq.1 h
      rw [overmapAt] at hterrain
      cases hknown : t.overmap.get? p with
      | none =>
        rw [hknown] at hterrain
        subst hterrain
        exact .unknown hknown
      | some terrain =>
        rw [hknown] at hterrain
        subst hterrain
        exact .known hcamp hknown
  · intro h
    cases h with
    | camp has_camp => exact has_camp
    | known not_camp terrain_eq =>
      rw [isAt, anyCamp, if_neg not_camp, overmapAt, terrain_eq, Option.getD_some, beq_self_eq_true]
    | unknown terrain_eq =>
      rw [isAt, anyCamp, if_neg (by decide), overmapAt, terrain_eq, Option.getD_none, beq_self_eq_true]

private theorem isNear_iff_exists :
    t.isNear p location range = true ↔ ∃ q ∈ p.within range, t.isAt q location = true := by
  rw [isNear, Tile.anyWithin_eq_any, List.any_eq_true]

private theorem isNear_iff (h : p.HasRoom range) : t.isNear p location range = true ↔
    ∃ q : Tile, q.z = p.z ∧ p.distance q ≤ max range 0 ∧ t.Located q location := by
  have hcast : ((range.toNat : Nat) : Int) = max range 0 := Int.toNat_eq_max range
  simp only [isNear_iff_exists, h.mem_within_iff, isAt_iff, ← hcast, Int.ofNat_le, and_assoc]

private theorem isNear_of_nonpositive (h : range ≤ 0) : t.isNear p location range = t.isAt p location := by
  rw [isNear, Tile.anyWithin_eq_any, Tile.within_of_nonpositive h, List.any_cons, List.any_nil, Bool.or_false]

private theorem isNear_of_isAt (h : t.isAt p location = true) : t.isNear p location range = true :=
  isNear_iff_exists.2 ⟨p, Tile.mem_within_self, h⟩

private theorem isNear_mono (hle : range ≤ range') (h : t.isNear p location range = true) :
    t.isNear p location range' = true := by
  obtain ⟨q, hq, hlocation⟩ := isNear_iff_exists.1 h
  exact isNear_iff_exists.2 ⟨q, Tile.within_subset hle hq, hlocation⟩

end Terrain

namespace Condition

variable {slot : Slot} {location : Source .text} {range range' : Int32} {ms : Json.Members}

def atLocationKeys : List (String × Slot) :=
  [("u_at_om_location", .primary), ("npc_at_om_location", .secondary)]

def nearLocationKeys : List (String × Slot) :=
  [("u_near_om_location", .primary), ("npc_near_om_location", .secondary)]

/-- An object that asks whether the actor in a role is at most a range away from a location, 1 if none is given. -/
structure NearLocation (slot : Slot) (location : Source .text) (range : Int32) (ms : Json.Members) : Prop where
  location_is : WithText nearLocationKeys slot location ms
  range_is : (∃ literal, ms.get? "range" = some literal ∧ Kind.IsLiteral .integer literal range) ∨
    ms.get? "range" = none ∧ range = 1

private theorem load_atLocation (h : WithText atLocationKeys slot location ms) :
    load (.object ms) = .ok (.test (.text slot .atLocation location)) :=
  h.load (.text .atLocation) (by decide) fun _ hmember => Loaded.bind_eq_ok_iff.2 ⟨location, hmember, rfl⟩

private theorem NearLocation.load (h : NearLocation slot location range ms) :
    load (.object ms) = .ok (.test (.count slot .nearLocation location (.single (.literal range)))) := by
  have hrange : Ranged.loadMember .integer ms "range" (some 1) = .ok (.single (.literal range)) := by
    rcases h.range_is with ⟨literal, hget, hliteral⟩ | ⟨hget, rfl⟩
    · exact Ranged.loadMember_of_isLiteral hget hliteral
    · simp only [Ranged.loadMember, hget]
  refine h.location_is.load .nearLocation (by decide) fun key hmember => ?_
  exact Loaded.bind_eq_ok_iff.2 ⟨location, hmember, Loaded.bind_eq_ok_iff.2 ⟨_, hrange, rfl⟩⟩

section

variable {ctx : Context} {s : State} {p : Square} (hp : ctx.position? s.world slot = some p)
include hp

private theorem evaluate_atLocation : evaluate ctx (.test (.text slot .atLocation location)) s =
    (s.world.terrain.isAt p.tile (location.evaluate ctx s).1, (location.evaluate ctx s).2) := by
  have hdevelops : s.world.Develops (location.evaluate ctx s).2.world := location.develops s
  change (Check.holds ctx _ slot (.place fun q =>
    (location.evaluate ctx s).2.world.terrain.isAt q.tile (location.evaluate ctx s).1), _) = _
  rw [Check.holds, hdevelops.position?_eq, hp, hdevelops.terrain_eq]
  rfl

private theorem evaluate_nearLocation :
    evaluate ctx (.test (.count slot .nearLocation location (.single (.literal range)))) s =
      (s.world.terrain.isNear p.tile (location.evaluate ctx s).1 range.toInt, (location.evaluate ctx s).2) := by
  have hdevelops : s.world.Develops (location.evaluate ctx s).2.world := location.develops s
  change (Check.holds ctx _ slot (.place fun q =>
    (location.evaluate ctx s).2.world.terrain.isNear q.tile (location.evaluate ctx s).1 range.toInt), _) = _
  rw [Check.holds, hdevelops.position?_eq, hp, hdevelops.terrain_eq]
  rfl

end

/-- Wherever an actor is, and whatever text the location is given by, the conditions that ask whether it is near the
location are true exactly if some tile of its level at most the range away is at the location. With a range of 0 or
less they have the outcome of the condition that asks whether it is there; whoever is there is near it, and whoever
is near it with a range is so with a larger one. -/
theorem near_agrees_with_at {ns ws : Json.Members} (hat : WithText atLocationKeys slot location ms)
    (hnear : NearLocation slot location range ns) (hwider : NearLocation slot location range' ws) :
    ∃ c n w, load (.object ms) = .ok c ∧ load (.object ns) = .ok n ∧ load (.object ws) = .ok w ∧
      ∀ ctx s p, ctx.position? s.world slot = some p →
        (p.tile.HasRoom range.toInt → ((n.evaluate ctx s).1 = true ↔ ∃ t : Tile, t.z = p.z ∧
          p.tile.distance t ≤ max range.toInt 0 ∧ s.world.terrain.Located t (location.evaluate ctx s).1)) ∧
        ((c.evaluate ctx s).1 = true ↔ s.world.terrain.Located p.tile (location.evaluate ctx s).1) ∧
        (range ≤ 0 → n.evaluate ctx s = c.evaluate ctx s) ∧
        ((c.evaluate ctx s).1 = true → (n.evaluate ctx s).1 = true) ∧
        (range ≤ range' → (n.evaluate ctx s).1 = true → (w.evaluate ctx s).1 = true) := by
  refine ⟨_, _, _, load_atLocation hat, hnear.load, hwider.load, ?_⟩
  intro ctx s p hp
  rw [evaluate_atLocation hp, evaluate_nearLocation hp, evaluate_nearLocation hp]
  refine ⟨Terrain.isNear_iff, Terrain.isAt_iff, ?_, Terrain.isNear_of_isAt, ?_⟩
  · intro hrange
    rw [Terrain.isNear_of_nonpositive (Int32.le_iff_toInt_le.1 hrange)]
  · intro hle
    exact Terrain.isNear_mono (Int32.le_iff_toInt_le.1 hle)

/-- Ann is not in the forest, but near it with a range of 1, and so with a range of 2. -/
theorem near_agrees_with_at_by_forest :
    let ann := Character.ofName "Ann"
    let terrain : Terrain := { Terrain.empty with overmap := Dict.ofList [(⟨1, 0, 0⟩, "forest")] }
    let s : State := ⟨{ World.empty.addCharacter ann with terrain }, .scripted [], [], []⟩
    let ctx : Context := ⟨some (.creature ann.id), none, .missionGoal⟩
    let near (range : Int) : Json.Members := [("range", .int range), ("u_near_om_location", .string "forest")]
    ∃ c n w, load (.object [("u_at_om_location", .string "forest")]) = .ok c ∧ load (.object (near 1)) = .ok n ∧
      load (.object (near 2)) = .ok w ∧ (c.evaluate ctx s).1 = false ∧ (n.evaluate ctx s).1 = true ∧
      (w.evaluate ctx s).1 = true := by
  intro ann terrain s ctx near
  have hat : WithText atLocationKeys .primary (.literal "forest") [("u_at_om_location", .string "forest")] :=
    ⟨"u_at_om_location", _, by decide, ⟨by decide, rfl⟩, Source.load_string⟩
  have hnear (range : Int) (n : Int32) (hn : Kind.IsLiteral .integer (.int range) n) :
      NearLocation .primary (.literal "forest") n (near range) := by
    have hkeys : ["range", "u_near_om_location"].filter Catalog.isKey = ["u_near_om_location"] := by decide
    exact ⟨⟨"u_near_om_location", _, by decide, ⟨hkeys, rfl⟩, Source.load_string⟩, .inl ⟨_, rfl, hn⟩⟩
  obtain ⟨c, n, w, hc, hn, hw, hagree⟩ :=
    near_agrees_with_at hat (hnear 1 1 ⟨1, by decide, rfl⟩) (hnear 2 2 ⟨2, by decide, rfl⟩)
  obtain ⟨hnear, hat, -, -, hwider⟩ := hagree ctx s ⟨0, 0, 0⟩ rfl
  have hforest : terrain.Located ⟨1, 0, 0⟩ "forest" := .known (by decide) rfl
  have hroom : (Square.tile ⟨0, 0, 0⟩).HasRoom (1 : Int32).toInt := ⟨by decide, by decide, by decide, by decide⟩
  have hfound : (n.evaluate ctx s).1 = true := (hnear hroom).2 ⟨⟨1, 0, 0⟩, rfl, by decide, hforest⟩
  refine ⟨c, n, w, hc, hn, hw, ?_, hfound, hwider (by decide) hfound⟩
  refine Bool.eq_false_iff.2 fun htrue => ?_
  -- the tile that Ann is on has no known terrain, so it is a field
  have hlocated : terrain.Located (Square.tile ⟨0, 0, 0⟩) "forest" := hat.1 htrue
  exact absurd (Terrain.isAt_iff.2 hlocated) (by decide)

end Condition

end Parley
