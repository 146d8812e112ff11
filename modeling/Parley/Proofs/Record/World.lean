import Parley.Proofs.Record.Entity
import Parley.Record.World

/-!
Which worlds can be saved. Places have no text, so the dictionaries that they are the keys of are written
only when they are empty. Main statement: a world is written and read back exactly if nothing is known of
its ground, its fields and its overmap.
-/

set_option autoImplicit false
set_option relaxedAutoImplicit false

namespace Parley

open Record

section Unkeyed

variable {κ ν : Type} [Ord κ]

private theorem eq_empty_of_isEmpty {d : Dict κ ν} (h : d.isEmpty = true) : d = ∅ := by
  obtain ⟨entries, sorted⟩ := d
  cases List.isEmpty_iff.1 h
  rfl

private theorem writeUnkeyed?_eq_some_iff {d : Dict κ ν} {json : Json} :
    writeUnkeyed? d = some json ↔ d = ∅ ∧ json = .object [] := by
  rw [writeUnkeyed?]
  constructor
  · intro h
    split at h
    · rename_i hempty
      cases h
      exact ⟨eq_empty_of_isEmpty hempty, rfl⟩
    · cases h
  · rintro ⟨rfl, rfl⟩
    rfl

private theorem eq_empty_of_readUnkeyed? {field : Field} {d : Dict κ ν} (h : readUnkeyed? field = some d) :
    d = ∅ := by
  unfold readUnkeyed? at h
  split at h <;> cases h
  rfl

end Unkeyed

namespace Terrain

/-- Nothing is known of the ground, the fields and the overmap. -/
structure Unmapped (t : Terrain) : Prop where
  ground : t.ground = ∅
  fields : t.fields = ∅
  overmap : t.overmap = ∅

instance (t : Terrain) : Decidable t.Unmapped :=
  decidable_of_iff (t.ground = ∅ ∧ t.fields = ∅ ∧ t.overmap = ∅)
    ⟨fun ⟨ground, fields, overmap⟩ => ⟨ground, fields, overmap⟩,
      fun h => ⟨h.ground, h.fields, h.overmap⟩⟩

variable {t : Terrain}

private theorem unmapped_of_write? {json : Json} (h : t.write? = some json) : t.Unmapped := by
  rw [write?] at h
  obtain ⟨ground, hground, h⟩ := Option.bind_eq_some_iff.1 h
  obtain ⟨fields, hfields, h⟩ := Option.bind_eq_some_iff.1 h
  obtain ⟨overmap, hovermap, -⟩ := Option.bind_eq_some_iff.1 h
  exact ⟨(writeUnkeyed?_eq_some_iff.1 hground).1, (writeUnkeyed?_eq_some_iff.1 hfields).1,
    (writeUnkeyed?_eq_some_iff.1 hovermap).1⟩

private theorem unmapped_of_read? {json : Json} (h : read? json = some t) : t.Unmapped := by
  rw [read?] at h
  obtain ⟨f, -, h⟩ := Option.bind_eq_some_iff.1 h
  obtain ⟨ground, hground, h⟩ := Option.bind_eq_some_iff.1 h
  obtain ⟨fields, hfields, h⟩ := Option.bind_eq_some_iff.1 h
  obtain ⟨indoors, -, h⟩ := Option.bind_eq_some_iff.1 h
  obtain ⟨overmap, hovermap, h⟩ := Option.bind_eq_some_iff.1 h
  obtain ⟨safe, -, h⟩ := Option.bind_eq_some_iff.1 h
  obtain ⟨camps, -, h⟩ := Option.bind_eq_some_iff.1 h
  cases h
  exact ⟨eq_empty_of_readUnkeyed? hground, eq_empty_of_readUnkeyed? hfields,
    eq_empty_of_readUnkeyed? hovermap⟩

private theorem read?_write? (h : t.Unmapped) : ∃ json, t.write? = some json ∧ read? json = some t := by
  obtain ⟨ground, fields, indoors, overmap, safe, camps⟩ := t
  obtain ⟨rfl, rfl, rfl⟩ := h
  refine ⟨_, rfl, read_ofMembers rfl (by decide) fun f given => ?_⟩
  simp only [List.forall_mem_cons] at given
  simp [given, readUnkeyed?]

end Terrain

namespace World

variable {w : World}

private theorem unmapped_of_write? {json : Json} (h : w.write? = some json) : w.terrain.Unmapped := by
  rw [write?] at h
  obtain ⟨terrain, hterrain, -⟩ := Option.bind_eq_some_iff.1 h
  exact Terrain.unmapped_of_write? hterrain

private theorem read?_write? (h : w.terrain.Unmapped) :
    ∃ json, w.write? = some json ∧ read? json = some w := by
  obtain ⟨terrain, hwrite, hread⟩ := Terrain.read?_write? h
  refine ⟨_, by rw [write?, hwrite]; rfl, read_ofMembers rfl (by decide) fun f given => ?_⟩
  simp only [List.forall_mem_cons] at given
  simp [given, hread]

private theorem unmapped_of_read? {json : Json} (h : read? json = some w) : w.terrain.Unmapped := by
  rw [read?] at h
  obtain ⟨f, -, h⟩ := Option.bind_eq_some_iff.1 h
  obtain ⟨calendar, -, h⟩ := Option.bind_eq_some_iff.1 h
  obtain ⟨environment, -, h⟩ := Option.bind_eq_some_iff.1 h
  cases hmap : f "map" with
  | absent =>
    simp only [hmap] at h
    cases h
  | cut =>
    simp only [hmap] at h
    cases h
  | given value =>
    simp only [hmap] at h
    obtain ⟨terrain, hterrain, h⟩ := Option.bind_eq_some_iff.1 h
    obtain ⟨characters, -, h⟩ := Option.bind_eq_some_iff.1 h
    obtain ⟨playerId, -, h⟩ := Option.bind_eq_some_iff.1 h
    obtain ⟨items, -, h⟩ := Option.bind_eq_some_iff.1 h
    obtain ⟨monsters, -, h⟩ := Option.bind_eq_some_iff.1 h
    obtain ⟨missions, -, h⟩ := Option.bind_eq_some_iff.1 h
    obtain ⟨factions, -, h⟩ := Option.bind_eq_some_iff.1 h
    obtain ⟨globals, -, h⟩ := Option.bind_eq_some_iff.1 h
    obtain ⟨answers, -, h⟩ := Option.bind_eq_some_iff.1 h
    cases h
    exact Terrain.unmapped_of_read? hterrain

/-- A world is read back from what it is written as exactly if nothing is known of its ground, its fields and
its overmap. Any other world is not written, and there is nothing that it could be read from. -/
theorem saved_iff_unmapped (w : World) :
    ((∃ json, w.write? = some json ∧ read? json = some w) ↔ w.terrain.Unmapped) ∧
      (w.write? = none ↔ ¬ w.terrain.Unmapped) ∧
      ((∃ json, read? json = some w) ↔ w.terrain.Unmapped) := by
  refine ⟨?_, ?_, ?_⟩
  · constructor
    · rintro ⟨json, hwrite, -⟩
      exact unmapped_of_write? hwrite
    · exact read?_write?
  · constructor
    · intro hnone hunmapped
      obtain ⟨json, hwrite, -⟩ := read?_write? hunmapped
      rw [hnone] at hwrite
      cases hwrite
    · intro hmapped
      cases hwrite : w.write? with
      | none => rfl
      | some json => exact absurd (unmapped_of_write? hwrite) hmapped
  · constructor
    · rintro ⟨json, hread⟩
      exact unmapped_of_read? hread
    · intro hunmapped
      obtain ⟨json, -, hread⟩ := read?_write? hunmapped
      exact ⟨json, hread⟩

/-- A world in which nothing is known but the floor of one square is not saved. -/
theorem one_floor_not_saved :
    ¬ ∃ json,
      ({ empty with
          terrain := { Terrain.empty with ground := Dict.ofList [(⟨1, 2, 0⟩, "t_floor")] } } :
        World).write? = some json ∧
      read? json = some { empty with
          terrain := { Terrain.empty with ground := Dict.ofList [(⟨1, 2, 0⟩, "t_floor")] } } := by
  rintro ⟨json, hwrite, -⟩
  cases hwrite

end World

end Parley
