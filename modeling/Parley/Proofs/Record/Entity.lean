import Parley.Proofs.Record.Basic
import Parley.Record.Entity

/-!
The things of the world are read back as what was written. Main statement: a thing that is written and
read loses and changes nothing, and is written again as it was.
-/

set_option autoImplicit false
set_option relaxedAutoImplicit false

namespace Parley

open Record

instance : LawfulRecord Duration where
  read?_write d := by
    change (read? (write d.turns)).map Duration.mk = some d
    rw [read?_write, Option.map_some]

instance : SolidRecord Duration where
  write_ne_null _ := nofun

instance : LawfulRecord Calendar where
  read?_write c := by
    refine read_ofMembers rfl (by decide) fun f given => ?_
    simp only [List.forall_mem_cons] at given
    simp [given]

instance : LawfulRecord Square where
  read?_write s := by
    refine read_ofMembers rfl (by decide) fun f given => ?_
    simp only [List.forall_mem_cons] at given
    simp [given]

instance : LawfulRecord Tile where
  read?_write t := by
    refine read_ofMembers rfl (by decide) fun f given => ?_
    simp only [List.forall_mem_cons] at given
    simp [given]

instance : LawfulRecord Variables where
  read?_write v := by
    refine read_ofMembers rfl (by decide) fun f given => ?_
    simp only [List.forall_mem_cons] at given
    simp [given]

instance : LawfulRecord Item where
  read?_write i := by
    refine read_ofMembers rfl (by decide) fun f given => ?_
    simp only [List.forall_mem_cons] at given
    simp [given]

instance : SolidRecord Item where
  write_ne_null _ := nofun

instance : LawfulRecord LooseItem where
  read?_write l := by
    refine read_ofMembers rfl (by decide) fun f given => ?_
    simp only [List.forall_mem_cons] at given
    simp [given]

instance : LawfulRecord Stats where
  read?_write s := by
    refine read_ofMembers rfl (by decide) fun f given => ?_
    simp only [List.forall_mem_cons] at given
    simp [given]

instance : LawfulRecord Vitals where
  read?_write v := by
    refine read_ofMembers rfl (by decide) fun f given => ?_
    simp only [List.forall_mem_cons] at given
    simp [given]

instance : LawfulRecord Inventory where
  read?_write i := by
    refine read_ofMembers rfl (by decide) fun f given => ?_
    simp only [List.forall_mem_cons] at given
    simp [given]

instance : LawfulRecord ActiveEffect where
  read?_write e := by
    refine read_ofMembers rfl (by decide) fun f given => ?_
    simp only [List.forall_mem_cons] at given
    simp [given]

instance : LawfulRecord FollowerRules where
  read?_write r := by
    refine read_ofMembers rfl (by decide) fun f given => ?_
    simp only [List.forall_mem_cons] at given
    simp [given]

instance : LawfulRecord Profile where
  read?_write p := by
    refine read_ofMembers rfl (by decide) fun f given => ?_
    simp only [List.forall_mem_cons] at given
    simp [given]

instance : SolidRecord Profile where
  write_ne_null _ := nofun

instance : LawfulRecord EffectList where
  read?_write l := by
    refine read_ofMembers rfl (by decide) fun f given => ?_
    simp only [List.forall_mem_cons] at given
    simp [given]

instance : LawfulRecord Character where
  read?_write c := by
    refine read_ofMembers rfl (by decide) fun f given => ?_
    simp only [List.forall_mem_cons] at given
    simp [given]

instance : LawfulRecord Mission where
  read?_write m := by
    refine read_ofMembers rfl (by decide) fun f given => ?_
    simp only [List.forall_mem_cons] at given
    simp [given]

instance : LawfulRecord Faction where
  read?_write f := by
    refine read_ofMembers rfl (by decide) fun f given => ?_
    simp only [List.forall_mem_cons] at given
    simp [given]

instance : LawfulRecord Environment where
  read?_write e := by
    refine read_ofMembers rfl (by decide) fun f given => ?_
    simp only [List.forall_mem_cons] at given
    simp [given]

instance : LawfulRecord Monster where
  read?_write m := by
    refine read_ofMembers rfl (by decide) fun f given => ?_
    simp only [List.forall_mem_cons] at given
    simp [given]

/-- A thing that is written can be read again. It is read as it was, and then it is written as it was. -/
def Record.Survives {α : Type} [Record α] (a : α) : Prop :=
  read? (write a) = some a ∧ (read? (write a) : Option α).map write = some (write a)

private theorem Record.survives {α : Type} [Record α] [LawfulRecord α] (a : α) : Survives a := by
  have hread := read?_write a
  refine ⟨hread, ?_⟩
  rw [hread, Option.map_some]

/-- Nothing that a world is made of is lost or changed by being written and read. -/
theorem records_survive :
    (∀ c : Character, Survives c) ∧ (∀ p : Profile, Survives p) ∧ (∀ i : Item, Survives i) ∧
      (∀ l : LooseItem, Survives l) ∧ (∀ e : ActiveEffect, Survives e) ∧
      (∀ m : Mission, Survives m) ∧ (∀ f : Faction, Survives f) ∧ (∀ m : Monster, Survives m) ∧
      (∀ e : Environment, Survives e) ∧ (∀ c : Calendar, Survives c) ∧
      (∀ d : Duration, Survives d) ∧ (∀ s : Square, Survives s) ∧ (∀ v : Variables, Survives v) :=
  ⟨survives, survives, survives, survives, survives, survives, survives, survives, survives,
    survives, survives, survives, survives⟩

end Parley
