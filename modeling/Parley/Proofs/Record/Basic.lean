import Parley.Proofs.Text.Uuid
import Parley.Record.Basic

/-!
Laws of written forms: what is written is read back. They are inherited by options, lists, dictionaries
and sets, and by structures, whose members are found again by name whatever order they are kept in.
-/

set_option autoImplicit false
set_option relaxedAutoImplicit false

namespace Parley

/-- Records that are read back as what was written. -/
class LawfulRecord (α : Type) [Record α] : Prop where
  read?_write (a : α) : Record.read? (Record.write a) = some a

/-- Records that are not written as null, which stands for an absent one. -/
class SolidRecord (α : Type) [Record α] : Prop where
  write_ne_null (a : α) : Record.write a ≠ .null

/-- Keys that are read back from their text. -/
class LawfulRecordKey (κ : Type) [RecordKey κ] : Prop where
  ofText?_text (k : κ) : RecordKey.ofText? (RecordKey.text k) = some k

export LawfulRecord (read?_write)
export SolidRecord (write_ne_null)
export LawfulRecordKey (ofText?_text)

namespace Record

instance : LawfulRecord Bool where
  read?_write _ := rfl

instance : LawfulRecord String where
  read?_write _ := rfl

instance : SolidRecord String where
  write_ne_null _ := nofun

instance : LawfulRecord Int32 where
  read?_write n := Narrow.int32?_toInt n

instance : LawfulRecord Int64 where
  read?_write n := Narrow.int64?_toInt n

instance : SolidRecord Int64 where
  write_ne_null _ := nofun

instance : LawfulRecord UInt32 where
  read?_write n := Narrow.uint32?_toNat n

instance : LawfulRecord Uuid where
  read?_write u := Uuid.read?_text u

instance : LawfulRecord EntityId where
  read?_write id := by
    change (read? (write id.uuid)).map EntityId.mk = some id
    rw [read?_write, Option.map_some]

instance : SolidRecord EntityId where
  write_ne_null _ := nofun

instance : LawfulRecord MissionId where
  read?_write id := by
    change (read? (write id.uuid)).map MissionId.mk = some id
    rw [read?_write, Option.map_some]

instance : SolidRecord MissionId where
  write_ne_null _ := nofun

section Named

variable {α : Type} [Named α]

instance (priority := low) [LawfulNamed α] : LawfulRecord α where
  read?_write a := by
    have hchoose : Json.choose α (.string (Named.name a)) = .ok a := by
      simp only [Json.choose, ofName?_name]
    simp only [read?, write, hchoose]

instance (priority := low) : SolidRecord α where
  write_ne_null _ := nofun

end Named

instance : LawfulRecordKey String where
  ofText?_text _ := rfl

instance : LawfulRecordKey EntityId where
  ofText?_text id := by
    change (Uuid.read? id.uuid.text).map EntityId.mk = some id
    rw [Uuid.read?_text, Option.map_some]

instance : LawfulRecordKey MissionId where
  ofText?_text id := by
    change (Uuid.read? id.uuid.text).map MissionId.mk = some id
    rw [Uuid.read?_text, Option.map_some]

instance (priority := low) {κ : Type} [Named κ] [LawfulNamed κ] : LawfulRecordKey κ where
  ofText?_text k := ofName?_name k

private theorem text_injective {κ : Type} [RecordKey κ] [LawfulRecordKey κ] {k k' : κ}
    (h : RecordKey.text k = RecordKey.text k') : k = k' := by
  have hread := ofText?_text k
  rw [h, ofText?_text] at hread
  exact (Option.some.inj hread).symm

section Collections

variable {α : Type} [Record α] [LawfulRecord α]

instance [SolidRecord α] : LawfulRecord (Option α) where
  read?_write
    | none => rfl
    | some a => by
      have hread : (read? (write a)).map some = some (some a) := by
        rw [read?_write, Option.map_some]
      change (match write a with | .null => some none | json => (read? json).map some) = _
      split
      · rename_i hnull
        exact absurd hnull (write_ne_null a)
      · exact hread

private theorem readAll?_map (as : List α) : readAll? read? (as.map write) = some as := by
  induction as with
  | nil => rfl
  | cons a rest ih =>
    rw [List.map_cons, readAll?, read?_write, ih]
    rfl

instance : LawfulRecord (List α) where
  read?_write as := readAll?_map as

end Collections

section Dictionaries

variable {κ ν : Type} [RecordKey κ] [Record ν]

def member (e : κ × ν) : String × Json :=
  (RecordKey.text e.1, write e.2)

private theorem readEntries?_map [LawfulRecordKey κ] [LawfulRecord ν] (es : List (κ × ν)) :
    readEntries? read? (es.map member) = some es := by
  induction es with
  | nil => rfl
  | cons e rest ih =>
    simp only [List.map_cons, member, readEntries?, ofText?_text, read?_write]
    rw [show rest.map _ = rest.map member from rfl, ih]
    rfl

private theorem readEntries?_cons_iff {m : String × Json} {ms : Json.Members} {es : List (κ × ν)} :
    readEntries? read? (m :: ms) = some es ↔
      ∃ k v rest, RecordKey.ofText? m.1 = some k ∧ read? m.2 = some v ∧
        readEntries? read? ms = some rest ∧ es = (k, v) :: rest := by
  obtain ⟨name, value⟩ := m
  rw [readEntries?]
  constructor
  · intro h
    split at h
    · rename_i k v hkey hvalue
      obtain ⟨rest, hrest, rfl⟩ := Option.map_eq_some_iff.1 h
      exact ⟨k, v, rest, hkey, hvalue, hrest, rfl⟩
    · cases h
  · rintro ⟨k, v, rest, hkey, hvalue, hrest, rfl⟩
    simp only [hkey, hvalue, hrest, Option.map_some]

private theorem readEntries?_perm {ms ms' : Json.Members} (h : ms.Perm ms') {es : List (κ × ν)}
    (hread : readEntries? read? ms = some es) :
    ∃ es', readEntries? read? ms' = some es' ∧ es'.Perm es := by
  induction h generalizing es with
  | nil => exact ⟨es, hread, .refl es⟩
  | cons m h ih =>
    obtain ⟨k, v, rest, hkey, hvalue, hrest, rfl⟩ := readEntries?_cons_iff.1 hread
    obtain ⟨rest', hrest', hperm⟩ := ih hrest
    exact ⟨_, readEntries?_cons_iff.2 ⟨k, v, rest', hkey, hvalue, hrest', rfl⟩, hperm.cons (k, v)⟩
  | swap m m' ms =>
    obtain ⟨k', v', rest', hkey', hvalue', hrest', rfl⟩ := readEntries?_cons_iff.1 hread
    obtain ⟨k, v, rest, hkey, hvalue, hrest, rfl⟩ := readEntries?_cons_iff.1 hrest'
    have hinner := readEntries?_cons_iff.2 ⟨k', v', rest, hkey', hvalue', hrest, rfl⟩
    exact ⟨_, readEntries?_cons_iff.2 ⟨k, v, _, hkey, hvalue, hinner, rfl⟩, .swap _ _ rest⟩
  | trans h h' ih ih' =>
    obtain ⟨es', hread', hperm⟩ := ih hread
    obtain ⟨es'', hread'', hperm'⟩ := ih' hread'
    exact ⟨es'', hread'', hperm'.trans hperm⟩

variable [Ord κ] [Std.TransOrd κ] [Std.LawfulEqOrd κ] [LawfulRecordKey κ]

instance [LawfulRecord ν] : LawfulRecord (Dict κ ν) where
  read?_write d := by
    classical
    have hnames : ((d.entries.map member).map Prod.fst).Nodup := by
      have hkeys : (d.entries.map fun e => RecordKey.text e.1).Nodup := by
        refine List.pairwise_map.2 ((List.pairwise_map.1 d.sorted.nodup).imp fun hne htext => ?_)
        exact hne (text_injective htext)
      rw [List.map_map]
      exact hkeys
    obtain ⟨es, hread, hperm⟩ := readEntries?_perm (Entries.ofList_perm hnames).symm
      (readEntries?_map d.entries)
    change (readEntries? read? (Entries.ofList (d.entries.map member))).map Dict.ofList = some d
    rw [hread, Option.map_some, Dict.ofList_eq_of_perm hperm]

end Dictionaries

section Sets

variable {κ : Type} [Ord κ] [Std.TransOrd κ] [Std.LawfulEqOrd κ] [Record κ] [LawfulRecord κ]

private theorem read?_array_of_perm {s : KeySet κ} {ks : List κ} (h : ks.Perm s.keys) :
    read? (.array (ks.map write)) = some s := by
  classical
  have hentries : (ks.map fun k => (k, ())).Perm s.entries := by
    have hkeys : s.keys.map (fun k => (k, ())) = s.entries := by
      rw [Dict.keys, List.map_map]
      exact List.map_id s.entries
    exact hkeys ▸ h.map _
  change (readAll? read? (ks.map write)).map KeySet.ofKeys = some s
  rw [readAll?_map, Option.map_some, KeySet.ofKeys, Dict.ofList_eq_of_perm hentries]

instance : LawfulRecord (KeySet κ) where
  read?_write s := read?_array_of_perm (.refl s.keys)

end Sets

namespace Field

variable {α : Type} [Record α] [LawfulRecord α]

@[simp] theorem required?_given (a : α) : (given (write a)).required? = some a :=
  read?_write a

@[simp] theorem optional?_given [SolidRecord α] (a : Option α) :
    (given (write a)).optional? = some a :=
  read?_write a

@[simp] theorem withDefault?_given (default a : α) :
    (given (write a)).withDefault? default = some a :=
  read?_write a

end Field

private theorem fields?_ofMembers {names : List String} {ms : Json.Members} (hnames : ms.map Prod.fst = names)
    (hdistinct : names.Nodup) :
    ∃ f, fields? names (.ofMembers ms) = some f ∧ ∀ e ∈ ms, f e.1 = .given e.2 := by
  subst hnames
  refine ⟨_, rfl, fun e he => ?_⟩
  have hperm := Entries.ofList_perm hdistinct
  have hget : Json.Members.get? (Entries.ofList ms) e.1 = some e.2 := by
    rw [Json.Members.get?, ← Entries.find?_eq_of_perm hperm.symm hdistinct]
    exact Entries.find?_of_mem hdistinct he
  simp only [hget]

theorem read_ofMembers {α : Type} {names : List String} {ms : Json.Members}
    {build : (String → Field) → Option α} {a : α} (hnames : ms.map Prod.fst = names)
    (hdistinct : names.Nodup) (h : ∀ f, (∀ e ∈ ms, f e.1 = .given e.2) → build f = some a) :
    (fields? names (.ofMembers ms) >>= build) = some a := by
  obtain ⟨f, hfields, hgiven⟩ := fields?_ofMembers hnames hdistinct
  rw [hfields]
  exact h f hgiven

end Record

end Parley
