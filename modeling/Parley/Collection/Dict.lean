import Parley.Collection.Entries

/-!
Dictionaries: finite maps from ordered keys. The entries are sorted, so two dictionaries are equal
exactly when every lookup agrees. A set of keys is a dictionary without values.
-/

set_option autoImplicit false
set_option relaxedAutoImplicit false

namespace Parley

/-- A finite map, its entries in increasing order of the keys. -/
structure Dict (κ ν : Type) [Ord κ] where
  entries : List (κ × ν)
  sorted : Entries.Sorted entries

namespace Dict

variable {κ ν : Type} [Ord κ]

def empty : Dict κ ν :=
  ⟨[], List.Pairwise.nil⟩

instance : EmptyCollection (Dict κ ν) := ⟨empty⟩

instance : Inhabited (Dict κ ν) := ⟨empty⟩

instance [DecidableEq κ] [DecidableEq ν] : DecidableEq (Dict κ ν) := fun d e =>
  decidable_of_iff (d.entries = e.entries) (by cases d; cases e; simp)

def get? [DecidableEq κ] (d : Dict κ ν) (k : κ) : Option ν :=
  Entries.find? k d.entries

def contains [DecidableEq κ] (d : Dict κ ν) (k : κ) : Bool :=
  (d.get? k).isSome

def keys (d : Dict κ ν) : List κ :=
  d.entries.map Prod.fst

def values (d : Dict κ ν) : List ν :=
  d.entries.map Prod.snd

def size (d : Dict κ ν) : Nat :=
  d.entries.length

def isEmpty (d : Dict κ ν) : Bool :=
  d.entries.isEmpty

def erase [DecidableEq κ] (d : Dict κ ν) (k : κ) : Dict κ ν :=
  ⟨Entries.erase k d.entries, d.sorted.erase k⟩

/-- The dictionary with the value of a key changed, if it has one. -/
def modify [DecidableEq κ] (d : Dict κ ν) (k : κ) (f : ν → ν) : Dict κ ν :=
  ⟨Entries.modify k f d.entries, d.sorted.modify k f⟩

@[simp] theorem get?_empty [DecidableEq κ] (k : κ) : (empty : Dict κ ν).get? k = none := rfl

theorem mem_values_of_get? [DecidableEq κ] {d : Dict κ ν} {k : κ} {v : ν} (h : d.get? k = some v) :
    v ∈ d.values :=
  List.mem_map.2 ⟨(k, v), Entries.mem_of_find? h, rfl⟩

theorem get?_erase [DecidableEq κ] (d : Dict κ ν) (k k' : κ) :
    (d.erase k').get? k = if k' = k then none else d.get? k :=
  Entries.find?_erase k k' d.entries

theorem get?_modify [DecidableEq κ] (d : Dict κ ν) (k k' : κ) (f : ν → ν) :
    (d.modify k' f).get? k = if k' = k then (d.get? k).map f else d.get? k :=
  Entries.find?_modify k k' f d.entries

@[simp] theorem keys_modify [DecidableEq κ] (d : Dict κ ν) (k : κ) (f : ν → ν) :
    (d.modify k f).keys = d.keys :=
  Entries.keys_modify k f d.entries

variable [Std.TransOrd κ] [Std.LawfulEqOrd κ]

def insert (d : Dict κ ν) (k : κ) (v : ν) : Dict κ ν :=
  ⟨Entries.insert k v d.entries, d.sorted.insert k v⟩

/-- The dictionary of a list of entries, of which a later one wins. -/
def ofList (es : List (κ × ν)) : Dict κ ν :=
  ⟨Entries.ofList es, Entries.sorted_ofList es⟩

theorem ext_get? [DecidableEq κ] {d e : Dict κ ν} (h : ∀ k, d.get? k = e.get? k) : d = e := by
  obtain ⟨ds, hd⟩ := d
  obtain ⟨es, he⟩ := e
  have : ds = es := hd.ext he h
  subst this
  rfl

theorem ofList_eq_of_perm [DecidableEq κ] {d : Dict κ ν} {es : List (κ × ν)}
    (h : es.Perm d.entries) : ofList es = d := by
  have hdistinct : (es.map Prod.fst).Nodup := (h.map Prod.fst).nodup_iff.2 d.sorted.nodup
  have hsame : (Entries.ofList es).Perm d.entries := (Entries.ofList_perm hdistinct).trans h
  refine ext_get? fun k => ?_
  exact Entries.find?_eq_of_perm hsame (Entries.sorted_ofList es).nodup k

theorem get?_insert [DecidableEq κ] (d : Dict κ ν) (k k' : κ) (v : ν) :
    (d.insert k' v).get? k = if k' = k then some v else d.get? k :=
  Entries.find?_insert k k' v d.entries

theorem modify_modify [DecidableEq κ] (d : Dict κ ν) (k : κ) (f g : ν → ν) :
    (d.modify k f).modify k g = d.modify k fun v => g (f v) := by
  refine ext_get? fun k' => ?_
  simp only [get?_modify]
  split
  · exact Option.map_map g f _
  · rfl

theorem insert_insert [DecidableEq κ] (d : Dict κ ν) (k : κ) (v v' : ν) :
    (d.insert k v).insert k v' = d.insert k v' := by
  refine ext_get? fun k' => ?_
  simp only [get?_insert]
  split <;> rfl

end Dict

abbrev KeySet (κ : Type) [Ord κ] : Type :=
  Dict κ Unit

namespace KeySet

variable {κ : Type} [Ord κ] [Std.TransOrd κ] [Std.LawfulEqOrd κ]

def ofKeys (ks : List κ) : KeySet κ :=
  Dict.ofList (ks.map fun k => (k, ()))

def add (s : KeySet κ) (k : κ) : KeySet κ :=
  Dict.insert s k ()

end KeySet

end Parley
