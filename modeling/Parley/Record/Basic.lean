import Parley.Collection.Dict
import Parley.Content.Access
import Parley.Uuid

/-!
Records: values with a written form as JSON. A structure is an object with a member for each of its
fields, or an array of them in order; what an object holds besides is ignored.
-/

set_option autoImplicit false
set_option relaxedAutoImplicit false

namespace Parley

/-- Types whose values are written as JSON and read back. -/
class Record (α : Type) where
  write : α → Json
  read? : Json → Option α

/-- Types whose values are written as the keys of an object. -/
class RecordKey (κ : Type) where
  text : κ → String
  ofText? : String → Option κ

namespace Record

def readAll? {α : Type} (read? : Json → Option α) : List Json → Option (List α)
  | [] => some []
  | item :: rest =>
    match read? item with
    | none => none
    | some a => (readAll? read? rest).map (a :: ·)

def readEntries? {κ ν : Type} [RecordKey κ] (read? : Json → Option ν) :
    Json.Members → Option (List (κ × ν))
  | [] => some []
  | (name, value) :: rest =>
    match RecordKey.ofText? name, read? value with
    | some k, some v => (readEntries? read? rest).map ((k, v) :: ·)
    | _, _ => none

instance : Record Bool where
  write := .bool
  read?
    | .bool b => some b
    | _ => none

instance : Record String where
  write := .string
  read?
    | .string s => some s
    | _ => none

instance : Record Int32 where
  write n := .int n.toInt
  read?
    | .number (.integer n) => Narrow.int32? n
    | _ => none

instance : Record Int64 where
  write n := .int n.toInt
  read? := Json.int?

instance : Record UInt32 where
  write n := .int n.toNat
  read?
    | .number (.integer n) => Narrow.uint32? n
    | _ => none

instance : Record Uuid where
  write u := .string u.text
  read?
    | .string s => Uuid.read? s
    | _ => none

instance : Record EntityId where
  write id := write id.uuid
  read? json := (read? json).map EntityId.mk

instance : Record MissionId where
  write id := write id.uuid
  read? json := (read? json).map MissionId.mk

instance : RecordKey String where
  text s := s
  ofText? := some

instance : RecordKey EntityId where
  text := EntityId.text
  ofText? s := (Uuid.read? s).map EntityId.mk

instance : RecordKey MissionId where
  text := MissionId.text
  ofText? s := (Uuid.read? s).map MissionId.mk

/-- A member of a vocabulary is written as its name. -/
instance (priority := low) ofNamed {α : Type} [Named α] : Record α where
  write a := .string (Named.name a)
  read? json :=
    match Json.choose α json with
    | .ok a => some a
    | .error _ => none

instance (priority := low) {κ : Type} [Named κ] : RecordKey κ where
  text := Named.name
  ofText? := Named.ofName?

instance {α : Type} [Record α] : Record (Option α) where
  write := Json.ofOption write
  read?
    | .null => some none
    | json => (read? json).map some

instance {α : Type} [Record α] : Record (List α) where
  write items := .array (items.map write)
  read?
    | .array items => readAll? read? items
    | _ => none

instance {κ ν : Type} [Ord κ] [Std.TransOrd κ] [Std.LawfulEqOrd κ] [RecordKey κ] [Record ν] :
    Record (Dict κ ν) where
  write d := .ofMembers (d.entries.map fun e => (RecordKey.text e.1, write e.2))
  read?
    | .object ms => (readEntries? read? ms).map Dict.ofList
    | _ => none

/-- A set is written as the array of its members. -/
instance {κ : Type} [Ord κ] [Std.TransOrd κ] [Std.LawfulEqOrd κ] [Record κ] :
    Record (KeySet κ) where
  write s := .array (s.keys.map write)
  read?
    | .array items => (readAll? read? items).map KeySet.ofKeys
    | _ => none

/-- What a written structure has for a field: a value, nothing, or nothing because the array that the
structure is written as ends before it. -/
inductive Field
  | given (value : Json)
  | absent
  | cut

/-- What a written structure has for each of its fields. An array must not have more items. -/
def fields? (names : List String) (json : Json) : Option (String → Field) :=
  match json with
  | .object ms => some fun name =>
      match Json.Members.get? ms name with
      | some value => .given value
      | none => .absent
  | .array items =>
    if items.length ≤ names.length then
      some fun name =>
        match items[names.idxOf name]? with
        | some value => .given value
        | none => .cut
    else none
  | _ => none

namespace Field

def required? {α : Type} [Record α] : Field → Option α
  | .given value => read? value
  | _ => none

def optional? {α : Type} [Record α] : Field → Option (Option α)
  | .given value => read? value
  | .absent => some none
  | .cut => none

/-- Reads a field with a default, which may be left out. -/
def withDefault? {α : Type} [Record α] (default : α) : Field → Option α
  | .given value => read? value
  | _ => some default

end Field

end Record

end Parley
