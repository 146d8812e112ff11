import Parley.Content.Defect
import Parley.Named

/-!
Reading the members of content objects as values of a given form.
-/

set_option autoImplicit false
set_option relaxedAutoImplicit false

namespace Parley

namespace Json

def asString (value : Json) (member : String) : Loaded String :=
  match value with
  | .string text => .ok text
  | _ => .error (.expected member .string)

def asInt (value : Json) (member : String) : Loaded Int64 :=
  match value.int? with
  | some n => .ok n
  | none => .error (.expected member .integer)

/-- The value as a 32-bit integer. -/
def asInt32 (value : Json) (member : String) : Loaded Int32 :=
  match value.asInt member with
  | .error e => .error e
  | .ok n =>
    match Narrow.int32? n.toInt with
    | some n => .ok n
    | none => .error (.invalidValue member .outOfRange)

def asBool (value : Json) (member : String) : Loaded Bool :=
  match value with
  | .bool b => .ok b
  | _ => .error (.expected member .boolean)

/-- The members of the value, which has to be an object. -/
def asObject (value : Json) (member : String) : Loaded Members :=
  match value with
  | .object ms => .ok ms
  | _ => .error (.expected member .object)

/-- The items of the value, which has to be an array. -/
def asArray (value : Json) (member : String) : Loaded (List Json) :=
  match value with
  | .array items => .ok items
  | _ => .error (.expected member .array)

theorem asObject_eq_ok_iff {json : Json} {member : String} {ms : Members} :
    json.asObject member = .ok ms ↔ json = .object ms := by
  cases json <;> simp [asObject]

private theorem asArray_eq_ok_iff {json : Json} {member : String} {items : List Json} :
    json.asArray member = .ok items ↔ json = .array items := by
  cases json <;> simp [asArray]

/-- The member of a vocabulary that a value names, by a text or by the only member of an object. -/
def choose (α : Type) [Named α] (value : Json) : Except ChoiceFault α :=
  let named (text : String) : Except ChoiceFault α :=
    match Named.ofName? text with
    | some a => .ok a
    | none => .error (.unknownName text (Named.names α))
  match value with
  | .string text => named text
  | .object [(text, content)] =>
    match named text with
    | .error e => .error e
    | .ok a =>
      match content with
      | .null => .ok a
      | _ => .error (.notUnit content)
  | .object _ => .error .notSingle
  | _ => .error (.notName value)

def asChoice (α : Type) [Named α] (value : Json) (member : String) : Loaded α :=
  (choose α value).mapError fun fault => .invalidValue member (.unrecognized value fault)

end Json

namespace Json.Members

def require (ms : Members) (member : String) : Loaded Json :=
  match ms.get? member with
  | some value => .ok value
  | none => .error (.missingMember member)

def string (ms : Members) (member : String) : Loaded String := do
  (← ms.require member).asString member

def stringOr (ms : Members) (member default : String) : Loaded String :=
  match ms.get? member with
  | some value => value.asString member
  | none => .ok default

def int (ms : Members) (member : String) : Loaded Int64 := do
  (← ms.require member).asInt member

def boolOr (ms : Members) (member : String) (default : Bool) : Loaded Bool :=
  match ms.get? member with
  | some value => value.asBool member
  | none => .ok default

def bool (ms : Members) (member : String) : Loaded Bool := do
  (← ms.require member).asBool member

def objectAt (ms : Members) (member : String) : Loaded Members := do
  (← ms.require member).asObject member

def arrayAt (ms : Members) (member : String) : Loaded (List Json) := do
  (← ms.require member).asArray member

def choice (α : Type) [Named α] (ms : Members) (member : String) : Loaded α := do
  (← ms.require member).asChoice α member

theorem require_eq_ok_iff {ms : Members} {member : String} {json : Json} :
    ms.require member = .ok json ↔ ms.get? member = some json := by
  unfold require
  cases ms.get? member <;> simp

theorem objectAt_eq_ok_iff {ms params : Members} {member : String} :
    ms.objectAt member = .ok params ↔ ms.get? member = some (.object params) := by
  simp [objectAt, Loaded.bind_eq_ok_iff, require_eq_ok_iff, asObject_eq_ok_iff]

theorem arrayAt_eq_ok_iff {ms : Members} {member : String} {items : List Json} :
    ms.arrayAt member = .ok items ↔ ms.get? member = some (.array items) := by
  simp [arrayAt, Loaded.bind_eq_ok_iff, require_eq_ok_iff, asArray_eq_ok_iff]

def choice? (α : Type) [Named α] (ms : Members) (member : String) : Loaded (Option α) :=
  match ms.get? member with
  | some value => (value.asChoice α member).map some
  | none => .ok none

end Json.Members

end Parley
