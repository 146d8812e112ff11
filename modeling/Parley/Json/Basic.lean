import Parley.Collection.Entries
import Parley.Decimal.Shortest
import Parley.Number.Narrow

/-!
JSON values. The members of an object are sorted by name, so that messages that list them do so in
one order.
-/

set_option autoImplicit false
set_option relaxedAutoImplicit false

namespace Parley

/-- A number of a document: an integer of at most 64 bits, signed or not, or the bits of a double. -/
inductive Json.Number
  | integer (n : Int)
  | double (bits : UInt64)
  deriving DecidableEq, Repr

inductive Json
  | null
  | bool (value : Bool)
  | number (value : Json.Number)
  | string (text : String)
  | array (items : List Json)
  | object (members : List (String × Json))
  deriving Inhabited

namespace Json

abbrev Members : Type := List (String × Json)

/-- The object of a list of members, of which a later one of a name wins. -/
def ofMembers (members : Members) : Json :=
  .object (Entries.ofList members)

def int (n : Int) : Json :=
  .number (.integer n)

/-- A double as a value; what is not finite has none and becomes null. -/
def ofFloat (x : Float) : Json :=
  match Decimal.Double.ofBits? x.toBits with
  | none => .null
  | some _ => .number (.double x.toBits)

/-- The value of an optional part, null if it is absent. -/
def ofOption {α : Type} (f : α → Json) : Option α → Json
  | none => .null
  | some a => f a

namespace Members

def get? (ms : Members) (name : String) : Option Json :=
  Entries.find? name ms

def has (ms : Members) (name : String) : Bool :=
  (ms.get? name).isSome

def names (ms : Members) : List String :=
  ms.map Prod.fst

theorem has_of_get? {ms : Members} {name : String} {json : Json} (h : ms.get? name = some json) :
    ms.has name = true := by
  rw [has, h]
  rfl

theorem sizeOf_lt_of_get? {ms : Members} {name : String} {value : Json}
    (h : ms.get? name = some value) : sizeOf value < sizeOf ms := by
  have hm := Entries.mem_of_find? h
  have h₁ := List.sizeOf_lt_of_mem hm
  simp only [Prod.mk.sizeOf_spec] at h₁
  omega

end Members

/-- The integer that a value is, if it is one of 64 bits with a sign. -/
def int? : Json → Option Int64
  | .number (.integer n) => Narrow.int64? n
  | _ => none

end Json

end Parley
