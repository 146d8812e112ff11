import Parley.Condition.Catalog
import Parley.Value.Load

/-!
The constructs of content: what an author writes to have a value computed, drawn or read from a variable.
Whether content contains one is a matter of its text, at any depth and in any member.
-/

set_option autoImplicit false
set_option relaxedAutoImplicit false

namespace Parley

/-- What content may contain that more is done for than looking at the world. -/
inductive Construct
  | computed
  | pair
  | random
  | chance
  | variable
  deriving DecidableEq, Repr

namespace Construct

def chanceKeys : List String :=
  ["one_in_chance", "x_in_y_chance"]

def variableKeys : List String :=
  ["u_has_var", "npc_has_var", "u_compare_var", "npc_compare_var", "u_compare_time_since_var",
    "npc_compare_time_since_var"]

/-- Whether an object of some members is the construct. A computed value has no other source. -/
def isObject (c : Construct) (ms : Json.Members) : Bool :=
  match c with
  | .computed => Source.membersOf ms == ["arithmetic"] || Source.membersOf ms == ["effect"]
  | .pair => false
  | .random => ms.has "rand"
  | .chance => chanceKeys.any ms.has
  | .variable => (Scope.find? ms).isSome || variableKeys.any ms.has

end Construct

/-- The places of content that differ in what an array there means: a range, a list of operands, each of
which may be a range, or something else. -/
inductive Place
  | range
  | operands
  | other
  deriving DecidableEq, Repr

namespace Place

def rangeMembers : List String :=
  ["amount", "charges", "count", "intensity", "level", "range", "time", "value", "x", "y"]

def under (name : String) : Place :=
  match Catalog.arguments? name with
  | some (_, .level _) | some (_, .hitPoints) | some (_, .oneIn) => .range
  | some (_, .compareIntegers) => .operands
  | some _ => .other
  | none =>
    if name = "arithmetic" then .operands
    else if name ∈ rangeMembers then .range
    else .other

def ofItems : Place → Place
  | .operands => .range
  | .range | .other => .other

end Place

namespace Json

mutual

/-- Whether a value at some place contains a construct. An array of two where a range may stand is a
pair. -/
def containsAt (c : Construct) (place : Place) : Json → Bool
  | .null | .bool _ | .number _ | .string _ => false
  | .array items => (c == .pair && place == .range && items.length == 2) ||
      anyContains c place.ofItems items
  | .object ms => c.isObject ms || memberContains c ms

def anyContains (c : Construct) (place : Place) : List Json → Bool
  | [] => false
  | item :: rest => containsAt c place item || anyContains c place rest

def memberContains (c : Construct) : List (String × Json) → Bool
  | [] => false
  | (name, value) :: rest => containsAt c (.under name) value || memberContains c rest

end

/-- Whether content contains a construct, at any depth. -/
def contains (json : Json) (c : Construct) : Bool :=
  json.containsAt c .other

end Json

end Parley
