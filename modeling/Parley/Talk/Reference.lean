import Parley.Content.Access

/-!
References to stored variables, and how content writes them.
-/

set_option autoImplicit false
set_option relaxedAutoImplicit false

namespace Parley

/-- Whose variable is meant: the world's, an actor's, the secondary actor's faction's or the player's
faction's. -/
inductive Scope
  | global
  | primary
  | secondary
  | faction
  | party
  deriving DecidableEq, Repr

namespace Scope

/-- The scopes, in the order in which content is searched for them. -/
def all : List Scope :=
  [.primary, .secondary, .global, .faction, .party]

def member : Scope → String
  | .primary => "u_val"
  | .secondary => "npc_val"
  | .global => "global_val"
  | .faction => "faction_val"
  | .party => "party_val"

def find? (ms : Json.Members) : Option Scope :=
  all.find? fun s => ms.has s.member

end Scope

/-- A reference to a stored variable, with the text to use where it is empty. -/
structure Reference where
  scope : Scope
  name : String
  default : Option String
  deriving DecidableEq, Repr

namespace Reference

def stem : String := "npctalk_var"

def tempName : String := "temp_var"

def temp : Reference := ⟨.global, tempName, none⟩

/-- Reads a reference such as an object with "u_val" and "default". -/
def load (ms : Json.Members) (requireDefault : Bool) : Loaded Reference :=
  match Scope.find? ms with
  | none => .error (.expected "variable" .scope)
  | some scope =>
    match ms.string scope.member with
    | .error e => .error e
    | .ok name =>
      match ms.get? "default" with
      | some (.string text) => .ok ⟨scope, stem ++ "_" ++ name, some text⟩
      | some (.number n) => .ok ⟨scope, stem ++ "_" ++ name, some n.text⟩
      | some _ => .error (.expected "default" .stringOrNumber)
      | none =>
        if requireDefault then .error (.missingMember "default")
        else .ok ⟨scope, stem ++ "_" ++ name, none⟩

/-- The name of a variable of a type and a context, of which empty parts are left out. -/
def fullName (type context name : String) : String :=
  "_".intercalate (stem :: [type, context, name].filter (· ≠ ""))

/-- Reads the name of an actor's variable from a member and the members "type" and "context". -/
def loadName (ms : Json.Members) (member : String) : Loaded String := do
  let name ← ms.string member
  let type ← ms.stringOr "type" ""
  let context ← ms.stringOr "context" ""
  return fullName type context name

end Reference

end Parley
