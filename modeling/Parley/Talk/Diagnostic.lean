import Parley.Talk.Handle
import Parley.Talk.Reference
import Parley.Value.Operator

/-!
Diagnostics: what evaluation and loading report besides their results, and its wording.
-/

set_option autoImplicit false
set_option relaxedAutoImplicit false

namespace Parley

inductive Origin
  | variable (name : String)
  | computed
  | default (name : String)
  deriving DecidableEq

def Origin.phrase : Origin → String
  | .variable name => s!"variable '{name}'"
  | .computed => "computed value"
  | .default name => s!"default of variable '{name}'"

inductive Severity
  | warning
  | error
  deriving DecidableEq, Repr

/-- A fault that evaluation or loading got over. -/
inductive Diagnostic
  | noValue (kind : Kind) (origin : Origin)
  | badValue (kind : Kind) (origin : Origin) (fault : Kind.Fault)
  | undefined (op : Operator) (l r : Int32)
  | turnOutOfRange (text name : String)
  | badTurn (text name : String) (fault : Numeral.Fault)
  | noActor (name : String) (scope : Scope)
  | noFaction (name : String)
  | missingCharacter (name : String) (id : EntityId)
  | missingItem (name : String) (place : ItemPlace)
  | unknownCondition (name : String)
  | unloadable (entry : String) (defect : Defect)

namespace Diagnostic

/-- Failed writes and unknown names are warnings, all else is an error. -/
def severity : Diagnostic → Severity
  | .noActor .. | .noFaction .. | .missingCharacter .. | .missingItem .. | .unknownCondition .. =>
    .warning
  | _ => .error

def roleName : Scope → String
  | .primary => "U"
  | .secondary => "Npc"
  | .global => "Global"
  | .faction => "Faction"
  | .party => "Party"

def message : Diagnostic → String
  | .noValue kind origin =>
    s!"No {kind.label} value for {origin.phrase}: it is empty and has no default"
  | .badValue kind origin fault => s!"Bad {kind.label} value for {origin.phrase}: {fault.message}"
  | .undefined op l r =>
    "Arithmetic '" ++ Numeral.text l.toInt ++ " " ++ op.symbol ++ " " ++ Numeral.text r.toInt ++
      "' is undefined, using 0"
  | .turnOutOfRange text name => s!"Turn '{text}' in variable '{name}' is out of range"
  | .badTurn text name fault => s!"Bad turn '{text}' in variable '{name}': {fault.message}"
  | .noActor name scope => s!"Cannot write '{name}': no actor in {roleName scope} scope"
  | .noFaction name => s!"Cannot write '{name}': actor has no faction"
  | .missingCharacter name id => s!"Cannot set '{name}' on missing character {id.text}"
  | .missingItem name place => s!"Cannot set '{name}' on missing item {place.text}"
  | .unknownCondition name => s!"Unknown condition '{name}'"
  | .unloadable _ defect => s!"Failed to load condition: {defect.message}"

def line (d : Diagnostic) : String :=
  match d.severity with
  | .warning => "WARN " ++ d.message
  | .error => "ERROR " ++ d.message

end Diagnostic

end Parley
