import Parley.Condition.Eval
import Parley.Condition.Load
import Parley.Json.Reader
import Parley.Toml.Reader

/-!
Libraries of named conditions, loaded from documents that map names to conditions. All entries of a
document are compiled; if any fails there is no library, and every failure is reported.
-/

set_option autoImplicit false
set_option relaxedAutoImplicit false

namespace Parley

/-- Compiled conditions, by name. -/
structure Library where
  conditions : Dict String Condition

namespace Library

inductive Failure
  | json
  | toml
  | document (defect : Defect)
  | entry (name : String) (defect : Defect)
  | entries (failures : List (String × Defect))

def entryMessage (name : String) (defect : Defect) : String :=
  s!"In '{name}': {defect.message}"

/-- The wording of a failure; that of a text which is no document is left to its format. -/
def Failure.message : Failure → String
  | .json => "Invalid JSON document"
  | .toml => "Invalid TOML document"
  | .document defect => defect.message
  | .entry name defect => entryMessage name defect
  | .entries failures =>
    Numeral.text failures.length ++ " entries failed to load: " ++
      ", ".intercalate (failures.map (·.1))

def empty : Library := ⟨∅⟩

def insert (l : Library) (name : String) (condition : Condition) : Library :=
  ⟨l.conditions.insert name condition⟩

def get? (l : Library) (name : String) : Option Condition :=
  l.conditions.get? name

def names (l : Library) : List String :=
  l.conditions.keys

def size (l : Library) : Nat :=
  l.conditions.size

/-- Evaluates the condition of a name. An unknown name is reported and false. -/
def evaluate (l : Library) (ctx : Context) (name : String) : Evaluation Bool :=
  match l.get? name with
  | some condition => condition.evaluate ctx
  | none => do
    Evaluation.report (.unknownCondition name)
    return false

def compiled (ms : Json.Members) : List (String × Condition) :=
  ms.filterMap fun e =>
    match Condition.load e.2 with
    | .ok condition => some (e.1, condition)
    | .error _ => none

def failures (ms : Json.Members) : List (String × Defect) :=
  ms.filterMap fun e =>
    match Condition.load e.2 with
    | .ok _ => none
    | .error defect => some (e.1, defect)

/-- Compiles the entries of a document, with what there is to report about them. -/
def ofDocument (document : Json) : Except Failure Library × List Diagnostic :=
  match document.asObject "document" with
  | .error defect => (.error (.document defect), [])
  | .ok ms =>
    let outcome :=
      match failures ms with
      | [] => .ok ⟨Dict.ofList (compiled ms)⟩
      | [(name, defect)] => .error (.entry name defect)
      | several => .error (.entries several)
    (outcome, (failures ms).map fun f => .unloadable f.1 f.2)

def ofJson (text : String) : Except Failure Library × List Diagnostic :=
  match Json.parse? text with
  | none => (.error .json, [])
  | some document => ofDocument document

def ofToml (text : String) : Except Failure Library × List Diagnostic :=
  match Toml.parse? text with
  | none => (.error .toml, [])
  | some document => ofDocument document

end Library

end Parley
