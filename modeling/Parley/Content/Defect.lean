import Parley.Json.Printer
import Parley.Text.Hidden
import Parley.Value.Kind

/-!
Defects of authored content, found when it is compiled, and their wording.
-/

set_option autoImplicit false
set_option relaxedAutoImplicit false

namespace Parley

/-- Why a value does not name a member of a vocabulary. -/
inductive ChoiceFault
  | unknownName (text : String) (names : List String)
  | notUnit (value : Json)
  | notSingle
  | notName (value : Json)

namespace ChoiceFault

/-- How a character stands inside a text that is shown. One that cannot be seen on its own is
written by its code. -/
def escape (c : Char) : List Char :=
  match c with
  | '"' => ['\\', '"']
  | '\\' => ['\\', '\\']
  | '\n' => ['\\', 'n']
  | '\r' => ['\\', 'r']
  | '\t' => ['\\', 't']
  | '\x00' => ['\\', '0']
  | c =>
    if Text.isHidden c then
      ['\\', 'u', '\x7b'] ++ Nat.toDigits 16 c.toNat ++ ['\x7d']
    else [c]

/-- What a value is, as opposed to what was expected. -/
def describe : Json → String
  | .null => "null"
  | .bool true => "boolean \x60true\x60"
  | .bool false => "boolean \x60false\x60"
  | .number (.integer n) => "integer \x60" ++ Numeral.text n ++ "\x60"
  | .number (.double bits) => "floating point \x60" ++ (Json.Number.double bits).text ++ "\x60"
  | .string text => "string \"" ++ String.ofList (text.toList.flatMap escape) ++ "\""
  | .array _ => "sequence"
  | .object _ => "map"

def message : ChoiceFault → String
  | .unknownName text names =>
    "unknown variant \x60" ++ text ++ "\x60, expected one of " ++
      ", ".intercalate (names.map fun name => "\x60" ++ name ++ "\x60")
  | .notUnit value => "invalid type: " ++ describe value ++ ", expected unit"
  | .notSingle => "invalid value: map, expected map with a single key"
  | .notName value => "invalid type: " ++ describe value ++ ", expected string or map"

end ChoiceFault

/-- A form that a value was expected to have. -/
inductive Form
  | boolean
  | string
  | integer
  | object
  | array
  | operator
  | stringOrNumber
  | objectOrArray
  | twoValues
  | pair
  | countOrCharges
  | scope
  | valueSource
  | arithmetic
  deriving DecidableEq, Repr

def Form.phrase : Form → String
  | .boolean => "a boolean"
  | .string => "a string"
  | .integer => "an integer"
  | .object => "an object"
  | .array => "an array"
  | .operator => "an operator string"
  | .stringOrNumber => "a string or number"
  | .objectOrArray => "an object or an array"
  | .twoValues => "exactly two values"
  | .pair => "a [min, max] pair"
  | .countOrCharges => "\"count\" or \"charges\""
  | .scope => "one of u_val, npc_val, global_val, faction_val or party_val"
  | .valueSource => "a literal, a variable reference or a computed value"
  | .arithmetic => "[a, op, b], [var, \"=\", a, op, b], [var, \"=\", a] or [var, \"++\"]"

/-- Why a member does not hold what it should. -/
inductive Reason
  | expected (form : Form)
  | expectedCondition (got : Json)
  | outOfRange
  | unreadable (fault : Kind.Fault)
  | unknownTime (name : String)
  | unknownWeather (name : String)
  | conflictingSources (names : List String)
  | unknownEffect (members : List String)
  | unrecognized (value : Json) (fault : ChoiceFault)

def Reason.message : Reason → String
  | .expected form => s!"expected {form.phrase}"
  | .expectedCondition got => s!"expected a key, an object or a boolean, got {got.compact}"
  | .outOfRange => "integer out of range"
  | .unreadable fault => fault.message
  | .unknownTime name => s!"unknown time reading '{name}'"
  | .unknownWeather name => s!"unknown weather reading '{name}'"
  | .conflictingSources names => "conflicting value sources: " ++ ", ".intercalate names
  | .unknownEffect members => "unknown effect with members [" ++ ", ".intercalate members ++ "]"
  | .unrecognized value fault => s!"unrecognized value {value.compact}: {fault.message}"

inductive Defect
  | unknownCondition (key : String)
  | missingArguments (key : String)
  | conflictingConditions (keys : List String)
  | missingMember (member : String)
  | invalidValue (member : String) (reason : Reason)
  | unknownOperator (text : String)
  | duration (member : String) (fault : Duration.Fault)

def Defect.message : Defect → String
  | .unknownCondition key => s!"Unknown condition '{key}'"
  | .missingArguments key => s!"Condition '{key}' requires arguments"
  | .conflictingConditions keys => "Conflicting condition keys: " ++ ", ".intercalate keys
  | .missingMember member => s!"Missing member '{member}'"
  | .invalidValue member reason => s!"Invalid value for '{member}': {reason.message}"
  | .unknownOperator text => s!"Unknown comparison operator '{text}'"
  | .duration member fault => s!"Invalid duration for '{member}': {fault.message}"

abbrev Loaded : Type → Type := Except Defect

/-- The defect of a member that does not have the form it should. -/
def Defect.expected (member : String) (form : Form) : Defect :=
  .invalidValue member (.expected form)

namespace Loaded

variable {α β : Type}

theorem bind_eq_ok_iff {x : Loaded α} {f : α → Loaded β} {b : β} :
    (x >>= f) = .ok b ↔ ∃ a, x = .ok a ∧ f a = .ok b := by
  cases x <;> simp [bind, Except.bind]

theorem map_eq_ok_iff {x : Loaded α} {f : α → β} {b : β} :
    x.map f = .ok b ↔ ∃ a, x = .ok a ∧ f a = b := by
  cases x <;> simp [Except.map]

theorem pure_eq_ok_iff {a b : α} : (pure a : Loaded α) = .ok b ↔ a = b := by
  simp [pure, Except.pure]

end Loaded

end Parley
