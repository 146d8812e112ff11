import Parley.Text.Blank
import Parley.Text.Numeral
import Parley.Time.Duration

/-!
The kinds of values that content computes with: texts, and the measures, which can be drawn from a
range. Each kind reads its values from the texts stored in variables.
-/

set_option autoImplicit false
set_option relaxedAutoImplicit false

namespace Parley

/-- The kinds of values that can be drawn from a range. -/
inductive Measure
  | integer
  | duration
  deriving DecidableEq, Repr

inductive Kind
  | text
  | measure (m : Measure)
  deriving DecidableEq, Repr

abbrev Measure.Value : Measure → Type
  | .integer => Int32
  | .duration => Duration

namespace Kind

@[match_pattern] abbrev integer : Kind := .measure .integer

@[match_pattern] abbrev duration : Kind := .measure .duration

abbrev Value : Kind → Type
  | .text => String
  | .measure m => m.Value

def label : Kind → String
  | .text => "string"
  | .integer => "integer"
  | .duration => "duration"

def zero : (k : Kind) → k.Value
  | .text => ""
  | .integer => 0
  | .duration => .zero

/-- Why a text is not a value of a kind. -/
inductive Fault
  | notInteger (s : String) (fault : Numeral.Fault)
  | notTurns (s : String) (fault : Numeral.Fault)
  | negative (d : Duration)
  deriving DecidableEq

def Fault.message : Fault → String
  | .notInteger s fault => s!"'{s}' is not an integer: {fault.message}"
  | .notTurns s fault => s!"'{s}' is not a turn count: {fault.message}"
  | .negative d => s!"negative duration of {d.text}"

def readInteger (s : String) : Except Fault Int32 :=
  (Numeral.int32 (Text.trimChars s.toList)).mapError (.notInteger s)

/-- Reads a count of turns, white space at the ends aside; it must not be negative. -/
def readDuration (s : String) : Except Fault Duration :=
  match Numeral.int64 (Text.trimChars s.toList) with
  | .error fault => .error (.notTurns s fault)
  | .ok turns => if turns < 0 then .error (.negative ⟨turns⟩) else .ok ⟨turns⟩

/-- Reads a value of a kind from a stored text; every text is a text. -/
def read : (k : Kind) → String → Except Fault k.Value
  | .text, s => .ok s
  | .integer, s => readInteger s
  | .duration, s => readDuration s

end Kind

end Parley
