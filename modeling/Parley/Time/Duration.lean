import Parley.Text.Blank
import Parley.Text.Numeral

/-!
Spans of game time, counted in turns of one second, and their written form: amounts, each with an
optional unit.
-/

set_option autoImplicit false
set_option relaxedAutoImplicit false

namespace Parley

structure Duration where
  turns : Int64
  deriving DecidableEq

namespace Duration

def turnsPerMinute : Int := 60

def turnsPerHour : Int := 60 * turnsPerMinute

def turnsPerDay : Int := 24 * turnsPerHour

/-- The units in which amounts are written. -/
inductive Unit
  | turn
  | second
  | minute
  | hour
  | day
  deriving DecidableEq, Repr

namespace Unit

def turns : Unit → Int
  | .turn | .second => 1
  | .minute => turnsPerMinute
  | .hour => turnsPerHour
  | .day => turnsPerDay

/-- The unit of a given name, short, singular or plural. -/
def ofName? : String → Option Unit
  | "t" | "turn" | "turns" => some .turn
  | "s" | "second" | "seconds" => some .second
  | "m" | "minute" | "minutes" => some .minute
  | "h" | "hour" | "hours" => some .hour
  | "d" | "day" | "days" => some .day
  | _ => none

end Unit

/-- Why a text is not a duration. -/
inductive Fault
  | empty
  | amount (text : String)
  | unit (text : String)
  | range (text : String)
  deriving DecidableEq, Repr

def Fault.message : Fault → String
  | .empty => "Empty duration"
  | .amount text => s!"Invalid duration amount: '{text}'"
  | .unit text => s!"Unknown duration unit: '{text}'"
  | .range text => s!"Duration out of range: '{text}'"

/-- The duration of an exact number of turns, which has to fit. -/
def ofTurns (n : Int) : Duration :=
  ⟨Int64.ofInt n⟩

def ofUnits (n : Int) (u : Unit) : Duration :=
  ofTurns (n * u.turns)

def zero : Duration :=
  ⟨0⟩

instance : Inhabited Duration := ⟨zero⟩

instance : Ord Duration := ⟨compareOn turns⟩

instance : Add Duration := ⟨fun a b => ⟨a.turns + b.turns⟩⟩

instance : Sub Duration := ⟨fun a b => ⟨a.turns - b.turns⟩⟩

/-- The whole days in a duration, cut off toward zero. -/
def days (d : Duration) : Int :=
  d.turns.toInt.tdiv turnsPerDay

def text (d : Duration) : String :=
  Numeral.text d.turns.toInt ++ " turns"

def isLetter (c : Char) : Bool :=
  ('a' ≤ c && c ≤ 'z') || ('A' ≤ c && c ≤ 'Z')

/-- Splits a word before its first letter past the first character. -/
def splitWord : List Char → List Char × List Char
  | [] => ([], [])
  | c :: rest => (c :: rest.takeWhile (!isLetter ·), rest.dropWhile (!isLetter ·))

/-- Adds one amount, in turns or in the unit given, to a total; `whole` is the text quoted when the
result leaves 64 bits. -/
def addItem (whole : String) (total : Int64) (amount : List Char) (unit : Option (List Char)) :
    Except Fault Int64 :=
  match Numeral.int64 amount with
  | .error _ => .error (.amount (String.ofList amount))
  | .ok n =>
    match unit.elim (some Unit.turn) fun u => Unit.ofName? (String.ofList u) with
    | none => .error (.unit (String.ofList (unit.getD [])))
    | some u =>
      match (Narrow.int64? (n.toInt * u.turns)).bind fun p => Narrow.int64? (total.toInt + p.toInt) with
      | none => .error (.range whole)
      | some sum => .ok sum

/-- Adds the items that a list of words consists of to a total. A word without a unit takes the next
word as its unit, if that word has letters only. -/
def addItems (whole : String) (total : Int64) : List (List Char) → Except Fault Int64
  | [] => .ok total
  | [word] =>
    match splitWord word with
    | (amount, []) => addItem whole total amount none
    | (amount, unit) => addItem whole total amount (some unit)
  | word :: next :: rest =>
    match splitWord word with
    | (amount, []) =>
      if next.all isLetter then
        match addItem whole total amount (some next) with
        | .error e => .error e
        | .ok total => addItems whole total rest
      else
        match addItem whole total amount none with
        | .error e => .error e
        | .ok total => addItems whole total (next :: rest)
    | (amount, unit) =>
      match addItem whole total amount (some unit) with
      | .error e => .error e
      | .ok total => addItems whole total (next :: rest)

/-- Reads a duration such as "90", "30 s" or "2 h 15 m". -/
def parse (s : String) : Except Fault Duration :=
  match Text.words s.toList with
  | [] => .error .empty
  | words => (addItems (Text.trim s) 0 words).map Duration.mk

end Duration

end Parley
