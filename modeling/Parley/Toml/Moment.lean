import Parley.Toml.Lexeme

/-!
Dates and times of day in TOML text, and the values that stand for them.
-/

set_option autoImplicit false
set_option relaxedAutoImplicit false

namespace Parley.Toml

structure Date where
  year : Nat
  month : Nat
  day : Nat
  deriving DecidableEq, Repr

structure Clock where
  hour : Nat
  minute : Nat
  second : Nat
  nanosecond : Nat
  deriving DecidableEq, Repr

/-- How a time of day relates to universal time. -/
inductive Zone
  | universal
  | ahead (minutes : Int)
  deriving DecidableEq, Repr

/-- A point in time as far as it is told. -/
structure Moment where
  date : Option Date
  clock : Option Clock
  zone : Option Zone
  deriving DecidableEq, Repr

def lastDay (year month : Nat) : Nat :=
  if month = 2 then
    if year % 4 = 0 ∧ (year % 100 ≠ 0 ∨ year % 400 = 0) then 29 else 28
  else if month = 4 ∨ month = 6 ∨ month = 9 ∨ month = 11 then 30
  else 31

/-- A number of a fixed count of digits and in a range, at the front of a text. -/
def field? (width low high : Nat) (cs : List Char) : Option (Nat × List Char) :=
  if width ≤ cs.length then
    match number? 10 0 (cs.take width) with
    | none => none
    | some n => if low ≤ n ∧ n ≤ high then some (n, cs.drop width) else none
  else none

def after? (c : Char) : List Char → Option (List Char)
  | [] => none
  | d :: rest => if c = d then some rest else none

def date? (cs : List Char) : Option (Date × List Char) := do
  let (year, cs) ← field? 4 0 9999 cs
  let (month, cs) ← field? 2 1 12 (← after? '-' cs)
  let (day, cs) ← field? 2 1 (lastDay year month) (← after? '-' cs)
  return (⟨year, month, day⟩, cs)

/-- The nanoseconds of a fraction of a second, of which nine digits count; none are told without a
point and a digit. -/
def nanoseconds (cs : List Char) : Nat × List Char :=
  match cs with
  | '.' :: rest =>
    let ds := rest.takeWhile fun c => (digit? 10 c).isSome
    match number? 10 0 ((ds ++ List.replicate 9 '0').take 9) with
    | some n => if ds.isEmpty then (0, cs) else (n, rest.drop ds.length)
    | none => (0, cs)
  | _ => (0, cs)

/-- A time of day at the front of a text. The sixtieth second is a leap second. -/
def clock? (cs : List Char) : Option (Clock × List Char) := do
  let (hour, cs) ← field? 2 0 23 cs
  let (minute, cs) ← field? 2 0 59 (← after? ':' cs)
  let (second, cs) ← field? 2 0 60 (← after? ':' cs)
  let (nanosecond, cs) := nanoseconds cs
  return (⟨hour, minute, second, nanosecond⟩, cs)

def shift? (cs : List Char) : Option (Nat × List Char) := do
  let (hours, cs) ← field? 2 0 23 cs
  let (minutes, cs) ← field? 2 0 59 (← after? ':' cs)
  return (60 * hours + minutes, cs)

def zone? : List Char → Option (Zone × List Char)
  | 'Z' :: rest | 'z' :: rest => some (.universal, rest)
  | '+' :: rest => (shift? rest).map fun r => (.ahead r.1, r.2)
  | '-' :: rest => (shift? rest).map fun r => (.ahead (-r.1), r.2)
  | _ => none

/-- A date, a time of day or both at the front of a text. Only a moment with both has a zone. -/
def moment? (cs : List Char) : Option (Moment × List Char) :=
  match date? cs with
  | none => (clock? cs).map fun r => (⟨none, some r.1, none⟩, r.2)
  | some (date, rest) =>
    let clock := match rest with
      | 'T' :: rest | 't' :: rest | ' ' :: rest => clock? rest
      | _ => none
    match clock with
    | none => some (⟨some date, none, none⟩, rest)
    | some (clock, rest) =>
      match zone? rest with
      | none => some (⟨some date, some clock, none⟩, rest)
      | some (zone, rest) => some (⟨some date, some clock, some zone⟩, rest)

def padded (width n : Nat) : List Char :=
  let ds := Nat.toDigits 10 n
  List.replicate (width - ds.length) '0' ++ ds

def Date.chars (d : Date) : List Char :=
  padded 4 d.year ++ '-' :: padded 2 d.month ++ '-' :: padded 2 d.day

/-- The text of a time of day, without needless zeros in its fraction. -/
def Clock.chars (c : Clock) : List Char :=
  let fraction := ((padded 9 c.nanosecond).reverse.dropWhile (· == '0')).reverse
  padded 2 c.hour ++ ':' :: padded 2 c.minute ++ ':' :: padded 2 c.second ++
    if fraction.isEmpty then [] else '.' :: fraction

def Zone.chars : Zone → List Char
  | .universal => ['Z']
  | .ahead minutes =>
    (if minutes < 0 then '-' else '+') ::
      padded 2 (minutes.natAbs / 60) ++ ':' :: padded 2 (minutes.natAbs % 60)

namespace Moment

/-- The text of a moment, with `T` between date and time of day. -/
def text (m : Moment) : String :=
  let date := m.date.elim [] Date.chars
  let clock := m.clock.elim [] Clock.chars
  let between := if m.date.isSome && m.clock.isSome then ['T'] else []
  String.ofList (date ++ between ++ clock ++ m.zone.elim [] Zone.chars)

/-- The value that stands for a moment, which JSON has no kind of value for. -/
def toJson (m : Moment) : Json :=
  .object [("$__toml_private_datetime", .string m.text)]

end Moment

end Parley.Toml
