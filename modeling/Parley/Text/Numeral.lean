import Parley.Number.Narrow

/-!
Decimal numerals: an optional sign and ASCII digits. Reading goes from left to right within the bounds
of a machine width and stops at the first character that is no digit or leaves the bounds.
-/

set_option autoImplicit false
set_option relaxedAutoImplicit false

namespace Parley.Numeral

/-- Why a text is not a numeral within its bounds. -/
inductive Fault
  | empty
  | notDigit
  | tooLarge
  | tooSmall
  deriving DecidableEq, Repr

def Fault.message : Fault → String
  | .empty => "cannot parse integer from empty string"
  | .notDigit => "invalid digit found in string"
  | .tooLarge => "number too large to fit in target type"
  | .tooSmall => "number too small to fit in target type"

def digit? (c : Char) : Option Nat :=
  if '0' ≤ c ∧ c ≤ '9' then some (c.toNat - '0'.toNat) else none

/-- Extends `total` upwards by the digits, staying at or below `hi`. -/
def raise (hi total : Int) : List Char → Except Fault Int
  | [] => .ok total
  | c :: rest =>
    match digit? c with
    | none => .error .notDigit
    | some d => if total * 10 + d ≤ hi then raise hi (total * 10 + d) rest else .error .tooLarge

/-- Extends `total` downwards by the digits, staying at or above `lo`. -/
def lower (lo total : Int) : List Char → Except Fault Int
  | [] => .ok total
  | c :: rest =>
    match digit? c with
    | none => .error .notDigit
    | some d => if lo ≤ total * 10 - d then lower lo (total * 10 - d) rest else .error .tooSmall

/-- Reads a numeral whose value lies between `lo` and `hi`. -/
def read (lo hi : Int) : List Char → Except Fault Int
  | [] => .error .empty
  | ['+'] | ['-'] => .error .notDigit
  | '+' :: digits => raise hi 0 digits
  | '-' :: digits => lower lo 0 digits
  | digits => raise hi 0 digits

def int32 (cs : List Char) : Except Fault Int32 :=
  (read (-0x80000000) 0x7fffffff cs).map Int32.ofInt

def int64 (cs : List Char) : Except Fault Int64 :=
  (read (-0x8000000000000000) 0x7fffffffffffffff cs).map Int64.ofInt

/-- The digits of an integer, with a minus sign in front of a negative one. -/
def chars : Int → List Char
  | .ofNat n => Nat.toDigits 10 n
  | .negSucc n => '-' :: Nat.toDigits 10 (n + 1)

def text (n : Int) : String :=
  String.ofList (chars n)

theorem chars_ne_nil (n : Int) : chars n ≠ [] := by
  cases n with
  | ofNat n =>
    intro h
    have := Nat.toDigits_ne_nil (n := n) (b := 10)
    exact this h
  | negSucc n => simp [chars]

end Parley.Numeral
