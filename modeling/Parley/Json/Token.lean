import Parley.Json.Basic

/-!
Tokens of JSON text: punctuation, and the values that have no parts. Text is split into tokens from
left to right; each token takes at least one character, so the split ends.
-/

set_option autoImplicit false
set_option relaxedAutoImplicit false

namespace Parley.Json

inductive Token
  | openArray
  | closeArray
  | openObject
  | closeObject
  | colon
  | comma
  | leaf (value : Json)
  deriving Inhabited

namespace Token

def isSpace (c : Char) : Bool :=
  c == ' ' || c == '\t' || c == '\n' || c == '\r'

def isDigit (c : Char) : Bool :=
  '0' ≤ c && c ≤ '9'

def hexValue? (c : Char) : Option Nat :=
  if isDigit c then some (c.toNat - '0'.toNat)
  else if 'a' ≤ c ∧ c ≤ 'f' then some (c.toNat - 'a'.toNat + 10)
  else if 'A' ≤ c ∧ c ≤ 'F' then some (c.toNat - 'A'.toNat + 10)
  else none

def hex4? (a b c d : Char) : Option Nat := do
  return (((← hexValue? a) * 16 + (← hexValue? b)) * 16 + (← hexValue? c)) * 16 + (← hexValue? d)

/-- The character that a letter after a backslash stands for. -/
def unescape? : Char → Option Char
  | '"' => some '"'
  | '\\' => some '\\'
  | '/' => some '/'
  | 'b' => some '\x08'
  | 'f' => some '\x0c'
  | 'n' => some '\n'
  | 'r' => some '\r'
  | 't' => some '\t'
  | _ => none

/-- The rest of a string after its opening quote, and the text after its closing one. A surrogate
counts only as half of a pair. -/
def stringBody? : List Char → Option (List Char × List Char)
  | [] => none
  | '"' :: rest => some ([], rest)
  | '\\' :: 'u' :: a :: b :: c :: d :: '\\' :: 'u' :: e :: f :: g :: h :: rest =>
    match hex4? a b c d with
    | none => none
    | some high =>
      if 0xd800 ≤ high ∧ high ≤ 0xdbff then
        match hex4? e f g h with
        | none => none
        | some low =>
          if 0xdc00 ≤ low ∧ low ≤ 0xdfff then
            let code := 0x10000 + (high - 0xd800) * 0x400 + (low - 0xdc00)
            (stringBody? rest).map fun r => (Char.ofNat code :: r.1, r.2)
          else none
      else if 0xdc00 ≤ high ∧ high ≤ 0xdfff then none
      else
        (stringBody? ('\\' :: 'u' :: e :: f :: g :: h :: rest)).map fun r =>
          (Char.ofNat high :: r.1, r.2)
  | '\\' :: 'u' :: a :: b :: c :: d :: rest =>
    match hex4? a b c d with
    | none => none
    | some code =>
      if 0xd800 ≤ code ∧ code ≤ 0xdfff then none
      else (stringBody? rest).map fun r => (Char.ofNat code :: r.1, r.2)
  | '\\' :: c :: rest =>
    match unescape? c with
    | none => none
    | some e => (stringBody? rest).map fun r => (e :: r.1, r.2)
  | c :: rest =>
    if c.toNat < 32 || c == '\\' then none
    else (stringBody? rest).map fun r => (c :: r.1, r.2)

def natural (ds : List Char) : Nat :=
  Nat.ofDigitChars 10 ds 0

/-- The leading digits that fit 64 bits, as a number, and how many digits follow them. -/
def significand (total : Nat) : List Char → Nat × Nat
  | [] => (total, 0)
  | c :: rest =>
    let next := total * 10 + (c.toNat - '0'.toNat)
    if next < 0x10000000000000000 then significand next rest else (total, rest.length + 1)

/-- A significand times a power of ten, computed on doubles; none if it is too large for one. -/
def scaled? (digits : Nat) (exponent : Int) : Option Float :=
  let f := digits.toFloat
  let x :=
    if 0 ≤ exponent then
      if digits = 0 then f
      else if 308 < exponent then Float.ofScientific 1 false 400
      else f * Float.ofScientific 1 false exponent.toNat
    else if -308 ≤ exponent then f / Float.ofScientific 1 false (-exponent).toNat
    else if -616 ≤ exponent then
      f / Float.ofScientific 1 false 308 / Float.ofScientific 1 false (-exponent - 308).toNat
    else 0
  if x.isInf then none else some x

/-- The sign of an exponent and its digits. -/
def exponent? (cs : List Char) : Option Int :=
  let (negative, ds) := match cs with
    | '-' :: rest => (true, rest)
    | '+' :: rest => (false, rest)
    | _ => (false, cs)
  if ds.isEmpty || !ds.all isDigit then none
  else some (if negative then -natural ds else natural ds)

/-- The number written by a whole part, a fraction and an exponent. The digits taken of a fraction
follow those taken of the whole part, also where the whole part has more. -/
def decimal? (negative : Bool) (whole fraction : List Char) (exponent : Int) : Option Number := do
  let (head, dropped) := significand 0 whole
  let (digits, ignored) := significand head fraction
  let x ← scaled? digits (exponent + dropped + ignored - fraction.length)
  return .double (if negative then -x else x).toBits

/-- The number that a text writes. An integer that fits no 64 bits, and zero with a minus sign, are
doubles. -/
def number? (cs : List Char) : Option Number := do
  let (negative, cs) := match cs with
    | '-' :: rest => (true, rest)
    | _ => (false, cs)
  let whole := cs.takeWhile isDigit
  let rest := cs.dropWhile isDigit
  guard (!whole.isEmpty && (whole.length = 1 || whole.head? != some '0'))
  match rest with
  | [] =>
    let n := natural whole
    if negative then
      if 0 < n ∧ n ≤ 0x8000000000000000 then return .integer (-n) else decimal? true whole [] 0
    else if n < 0x10000000000000000 then return .integer n else decimal? false whole [] 0
  | '.' :: rest =>
    let fraction := rest.takeWhile isDigit
    guard (!fraction.isEmpty)
    match rest.dropWhile isDigit with
    | [] => decimal? negative whole fraction 0
    | 'e' :: rest | 'E' :: rest => decimal? negative whole fraction (← exponent? rest)
    | _ => none
  | 'e' :: rest | 'E' :: rest => decimal? negative whole [] (← exponent? rest)
  | _ => none

def isNumberChar (c : Char) : Bool :=
  isDigit c || c == '-' || c == '+' || c == '.' || c == 'e' || c == 'E'

/-- The next token of a text that does not start with a space, and the text after it. -/
def next? : List Char → Option (Token × List Char)
  | [] => none
  | '[' :: rest => some (.openArray, rest)
  | ']' :: rest => some (.closeArray, rest)
  | '\x7b' :: rest => some (.openObject, rest)
  | '\x7d' :: rest => some (.closeObject, rest)
  | ':' :: rest => some (.colon, rest)
  | ',' :: rest => some (.comma, rest)
  | '"' :: rest => (stringBody? rest).map fun r => (.leaf (.string (String.ofList r.1)), r.2)
  | 't' :: 'r' :: 'u' :: 'e' :: rest => some (.leaf (.bool true), rest)
  | 'f' :: 'a' :: 'l' :: 's' :: 'e' :: rest => some (.leaf (.bool false), rest)
  | 'n' :: 'u' :: 'l' :: 'l' :: rest => some (.leaf .null, rest)
  | c :: rest =>
    (number? (c :: rest.takeWhile isNumberChar)).map fun n =>
      (.leaf (.number n), rest.dropWhile isNumberChar)

private theorem length_stringBody? {cs : List Char} {r : List Char × List Char}
    (h : stringBody? cs = some r) : r.2.length < cs.length := by
  fun_induction stringBody? cs generalizing r <;> simp_all <;> grind

private theorem length_dropWhile_le (p : Char → Bool) (cs : List Char) :
    (cs.dropWhile p).length ≤ cs.length := by
  induction cs with
  | nil => simp
  | cons c rest ih =>
    simp only [List.dropWhile_cons]
    split
    · exact Nat.le_succ_of_le ih
    · exact Nat.le_refl _

private theorem length_next? {cs : List Char} {r : Token × List Char} (h : next? cs = some r) :
    r.2.length < cs.length := by
  unfold next? at h
  split at h
  case h_8 rest =>
    obtain ⟨s, hs, rfl⟩ := Option.map_eq_some_iff.1 h
    have := length_stringBody? hs
    simp only [List.length_cons]
    omega
  case h_12 c rest _ _ _ _ _ _ _ _ _ _ =>
    obtain ⟨n, _, rfl⟩ := Option.map_eq_some_iff.1 h
    have := length_dropWhile_le isNumberChar rest
    simp only [List.length_cons]
    omega
  all_goals cases h <;> simp only [List.length_cons] <;> omega

def scan? (cs : List Char) : Option (List Token) :=
  match cs with
  | [] => some []
  | c :: rest =>
    if isSpace c then scan? rest
    else
      match h : next? (c :: rest) with
      | none => none
      | some (token, rest') =>
        have : rest'.length < (c :: rest).length := length_next? h
        (scan? rest').map (token :: ·)
  termination_by cs.length
  decreasing_by all_goals simp only [List.length_cons] at *; omega

end Token

end Parley.Json
