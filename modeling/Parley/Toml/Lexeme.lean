import Parley.Json.Basic

/-!
The smallest parts of TOML text: blanks, comments, strings, keys and plain values. Each reader takes
what it reads off the front of the text and gives it with the rest.
-/

set_option autoImplicit false
set_option relaxedAutoImplicit false

namespace Parley.Toml

def skipBlanks (cs : List Char) : List Char :=
  cs.dropWhile fun c => c == ' ' || c == '\t'

def isPrintable (c : Char) : Bool :=
  c == '\t' || (32 ≤ c.toNat && c.toNat != 127)

/-- Drops the comment that starts the text, if one does, up to the end of its line. -/
def skipComment (cs : List Char) : List Char :=
  match cs with
  | '#' :: rest => rest.dropWhile isPrintable
  | _ => cs

def lineBreak? : List Char → Option (List Char)
  | '\n' :: rest => some rest
  | '\r' :: '\n' :: rest => some rest
  | _ => none

/-- Drops blanks, comments and line breaks. -/
def skipLines : List Char → List Char
  | ' ' :: rest => skipLines rest
  | '\t' :: rest => skipLines rest
  | '\n' :: rest => skipLines rest
  | '\r' :: '\n' :: rest => skipLines rest
  | '#' :: rest => skipRemark rest
  | cs => cs
where
  /-- Drops the rest of a comment and what follows its line. -/
  skipRemark : List Char → List Char
    | [] => []
    | '\n' :: rest => skipLines rest
    | '\r' :: '\n' :: rest => skipLines rest
    | c :: rest => if isPrintable c then skipRemark rest else c :: rest

/-- The value of a digit up to a base of 16. -/
def digit? (base : Nat) (c : Char) : Option Nat :=
  let value :=
    if '0' ≤ c ∧ c ≤ '9' then c.toNat - '0'.toNat
    else if 'a' ≤ c ∧ c ≤ 'f' then c.toNat - 'a'.toNat + 10
    else if 'A' ≤ c ∧ c ≤ 'F' then c.toNat - 'A'.toNat + 10
    else 16
  if value < base then some value else none

/-- The number of digits of a base, read on from `total`. -/
def number? (base total : Nat) : List Char → Option Nat
  | [] => some total
  | c :: rest =>
    match digit? base c with
    | none => none
    | some d => number? base (total * base + d) rest

def scalar? (digits : List Char) : Option Char := do
  let n ← number? 16 0 digits
  if n < 0xd800 ∨ 0xdfff < n ∧ n < 0x110000 then some (Char.ofNat n) else none

/-- The character that an escape stands for, and the text after it, the backslash aside. -/
def escape? : List Char → Option (Char × List Char)
  | 'b' :: rest => some ('\x08', rest)
  | 't' :: rest => some ('\t', rest)
  | 'n' :: rest => some ('\n', rest)
  | 'f' :: rest => some ('\x0c', rest)
  | 'r' :: rest => some ('\r', rest)
  | '"' :: rest => some ('"', rest)
  | '\\' :: rest => some ('\\', rest)
  | 'u' :: a :: b :: c :: d :: rest => (scalar? [a, b, c, d]).map (·, rest)
  | 'U' :: a :: b :: c :: d :: e :: f :: g :: h :: rest =>
    (scalar? [a, b, c, d, e, f, g, h]).map (·, rest)
  | _ => none

/-- A string on one line after its opening quote. With escapes if it is `basic`. The fuel is at least
the length of the text. -/
def line? (quote : Char) (basic : Bool) : Nat → List Char → Option (List Char × List Char)
  | 0, _ => none
  | _ + 1, [] => none
  | fuel + 1, c :: rest =>
    if c = quote then some ([], rest)
    else if basic ∧ c = '\\' then do
      let (e, rest) ← escape? rest
      let (cs, rest) ← line? quote basic fuel rest
      return (e :: cs, rest)
    else if isPrintable c then (line? quote basic fuel rest).map fun r => (c :: r.1, r.2)
    else none

def skipBreaks : List Char → List Char
  | ' ' :: rest => skipBreaks rest
  | '\t' :: rest => skipBreaks rest
  | '\n' :: rest => skipBreaks rest
  | '\r' :: '\n' :: rest => skipBreaks rest
  | cs => cs

/-- The text after a backslash that ends a line, blanks and further line breaks left out. -/
def foldLine? (cs : List Char) : Option (List Char) :=
  (lineBreak? (skipBlanks cs)).map skipBreaks

/-- A string on several lines after its opening quotes. Up to two quotes may stand before the closing
ones. The fuel is at least the length of the text. -/
def lines? (quote : Char) (basic : Bool) : Nat → List Char → Option (List Char × List Char)
  | 0, _ => none
  | _ + 1, [] => none
  | fuel + 1, c :: rest =>
    if c = quote then
      let run := 1 + (rest.takeWhile (· == quote)).length
      if 3 ≤ run then
        if run ≤ 5 then some (List.replicate (run - 3) quote, rest.drop (run - 1)) else none
      else (lines? quote basic fuel rest).map fun r => (c :: r.1, r.2)
    else if basic ∧ c = '\\' then
      match foldLine? rest with
      | some rest => lines? quote basic fuel rest
      | none => do
        let (e, rest) ← escape? rest
        let (cs, rest) ← lines? quote basic fuel rest
        return (e :: cs, rest)
    else
      match lineBreak? (c :: rest) with
      | some rest => (lines? quote basic fuel rest).map fun r => ('\n' :: r.1, r.2)
      | none =>
        if isPrintable c then (lines? quote basic fuel rest).map fun r => (c :: r.1, r.2)
        else none

def string? (cs : List Char) : Option (String × List Char) :=
  let body : Option (List Char × List Char) :=
    match cs with
    | '"' :: '"' :: '"' :: rest => lines? '"' true (rest.length + 1) ((lineBreak? rest).getD rest)
    | '\'' :: '\'' :: '\'' :: rest =>
      lines? '\'' false (rest.length + 1) ((lineBreak? rest).getD rest)
    | '"' :: rest => line? '"' true (rest.length + 1) rest
    | '\'' :: rest => line? '\'' false (rest.length + 1) rest
    | _ => none
  body.map fun r => (String.ofList r.1, r.2)

/-- Whether a character may stand in a key without quotes. -/
def isBare (c : Char) : Bool :=
  ('a' ≤ c && c ≤ 'z') || ('A' ≤ c && c ≤ 'Z') || ('0' ≤ c && c ≤ '9') || c == '_' || c == '-'

/-- A key without dots. -/
def simpleKey? (cs : List Char) : Option (String × List Char) :=
  match cs with
  | '"' :: rest => (line? '"' true (rest.length + 1) rest).map fun r => (String.ofList r.1, r.2)
  | '\'' :: rest => (line? '\'' false (rest.length + 1) rest).map fun r => (String.ofList r.1, r.2)
  | _ =>
    match cs.takeWhile isBare with
    | [] => none
    | name => some (String.ofList name, cs.dropWhile isBare)

/-- The parts of a key, which dots separate, and the text after it and its blanks. The fuel is more
than the length of the text. -/
def keyParts? : Nat → List Char → Option (List String × List Char)
  | 0, _ => none
  | fuel + 1, cs => do
    let (name, rest) ← simpleKey? (skipBlanks cs)
    match skipBlanks rest with
    | '.' :: rest => (keyParts? fuel rest).map fun r => (name :: r.1, r.2)
    | rest => return ([name], rest)

def maxParts : Nat := 79

/-- A key as the path of its parts, and the text after it and its blanks. -/
def key? (cs : List Char) : Option (List String × List Char) :=
  (keyParts? (cs.length + 1) cs).filter fun r => r.1.length ≤ maxParts

def plainDigits? : List Char → Option (List Char)
  | [] => none
  | [c] => if c = '_' then none else some [c]
  | c :: '_' :: rest => if c = '_' then none else (plainDigits? rest).map (c :: ·)
  | c :: rest => if c = '_' then none else (plainDigits? rest).map (c :: ·)

/-- The number of digits of a base, with underscores between them. -/
def digits? (base : Nat) (cs : List Char) : Option Nat := do
  number? base 0 (← plainDigits? cs)

def int? (n : Int) : Option Json :=
  if -0x8000000000000000 ≤ n ∧ n < 0x8000000000000000 then some (.int n) else none

/-- A whole decimal number, which has no needless zero in front. -/
def whole? (cs : List Char) : Option Nat := do
  let n ← digits? 10 cs
  if cs.head? = some '0' ∧ cs.length ≠ 1 then none else some n

/-- The nearest double to a decimal, infinite if it is too large for one. -/
def nearest (digits : Nat) (exponent : Int) : Float :=
  if digits = 0 ∨ exponent + (Nat.toDigits 10 digits).length < -400 then 0
  else if 400 < exponent then Float.ofScientific 1 false 400
  else Float.ofScientific digits (exponent < 0) exponent.natAbs

/-- The exponent of a decimal, with an optional sign. -/
def exponent? (cs : List Char) : Option Int :=
  match cs with
  | '-' :: rest => (digits? 10 rest).map fun n => -(n : Int)
  | '+' :: rest => (digits? 10 rest).map Int.ofNat
  | _ => (digits? 10 cs).map Int.ofNat

def isExponentMark (c : Char) : Bool :=
  c == 'e' || c == 'E'

/-- A decimal with a fraction or an exponent, without its sign. -/
def float? (cs : List Char) : Option Float := do
  let mantissa := cs.takeWhile (!isExponentMark ·)
  let power ← match cs.dropWhile (!isExponentMark ·) with
    | [] => some 0
    | _ :: rest => exponent? rest
  let before := mantissa.takeWhile (· != '.')
  let _ ← whole? before
  let head ← plainDigits? before
  let tail ← match mantissa.dropWhile (· != '.') with
    | [] => some []
    | _ :: rest => plainDigits? rest
  let digits ← number? 10 0 (head ++ tail)
  return nearest digits (power - tail.length)

/-- A number without its sign. One too large above is refused, one too large below is not finite. -/
def magnitude? (negative : Bool) (cs : List Char) : Option Json :=
  match cs with
  | ['i', 'n', 'f'] | ['n', 'a', 'n'] => some .null
  | _ =>
    if cs.any fun c => c == '.' || isExponentMark c then
      (float? cs).bind fun x =>
        if negative then some (.ofFloat (-x)) else if x.isInf then none else some (.ofFloat x)
    else (whole? cs).bind fun n => int? (if negative then -n else n)

/-- Whether a character may stand in a value without quotes. -/
def isPlain (c : Char) : Bool :=
  isBare c || c == '+' || c == '.' || c == ':'

/-- A truth value or a number. What is not finite becomes null. -/
def plain? (cs : List Char) : Option Json :=
  match cs with
  | ['t', 'r', 'u', 'e'] => some (.bool true)
  | ['f', 'a', 'l', 's', 'e'] => some (.bool false)
  | '0' :: 'x' :: rest => (digits? 16 rest).bind fun n => int? n
  | '0' :: 'o' :: rest => (digits? 8 rest).bind fun n => int? n
  | '0' :: 'b' :: rest => (digits? 2 rest).bind fun n => int? n
  | '+' :: rest => magnitude? false rest
  | '-' :: rest => magnitude? true rest
  | _ => magnitude? false cs

end Parley.Toml
