/-!
The shortest decimal that reads back as a given double: of the decimals with the fewest digits inside
the interval that rounds to the double, the nearest one. The interval is computed exactly on the bits.
-/

set_option autoImplicit false
set_option relaxedAutoImplicit false

namespace Parley.Decimal

/-- A finite double of value `coefficient · 2 ^ exponent` up to its sign. The gap to the next smaller
double is half as wide as the one to the next larger when `narrowBelow` is set. -/
structure Double where
  negative : Bool
  coefficient : Nat
  exponent : Int
  narrowBelow : Bool
  deriving DecidableEq, Repr

/-- The double of given bits, none for an infinity and for what is no number. -/
def Double.ofBits? (bits : UInt64) : Option Double :=
  let n := bits.toNat
  let negative : Bool := n / 0x8000000000000000 = 1
  let biased : Nat := n / 0x10000000000000 % 0x800
  let fraction : Nat := n % 0x10000000000000
  if biased = 2047 then none
  else if biased = 0 then some ⟨negative, fraction, -1074, false⟩
  else some ⟨negative, 0x10000000000000 + fraction, (biased : Int) - 1075, fraction = 0 ∧ biased ≠ 1⟩

/-- The numbers that round to a double: from `low` to `high` around `value`, all over `denominator`,
the ends included if the interval is `closed`. -/
structure Interval where
  low : Nat
  value : Nat
  high : Nat
  denominator : Nat
  closed : Bool
  deriving DecidableEq, Repr

/-- The interval of a double, in quarters of its last place. -/
def Double.interval (d : Double) : Interval :=
  let up := Nat.pow 2 (d.exponent - 2).toNat
  let down := Nat.pow 2 (2 - d.exponent).toNat
  { low := (4 * d.coefficient - if d.narrowBelow then 1 else 2) * up
    value := 4 * d.coefficient * up
    high := (4 * d.coefficient + 2) * up
    denominator := down
    closed := d.coefficient % 2 = 0 }

def Interval.scale (i : Interval) (power : Nat) : Interval :=
  let factor := Nat.pow 10 power
  { i with low := i.low * factor, value := i.value * factor, high := i.high * factor }

def Interval.contains (i : Interval) (n : Nat) : Bool :=
  if i.closed then i.low ≤ n && n ≤ i.high else i.low < n && n < i.high

/-- The multiple of `10 ^ exponent` in the interval that is nearest to its value, as a count of that
power; a tie goes to the even count. -/
def Interval.nearest? (i : Interval) (exponent : Int) : Option Nat :=
  let j := i.scale (-exponent).toNat
  let unit := j.denominator * Nat.pow 10 exponent.toNat
  let below := j.value / unit
  let above := below + 1
  match 0 < below && j.contains (below * unit), j.contains (above * unit) with
  | true, true =>
    let down := j.value - below * unit
    let up := above * unit - j.value
    some (if down < up ∨ down = up ∧ below % 2 = 0 then below else above)
  | true, false => some below
  | false, true => some above
  | false, false => none

/-- The nearest multiple in the interval of the largest power of ten that has one, looking at `count`
powers downwards from `exponent`. -/
def Interval.coarsest? (i : Interval) : Nat → Int → Option (Nat × Int)
  | 0, _ => none
  | count + 1, exponent =>
    match i.nearest? exponent with
    | some digits => some (digits, exponent)
    | none => i.coarsest? count (exponent - 1)

/-- The shortest decimal `digits · 10 ^ exponent` that rounds to a double. -/
def Double.shortest (d : Double) : Nat × Int :=
  if d.coefficient = 0 then (0, 0) else (d.interval.coarsest? 640 309).getD (0, 0)

/-- How a decimal is laid out: positional when its point falls between these two places, and with an
exponent elsewhere, which has a plus sign if it is not negative and `plusSign` is set. -/
structure Layout where
  leastPoint : Int
  greatestPoint : Int
  plusSign : Bool
  deriving DecidableEq, Repr

/-- Lays out `digits · 10 ^ exponent`, always with a fraction or an exponent. -/
def Layout.write (l : Layout) (digits : Nat) (exponent : Int) : List Char :=
  let ds := Nat.toDigits 10 digits
  let point : Int := ds.length + exponent
  if l.leastPoint ≤ point ∧ point ≤ l.greatestPoint then
    if 0 ≤ exponent then ds ++ List.replicate exponent.toNat '0' ++ ['.', '0']
    else if 0 < point then ds.take point.toNat ++ '.' :: ds.drop point.toNat
    else '0' :: '.' :: List.replicate (-point).toNat '0' ++ ds
  else
    let shown := match ds with
      | [d] => [d]
      | d :: rest => d :: '.' :: rest
      | [] => []
    let power := point - 1
    let sign := if power < 0 then ['-'] else if l.plusSign then ['+'] else []
    shown ++ 'e' :: sign ++ Nat.toDigits 10 power.natAbs

/-- Writes a double with a sign, its shortest digits and a layout; empty for what is not finite. -/
def Layout.writeBits (l : Layout) (bits : UInt64) : List Char :=
  match Double.ofBits? bits with
  | none => []
  | some d =>
    let body :=
      if d.coefficient = 0 then ['0', '.', '0']
      else l.write d.shortest.1 d.shortest.2
    if d.negative then '-' :: body else body

end Parley.Decimal
