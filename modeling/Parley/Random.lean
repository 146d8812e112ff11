/-!
Random sources. A source is what it answers to the draw of each number from each range, so that one
type covers scripted and live sources; the state of a source is the number of draws made.
-/

set_option autoImplicit false
set_option relaxedAutoImplicit false

namespace Parley

/-- A random source after some draws. `sample k low high` is what draw `k` gives between `low` and
`high`. -/
structure Random where
  sample : Nat → Int64 → Int64 → Int64
  drawn : Nat

namespace Random

def clamp (low high value : Int64) : Int64 :=
  if value < low then low else if high < value then high else value

/-- The source that goes through a list of values again and again, each brought into the range asked
for; of an empty list every draw is the lower bound. -/
def scripted (values : List Int64) : Random where
  sample k low high :=
    match values[k % values.length]? with
    | none => low
    | some value => clamp low high value
  drawn := 0

/-- A draw between two bounds, given in either order. -/
def draw (r : Random) (a b : Int64) : Int64 × Random :=
  (if a ≤ b then r.sample r.drawn a b else r.sample r.drawn b a, { r with drawn := r.drawn + 1 })

/-- A chance of one in `n`, certain for 1 and less, which needs no draw. -/
def oneIn (r : Random) (n : Int64) : Bool × Random :=
  if n ≤ 1 then (true, r)
  else
    let (value, r) := r.draw 0 (n - 1)
    (value == 0, r)

/-- A chance of `x` in `y`; no draw is needed where it is impossible or certain. -/
def xInY (r : Random) (x y : Int64) : Bool × Random :=
  if x ≤ 0 then (false, r)
  else if y ≤ x then (true, r)
  else
    let (value, r) := r.draw 1 y
    (value ≤ x, r)

def Lawful (r : Random) : Prop :=
  ∀ k low high, low ≤ high → low ≤ r.sample k low high ∧ r.sample k low high ≤ high

end Random

end Parley
