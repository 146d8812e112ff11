import Parley.Named
import Parley.Place.Point

/-!
Compass directions from one square to another, north being toward smaller `y`.
-/

set_option autoImplicit false
set_option relaxedAutoImplicit false

namespace Parley

inductive Direction
  | north
  | northEast
  | east
  | southEast
  | south
  | southWest
  | west
  | northWest
  deriving DecidableEq, Repr

instance : Named Direction where
  all := [.north, .northEast, .east, .southEast, .south, .southWest, .west, .northWest]
  name
    | .north => "north"
    | .northEast => "north_east"
    | .east => "east"
    | .southEast => "south_east"
    | .south => "south"
    | .southWest => "south_west"
    | .west => "west"
    | .northWest => "north_west"

instance : LawfulNamed Direction := ⟨by intro a; cases a <;> decide⟩

namespace Direction

def degreesPerRadian : Float := 57.29577951308232

/-- The eighth of the circle, counted from east toward south, that a displacement points into. Each
eighth is centred on its direction. -/
def sector (dx dy : Int) : Nat :=
  let angle := Float.atan2 (Float.ofInt dy) (Float.ofInt dx) * degreesPerRadian
  let turned := angle + 360 + 22.5
  let reduced := if turned < 360 then turned else turned - 360
  (reduced / 45).toUInt8.toNat

def ofSector : Nat → Direction
  | 0 => .east
  | 1 => .southEast
  | 2 => .south
  | 3 => .southWest
  | 4 => .west
  | 5 => .northWest
  | 6 => .north
  | _ => .northEast

/-- The direction of `b` as seen from `a`; there is none when they differ in height at most. -/
def between? (a b : Square) : Option Direction :=
  let dx := b.x.toInt - a.x.toInt
  let dy := b.y.toInt - a.y.toInt
  if dx = 0 ∧ dy = 0 then none else some (ofSector (sector dx dy))

end Direction

end Parley
