import Parley.Named
import Parley.Time.Duration

/-!
The calendar: the current turn and the turn of the cataclysm, with the day, hour and season they make.
-/

set_option autoImplicit false
set_option relaxedAutoImplicit false

namespace Parley

inductive Season
  | spring
  | summer
  | autumn
  | winter
  deriving DecidableEq, Repr

instance : Named Season where
  all := [.spring, .summer, .autumn, .winter]
  name
    | .spring => "spring"
    | .summer => "summer"
    | .autumn => "autumn"
    | .winter => "winter"

instance : LawfulNamed Season := ⟨by intro a; cases a <;> decide⟩

/-- The current turn and the turn at which the cataclysm began. -/
structure Calendar where
  turn : Int64
  cataclysm : Int64
  deriving DecidableEq

namespace Calendar

instance : Inhabited Calendar := ⟨⟨0, 0⟩⟩

def daysPerSeason : Int := 90

/-- The day, counted from turn 0 and downwards before it. -/
def day (c : Calendar) : Int :=
  c.turn.toInt / Duration.turnsPerDay

def hour (c : Calendar) : Int :=
  c.turn.toInt % Duration.turnsPerDay / Duration.turnsPerHour

def season (c : Calendar) : Season :=
  match (c.day % (daysPerSeason * 4) / daysPerSeason).toNat with
  | 0 => .spring
  | 1 => .summer
  | 2 => .autumn
  | _ => .winter

def isDay (c : Calendar) : Bool :=
  6 ≤ c.hour && c.hour < 20

/-- The time since the cataclysm, negative before it. -/
def sinceCataclysm (c : Calendar) : Duration :=
  ⟨c.turn - c.cataclysm⟩

def daysSinceCataclysm (c : Calendar) : Int :=
  c.sinceCataclysm.days

def advance (c : Calendar) (d : Duration) : Calendar :=
  { c with turn := c.turn + d.turns }

end Calendar

end Parley
