import Parley.World.Basic

/-!
Integers that are read off the world: the clock, the weather, and what can be measured of a creature.
-/

set_option autoImplicit false
set_option relaxedAutoImplicit false

namespace Parley

inductive ClockReading
  | now
  | sinceCataclysm
  | daysSinceCataclysm
  | hour
  deriving DecidableEq, Repr

instance : Named ClockReading where
  all := [.now, .sinceCataclysm, .daysSinceCataclysm, .hour]
  name
    | .now => "now"
    | .sinceCataclysm => "cataclysm"
    | .daysSinceCataclysm => "days_since_cataclysm"
    | .hour => "hour"

/-- The value of a reading of the calendar, clamped to 32 bits. -/
def ClockReading.read (c : Calendar) : ClockReading → Int32
  | .now => Narrow.clamp32 c.turn.toInt
  | .sinceCataclysm => Narrow.clamp32 c.sinceCataclysm.turns.toInt
  | .daysSinceCataclysm => Narrow.clamp32 c.daysSinceCataclysm
  | .hour => Narrow.clamp32 c.hour

inductive CreatureReading
  | attribute (a : Attribute)
  | hitPoints (part : Option BodyPart)
  | skill (name : String)
  | intensity (effectId : String) (part : Option BodyPart)
  deriving DecidableEq

namespace CreatureReading

def of (c : Character) : CreatureReading → Int32
  | .attribute a => c.measure a
  | .hitPoints part => c.vitals.hitPoints part
  | .skill name => c.skillLevel name
  | .intensity effectId part => (c.effect? effectId part).elim (-1) (·.intensity)

/-- The value of a reading where there is no creature. -/
def absent : CreatureReading → Int32
  | .intensity .. => -1
  | _ => 0

def read (c : Option Character) (r : CreatureReading) : Int32 :=
  c.elim r.absent fun c => r.of c

end CreatureReading

inductive Axis
  | x
  | y
  | z
  deriving DecidableEq, Repr

def Axis.read (s : Square) : Axis → Int32
  | .x => s.x
  | .y => s.y
  | .z => s.z

end Parley
