import Parley.Entity.Character
import Parley.Place.Direction
import Parley.Place.Terrain
import Parley.Time.Calendar

/-!
The world: calendar, weather, map, characters, items, monsters, missions, factions and the answers
the player gives, with the counts that conditions ask for.
-/

set_option autoImplicit false
set_option relaxedAutoImplicit false

namespace Parley

inductive MissionGoal
  | null
  | goTo
  | goToType
  | findItem
  | findAnyItem
  | findMonster
  | findNpc
  | assassinate
  | killMonster
  | recruitNpc
  | computerToggle
  | condition
  deriving DecidableEq, Repr

instance : Named MissionGoal where
  all := [.null, .goTo, .goToType, .findItem, .findAnyItem, .findMonster, .findNpc, .assassinate,
    .killMonster, .recruitNpc, .computerToggle, .condition]
  name
    | .null => "MGOAL_NULL"
    | .goTo => "MGOAL_GO_TO"
    | .goToType => "MGOAL_GO_TO_TYPE"
    | .findItem => "MGOAL_FIND_ITEM"
    | .findAnyItem => "MGOAL_FIND_ANY_ITEM"
    | .findMonster => "MGOAL_FIND_MONSTER"
    | .findNpc => "MGOAL_FIND_NPC"
    | .assassinate => "MGOAL_ASSASSINATE"
    | .killMonster => "MGOAL_KILL_MONSTER"
    | .recruitNpc => "MGOAL_RECRUIT_NPC"
    | .computerToggle => "MGOAL_COMPUTER_TOGGLE"
    | .condition => "MGOAL_CONDITION"

instance : LawfulNamed MissionGoal := ⟨by intro a; cases a <;> decide⟩

structure Mission where
  id : MissionId
  typeId : String
  goal : MissionGoal
  complete : Bool
  hasGenericRewards : Bool
  giver : Option EntityId
  deriving DecidableEq

def Mission.ofType (typeId : String) (goal : MissionGoal) : Mission :=
  ⟨.ofNat 0, typeId, goal, false, true, none⟩

/-- A faction and how far it trusts the player. -/
structure Faction where
  id : String
  name : String
  trust : Int32
  vars : Variables
  deriving DecidableEq

def Faction.ofId (id : String) : Faction :=
  ⟨id, id, 0, .none⟩

/-- The weather, with temperature in Fahrenheit, wind in mph, humidity in percent and pressure in
millibars. -/
structure Environment where
  weather : String
  temperature : Int32
  windpower : Int32
  humidity : Int32
  pressure : Int32
  deriving DecidableEq

def Environment.mild : Environment :=
  ⟨"clear", 65, 5, 50, 1015⟩

/-- A measurable quantity of the weather. -/
inductive WeatherGauge
  | temperature
  | windpower
  | humidity
  | pressure
  deriving DecidableEq, Repr

instance : Named WeatherGauge where
  all := [.temperature, .windpower, .humidity, .pressure]
  name
    | .temperature => "temperature"
    | .windpower => "windpower"
    | .humidity => "humidity"
    | .pressure => "pressure"

def Environment.gauge (e : Environment) : WeatherGauge → Int32
  | .temperature => e.temperature
  | .windpower => e.windpower
  | .humidity => e.humidity
  | .pressure => e.pressure

structure Monster where
  id : EntityId
  typeId : String
  position : Square
  hostile : Bool
  deriving DecidableEq

structure LooseItem where
  item : Item
  position : Square
  deriving DecidableEq

structure World where
  calendar : Calendar
  environment : Environment
  terrain : Terrain
  characters : Dict EntityId Character
  playerId : Option EntityId
  items : Dict EntityId LooseItem
  monsters : List Monster
  missions : Dict MissionId Mission
  factions : Dict String Faction
  globals : Variables
  answers : Dict String Bool
  deriving DecidableEq

namespace World

def playerFaction : String := "your_followers"

/-- A world with nothing in it, on a fine day at turn 0. -/
def empty : World where
  calendar := default
  environment := .mild
  terrain := .empty
  characters := ∅
  playerId := none
  items := ∅
  monsters := []
  missions := ∅
  factions := ∅
  globals := .none
  answers := ∅

instance : Inhabited World := ⟨empty⟩

def character? (w : World) (id : EntityId) : Option Character :=
  w.characters.get? id

def player? (w : World) : Option Character :=
  w.playerId.bind w.character?

def addCharacter (w : World) (c : Character) : World :=
  { w with characters := w.characters.insert c.id c }

/-- The world with one more character, who is the player. -/
def addPlayer (w : World) (c : Character) : World :=
  { w.addCharacter c with playerId := some c.id }

def addItem (w : World) (i : Item) (position : Square) : World :=
  { w with items := w.items.insert i.id ⟨i, position⟩ }

def addMission (w : World) (m : Mission) : World :=
  { w with missions := w.missions.insert m.id m }

def addFaction (w : World) (f : Faction) : World :=
  { w with factions := w.factions.insert f.id f }

def advance (w : World) (d : Duration) : World :=
  { w with calendar := w.calendar.advance d }

def followers (w : World) : List Character :=
  w.characters.values.filter fun c => c.profile.any (·.attitude.isFollowing)

/-- Whether a square is on the same level as another and at most `range` squares away. -/
def isNear (a b : Square) (range : Int) : Bool :=
  a.z == b.z && a.distance b ≤ range

def followersNearPlayer (w : World) (range : Int) : Nat :=
  match w.player? with
  | none => 0
  | some player => w.followers.countP fun c => isNear c.position player.position range

def countRoleNear (w : World) (role : String) (center : Square) (range : Int) : Nat :=
  w.characters.values.countP fun c =>
    c.profile.bind (·.role) == some role && isNear c.position center range

/-- The number of monsters, or of hostile ones only, within a range of a square and in a direction
from it. -/
def countMonsters (w : World) (center : Square) (direction : Direction) (range : Int)
    (hostileOnly : Bool) : Nat :=
  w.monsters.countP fun m =>
    (!hostileOnly || m.hostile) && isNear m.position center range &&
      Direction.between? center m.position == some direction

def hasHostileNear (w : World) (center : Square) (range : Int) : Bool :=
  w.monsters.any fun m => m.hostile && isNear m.position center range

end World

end Parley
