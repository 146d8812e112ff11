import Parley.Entity.Body
import Parley.Entity.Conduct
import Parley.Entity.Item
import Parley.Number.Narrow
import Parley.Place.Point
import Parley.Time.Duration

/-!
Characters, the player and others: their body, belongings and knowledge, and the profile that only
non-player characters have.
-/

set_option autoImplicit false
set_option relaxedAutoImplicit false

namespace Parley

structure Stats where
  strength : Int32
  dexterity : Int32
  intelligence : Int32
  perception : Int32
  deriving DecidableEq

def Stats.average : Stats := ⟨8, 8, 8, 8⟩

structure Vitals where
  hp : Dict BodyPart Int32
  pain : Int32
  power : Int32
  maxPower : Int32
  focus : Int32
  morale : Int32
  hunger : Int32
  thirst : Int32
  fatigue : Int32
  deriving DecidableEq

namespace Vitals

def healthy : Vitals where
  hp := Dict.ofList ((Named.all : List BodyPart).map fun part => (part, 60))
  pain := 0
  power := 0
  maxPower := 0
  focus := 100
  morale := 0
  hunger := 0
  thirst := 0
  fatigue := 0

/-- The hit points of one part, none if it has no entry, or of all parts together. -/
def hitPoints (v : Vitals) : Option BodyPart → Int32
  | some part => (v.hp.get? part).getD 0
  | none => v.hp.values.sum

def need (v : Vitals) : Need → Int32
  | .hunger => v.hunger
  | .thirst => v.thirst
  | .fatigue => v.fatigue

end Vitals

structure Inventory where
  carried : List Item
  worn : List Item
  wielded : Option Item
  deriving DecidableEq

namespace Inventory

def empty : Inventory := ⟨[], [], none⟩

/-- All items held: carried, then worn, then wielded. -/
def items (i : Inventory) : List Item :=
  i.carried ++ i.worn ++ i.wielded.toList

/-- Changes the first item of a list with a given id. -/
def modifyFirst (id : EntityId) (f : Item → Item) : List Item → List Item
  | [] => []
  | i :: rest => if i.id = id then f i :: rest else i :: modifyFirst id f rest

def modify (inv : Inventory) (id : EntityId) (f : Item → Item) : Inventory :=
  if inv.carried.any (·.id = id) then { inv with carried := modifyFirst id f inv.carried }
  else if inv.worn.any (·.id = id) then { inv with worn := modifyFirst id f inv.worn }
  else { inv with wielded := inv.wielded.map fun i => if i.id = id then f i else i }

end Inventory

/-- A status effect on a body or on one part of it; without a remaining time it is permanent. -/
structure ActiveEffect where
  effectId : String
  intensity : Int32
  bodyPart : Option BodyPart
  remaining : Option Duration
  deriving DecidableEq

/-- The rules that the player has set for a follower. -/
structure FollowerRules where
  aim : AimRule
  engagement : EngagementRule
  reserve : ReserveRule
  recharge : RechargeRule
  flags : KeySet String
  overrides : KeySet String
  deriving DecidableEq

def FollowerRules.standard : FollowerRules :=
  ⟨.whenConvenient, .all, .some, .some, ∅, ∅⟩

/-- What only non-player characters have. -/
structure Profile where
  className : String
  attitude : Attitude
  faction : Option String
  missionsAssigned : List MissionId
  missionsAvailable : List MissionId
  chosenMission : Option MissionId
  trainableSkills : Dict String Int32
  trainableStyles : KeySet String
  trainableSpells : KeySet String
  rules : FollowerRules
  activity : Option String
  debt : Int64
  role : Option String
  pickupWhitelist : List String
  deriving DecidableEq

namespace Profile

/-- A profile of a class with nothing else in it. -/
def ofClass (className : String) : Profile where
  className := className
  attitude := .null
  faction := none
  missionsAssigned := []
  missionsAvailable := []
  chosenMission := none
  trainableSkills := ∅
  trainableStyles := ∅
  trainableSpells := ∅
  rules := .standard
  activity := none
  debt := 0
  role := none
  pickupWhitelist := []

/-- The mission under discussion: the chosen one, or else the only one assigned. -/
def selectedMission (p : Profile) : Option MissionId :=
  p.chosenMission.or <|
    match p.missionsAssigned with
    | [only] => some only
    | _ => none

end Profile

/-- A living creature that takes part in conversations. -/
structure Character where
  id : EntityId
  name : String
  male : Bool
  heightCm : Int32
  stats : Stats
  vitals : Vitals
  inventory : Inventory
  effects : List ActiveEffect
  traits : KeySet String
  flags : KeySet String
  skills : Dict String Int32
  martialArts : KeySet String
  spells : KeySet String
  knownRecipes : KeySet String
  bionics : List String
  position : Square
  moveMode : String
  driving : Bool
  riding : Bool
  underwater : Bool
  deaf : Bool
  blind : Bool
  cash : Int64
  activeMissions : List MissionId
  vars : Variables
  profile : Option Profile
  deriving DecidableEq

/-- The measurable attributes of a character. -/
inductive Attribute
  | strength
  | dexterity
  | intelligence
  | perception
  | pain
  | power
  | focus
  | morale
  | need (n : Need)
  | height
  | cash
  | owed
  deriving DecidableEq, Repr

namespace Character

/-- A healthy character of average abilities with nothing but a name. -/
def ofName (name : String) : Character where
  id := default
  name := name
  male := true
  heightCm := 175
  stats := .average
  vitals := .healthy
  inventory := .empty
  effects := []
  traits := ∅
  flags := ∅
  skills := ∅
  martialArts := ∅
  spells := ∅
  knownRecipes := ∅
  bionics := []
  position := ⟨0, 0, 0⟩
  moveMode := "walk"
  driving := false
  riding := false
  underwater := false
  deaf := false
  blind := false
  cash := 0
  activeMissions := []
  vars := .none
  profile := none

def isNpc (c : Character) : Bool :=
  c.profile.isSome

/-- The value of an attribute; amounts of money are clamped to 32 bits. -/
def measure (c : Character) : Attribute → Int32
  | .strength => c.stats.strength
  | .dexterity => c.stats.dexterity
  | .intelligence => c.stats.intelligence
  | .perception => c.stats.perception
  | .pain => c.vitals.pain
  | .power => c.vitals.power
  | .focus => c.vitals.focus
  | .morale => c.vitals.morale
  | .need n => c.vitals.need n
  | .height => c.heightCm
  | .cash => Narrow.clamp32 c.cash.toInt
  | .owed => c.profile.elim 0 fun p => Narrow.clamp32 p.debt.toInt

def isAlive (c : Character) : Bool :=
  0 < c.vitals.hitPoints (some .torso) && 0 < c.vitals.hitPoints (some .head)

def hasTrait (c : Character) (t : String) : Bool :=
  c.traits.contains t

def hasBionic (c : Character) (b : String) : Bool :=
  c.bionics.contains b

/-- Whether a character has a flag of its own, or a trait or bionic of that name. -/
def hasFlag (c : Character) (flag : String) : Bool :=
  c.flags.contains flag || c.hasTrait flag || c.hasBionic flag

def skillLevel (c : Character) (skill : String) : Int32 :=
  (c.skills.get? skill).getD 0

/-- The first effect of a kind, on a given part of the body if one is asked for. -/
def effect? (c : Character) (effectId : String) (part : Option BodyPart) : Option ActiveEffect :=
  c.effects.find? fun e => e.effectId == effectId && (part.isNone || e.bodyPart == part)

def hasEffect (c : Character) (effectId : String) (part : Option BodyPart) : Bool :=
  (c.effect? effectId part).isSome

def items (c : Character) : List Item :=
  c.inventory.items

/-- The charges of an item type held, added up in 32 bits. -/
def chargesOf (c : Character) (typeId : String) : Nat :=
  ((c.items.filter (·.typeId == typeId)).foldl (fun n i => n + i.charges) (0 : UInt32)).toNat

def countOf (c : Character) (typeId : String) : Nat :=
  c.items.countP (·.typeId == typeId)

def countInCategory (c : Character) (category : String) : Nat :=
  c.items.countP (·.category == category)

def hasItemWithFlag (c : Character) (flag : String) : Bool :=
  c.items.any (·.hasFlag flag)

def hasItemOwnedBy (c : Character) (faction : String) : Bool :=
  c.items.any (·.owner == some faction)

def isWearing (c : Character) (typeId : String) : Bool :=
  c.inventory.worn.any (·.typeId == typeId)

def hasWornWithFlag (c : Character) (flag : String) : Bool :=
  c.inventory.worn.any (·.hasFlag flag)

def hasWieldedWithFlag (c : Character) (flag : String) : Bool :=
  c.inventory.wielded.any (·.hasFlag flag)

def hasWeapon (c : Character) : Bool :=
  c.inventory.wielded.isSome

def canStowWeapon (c : Character) : Bool :=
  c.inventory.wielded.any (!·.hasFlag "NO_UNWIELD") && c.hasWornWithFlag "CONTAINER"

def item? (c : Character) (id : EntityId) : Option Item :=
  c.items.find? (·.id = id)

def busyEffect : String := "currently_busy"

def isBusy (c : Character) : Bool :=
  c.hasEffect busyEffect none

end Character

end Parley
