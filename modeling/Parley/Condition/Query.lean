import Parley.Condition.Check
import Parley.Value.Reading

/-!
What conditions ask, apart from the values they compare with: facts, and queries that need a text, a
level, or both.
-/

set_option autoImplicit false
set_option relaxedAutoImplicit false

namespace Parley

inductive Fact
  | male
  | female
  | noAssignedMission
  | oneAssignedMission
  | manyAssignedMissions
  | noAvailableMission
  | oneAvailableMission
  | manyAvailableMissions
  | missionComplete
  | missionIncomplete
  | missionHasGenericRewards
  | missionGoal (goal : MissionGoal)
  | available
  | following
  | friendly
  | hostile
  | trainsSkills
  | trainsStyles
  | trainsSpells
  | inSafety
  | isDay
  | season (s : Season)
  | active
  | outside
  | campExists
  | canStowWeapon
  | hasWeapon
  | driving
  | hasPickupList
  | byRadio
  | hasReason
  | riding
  | deaf
  | sighted
  | underwater
  | holdsStolenItem
  | monstersToward (direction : Direction)
  | aimRule (rule : AimRule)
  | engagementRule (rule : EngagementRule)
  | reserveRule (rule : ReserveRule)
  | rechargeRule (rule : RechargeRule)
  deriving DecidableEq, Repr

namespace Fact

def monsterRange : Int := 60

def ofMission (w : World) (p : Mission → Bool) : Check :=
  .profile fun _ profile => (profile.selectedMission.bind w.missions.get?).any p

def check (w : World) : Fact → Check
  | .male => .creature (·.male)
  | .female => .creature (!·.male)
  | .noAssignedMission => .profile fun _ p => p.missionsAssigned.length == 0
  | .oneAssignedMission => .profile fun _ p => p.missionsAssigned.length == 1
  | .manyAssignedMissions => .profile fun _ p => 2 ≤ p.missionsAssigned.length
  | .noAvailableMission => .profile fun _ p => p.missionsAvailable.length == 0
  | .oneAvailableMission => .profile fun _ p => p.missionsAvailable.length == 1
  | .manyAvailableMissions => .profile fun _ p => 2 ≤ p.missionsAvailable.length
  | .missionComplete => ofMission w (·.complete)
  | .missionIncomplete => ofMission w (!·.complete)
  | .missionHasGenericRewards => ofMission w (·.hasGenericRewards)
  | .missionGoal goal => ofMission w (·.goal == goal)
  | .available => .profile fun c _ => !c.isBusy
  | .following => .profile fun _ p => p.attitude.isFollowing
  | .friendly => .profile fun _ p => p.attitude.isFriendly
  | .hostile => .profile fun _ p => p.attitude.isHostile
  | .trainsSkills => .pair fun trainer trainee =>
      trainer.profile.any fun p =>
        p.trainableSkills.entries.any fun e => trainee.skillLevel e.1 < e.2
  | .trainsStyles => .pair fun trainer trainee =>
      trainer.profile.any fun p =>
        p.trainableStyles.keys.any fun style => !trainee.martialArts.contains style
  | .trainsSpells => .pair fun trainer trainee =>
      trainer.profile.any fun p =>
        p.trainableSpells.keys.any fun spell => !trainee.spells.contains spell
  | .inSafety => .place fun s => w.terrain.isSafe s.tile
  | .isDay => .world w.calendar.isDay
  | .season s => .world (w.calendar.season == s)
  | .active => .profile fun _ p => p.activity.isSome
  | .outside => .place w.terrain.isOutside
  | .campExists => .world (!w.terrain.camps.isEmpty)
  | .canStowWeapon => .creature (·.canStowWeapon)
  | .hasWeapon => .creature (·.hasWeapon)
  | .driving => .creature (·.driving)
  | .hasPickupList => .profile fun _ p => !p.pickupWhitelist.isEmpty
  | .byRadio => .occasion (·.byRadio)
  | .hasReason => .occasion fun ctx => ctx.reason != ""
  | .riding => .creature (·.riding)
  | .deaf => .creature (·.deaf)
  | .sighted => .creature (!·.blind)
  | .underwater => .creature (·.underwater)
  | .holdsStolenItem => .versus fun c faction => c.hasItemOwnedBy faction
  | .monstersToward d => .place fun s => 0 < w.countMonsters s d monsterRange false
  | .aimRule r => .profile fun _ p => p.rules.aim == r
  | .engagementRule r => .profile fun _ p => p.rules.engagement == r
  | .reserveRule r => .profile fun _ p => p.rules.reserve == r
  | .rechargeRule r => .profile fun _ p => p.rules.recharge == r

end Fact

inductive TextQuery
  | hasTrait
  | hasFlag
  | hasClass
  | hasMission
  | isWearing
  | hasItem
  | movesBy
  | hasBionic
  | atLocation
  | roleNearby
  | hasItemWithFlag
  | goesByRule
  | overridesRule
  | knowsRecipe
  | weather
  | hasWornWithFlag
  | hasWieldedWithFlag
  | onTerrain
  | inField
  | prompt (default : Bool)
  deriving DecidableEq, Repr

namespace TextQuery

def roleRange : Int := 48

def anyBionic : String := "ANY"

def check (w : World) (text : String) : TextQuery → Check
  | .hasTrait => .creature (·.hasTrait text)
  | .hasFlag => .actor (·.hasFlag text)
  | .hasClass => .profile fun _ p => p.className == text
  | .hasMission => .creature fun c =>
      c.activeMissions.any fun id => (w.missions.get? id).any (·.typeId == text)
  | .isWearing => .creature (·.isWearing text)
  | .hasItem => .creature fun c => 0 < c.chargesOf text
  | .movesBy => .creature (·.moveMode == text)
  | .hasBionic => .creature fun c => if text = anyBionic then !c.bionics.isEmpty else c.hasBionic text
  | .atLocation => .place fun s => w.terrain.isAt s.tile text
  | .roleNearby => .place fun s => 0 < w.countRoleNear text s roleRange
  | .hasItemWithFlag => .creature (·.hasItemWithFlag text)
  | .goesByRule => .profile fun _ p => p.rules.flags.contains text
  | .overridesRule => .profile fun _ p => p.rules.overrides.contains text
  | .knowsRecipe => .creature (·.knownRecipes.contains text)
  | .weather => .world (w.environment.weather == text)
  | .hasWornWithFlag => .creature (·.hasWornWithFlag text)
  | .hasWieldedWithFlag => .creature (·.hasWieldedWithFlag text)
  | .onTerrain => .place fun s => w.terrain.groundAt s == text
  | .inField => .place fun s => w.terrain.hasField s text
  | .prompt default => .prompt default ((w.answers.get? text).getD default)

end TextQuery

/-- A question about a level, mostly whether something reaches it. -/
inductive LevelQuery
  | attribute (a : Attribute)
  | hitPoints (part : Option BodyPart)
  | need (n : Need)
  | debt
  | service
  | hostileWithin
  | alliesNear
  | allies
  | factionTrust
  | daysSinceCataclysm
  | weather (gauge : WeatherGauge)
  deriving DecidableEq, Repr

namespace LevelQuery

def allyRange : Int := 60

/-- The check that a query makes of a level. A need has to exceed it. -/
def check (w : World) (n : Int32) : LevelQuery → Check
  | .attribute a => .creature fun c => n ≤ c.measure a
  | .hitPoints part => .creature fun c => n ≤ c.vitals.hitPoints part
  | .need kind => .creature fun c => n < c.vitals.need kind
  | .debt => .profile fun _ p => n.toInt ≤ p.debt.toInt
  | .service => .pair fun c payer => c.isNpc && !c.isBusy && n.toInt ≤ payer.cash.toInt
  | .hostileWithin => .place fun s => w.hasHostileNear s n.toInt
  | .alliesNear => .world (n.toInt ≤ w.followersNearPlayer allyRange)
  | .allies => .world (n.toInt ≤ w.followers.length)
  | .factionTrust => .faction fun f => (w.factions.get? f).any (n ≤ ·.trust)
  | .daysSinceCataclysm => .world (n.toInt ≤ w.calendar.daysSinceCataclysm)
  | .weather gauge => .world (n ≤ w.environment.gauge gauge)

end LevelQuery

inductive CountQuery
  | items
  | charges
  | category
  | effect (part : Option BodyPart)
  | nearLocation
  | skill
  deriving DecidableEq, Repr

namespace CountQuery

def anyIntensity : Int32 := -1

def check (w : World) (text : String) (n : Int32) : CountQuery → Check
  | .items => .creature fun c => n.toInt ≤ c.countOf text
  | .charges => .creature fun c => n.toInt ≤ c.chargesOf text
  | .category => .creature fun c => n.toInt ≤ c.countInCategory text
  | .effect part => .creature fun c =>
      (c.effect? text part).any fun e => n == anyIntensity || n ≤ e.intensity
  | .nearLocation => .place fun s => w.terrain.isNear s.tile text n.toInt
  | .skill => .creature fun c => n ≤ c.skillLevel text

end CountQuery

end Parley
