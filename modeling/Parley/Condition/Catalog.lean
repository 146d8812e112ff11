import Parley.Condition.Query

/-!
The catalog of condition keys: what each key asks, in which role, and what arguments it takes.
-/

set_option autoImplicit false
set_option relaxedAutoImplicit false

namespace Parley

/-- The arguments that a key takes, and what is made of them. -/
inductive Arguments
  | anyTrait
  | text (q : TextQuery)
  | prompt
  | level (q : LevelQuery)
  | hitPoints
  | need
  | items
  | category
  | effect
  | nearLocation
  | skill
  | direction
  | aimRule
  | engagementRule
  | reserveRule
  | rechargeRule
  | season
  | missionGoal
  | variableIs
  | compareVariable
  | compareElapsed
  | oneIn
  | xInY
  | compareIntegers
  | compareTexts
  deriving DecidableEq, Repr

inductive Combinator
  | all
  | any
  | negate
  deriving DecidableEq, Repr

instance : Named Combinator where
  all := [.all, .any, .negate]
  name
    | .all => "and"
    | .any => "or"
    | .negate => "not"

namespace Catalog

def simple : List (String × Slot × Fact) :=
  [("u_male", .primary, .male),
    ("u_female", .primary, .female),
    ("npc_male", .secondary, .male),
    ("npc_female", .secondary, .female),
    ("has_no_assigned_mission", .secondary, .noAssignedMission),
    ("has_assigned_mission", .secondary, .oneAssignedMission),
    ("has_many_assigned_missions", .secondary, .manyAssignedMissions),
    ("has_no_available_mission", .secondary, .noAvailableMission),
    ("has_available_mission", .secondary, .oneAvailableMission),
    ("has_many_available_missions", .secondary, .manyAvailableMissions),
    ("mission_complete", .secondary, .missionComplete),
    ("mission_incomplete", .secondary, .missionIncomplete),
    ("mission_has_generic_rewards", .secondary, .missionHasGenericRewards),
    ("npc_available", .secondary, .available),
    ("npc_following", .secondary, .following),
    ("npc_friend", .secondary, .friendly),
    ("npc_hostile", .secondary, .hostile),
    ("npc_train_skills", .secondary, .trainsSkills),
    ("npc_train_styles", .secondary, .trainsStyles),
    ("npc_train_spells", .secondary, .trainsSpells),
    ("at_safe_space", .secondary, .inSafety),
    ("is_day", .primary, .isDay),
    ("npc_has_activity", .secondary, .active),
    ("is_outside", .primary, .outside),
    ("u_is_outside", .primary, .outside),
    ("npc_is_outside", .secondary, .outside),
    ("u_has_camp", .primary, .campExists),
    ("u_can_stow_weapon", .primary, .canStowWeapon),
    ("npc_can_stow_weapon", .secondary, .canStowWeapon),
    ("u_has_weapon", .primary, .hasWeapon),
    ("npc_has_weapon", .secondary, .hasWeapon),
    ("u_driving", .primary, .driving),
    ("npc_driving", .secondary, .driving),
    ("has_pickup_list", .secondary, .hasPickupList),
    ("is_by_radio", .primary, .byRadio),
    ("has_reason", .primary, .hasReason),
    ("u_is_riding", .primary, .riding),
    ("npc_is_riding", .secondary, .riding),
    ("u_is_deaf", .primary, .deaf),
    ("npc_is_deaf", .secondary, .deaf),
    ("u_can_see", .primary, .sighted),
    ("npc_can_see", .secondary, .sighted),
    ("u_is_underwater", .primary, .underwater),
    ("npc_is_underwater", .secondary, .underwater),
    ("u_has_stolen_item", .primary, .holdsStolenItem)]

def parameterized : List (String × Slot × Arguments) :=
  [("u_has_any_trait", .primary, .anyTrait),
    ("npc_has_any_trait", .secondary, .anyTrait),
    ("u_has_trait", .primary, .text .hasTrait),
    ("npc_has_trait", .secondary, .text .hasTrait),
    ("u_has_flag", .primary, .text .hasFlag),
    ("npc_has_flag", .secondary, .text .hasFlag),
    ("npc_has_class", .secondary, .text .hasClass),
    ("u_has_mission", .primary, .text .hasMission),
    ("u_monsters_in_direction", .primary, .direction),
    ("u_safe_mode_trigger", .primary, .level .hostileWithin),
    ("u_has_strength", .primary, .level (.attribute .strength)),
    ("npc_has_strength", .secondary, .level (.attribute .strength)),
    ("u_has_dexterity", .primary, .level (.attribute .dexterity)),
    ("npc_has_dexterity", .secondary, .level (.attribute .dexterity)),
    ("u_has_intelligence", .primary, .level (.attribute .intelligence)),
    ("npc_has_intelligence", .secondary, .level (.attribute .intelligence)),
    ("u_has_perception", .primary, .level (.attribute .perception)),
    ("npc_has_perception", .secondary, .level (.attribute .perception)),
    ("u_is_wearing", .primary, .text .isWearing),
    ("npc_is_wearing", .secondary, .text .isWearing),
    ("u_has_item", .primary, .text .hasItem),
    ("npc_has_item", .secondary, .text .hasItem),
    ("u_has_move_mode", .primary, .text .movesBy),
    ("npc_has_move_mode", .secondary, .text .movesBy),
    ("u_has_items", .primary, .items),
    ("npc_has_items", .secondary, .items),
    ("u_has_item_category", .primary, .category),
    ("npc_has_item_category", .secondary, .category),
    ("u_has_bionics", .primary, .text .hasBionic),
    ("npc_has_bionics", .secondary, .text .hasBionic),
    ("u_has_effect", .primary, .effect),
    ("npc_has_effect", .secondary, .effect),
    ("u_need", .primary, .need),
    ("npc_need", .secondary, .need),
    ("u_at_om_location", .primary, .text .atLocation),
    ("u_near_om_location", .primary, .nearLocation),
    ("npc_at_om_location", .secondary, .text .atLocation),
    ("npc_near_om_location", .secondary, .nearLocation),
    ("npc_role_nearby", .secondary, .text .roleNearby),
    ("npc_allies", .primary, .level .alliesNear),
    ("npc_allies_global", .primary, .level .allies),
    ("npc_service", .secondary, .level .service),
    ("u_has_cash", .primary, .level (.attribute .cash)),
    ("u_are_owed", .secondary, .level .debt),
    ("u_query", .primary, .prompt),
    ("npc_query", .secondary, .prompt),
    ("u_has_item_with_flag", .primary, .text .hasItemWithFlag),
    ("npc_has_item_with_flag", .secondary, .text .hasItemWithFlag),
    ("npc_aim_rule", .secondary, .aimRule),
    ("npc_engagement_rule", .secondary, .engagementRule),
    ("npc_rule", .secondary, .text .goesByRule),
    ("npc_override", .secondary, .text .overridesRule),
    ("u_has_hp", .primary, .hitPoints),
    ("npc_has_hp", .secondary, .hitPoints),
    ("npc_cbm_reserve_rule", .secondary, .reserveRule),
    ("npc_cbm_recharge_rule", .secondary, .rechargeRule),
    ("u_has_faction_trust", .secondary, .level .factionTrust),
    ("days_since_cataclysm", .primary, .level .daysSinceCataclysm),
    ("is_season", .primary, .season),
    ("mission_goal", .secondary, .missionGoal),
    ("u_has_var", .primary, .variableIs),
    ("npc_has_var", .secondary, .variableIs),
    ("u_has_skill", .primary, .skill),
    ("npc_has_skill", .secondary, .skill),
    ("u_know_recipe", .primary, .text .knowsRecipe),
    ("u_compare_var", .primary, .compareVariable),
    ("npc_compare_var", .secondary, .compareVariable),
    ("u_compare_time_since_var", .primary, .compareElapsed),
    ("npc_compare_time_since_var", .secondary, .compareElapsed),
    ("is_weather", .primary, .text .weather),
    ("one_in_chance", .primary, .oneIn),
    ("x_in_y_chance", .primary, .xInY),
    ("is_temperature", .primary, .level (.weather .temperature)),
    ("is_windpower", .primary, .level (.weather .windpower)),
    ("is_humidity", .primary, .level (.weather .humidity)),
    ("is_pressure", .primary, .level (.weather .pressure)),
    ("u_is_height", .primary, .level (.attribute .height)),
    ("npc_is_height", .secondary, .level (.attribute .height)),
    ("u_has_worn_with_flag", .primary, .text .hasWornWithFlag),
    ("npc_has_worn_with_flag", .secondary, .text .hasWornWithFlag),
    ("u_has_wielded_with_flag", .primary, .text .hasWieldedWithFlag),
    ("npc_has_wielded_with_flag", .secondary, .text .hasWieldedWithFlag),
    ("u_has_pain", .primary, .level (.attribute .pain)),
    ("npc_has_pain", .secondary, .level (.attribute .pain)),
    ("u_has_power", .primary, .level (.attribute .power)),
    ("npc_has_power", .secondary, .level (.attribute .power)),
    ("u_has_focus", .primary, .level (.attribute .focus)),
    ("npc_has_focus", .secondary, .level (.attribute .focus)),
    ("u_has_morale", .primary, .level (.attribute .morale)),
    ("npc_has_morale", .secondary, .level (.attribute .morale)),
    ("u_is_on_terrain", .primary, .text .onTerrain),
    ("npc_is_on_terrain", .secondary, .text .onTerrain),
    ("u_is_in_field", .primary, .text .inField),
    ("npc_is_in_field", .secondary, .text .inField),
    ("compare_int", .primary, .compareIntegers),
    ("compare_string", .primary, .compareTexts)]

def fact? (key : String) : Option (Slot × Fact) :=
  Entries.find? key simple

def arguments? (key : String) : Option (Slot × Arguments) :=
  Entries.find? key parameterized

def combinator? (key : String) : Option Combinator :=
  Named.ofName? key

def isSimple (key : String) : Bool :=
  (fact? key).isSome

/-- Whether a key takes arguments, conditions or others. -/
def takesArguments (key : String) : Bool :=
  (arguments? key).isSome || (combinator? key).isSome

def isKey (key : String) : Bool :=
  isSimple key || takesArguments key

end Catalog

end Parley
