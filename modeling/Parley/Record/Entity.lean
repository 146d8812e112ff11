import Parley.Record.Basic
import Parley.World.Basic

/-!
The written forms of items, characters, missions, factions and the other things in the world.
-/

set_option autoImplicit false
set_option relaxedAutoImplicit false

namespace Parley

open Record

instance : Record Variables where
  write v := .ofMembers [("values", write v.texts)]
  read? json := do
    let f ← fields? ["values"] json
    return ⟨← (f "values").required?⟩

instance : Record Duration where
  write d := write d.turns
  read? json := (read? json).map Duration.mk

instance : Record Calendar where
  write c := .ofMembers [("turn", write c.turn), ("cataclysm_turn", write c.cataclysm)]
  read? json := do
    let f ← fields? ["turn", "cataclysm_turn"] json
    return ⟨← (f "turn").required?, ← (f "cataclysm_turn").required?⟩

instance : Record Square where
  write s := .ofMembers [("x", write s.x), ("y", write s.y), ("z", write s.z)]
  read? json := do
    let f ← fields? ["x", "y", "z"] json
    return ⟨← (f "x").required?, ← (f "y").required?, ← (f "z").required?⟩

instance : Record Tile where
  write t := .ofMembers [("x", write t.x), ("y", write t.y), ("z", write t.z)]
  read? json := do
    let f ← fields? ["x", "y", "z"] json
    return ⟨← (f "x").required?, ← (f "y").required?, ← (f "z").required?⟩

instance : Record Item where
  write i := .ofMembers
    [("id", write i.id), ("type_id", write i.typeId), ("name", write i.name),
      ("category", write i.category), ("flags", write i.flags), ("charges", write i.charges),
      ("owner", write i.owner), ("vars", write i.vars)]
  read? json := do
    let f ← fields? ["id", "type_id", "name", "category", "flags", "charges", "owner", "vars"] json
    let id ← (f "id").required?
    let typeId ← (f "type_id").required?
    let name ← (f "name").required?
    let category ← (f "category").required?
    let flags ← (f "flags").required?
    let charges ← (f "charges").required?
    let owner ← (f "owner").optional?
    let vars ← (f "vars").withDefault? .none
    return { id, typeId, name, category, flags, charges, owner, vars }

instance : Record LooseItem where
  write l := .ofMembers [("item", write l.item), ("position", write l.position)]
  read? json := do
    let f ← fields? ["item", "position"] json
    return ⟨← (f "item").required?, ← (f "position").required?⟩

instance : Record Stats where
  write s := .ofMembers
    [("strength", write s.strength), ("dexterity", write s.dexterity),
      ("intelligence", write s.intelligence), ("perception", write s.perception)]
  read? json := do
    let f ← fields? ["strength", "dexterity", "intelligence", "perception"] json
    return ⟨← (f "strength").required?, ← (f "dexterity").required?,
      ← (f "intelligence").required?, ← (f "perception").required?⟩

instance : Record Vitals where
  write v := .ofMembers
    [("hp", write v.hp), ("pain", write v.pain), ("power", write v.power),
      ("max_power", write v.maxPower), ("focus", write v.focus), ("morale", write v.morale),
      ("hunger", write v.hunger), ("thirst", write v.thirst), ("fatigue", write v.fatigue)]
  read? json := do
    let f ← fields?
      ["hp", "pain", "power", "max_power", "focus", "morale", "hunger", "thirst", "fatigue"] json
    let hp ← (f "hp").required?
    let pain ← (f "pain").required?
    let power ← (f "power").required?
    let maxPower ← (f "max_power").required?
    let focus ← (f "focus").required?
    let morale ← (f "morale").required?
    let hunger ← (f "hunger").required?
    let thirst ← (f "thirst").required?
    let fatigue ← (f "fatigue").required?
    return { hp, pain, power, maxPower, focus, morale, hunger, thirst, fatigue }

instance : Record Inventory where
  write i := .ofMembers
    [("carried", write i.carried), ("worn", write i.worn), ("wielded", write i.wielded)]
  read? json := do
    let f ← fields? ["carried", "worn", "wielded"] json
    return ⟨← (f "carried").required?, ← (f "worn").required?, ← (f "wielded").optional?⟩

instance : Record ActiveEffect where
  write e := .ofMembers
    [("effect_id", write e.effectId), ("intensity", write e.intensity),
      ("body_part", write e.bodyPart), ("remaining_duration", write e.remaining)]
  read? json := do
    let f ← fields? ["effect_id", "intensity", "body_part", "remaining_duration"] json
    return ⟨← (f "effect_id").required?, ← (f "intensity").required?,
      ← (f "body_part").optional?, ← (f "remaining_duration").optional?⟩

instance : Record FollowerRules where
  write r := .ofMembers
    [("aim", write r.aim), ("engagement", write r.engagement), ("cbm_reserve", write r.reserve),
      ("cbm_recharge", write r.recharge), ("flags", write r.flags),
      ("overrides", write r.overrides)]
  read? json := do
    let f ← fields?
      ["aim", "engagement", "cbm_reserve", "cbm_recharge", "flags", "overrides"] json
    let aim ← (f "aim").required?
    let engagement ← (f "engagement").required?
    let reserve ← (f "cbm_reserve").required?
    let recharge ← (f "cbm_recharge").required?
    let flags ← (f "flags").required?
    let overrides ← (f "overrides").required?
    return { aim, engagement, reserve, recharge, flags, overrides }

instance : Record Profile where
  write p := .ofMembers
    [("class", write p.className), ("attitude", write p.attitude), ("faction", write p.faction),
      ("missions_assigned", write p.missionsAssigned),
      ("missions_available", write p.missionsAvailable),
      ("chosen_mission", write p.chosenMission), ("trainable_skills", write p.trainableSkills),
      ("trainable_styles", write p.trainableStyles),
      ("trainable_spells", write p.trainableSpells), ("rules", write p.rules),
      ("activity", write p.activity), ("debt", write p.debt), ("role", write p.role),
      ("pickup_whitelist", write p.pickupWhitelist)]
  read? json := do
    let f ← fields?
      ["class", "attitude", "faction", "missions_assigned", "missions_available",
        "chosen_mission", "trainable_skills", "trainable_styles", "trainable_spells", "rules",
        "activity", "debt", "role", "pickup_whitelist"] json
    let className ← (f "class").required?
    let attitude ← (f "attitude").required?
    let faction ← (f "faction").optional?
    let missionsAssigned ← (f "missions_assigned").required?
    let missionsAvailable ← (f "missions_available").required?
    let chosenMission ← (f "chosen_mission").optional?
    let trainableSkills ← (f "trainable_skills").required?
    let trainableStyles ← (f "trainable_styles").required?
    let trainableSpells ← (f "trainable_spells").required?
    let rules ← (f "rules").required?
    let activity ← (f "activity").optional?
    let debt ← (f "debt").required?
    let role ← (f "role").optional?
    let pickupWhitelist ← (f "pickup_whitelist").required?
    return { className, attitude, faction, missionsAssigned, missionsAvailable, chosenMission,
             trainableSkills, trainableStyles, trainableSpells, rules, activity, debt, role,
             pickupWhitelist }

/-- The effects on a character, in the structure that they are written in. -/
structure EffectList where
  effects : List ActiveEffect

instance : Record EffectList where
  write l := .ofMembers [("active_effects", write l.effects)]
  read? json := do
    let f ← fields? ["active_effects"] json
    return ⟨← (f "active_effects").required?⟩

instance : Record Character where
  write c := .ofMembers
    [("id", write c.id), ("name", write c.name), ("male", write c.male),
      ("height_cm", write c.heightCm), ("stats", write c.stats), ("vitals", write c.vitals),
      ("inventory", write c.inventory), ("status_effects", write (EffectList.mk c.effects)),
      ("traits", write c.traits), ("flags", write c.flags), ("skills", write c.skills),
      ("martial_arts", write c.martialArts), ("spells", write c.spells),
      ("known_recipes", write c.knownRecipes), ("bionics", write c.bionics),
      ("position", write c.position), ("move_mode", write c.moveMode),
      ("driving", write c.driving), ("riding", write c.riding),
      ("underwater", write c.underwater), ("deaf", write c.deaf), ("blind", write c.blind),
      ("cash", write c.cash), ("active_missions", write c.activeMissions),
      ("vars", write c.vars), ("npc", write c.profile)]
  read? json := do
    let f ← fields?
      ["id", "name", "male", "height_cm", "stats", "vitals", "inventory", "status_effects",
        "traits", "flags", "skills", "martial_arts", "spells", "known_recipes", "bionics",
        "position", "move_mode", "driving", "riding", "underwater", "deaf", "blind", "cash",
        "active_missions", "vars", "npc"] json
    let id ← (f "id").required?
    let name ← (f "name").required?
    let male ← (f "male").required?
    let heightCm ← (f "height_cm").required?
    let stats ← (f "stats").required?
    let vitals ← (f "vitals").required?
    let inventory ← (f "inventory").required?
    let ⟨effects⟩ ← (f "status_effects").required? (α := EffectList)
    let traits ← (f "traits").required?
    let flags ← (f "flags").required?
    let skills ← (f "skills").required?
    let martialArts ← (f "martial_arts").required?
    let spells ← (f "spells").required?
    let knownRecipes ← (f "known_recipes").required?
    let bionics ← (f "bionics").required?
    let position ← (f "position").required?
    let moveMode ← (f "move_mode").required?
    let driving ← (f "driving").required?
    let riding ← (f "riding").required?
    let underwater ← (f "underwater").required?
    let deaf ← (f "deaf").required?
    let blind ← (f "blind").required?
    let cash ← (f "cash").required?
    let activeMissions ← (f "active_missions").required?
    let vars ← (f "vars").withDefault? .none
    let profile ← (f "npc").optional?
    return { id, name, male, heightCm, stats, vitals, inventory, effects, traits, flags, skills,
             martialArts, spells, knownRecipes, bionics, position, moveMode, driving, riding,
             underwater, deaf, blind, cash, activeMissions, vars, profile }

instance : Record Mission where
  write m := .ofMembers
    [("id", write m.id), ("type_id", write m.typeId), ("goal", write m.goal),
      ("complete", write m.complete), ("has_generic_rewards", write m.hasGenericRewards),
      ("giver", write m.giver)]
  read? json := do
    let f ← fields? ["id", "type_id", "goal", "complete", "has_generic_rewards", "giver"] json
    let id ← (f "id").required?
    let typeId ← (f "type_id").required?
    let goal ← (f "goal").required?
    let complete ← (f "complete").required?
    let hasGenericRewards ← (f "has_generic_rewards").required?
    let giver ← (f "giver").optional?
    return { id, typeId, goal, complete, hasGenericRewards, giver }

instance : Record Faction where
  write f := .ofMembers
    [("id", write f.id), ("name", write f.name), ("trust", write f.trust), ("vars", write f.vars)]
  read? json := do
    let f ← fields? ["id", "name", "trust", "vars"] json
    return ⟨← (f "id").required?, ← (f "name").required?, ← (f "trust").required?,
      ← (f "vars").withDefault? .none⟩

instance : Record Environment where
  write e := .ofMembers
    [("weather", write e.weather), ("temperature", write e.temperature),
      ("windpower", write e.windpower), ("humidity", write e.humidity),
      ("pressure", write e.pressure)]
  read? json := do
    let f ← fields? ["weather", "temperature", "windpower", "humidity", "pressure"] json
    return ⟨← (f "weather").required?, ← (f "temperature").required?,
      ← (f "windpower").required?, ← (f "humidity").required?, ← (f "pressure").required?⟩

instance : Record Monster where
  write m := .ofMembers
    [("id", write m.id), ("type_id", write m.typeId), ("position", write m.position),
      ("hostile", write m.hostile)]
  read? json := do
    let f ← fields? ["id", "type_id", "position", "hostile"] json
    return ⟨← (f "id").required?, ← (f "type_id").required?, ← (f "position").required?,
      ← (f "hostile").required?⟩

end Parley
