import Parley.Condition.Query
import Parley.Proofs.World.Development

/-!
Outlines: what remains of the world without its variables. Main statement: whatever is asked of a world that
has developed is answered as before, but how far factions trust the player.
-/

set_option autoImplicit false
set_option relaxedAutoImplicit false

namespace Parley

namespace Dict

variable {κ ν μ : Type} [Ord κ]

def mapValues (f : ν → μ) (d : Dict κ ν) : Dict κ μ where
  entries := d.entries.map fun e => (e.1, f e.2)
  sorted := by
    rw [Entries.Sorted, List.pairwise_map]
    exact d.sorted

theorem get?_mapValues [DecidableEq κ] (f : ν → μ) (d : Dict κ ν) (k : κ) :
    (d.mapValues f).get? k = (d.get? k).map f :=
  Entries.find?_map (f := id) (fun h => h) (fun _ => f) k d.entries

private theorem values_mapValues (f : ν → μ) (d : Dict κ ν) : (d.mapValues f).values = d.values.map f := by
  simp only [values, mapValues, List.map_map]
  rfl

end Dict

def Item.outline (i : Item) : Item :=
  { i with vars := .none }

def Inventory.outline (inv : Inventory) : Inventory :=
  ⟨inv.carried.map .outline, inv.worn.map .outline, inv.wielded.map .outline⟩

/-- A character without its variables and those of the items it holds. -/
def Character.outline (c : Character) : Character :=
  { c with vars := .none, inventory := c.inventory.outline }

def Actor.outline : Actor → Actor
  | .creature c => .creature c.outline
  | .item i => .item i.outline

private theorem map_eq_of_optionRel {α β : Type} {R : α → α → Prop} {f : α → β}
    (hf : ∀ a b, R a b → f b = f a) {x y : Option α} (h : Option.Rel R x y) : y.map f = x.map f := by
  cases h with
  | none => rfl
  | some hab => exact congrArg some (hf _ _ hab)

private theorem map_outline_eq {xs ys : List Item} (h : List.Forall₂ Item.Develops xs ys) :
    ys.map Item.outline = xs.map Item.outline := by
  induction h with
  | nil => rfl
  | cons hi _ ih => rw [List.map_cons, List.map_cons, ih, Item.outline, hi.rest_eq, Item.outline]

private theorem Inventory.Develops.outline_eq {inv inv' : Inventory} (h : inv.Develops inv') :
    inv'.outline = inv.outline := by
  have hwielded : inv'.wielded.map Item.outline = inv.wielded.map Item.outline :=
    map_eq_of_optionRel (fun _ _ hi => hi.rest_eq) h.wielded
  rw [outline, outline, map_outline_eq h.carried, map_outline_eq h.worn, hwielded]

private theorem Character.Develops.outline_eq {c c' : Character} (h : c.Develops c') :
    c'.outline = c.outline :=
  congrArg₂ (fun (rest : Character) inventory => { rest with inventory := inventory }) h.rest_eq
    h.inventory.outline_eq

private theorem Character.Develops.position_eq {c c' : Character} (h : c.Develops c') :
    c'.position = c.position := by
  have hposition := congrArg Character.position h.outline_eq
  exact hposition

private theorem Actor.Develops.outline_eq {a a' : Actor} (h : a.Develops a') : a'.outline = a.outline := by
  cases h with
  | creature h => exact congrArg Actor.creature h.outline_eq
  | item h => exact congrArg Actor.item h.rest_eq

namespace Character

variable (c : Character)

theorem items_outline : c.outline.items = c.items.map Item.outline := by
  cases hwielded : c.inventory.wielded <;>
    simp [items, Inventory.items, outline, Inventory.outline, hwielded]

private theorem countP_items_outline {p : Item → Bool} (hp : ∀ i : Item, p i.outline = p i) :
    c.outline.items.countP p = c.items.countP p := by
  rw [items_outline, List.countP_map]
  exact List.countP_congr fun i _ => by rw [Function.comp, hp]

private theorem any_items_outline {p : Item → Bool} (hp : ∀ i : Item, p i.outline = p i) :
    c.outline.items.any p = c.items.any p := by
  rw [items_outline, List.any_map]
  exact congrArg c.items.any (funext hp)

private theorem chargesOf_outline (typeId : String) : c.outline.chargesOf typeId = c.chargesOf typeId := by
  rw [chargesOf, items_outline, List.filter_map, List.foldl_map]
  rfl

private theorem countOf_outline (typeId : String) : c.outline.countOf typeId = c.countOf typeId :=
  c.countP_items_outline fun _ => rfl

private theorem countInCategory_outline (category : String) :
    c.outline.countInCategory category = c.countInCategory category :=
  c.countP_items_outline fun _ => rfl

private theorem any_worn_outline {p : Item → Bool} (hp : ∀ i : Item, p i.outline = p i) :
    c.outline.inventory.worn.any p = c.inventory.worn.any p := by
  change (c.inventory.worn.map Item.outline).any p = _
  rw [List.any_map]
  exact congrArg c.inventory.worn.any (funext hp)

private theorem any_wielded_outline {p : Item → Bool} (hp : ∀ i : Item, p i.outline = p i) :
    c.outline.inventory.wielded.any p = c.inventory.wielded.any p := by
  change (c.inventory.wielded.map Item.outline).any p = _
  rw [Option.any_map]
  exact congrArg c.inventory.wielded.any (funext hp)

theorem measure_outline (a : Attribute) : c.outline.measure a = c.measure a := by
  cases a <;> rfl

end Character

/-- A check that looks at outlines only. -/
def Check.OfOutline : Check → Prop
  | .creature p => ∀ c : Character, p c.outline = p c
  | .profile p => ∀ (c : Character) profile, p c.outline profile = p c profile
  | .actor p => ∀ a : Actor, p a.outline = p a
  | .pair p => ∀ c d : Character, p c.outline d.outline = p c d
  | .versus p => ∀ (c : Character) faction, p c.outline faction = p c faction
  | .place _ | .faction _ | .prompt .. | .occasion _ | .world _ => True

namespace World.Develops

variable {w w' : World} (h : w.Develops w') (ctx : Context) (slot : Slot)
include h

private theorem actor?_outline : (ctx.actor? w' slot).map Actor.outline = (ctx.actor? w slot).map Actor.outline := by
  unfold Context.actor?
  cases ctx.handle? slot with
  | none => rfl
  | some handle => exact map_eq_of_optionRel (fun _ _ ha => ha.outline_eq) (h.actor? handle)

theorem character?_outline :
    (ctx.character? w' slot).map Character.outline = (ctx.character? w slot).map Character.outline := by
  have hcommute (x : Option Actor) : (x.bind (·.character?)).map Character.outline =
      (x.map Actor.outline).bind (·.character?) := by
    rcases x with _ | c | i <;> rfl
  unfold Context.character?
  rw [hcommute, hcommute, h.actor?_outline]

theorem position?_eq : ctx.position? w' slot = ctx.position? w slot := by
  have hcharacter (id : EntityId) :
      (w'.character? id).map (·.position) = (w.character? id).map (·.position) :=
    map_eq_of_optionRel (fun _ _ hc => hc.position_eq) (h.characters id)
  have hitem (id : EntityId) :
      (w'.items.get? id).map (·.position) = (w.items.get? id).map (·.position) :=
    map_eq_of_optionRel (fun _ _ hl => hl.position_eq) (h.items id)
  unfold Context.position?
  rcases ctx.handle? slot with _ | id | ⟨id⟩ | ⟨owner, id⟩
  · rfl
  · exact hcharacter id
  · exact hitem id
  · exact hcharacter owner

private theorem any_character {p : Character → Bool} (hp : ∀ c : Character, p c.outline = p c) :
    (ctx.character? w' slot).any p = (ctx.character? w slot).any p := by
  have hany (x : Option Character) : x.any p = (x.map Character.outline).any p := by
    cases x with
    | none => rfl
    | some c => exact (hp c).symm
  rw [hany, h.character?_outline, ← hany]

/-- A check that looks at outlines only holds as before. -/
theorem holds_eq {check : Check} (hcheck : check.OfOutline) :
    check.holds ctx w' slot = check.holds ctx w slot := by
  cases check with
  | creature p => exact h.any_character ctx slot hcheck
  | profile p =>
    refine h.any_character ctx slot fun c => ?_
    exact congrArg c.profile.any (funext (hcheck c))
  | actor p =>
    have hany (x : Option Actor) : x.any p = (x.map Actor.outline).any p := by
      cases x with
      | none => rfl
      | some a => exact (hcheck a).symm
    rw [Check.holds, Check.holds, hany, h.actor?_outline, ← hany]
  | place p => rw [Check.holds, Check.holds, h.position?_eq]
  | faction p => rw [Check.holds, Check.holds, h.faction?_eq]
  | pair p =>
    have hany (x y : Option Character) : (x.any fun c => y.any (p c)) =
        (x.map Character.outline).any fun c => (y.map Character.outline).any (p c) := by
      rcases x with _ | c <;> rcases y with _ | d
      · rfl
      · rfl
      · rfl
      · exact (hcheck c d).symm
    rw [Check.holds, Check.holds, hany, h.character?_outline, h.character?_outline, ← hany]
  | versus p =>
    simp only [Check.holds, h.faction?_eq]
    refine h.any_character ctx slot fun c => ?_
    exact congrArg (ctx.faction? w slot.other).any (funext (hcheck c))
  | prompt default answer =>
    have hplayer := h.any_character ctx slot (p := (!·.isNpc)) fun _ => rfl
    rw [Check.holds, Check.holds, hplayer]
  | occasion p | world b => rfl

omit ctx slot

private theorem characters_outline :
    w'.characters.values.map Character.outline = w.characters.values.map Character.outline := by
  have hmapped : w'.characters.mapValues Character.outline = w.characters.mapValues Character.outline := by
    refine Dict.ext_get? fun id => ?_
    rw [Dict.get?_mapValues, Dict.get?_mapValues]
    exact map_eq_of_optionRel (fun _ _ hc => hc.outline_eq) (h.characters id)
  rw [← Dict.values_mapValues, ← Dict.values_mapValues, hmapped]

private theorem followers_outline :
    w'.followers.map Character.outline = w.followers.map Character.outline := by
  have hfilter (cs : List Character) :
      (cs.filter fun c => c.profile.any (·.attitude.isFollowing)).map Character.outline =
        (cs.map Character.outline).filter fun c => c.profile.any (·.attitude.isFollowing) := by
    rw [List.filter_map]
    rfl
  unfold World.followers
  rw [hfilter, hfilter, h.characters_outline]

private theorem followers_length : w'.followers.length = w.followers.length := by
  rw [← List.length_map Character.outline, h.followers_outline, List.length_map]

private theorem countRoleNear_eq (role : String) (center : Square) (range : Int) :
    w'.countRoleNear role center range = w.countRoleNear role center range := by
  have hcount (cs : List Character) :
      (cs.countP fun c => c.profile.bind (·.role) == some role && World.isNear c.position center range) =
        (cs.map Character.outline).countP fun c =>
          c.profile.bind (·.role) == some role && World.isNear c.position center range := by
    rw [List.countP_map]
    rfl
  unfold World.countRoleNear
  rw [hcount w'.characters.values, hcount w.characters.values, h.characters_outline]

private theorem followersNearPlayer_eq (range : Int) :
    w'.followersNearPlayer range = w.followersNearPlayer range := by
  have hcount (center : Square) (cs : List Character) :
      (cs.countP fun c => World.isNear c.position center range) =
        (cs.map Character.outline).countP fun c => World.isNear c.position center range := by
    rw [List.countP_map]
    rfl
  have hplayer : w'.player?.map (·.position) = w.player?.map (·.position) := by
    unfold World.player?
    rw [h.playerId_eq]
    cases w.playerId with
    | none => rfl
    | some id => exact map_eq_of_optionRel (fun _ _ hc => hc.position_eq) (h.characters id)
  have hnear (v : World) : v.followersNearPlayer range = (v.player?.map (·.position)).elim 0 fun center =>
      (v.followers.map Character.outline).countP fun c => World.isNear c.position center range := by
    unfold World.followersNearPlayer
    cases v.player? with
    | none => rfl
    | some player => exact hcount player.position v.followers
  rw [hnear, hnear, hplayer, h.followers_outline]

theorem check_fact (q : Fact) : q.check w' = q.check w := by
  unfold Fact.check Fact.ofMission World.countMonsters
  rw [h.missions_eq, h.terrain_eq, h.calendar_eq, h.monsters_eq]

theorem check_text (q : TextQuery) (text : String) : q.check w' text = q.check w text := by
  unfold TextQuery.check
  simp only [h.missions_eq, h.terrain_eq, h.environment_eq, h.answers_eq, h.countRoleNear_eq]

theorem check_level (q : LevelQuery) (hq : q ≠ .factionTrust) (n : Int32) : q.check w' n = q.check w n := by
  cases q with
  | factionTrust => exact absurd rfl hq
  | _ =>
    simp only [LevelQuery.check, World.hasHostileNear, h.monsters_eq, h.followersNearPlayer_eq,
      h.followers_length, h.calendar_eq, h.environment_eq]

theorem check_count (q : CountQuery) (text : String) (n : Int32) : q.check w' text n = q.check w text n := by
  unfold CountQuery.check
  rw [h.terrain_eq]

end World.Develops

theorem Fact.ofOutline_check (w : World) (q : Fact) : (q.check w).OfOutline := by
  cases q with
  | hasWeapon => exact fun c => Option.isSome_map
  | canStowWeapon =>
    intro c
    exact congrArg₂ and (c.any_wielded_outline fun _ => rfl) (c.any_worn_outline fun _ => rfl)
  | holdsStolenItem => exact fun c faction => c.any_items_outline fun _ => rfl
  | inSafety | isDay | season | outside | campExists | byRadio | hasReason | monstersToward => trivial
  | trainsSkills | trainsStyles | trainsSpells => exact fun c d => rfl
  | male | female | driving | riding | deaf | sighted | underwater => exact fun c => rfl
  | _ => exact fun c profile => rfl

theorem TextQuery.ofOutline_check (w : World) (q : TextQuery) (text : String) :
    (q.check w text).OfOutline := by
  cases q with
  | hasFlag => exact fun a => by cases a <;> rfl
  | isWearing => exact fun c => c.any_worn_outline fun _ => rfl
  | hasItem => exact fun c => by simp only [Character.chargesOf_outline]
  | hasItemWithFlag => exact fun c => c.any_items_outline fun _ => rfl
  | hasWornWithFlag => exact fun c => c.any_worn_outline fun _ => rfl
  | hasWieldedWithFlag => exact fun c => c.any_wielded_outline fun _ => rfl
  | atLocation | roleNearby | weather | onTerrain | inField | prompt => trivial
  | hasClass | goesByRule | overridesRule => exact fun c profile => rfl
  | hasTrait | hasMission | movesBy | hasBionic | knowsRecipe => exact fun c => rfl

theorem LevelQuery.ofOutline_check (w : World) (q : LevelQuery) (n : Int32) : (q.check w n).OfOutline := by
  match q with
  | .attribute a => exact fun c => by simp only [Character.measure_outline]
  | .hitPoints _ | .need _ => exact fun c => rfl
  | .debt => exact fun c profile => rfl
  | .service => exact fun c d => rfl
  | .hostileWithin | .alliesNear | .allies | .factionTrust | .daysSinceCataclysm | .weather _ => trivial

theorem CountQuery.ofOutline_check (w : World) (q : CountQuery) (text : String) (n : Int32) :
    (q.check w text n).OfOutline := by
  cases q with
  | items => exact fun c => by simp only [Character.countOf_outline]
  | charges => exact fun c => by simp only [Character.chargesOf_outline]
  | category => exact fun c => by simp only [Character.countInCategory_outline]
  | nearLocation => trivial
  | effect | skill => exact fun c => rfl

end Parley
