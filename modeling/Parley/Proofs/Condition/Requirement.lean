import Parley.Proofs.Condition.Spelling
import Parley.Proofs.Condition.Tests
import Parley.Proofs.Evaluation.Development
import Parley.Proofs.World.Outline

/-!
What conditions require of the actors they ask about. A check is false where the actor of its role is not of the sort
it needs, and evaluating the arguments of a condition brings no such actor about. Main statement: the keys that ask
about creatures are false wherever there is no creature in their role, and those that ask about a profile are false
of a creature without one.
-/

set_option autoImplicit false
set_option relaxedAutoImplicit false

namespace Parley

open Evaluation

/-- A role that has no creature: it is empty, or filled by an item or by a creature that the world does not have. -/
inductive Context.NoCreature (ctx : Context) (w : World) (slot : Slot) : Prop
  | empty (handle_eq : ctx.handle? slot = none)
  | item {place : ItemPlace} (handle_eq : ctx.handle? slot = some (.item place))
  | missing {id : EntityId} (handle_eq : ctx.handle? slot = some (.creature id)) (missing : w.character? id = none)

private theorem Context.noCreature_iff {ctx : Context} {w : World} {slot : Slot} :
    ctx.NoCreature w slot ↔ ctx.character? w slot = none := by
  unfold character? actor?
  constructor
  · intro h
    cases h with
    | empty handle_eq => rw [handle_eq, Option.bind_none, Option.bind_none]
    | @item place handle_eq =>
      rw [handle_eq, Option.bind_some, World.actor?]
      cases w.itemAt? place <;> rfl
    | @missing id handle_eq missing =>
      rw [handle_eq, Option.bind_some, World.actor?, missing]
      rfl
  · intro h
    rcases hhandle : ctx.handle? slot with _ | id | place
    · exact .empty hhandle
    · refine .missing hhandle ?_
      rw [hhandle, Option.bind_some, World.actor?] at h
      cases hcharacter : w.character? id with
      | none => rfl
      | some c =>
        rw [hcharacter] at h
        cases h
    · exact .item hhandle

/-- What has to be there for a condition to be true: nothing, a creature in the role that it asks about, one with a
profile, one with a profile and a creature in the other role, or a creature and a faction of the actor in the other
role. -/
inductive Requirement
  | nothing
  | creature
  | profile
  | pair
  | versus
  deriving DecidableEq

namespace Requirement

variable {ctx : Context} {w w' : World} {slot : Slot} {r : Requirement}

def Met (ctx : Context) (w : World) (slot : Slot) : Requirement → Prop
  | .nothing => True
  | .creature => ∃ c, ctx.character? w slot = some c
  | .profile => ∃ c, ctx.character? w slot = some c ∧ c.profile ≠ none
  | .pair => (∃ c, ctx.character? w slot = some c ∧ c.profile ≠ none) ∧ ∃ d, ctx.character? w slot.other = some d
  | .versus => (∃ c, ctx.character? w slot = some c) ∧ ∃ f, ctx.faction? w slot.other = some f

private theorem Met.exists_creature (h : r.Met ctx w slot) (hr : r ≠ .nothing) :
    ∃ c, ctx.character? w slot = some c := by
  cases r with
  | nothing => exact absurd rfl hr
  | creature => exact h
  | profile =>
    obtain ⟨c, hc, -⟩ := h
    exact ⟨c, hc⟩
  | pair =>
    obtain ⟨⟨c, hc, -⟩, -⟩ := h
    exact ⟨c, hc⟩
  | versus => exact h.1

private theorem Met.exists_profile (h : r.Met ctx w slot) (hr : r = .profile ∨ r = .pair) :
    ∃ c, ctx.character? w slot = some c ∧ c.profile ≠ none := by
  rcases hr with rfl | rfl
  · exact h
  · exact h.1

/-- What is there after the world has developed was there before. -/
theorem Met.of_develops (h : w.Develops w') (hmet : r.Met ctx w' slot) : r.Met ctx w slot := by
  have hcharacter : ∀ slot c', ctx.character? w' slot = some c' →
      ∃ c, ctx.character? w slot = some c ∧ c.profile = c'.profile := by
    intro slot c' hc'
    have houtline := h.character?_outline ctx slot
    rw [hc', Option.map_some] at houtline
    obtain ⟨c, hc, hsame⟩ := Option.map_eq_some_iff.1 houtline.symm
    have hprofile := congrArg Character.profile hsame
    exact ⟨c, hc, hprofile⟩
  have hcreature : ∀ slot, (∃ c', ctx.character? w' slot = some c') → ∃ c, ctx.character? w slot = some c := by
    rintro slot ⟨c', hc'⟩
    obtain ⟨c, hc, -⟩ := hcharacter slot c' hc'
    exact ⟨c, hc⟩
  have hprofile : (∃ c', ctx.character? w' slot = some c' ∧ c'.profile ≠ none) →
      ∃ c, ctx.character? w slot = some c ∧ c.profile ≠ none := by
    rintro ⟨c', hc', hne⟩
    obtain ⟨c, hc, hsame⟩ := hcharacter slot c' hc'
    rw [← hsame] at hne
    exact ⟨c, hc, hne⟩
  cases r with
  | nothing => trivial
  | creature => exact hcreature slot hmet
  | profile => exact hprofile hmet
  | pair => exact ⟨hprofile hmet.1, hcreature slot.other hmet.2⟩
  | versus =>
    obtain ⟨hfirst, f, hf⟩ := hmet
    rw [h.faction?_eq] at hf
    exact ⟨hcreature slot hfirst, f, hf⟩

end Requirement

/-- A check that can only be true where something is there. -/
inductive Check.Requires : Check → Requirement → Prop
  | nothing {check : Check} : Check.Requires check .nothing
  | creature {p : Character → Bool} : Check.Requires (.creature p) .creature
  | profile {p : Character → Profile → Bool} : Check.Requires (.profile p) .profile
  | pair {p : Character → Character → Bool} (profile : ∀ c d, p c d = true → c.profile ≠ none) :
      Check.Requires (.pair p) .pair
  | versus {p : Character → String → Bool} : Check.Requires (.versus p) .versus

private theorem Check.Requires.met {check : Check} {r : Requirement} {ctx : Context} {w : World} {slot : Slot}
    (h : check.Requires r) (hholds : check.holds ctx w slot = true) : r.Met ctx w slot := by
  cases h with
  | nothing => trivial
  | creature =>
    obtain ⟨c, hc, -⟩ := (Option.any_eq_true _ _).1 hholds
    exact ⟨c, hc⟩
  | profile =>
    obtain ⟨c, hc, hp⟩ := (Option.any_eq_true _ _).1 hholds
    obtain ⟨profile, hprofile, -⟩ := (Option.any_eq_true _ _).1 hp
    exact ⟨c, hc, by simp [hprofile]⟩
  | pair profile =>
    obtain ⟨c, hc, hp⟩ := (Option.any_eq_true _ _).1 hholds
    obtain ⟨d, hd, hp⟩ := (Option.any_eq_true _ _).1 hp
    exact ⟨⟨c, hc, profile c d hp⟩, d, hd⟩
  | versus =>
    obtain ⟨c, hc, hp⟩ := (Option.any_eq_true _ _).1 hholds
    obtain ⟨f, hf, -⟩ := (Option.any_eq_true _ _).1 hp
    exact ⟨⟨c, hc⟩, f, hf⟩

def Fact.requires : Fact → Requirement
  | .inSafety | .isDay | .season _ | .outside | .campExists | .byRadio | .hasReason | .monstersToward _ => .nothing
  | .male | .female | .canStowWeapon | .hasWeapon | .driving | .riding | .deaf | .sighted | .underwater => .creature
  | .trainsSkills | .trainsStyles | .trainsSpells => .pair
  | .holdsStolenItem => .versus
  | _ => .profile

def TextQuery.requires : TextQuery → Requirement
  | .hasFlag | .atLocation | .roleNearby | .weather | .onTerrain | .inField | .prompt _ => .nothing
  | .hasClass | .goesByRule | .overridesRule => .profile
  | _ => .creature

def LevelQuery.requires : LevelQuery → Requirement
  | .attribute _ | .hitPoints _ | .need _ => .creature
  | .debt => .profile
  | .service => .pair
  | _ => .nothing

private theorem Fact.check_requires (q : Fact) (w : World) : (q.check w).Requires q.requires := by
  cases q with
  | trainsSkills | trainsStyles | trainsSpells =>
    refine .pair fun c d h => ?_
    obtain ⟨profile, hprofile, -⟩ := (Option.any_eq_true _ _).1 h
    simp [hprofile]
  | _ => constructor

private theorem TextQuery.check_requires (q : TextQuery) (w : World) (text : String) :
    (q.check w text).Requires q.requires := by
  cases q <;> constructor

private theorem LevelQuery.check_requires (q : LevelQuery) (w : World) (n : Int32) :
    (q.check w n).Requires q.requires := by
  cases q with
  | service =>
    refine .pair fun c d h => ?_
    have hnpc : c.profile.isSome = true := (Bool.and_eq_true_iff.1 (Bool.and_eq_true_iff.1 h).1).1
    exact Option.ne_none_iff_isSome.2 hnpc
  | _ => constructor

def Arguments.requires : Arguments → Requirement
  | .text q => q.requires
  | .level q => q.requires
  | .anyTrait | .hitPoints | .need | .items | .category | .effect | .skill => .creature
  | .aimRule | .engagementRule | .reserveRule | .rechargeRule | .missionGoal => .profile
  | _ => .nothing

section

variable {ctx : Context} {slot : Slot} {r : Requirement}

/-- An evaluation that is only true where something is there at its start. -/
def Evaluation.Guarded (ctx : Context) (slot : Slot) (r : Requirement) (m : Evaluation Bool) : Prop :=
  ∀ s, (m s).1 = true → r.Met ctx s.world slot

namespace Evaluation.Guarded

private theorem nothing {m : Evaluation Bool} : Guarded ctx slot .nothing m :=
  fun _ _ => trivial

private theorem holds {check : World → Check} (h : ∀ w, (check w).Requires r) :
    Guarded ctx slot r (holds ctx slot check) :=
  fun s => (h s.world).met

private theorem bind {α : Type} {m : Evaluation α} {f : α → Evaluation Bool} (hm : Along World.Develops m)
    (hf : ∀ a, Guarded ctx slot r (f a)) : Guarded ctx slot r (m >>= f) :=
  fun s h => (hf _ _ h).of_develops (hm s)

end Evaluation.Guarded

theorem Source.develops {k : Kind} (value : Source k) : Along World.Develops (value.evaluate ctx) :=
  fun s => ((development ctx value.accesses).source value (fun _ => .inr) s).world

private theorem Ranged.develops {m : Measure} (value : Ranged m) : Along World.Develops (value.evaluate ctx) :=
  fun s => ((development ctx value.accesses).ranged value (fun _ => .inr) s).world

private theorem Evaluation.texts_develop (values : List (Source .text)) : Along World.Develops (texts ctx values) :=
  fun s => ((development ctx (values.flatMap Source.accesses)).texts values (fun _ => .inr) s).world

private theorem Arguments.Makes.guarded {arguments : Arguments} {t : Test} (h : arguments.Makes slot t) :
    Guarded ctx slot arguments.requires (t.evaluate ctx) := by
  cases h with
  | anyTrait traits => exact .bind (texts_develop traits) fun _ => .holds fun _ => .creature
  | text q value => exact .bind value.develops fun text => .holds fun w => q.check_requires w text
  | prompt | season | direction | variableIs | compareVariable | compareElapsed | oneIn | xInY | compareIntegers |
    compareTexts => exact .nothing
  | level q n => exact .bind n.develops fun n => .holds fun w => q.check_requires w n
  | hitPoints part n => exact .bind n.develops fun _ => .holds fun _ => .creature
  | need kind n => exact .bind n.develops fun _ => .holds fun _ => .creature
  | items value n | charges value n | category value n | effect _ value n | skill value n =>
    exact .bind value.develops fun _ => .bind n.develops fun _ => .holds fun _ => .creature
  | nearLocation => exact .nothing
  | aimRule | engagementRule | reserveRule | rechargeRule | missionGoal => exact .holds fun _ => .profile

end

namespace Catalog

def requires : Fact ⊕ Arguments → Requirement
  | .inl q => q.requires
  | .inr arguments => arguments.requires

/-- The role that a key is about, if it combines no conditions. -/
def role? (key : String) : Option Slot :=
  (asked? key).map Prod.fst

/-- The keys that can be true without a creature: about no actor, about where an actor is, and about flags, answers,
variables and factions. -/
def creatureless : List String :=
  ["is_day", "u_has_camp", "is_by_radio", "has_reason", "days_since_cataclysm", "is_season", "is_weather",
    "is_temperature", "is_windpower", "is_humidity", "is_pressure", "one_in_chance", "x_in_y_chance", "npc_allies",
    "npc_allies_global", "compare_int", "compare_string",
    "at_safe_space", "is_outside", "u_is_outside", "npc_is_outside", "u_at_om_location", "npc_at_om_location",
    "u_near_om_location", "npc_near_om_location", "u_is_on_terrain", "npc_is_on_terrain", "u_is_in_field",
    "npc_is_in_field", "npc_role_nearby", "u_monsters_in_direction", "u_safe_mode_trigger",
    "u_has_flag", "npc_has_flag", "u_query", "npc_query", "u_has_var", "npc_has_var", "u_compare_var",
    "npc_compare_var", "u_compare_time_since_var", "npc_compare_time_since_var", "u_has_faction_trust"]

/-- The keys that ask about two creatures, the first of which has to have a profile. -/
def paired : List String :=
  ["npc_train_skills", "npc_train_styles", "npc_train_spells", "npc_service"]

def profiled : List String :=
  ["has_no_assigned_mission", "has_assigned_mission", "has_many_assigned_missions", "has_no_available_mission",
    "has_available_mission", "has_many_available_missions", "mission_complete", "mission_incomplete",
    "mission_has_generic_rewards", "mission_goal", "npc_available", "npc_following", "npc_friend", "npc_hostile",
    "npc_has_activity", "has_pickup_list", "npc_has_class", "u_are_owed", "npc_aim_rule", "npc_engagement_rule",
    "npc_cbm_reserve_rule", "npc_cbm_recharge_rule", "npc_rule", "npc_override"] ++ paired

def Listed (key : String) (r : Requirement) : Prop :=
  (r = .nothing → key ∈ creatureless) ∧ (key ∈ profiled → r = .profile ∨ r = .pair) ∧ (key ∈ paired → r = .pair) ∧
    (key = "u_has_stolen_item" → r = .versus)

instance (key : String) (r : Requirement) : Decidable (Listed key r) :=
  inferInstanceAs (Decidable (_ ∧ _))

private theorem simple_listed : ∀ e ∈ simple, Listed e.1 e.2.2.requires := by
  decide +kernel

private theorem parameterized_listed : ∀ e ∈ parameterized, Listed e.1 e.2.2.requires := by
  decide +kernel

private theorem combinator?_of_arguments? {key : String} {e : Slot × Arguments} (h : arguments? key = some e) :
    combinator? key = none := by
  have hnone : ∀ combinator : Combinator, arguments? (Named.name combinator) = none := by
    intro combinator
    cases combinator <;> decide
  cases hcombinator : combinator? key with
  | none => rfl
  | some combinator =>
    rw [← Named.name_of_ofName? hcombinator, hnone combinator] at h
    cases h

private theorem listed_of_asked? {key : String} {slot : Slot} {asked : Fact ⊕ Arguments}
    (h : asked? key = some (slot, asked)) : Listed key (requires asked) := by
  cases asked with
  | inl q => exact simple_listed _ (Entries.mem_of_find? (fact?_of_asked? h).2)
  | inr arguments => exact parameterized_listed _ (Entries.mem_of_find? (arguments?_of_asked? h))

end Catalog

namespace Condition

variable {key : String} {json : Json} {c : Condition} {slot : Slot}

/-- A condition of one key that combines no others, written bare or with arguments beside it. -/
def OfKey (key : String) (json : Json) : Prop :=
  json = .string key ∨ ∃ ms, json = .object ms ∧ keysOf ms = [key]

/-- A key that combines no conditions is compiled to a test of what it asks. -/
theorem OfKey.exists_test (h : OfKey key json) {asked : Fact ⊕ Arguments}
    (hasked : Catalog.asked? key = some (slot, asked)) (hload : load json = .ok c) :
    ∃ t, c = .test t ∧ asked.elim (fun q => t = .fact slot q) (·.Makes slot t) := by
  cases asked with
  | inl q =>
    have hsimple := Catalog.isSimple_of_asked? hasked
    have hjson : load json = loadKey key := by
      rcases h with rfl | ⟨ms, rfl, hkeys⟩
      · exact load_string
      · rw [load_of_simple_key hkeys hsimple, load_string]
    rw [hjson, loadKey_of_isKey (Catalog.isKey_of_isSimple hsimple), (Catalog.fact?_of_asked? hasked).2] at hload
    cases hload
    exact ⟨_, rfl, rfl⟩
  | inr arguments =>
    have harguments := Catalog.arguments?_of_asked? hasked
    rcases h with rfl | ⟨ms, rfl, hkeys⟩
    · rw [load_string, loadKey_of_takesArguments (Catalog.takesArguments_of_asked? hasked)] at hload
      cases hload
    · rw [load_of_arguments hkeys (Catalog.combinator?_of_arguments? harguments) harguments] at hload
      obtain ⟨t, ht, rfl⟩ := Loaded.map_eq_ok_iff.1 hload
      exact ⟨t, rfl, Test.made_of_load ht⟩

private theorem OfKey.exists_guarded (h : OfKey key json) {asked : Fact ⊕ Arguments}
    (hasked : Catalog.asked? key = some (slot, asked)) (hload : load json = .ok c) :
    ∃ t, c = .test t ∧ ∀ ctx, Guarded ctx slot (Catalog.requires asked) (t.evaluate ctx) := by
  obtain ⟨t, rfl, hmade⟩ := h.exists_test hasked hload
  refine ⟨t, rfl, fun ctx => ?_⟩
  cases asked with
  | inl q =>
    obtain rfl : t = .fact slot q := hmade
    exact .holds fun w => q.check_requires w
  | inr arguments => exact hmade.guarded

/-- Conditions about creatures fail closed, whatever arguments they have and however these are computed. They are
false where there is no creature in the role that their key is about; those about a profile are false of a creature
without one; those about two creatures are false where the other role has none, and the one about stolen items is
false where the actor in the other role has no faction. -/
theorem fails_closed (hrole : Catalog.role? key = some slot) (hkey : OfKey key json) (hload : load json = .ok c)
    (ctx : Context) (s : State) :
    (key ∉ Catalog.creatureless → ctx.NoCreature s.world slot → (c.evaluate ctx s).1 = false) ∧
    (key ∈ Catalog.profiled →
      (∀ creature, ctx.character? s.world slot = some creature → creature.profile = none) →
      (c.evaluate ctx s).1 = false) ∧
    (key ∈ Catalog.paired → ctx.NoCreature s.world slot.other → (c.evaluate ctx s).1 = false) ∧
    (key = "u_has_stolen_item" → ctx.faction? s.world slot.other = none → (c.evaluate ctx s).1 = false) := by
  obtain ⟨⟨slot', asked⟩, hasked, rfl⟩ := Option.map_eq_some_iff.1 hrole
  obtain ⟨t, rfl, hguarded⟩ := hkey.exists_guarded hasked hload
  obtain ⟨hcreature, hprofile, hpair, hversus⟩ := Catalog.listed_of_asked? hasked
  have hevaluate : evaluate ctx (.test t) = t.evaluate ctx := by rw [evaluate]
  rw [hevaluate]
  -- in each case the test cannot be true, for then what its key requires would be there
  have hfalse : ((t.evaluate ctx s).1 = true → False) → (t.evaluate ctx s).1 = false :=
    Bool.eq_false_iff.2
  refine ⟨?_, ?_, ?_, ?_⟩
  · intro hkey hnone
    refine hfalse fun htrue => ?_
    obtain ⟨creature, hfound⟩ := (hguarded ctx s htrue).exists_creature fun hnothing => hkey (hcreature hnothing)
    rw [Context.noCreature_iff.1 hnone] at hfound
    cases hfound
  · intro hkey hnone
    refine hfalse fun htrue => ?_
    obtain ⟨creature, hfound, hne⟩ := (hguarded ctx s htrue).exists_profile (hprofile hkey)
    exact hne (hnone creature hfound)
  · intro hkey hnone
    refine hfalse fun htrue => ?_
    have hmet := hguarded ctx s htrue
    rw [hpair hkey] at hmet
    obtain ⟨-, creature, hfound⟩ := hmet
    rw [Context.noCreature_iff.1 hnone] at hfound
    cases hfound
  · intro hkey hnone
    refine hfalse fun htrue => ?_
    have hmet := hguarded ctx s htrue
    rw [hversus hkey] at hmet
    obtain ⟨-, faction, hfound⟩ := hmet
    rw [hnone] at hfound
    cases hfound

/-- A rock is not available, nor is anyone else who is not there, nor a survivor, who has no profile. -/
theorem fails_closed_of_available :
    let rock : Context := ⟨none, some (.item (.ground (.ofNat 7))), .missionGoal⟩
    let nobody : Context := ⟨none, some (.creature (.ofNat 9)), .missionGoal⟩
    let survivor : Context := ⟨none, some (.creature default), .missionGoal⟩
    let s : State := ⟨World.empty.addCharacter (.ofName "Survivor"), .scripted [], [], []⟩
    ∃ c, load (.string "npc_available") = .ok c ∧ (c.evaluate rock s).1 = false ∧ (c.evaluate nobody s).1 = false ∧
      (c.evaluate survivor s).1 = false := by
  intro rock nobody survivor s
  have hrole : Catalog.role? "npc_available" = some .secondary := by decide
  have hkey : OfKey "npc_available" (.string "npc_available") := .inl rfl
  have hload : load (.string "npc_available") = .ok (.test (.fact .secondary .available)) := load_string
  refine ⟨_, hload, ?_, ?_, ?_⟩
  · exact (fails_closed hrole hkey hload rock s).1 (by decide) (.item rfl)
  · exact (fails_closed hrole hkey hload nobody s).1 (by decide) (.missing rfl (by decide))
  · refine (fails_closed hrole hkey hload survivor s).2.1 (by decide) ?_
    rintro creature ⟨⟩
    rfl

end Condition

end Parley
