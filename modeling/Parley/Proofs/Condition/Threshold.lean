import Parley.Condition.Eval
import Parley.Proofs.Condition.Keys
import Parley.Proofs.Condition.Written
import Parley.Proofs.Value.Conflict

/-!
Conditions that ask whether something reaches a number, and the comparison of a reading of it with the number. Main
statements: both compile; about a creature that is there they have the same answer, and so they have about the
weather and about a variable, wherever they are evaluated.
-/

set_option autoImplicit false
set_option relaxedAutoImplicit false

namespace Parley

variable {n : Int32}

private theorem Comparison.greaterOrEqual_holds (a b : Int32) :
    Comparison.greaterOrEqual.holds a b = decide (b ≤ a) := by
  have hcompare : compare a b = compareOfLessAndEq a b := rfl
  rw [Comparison.holds, hcompare, compareOfLessAndEq]
  by_cases hlt : a < b
  · have hnot : ¬b ≤ a := Int32.not_le.2 hlt
    rw [if_pos hlt, decide_eq_false hnot]
    rfl
  · have hle : b ≤ a := Int32.not_lt.1 hlt
    rw [if_neg hlt, decide_eq_true hle]
    split <;> rfl

namespace Operand

variable {os : Json.Members} {slot : Slot} {keyword member : String}

/-- An object that asks for a keyword of the actor in a role. -/
structure Asks (os : Json.Members) (slot : Slot) (keyword : String) : Prop where
  absent : ∀ s ∈ ["const", "time", "weather", "rand"], os.has s = false
  alone : os.has (scopeOf slot.other).member = false
  keyword_eq : os.get? (scopeOf slot).member = some (.string keyword)

theorem Asks.load (h : Asks os slot keyword) {o : Operand}
    (hkeyword : loadKeyword os slot keyword = .ok (some o)) : Operand.load (.object os) member = .ok o := by
  refine load_eq_ok_iff.2 (.inl ⟨os, rfl, loadReading_of_first ?_⟩)
  cases slot with
  | primary => exact .primary h.absent h.keyword_eq hkeyword
  | secondary =>
    refine .secondary h.absent ?_ h.keyword_eq hkeyword
    intro other hother
    have hnone := Json.Members.get?_eq_none_of_has h.alone
    exact nomatch hother.symm.trans hnone

def IsConstant (os : Json.Members) (n : Int32) : Prop :=
  ∃ literal, os.get? "const" = some literal ∧ Kind.IsLiteral .integer literal n

private theorem IsConstant.load (h : IsConstant os n) : Operand.load (.object os) member = .ok (.constant n) := by
  obtain ⟨literal, hget, hliteral⟩ := h
  exact load_eq_ok_iff.2 (.inl ⟨os, rfl, loadReading_of_first (.constant hget hliteral)⟩)

end Operand

section Members

variable {ms : Json.Members} {member : String}

theorem Ranged.loadMember_of_isLiteral {m : Measure} {literal : Json} {value : m.Value} {default : Option m.Value}
    (hget : ms.get? member = some literal) (h : Kind.IsLiteral (.measure m) literal value) :
    Ranged.loadMember m ms member default = .ok (.single (.literal value)) := by
  have hobject : ∀ ms, literal ≠ .object ms := by
    rintro ms rfl
    cases m with
    | integer =>
      obtain ⟨n, hn, -⟩ := h
      cases hn
    | duration =>
      obtain ⟨⟨s, hs, -⟩ | hturns, -⟩ := h
      · cases hs
      · cases hturns
  have hsource : Source.load (.measure m) literal member = .ok (.literal value) :=
    (Source.load_literal_eq_ok_iff hobject).2 ⟨value, h, rfl⟩
  have hrange : Ranged.load m literal member = .ok (.single (.literal value)) :=
    load_eq_ok_iff.2 (.inl ⟨_, hsource, rfl⟩)
  simp only [loadMember, hget, hrange]

theorem Source.load_string {text : String} : Source.load .text (.string text) member = .ok (.literal text) :=
  (load_literal_eq_ok_iff (by rintro ms ⟨⟩)).2 ⟨text, rfl, rfl⟩

private theorem Source.loadMember_of_string {text : String} (hget : ms.get? member = some (.string text)) :
    Source.loadMember .text ms member none = .ok (.literal text) := by
  simp only [loadMember, hget, load_string]

theorem Test.loadComparison_eq_ok {sign : String} {c : Comparison} (hop : ms.get? "op" = some (.string sign))
    (hsign : Comparison.parse sign = .ok c) : loadComparison ms = .ok c :=
  Loaded.bind_eq_ok_iff.2 ⟨sign, Json.Members.string_eq_ok_iff.2 hop, hsign⟩

end Members

namespace Condition

variable {ms os cs : Json.Members} {slot : Slot}

/-- An object with one condition, of a key and the value under it. -/
structure Single (ms : Json.Members) (key : String) (value : Json) : Prop where
  keys_eq : keysOf ms = [key]
  value_eq : ms.get? key = some value

theorem Single.load {key : String} {value : Json} (h : Single ms key value) {arguments : Arguments} {test : Test}
    (hlisted : Catalog.combinator? key = none ∧ Catalog.arguments? key = some (slot, arguments))
    (htest : Test.load ms key slot arguments = .ok test) : Condition.load (.object ms) = .ok (.test test) := by
  rw [load_of_arguments h.keys_eq hlisted.1 hlisted.2, htest]
  rfl

/-- An object with one condition, of one of some keys about the actor in a role, and a text under the key. -/
def WithText (keys : List (String × Slot)) (slot : Slot) (text : Source .text) (ms : Json.Members) : Prop :=
  ∃ key value, (key, slot) ∈ keys ∧ Single ms key value ∧ Source.load .text value key = .ok text

theorem WithText.load {keys : List (String × Slot)} {text : Source .text} (h : WithText keys slot text ms)
    (arguments : Arguments) {test : Test}
    (hlisted : ∀ e ∈ keys, Catalog.combinator? e.1 = none ∧ Catalog.arguments? e.1 = some (e.2, arguments))
    (htest : ∀ key, Source.loadMember .text ms key none = .ok text → Test.load ms key slot arguments = .ok test) :
    Condition.load (.object ms) = .ok (.test test) := by
  obtain ⟨key, value, hkey, hsingle, htext⟩ := h
  have hmember : Source.loadMember .text ms key none = .ok text := by
    simp only [Source.loadMember, hsingle.value_eq, htext]
  exact hsingle.load (hlisted _ hkey) (htest key hmember)

/-- A comparison of an operand with a constant. -/
structure Compares (cs os : Json.Members) (sign : String) (n : Int32) : Prop where
  single : ∃ constant, Operand.IsConstant constant n ∧
    Single cs "compare_int" (.array [.object os, .object constant])
  sign_eq : cs.get? "op" = some (.string sign)

theorem Compares.load {sign : String} (h : Compares cs os sign n) {c : Comparison} {o : Operand}
    (hsign : Comparison.parse sign = .ok c) (ho : Operand.load (.object os) "compare_int" = .ok o) :
    load (.object cs) = .ok (.test (.compareIntegers c o (.constant n))) := by
  obtain ⟨⟨constant, hconstant, hsingle⟩, hop⟩ := h
  have hvalues : Test.twoValues cs "compare_int" = .ok (.object os, .object constant) :=
    Loaded.bind_eq_ok_iff.2 ⟨_, Json.Members.arrayAt_eq_ok_iff.2 hsingle.value_eq, rfl⟩
  have hcomparison := Test.loadComparison_eq_ok hop hsign
  have htest : Test.load cs "compare_int" .primary .compareIntegers =
      .ok (.compareIntegers c o (.constant n)) := by
    refine Loaded.bind_eq_ok_iff.2 ⟨_, hvalues, ?_⟩
    refine Loaded.bind_eq_ok_iff.2 ⟨o, ho, ?_⟩
    refine Loaded.bind_eq_ok_iff.2 ⟨_, hconstant.load, ?_⟩
    exact Loaded.bind_eq_ok_iff.2 ⟨c, hcomparison, rfl⟩
  exact hsingle.load (by decide) htest

def effectKeys : List (String × Slot) :=
  [("u_has_effect", .primary), ("npc_has_effect", .secondary)]

/-- An object that asks whether the creature in a role has an effect, on a part of its body or on any, and of an
intensity. -/
structure HasEffect (slot : Slot) (effectId : String) (part : Option BodyPart) (n : Int32) (ms : Json.Members) :
    Prop where
  effect_is : WithText effectKeys slot (.literal effectId) ms
  part_is : loadBodyPart ms = .ok part
  intensity_is : ∃ literal, ms.get? "intensity" = some literal ∧ Kind.IsLiteral .integer literal n

theorem HasEffect.load {effectId : String} {part : Option BodyPart} (h : HasEffect slot effectId part n ms) :
    Condition.load (.object ms) =
      .ok (.test (.count slot (.effect part) (.literal effectId) (.single (.literal n)))) := by
  obtain ⟨literal, hget, hliteral⟩ := h.intensity_is
  refine h.effect_is.load .effect (by decide) fun key hmember => ?_
  refine Loaded.bind_eq_ok_iff.2 ⟨_, hmember, ?_⟩
  refine Loaded.bind_eq_ok_iff.2 ⟨_, Ranged.loadMember_of_isLiteral hget hliteral, ?_⟩
  exact Loaded.bind_eq_ok_iff.2 ⟨part, h.part_is, rfl⟩

/-- The keys that ask whether an attribute reaches a number, in which role, and the keyword that reads it. -/
def attributeKeys : List (String × Slot × String) :=
  [("u_has_strength", .primary, "strength"), ("npc_has_strength", .secondary, "strength"),
    ("u_has_dexterity", .primary, "dexterity"), ("npc_has_dexterity", .secondary, "dexterity"),
    ("u_has_intelligence", .primary, "intelligence"), ("npc_has_intelligence", .secondary, "intelligence"),
    ("u_has_perception", .primary, "perception"), ("npc_has_perception", .secondary, "perception"),
    ("u_has_pain", .primary, "pain"), ("npc_has_pain", .secondary, "pain"),
    ("u_has_power", .primary, "power"), ("npc_has_power", .secondary, "power"),
    ("u_has_focus", .primary, "focus"), ("npc_has_focus", .secondary, "focus"),
    ("u_has_morale", .primary, "morale"), ("npc_has_morale", .secondary, "morale"),
    ("u_is_height", .primary, "height"), ("npc_is_height", .secondary, "height"),
    ("u_has_cash", .primary, "cash")]

/-- A condition that asks whether something of the actor in a role reaches a number, and an operand that reads
it. -/
inductive Threshold (n : Int32) (slot : Slot) (ms os : Json.Members) : Prop
  | measure {key keyword : String} {literal : Json}
      (key_mem : (key, slot, keyword) ∈ attributeKeys) (single : Single ms key literal)
      (literal_is : Kind.IsLiteral .integer literal n) (asks : Operand.Asks os slot keyword)
  | hitPoints {key : String} {literal : Json} {part : Option BodyPart}
      (key_mem : (key, slot) ∈ [("u_has_hp", .primary), ("npc_has_hp", .secondary)])
      (single : Single ms key literal) (literal_is : Kind.IsLiteral .integer literal n)
      (part_eq : loadBodyPart ms = .ok part)
      (asks : Operand.Asks os slot "hp") (read_part_eq : loadBodyPart os = .ok part)
  | skill {params : Json.Members} {key skill : String} {literal : Json}
      (key_mem : (key, slot) ∈ [("u_has_skill", .primary), ("npc_has_skill", .secondary)])
      (single : Single ms key (.object params)) (skill_eq : params.get? "skill" = some (.string skill))
      (level_eq : params.get? "level" = some literal) (literal_is : Kind.IsLiteral .integer literal n)
      (asks : Operand.Asks os slot "skill_level") (read_skill_eq : os.get? "skill" = some (.string skill))
  | effect {key effectId : String} {literal : Json} {part : Option BodyPart}
      (key_mem : (key, slot) ∈ [("u_has_effect", .primary), ("npc_has_effect", .secondary)])
      (single : Single ms key (.string effectId)) (intensity_eq : ms.get? "intensity" = some literal)
      (literal_is : Kind.IsLiteral .integer literal n) (nonnegative : 0 ≤ n.toInt)
      (part_eq : loadBodyPart ms = .ok part) (asks : Operand.Asks os slot "effect_intensity")
      (read_effect_eq : os.get? "effect" = some (.string effectId)) (read_part_eq : loadBodyPart os = .ok part)

/-- A compiled condition that is true, where a creature is in a role, if a reading of it reaches a number, and
changes nothing. -/
def Reaches (c : Condition) (slot : Slot) (reading : CreatureReading) (n : Int32) : Prop :=
  ∀ ctx s creature, ctx.character? s.world slot = some creature →
    c.evaluate ctx s = (decide (n ≤ reading.of creature), s)

-- the keys and keywords are looked up in the tables that compilation uses
private theorem attributeKeys_listed : ∀ e ∈ attributeKeys, (Attribute.ofKeyword? e.2.2).isSome = true ∧
    Catalog.combinator? e.1 = none ∧
    Catalog.arguments? e.1 = (Attribute.ofKeyword? e.2.2).map fun a => (e.2.1, .level (.attribute a)) := by
  decide +kernel

theorem ne_anyIntensity (h : 0 ≤ n.toInt) : n ≠ CountQuery.anyIntensity := by
  rintro rfl
  revert h
  decide

/-- An effect that is not there is read as -1, which reaches no intensity that is not negative. -/
private theorem intensity_reaches {effect? : Option ActiveEffect} (h : 0 ≤ n.toInt) :
    (effect?.any fun e => n == CountQuery.anyIntensity || decide (n ≤ e.intensity)) =
      decide (n ≤ effect?.elim (-1) (·.intensity)) := by
  have hany : (n == CountQuery.anyIntensity) = false := beq_eq_false_iff_ne.2 (ne_anyIntensity h)
  have hnone : ¬n ≤ -1 := by
    rw [Int32.le_iff_toInt_le]
    have hminus : (-1 : Int32).toInt = -1 := by decide
    omega
  cases effect? with
  | none => exact (decide_eq_false hnone).symm
  | some e =>
    rw [Option.any_some, hany, Bool.false_or]
    rfl

private theorem reaches_level {query : LevelQuery} {reading : CreatureReading}
    (hcheck : ∀ w, query.check w n = .creature fun c => n ≤ reading.of c) :
    Reaches (.test (.level slot query (.single (.literal n)))) slot reading n := by
  intro ctx s creature hcreature
  change ((query.check s.world n).holds ctx s.world slot, s) = _
  rw [hcheck, Check.holds, hcreature]
  rfl

private theorem reaches_count {query : CountQuery} {text : String} {reading : CreatureReading}
    {p : Character → Bool} (hcheck : ∀ w, query.check w text n = .creature p)
    (hp : ∀ c, p c = decide (n ≤ reading.of c)) :
    Reaches (.test (.count slot query (.literal text) (.single (.literal n)))) slot reading n := by
  intro ctx s creature hcreature
  change ((query.check s.world text n).holds ctx s.world slot, s) = _
  rw [hcheck, Check.holds, hcreature, Option.any_some, hp]

/-- The condition of a threshold and the operand compile, and ask the same of a creature. -/
theorem Threshold.compiles (h : Threshold n slot ms os) : ∃ c reading, load (.object ms) = .ok c ∧
    Operand.load (.object os) "compare_int" = .ok (.creature slot reading) ∧ Reaches c slot reading n := by
  cases h with
  | @measure key keyword literal key_mem single literal_is asks =>
    obtain ⟨hkeyword, hcombinator, harguments⟩ := attributeKeys_listed _ key_mem
    obtain ⟨a, ha⟩ := Option.isSome_iff_exists.1 hkeyword
    have hlisted : Catalog.arguments? key = some (slot, .level (.attribute a)) := by
      rw [harguments, ha]
      rfl
    have htest : Test.load ms key slot (.level (.attribute a)) =
        .ok (.level slot (.attribute a) (.single (.literal n))) :=
      Loaded.bind_eq_ok_iff.2 ⟨_, Ranged.loadMember_of_isLiteral single.value_eq literal_is, rfl⟩
    have hread : Operand.loadKeyword os slot keyword = .ok (some (.creature slot (.attribute a))) := by
      simp only [Operand.loadKeyword, ha]
    exact ⟨_, .attribute a, single.load ⟨hcombinator, hlisted⟩ htest, asks.load hread, reaches_level fun _ => rfl⟩
  | @hitPoints key literal part key_mem single literal_is part_eq asks read_part_eq =>
    have hlisted : ∀ e ∈ [("u_has_hp", Slot.primary), ("npc_has_hp", .secondary)],
        Catalog.combinator? e.1 = none ∧ Catalog.arguments? e.1 = some (e.2, .hitPoints) := by decide
    have htest : Test.load ms key slot .hitPoints =
        .ok (.level slot (.hitPoints part) (.single (.literal n))) := by
      refine Loaded.bind_eq_ok_iff.2 ⟨_, Ranged.loadMember_of_isLiteral single.value_eq literal_is, ?_⟩
      exact Loaded.bind_eq_ok_iff.2 ⟨part, part_eq, rfl⟩
    have hread : Operand.loadKeyword os slot "hp" = .ok (some (.creature slot (.hitPoints part))) :=
      Loaded.bind_eq_ok_iff.2 ⟨part, read_part_eq, rfl⟩
    exact ⟨_, .hitPoints part, single.load (hlisted _ key_mem) htest, asks.load hread, reaches_level fun _ => rfl⟩
  | @skill params key skill literal key_mem single skill_eq level_eq literal_is asks read_skill_eq =>
    have hlisted : ∀ e ∈ [("u_has_skill", Slot.primary), ("npc_has_skill", .secondary)],
        Catalog.combinator? e.1 = none ∧ Catalog.arguments? e.1 = some (e.2, .skill) := by decide
    have htest : Test.load ms key slot .skill =
        .ok (.count slot .skill (.literal skill) (.single (.literal n))) := by
      refine Loaded.bind_eq_ok_iff.2 ⟨_, Json.Members.objectAt_eq_ok_iff.2 single.value_eq, ?_⟩
      refine Loaded.bind_eq_ok_iff.2 ⟨_, Source.loadMember_of_string skill_eq, ?_⟩
      exact Loaded.bind_eq_ok_iff.2 ⟨_, Ranged.loadMember_of_isLiteral level_eq literal_is, rfl⟩
    have hread : Operand.loadKeyword os slot "skill_level" = .ok (some (.creature slot (.skill skill))) :=
      Loaded.bind_eq_ok_iff.2 ⟨skill, Json.Members.string_eq_ok_iff.2 read_skill_eq, rfl⟩
    exact ⟨_, .skill skill, single.load (hlisted _ key_mem) htest, asks.load hread,
      reaches_count (fun _ => rfl) fun _ => rfl⟩
  | @effect key effectId literal part key_mem single intensity_eq literal_is nonnegative part_eq asks
      read_effect_eq read_part_eq =>
    have hasks : HasEffect slot effectId part n ms :=
      ⟨⟨key, _, key_mem, single, Source.load_string⟩, part_eq, literal, intensity_eq, literal_is⟩
    have hread : Operand.loadKeyword os slot "effect_intensity" =
        .ok (some (.creature slot (.intensity effectId part))) := by
      refine Loaded.bind_eq_ok_iff.2 ⟨effectId, Json.Members.string_eq_ok_iff.2 read_effect_eq, ?_⟩
      exact Loaded.bind_eq_ok_iff.2 ⟨part, read_part_eq, rfl⟩
    exact ⟨_, .intensity effectId part, hasks.load, asks.load hread,
      reaches_count (fun _ => rfl) fun _ => intensity_reaches nonnegative⟩

/-- The keys that ask whether a reading of the weather reaches a number, and what the reading is called. -/
def weatherKeys : List (String × String) :=
  [("is_temperature", "temperature"), ("is_windpower", "windpower"), ("is_humidity", "humidity"),
    ("is_pressure", "pressure")]

/-- A condition that asks whether a reading of the weather reaches a number, and an operand that is the reading. -/
inductive WeatherThreshold (n : Int32) (ms os : Json.Members) : Prop
  | measure {key word : String} {literal : Json} (key_mem : (key, word) ∈ weatherKeys)
      (single : Single ms key literal) (literal_is : Kind.IsLiteral .integer literal n)
      (absent : ∀ s ∈ ["const", "time"], os.has s = false)
      (weather_eq : os.get? "weather" = some (.string word))

private theorem weatherKeys_listed : ∀ e ∈ weatherKeys,
    (Named.ofName? e.2 : Option WeatherGauge).isSome = true ∧ Catalog.combinator? e.1 = none ∧
    Catalog.arguments? e.1 =
      (Named.ofName? e.2 : Option WeatherGauge).map fun gauge => (.primary, .level (.weather gauge)) := by
  decide +kernel

private theorem WeatherThreshold.compiles (h : WeatherThreshold n ms os) : ∃ gauge,
    load (.object ms) = .ok (.test (.level .primary (.weather gauge) (.single (.literal n)))) ∧
      Operand.load (.object os) "compare_int" = .ok (.weather gauge) := by
  obtain ⟨key_mem, single, literal_is, absent, weather_eq⟩ := h
  obtain ⟨hword, hcombinator, harguments⟩ := weatherKeys_listed _ key_mem
  obtain ⟨gauge, hgauge⟩ := Option.isSome_iff_exists.1 hword
  have hlisted := harguments.trans (congrArg (Option.map _) hgauge)
  have htest : Test.load ms _ .primary (.level (.weather gauge)) =
      .ok (.level .primary (.weather gauge) (.single (.literal n))) :=
    Loaded.bind_eq_ok_iff.2 ⟨_, Ranged.loadMember_of_isLiteral single.value_eq literal_is, rfl⟩
  have hread : Operand.loadReading os = .ok (some (.weather gauge)) :=
    Operand.loadReading_of_first (.weather absent weather_eq hgauge)
  exact ⟨gauge, single.load ⟨hcombinator, hlisted⟩ htest, Operand.load_eq_ok_iff.2 (.inl ⟨os, rfl, hread⟩)⟩

/-- A condition that compares an integer variable of the actor in a role with a number, and an operand that reads
the variable. -/
inductive VariableComparison (slot : Slot) (sign : String) (n : Int32) (ms os : Json.Members) : Prop
  | named {key name type context : String} {literal : Json}
      (key_mem : (key, slot) ∈ [("u_compare_var", .primary), ("npc_compare_var", .secondary)])
      (single : Single ms key (.string name)) (type_eq : ms.stringOr "type" "" = .ok type)
      (context_eq : ms.stringOr "context" "" = .ok context) (sign_eq : ms.get? "op" = some (.string sign))
      (value_eq : ms.get? "value" = some literal) (literal_is : Kind.IsLiteral .integer literal n)
      (asks : Operand.Asks os slot "var") (read_name_eq : os.get? "var_name" = some (.string name))
      (read_type_eq : os.stringOr "type" "" = .ok type) (read_context_eq : os.stringOr "context" "" = .ok context)
      (no_default : os.get? "default" = none)

private theorem VariableComparison.compiles {sign : String} (h : VariableComparison slot sign n ms os) {c : Comparison}
    (hsign : Comparison.parse sign = .ok c) : ∃ ref,
    load (.object ms) = .ok (.test (.compareVariable ref c (.single (.literal n)))) ∧
      Operand.load (.object os) "compare_int" = .ok (.variable ref) := by
  obtain @⟨key, name, type, context, literal, key_mem, single, type_eq, context_eq, sign_eq, value_eq, literal_is,
    asks, read_name_eq, read_type_eq, read_context_eq, no_default⟩ := h
  have hlisted : ∀ e ∈ [("u_compare_var", Slot.primary), ("npc_compare_var", .secondary)],
      Catalog.combinator? e.1 = none ∧ Catalog.arguments? e.1 = some (e.2, .compareVariable) := by decide
  have hcomparison := Test.loadComparison_eq_ok sign_eq hsign
  have hname := Reference.loadName_eq_ok single.value_eq type_eq context_eq
  have htest : Test.load ms key slot .compareVariable = .ok (.compareVariable
      ⟨Operand.scopeOf slot, Reference.fullName type context name, none⟩ c (.single (.literal n))) := by
    refine Loaded.bind_eq_ok_iff.2 ⟨_, Test.loadReference_eq_ok_iff.2 ⟨_, hname, rfl⟩, ?_⟩
    refine Loaded.bind_eq_ok_iff.2 ⟨c, hcomparison, ?_⟩
    exact Loaded.bind_eq_ok_iff.2 ⟨_, Ranged.loadMember_of_isLiteral value_eq literal_is, rfl⟩
  have hvariable : Operand.loadVariable os slot =
      .ok ⟨Operand.scopeOf slot, Reference.fullName type context name, none⟩ := by
    refine Loaded.bind_eq_ok_iff.2 ⟨_, Reference.loadName_eq_ok read_name_eq read_type_eq read_context_eq, ?_⟩
    rw [no_default]
    rfl
  have hread : Operand.loadKeyword os slot "var" =
      .ok (some (.variable ⟨Operand.scopeOf slot, Reference.fullName type context name, none⟩)) :=
    Loaded.bind_eq_ok_iff.2 ⟨_, hvariable, rfl⟩
  exact ⟨_, single.load (hlisted _ key_mem) htest, asks.load hread⟩

/-- Two objects that compile to conditions with the same answer and the same effect on the state, diagnostics
included, in the situations of a kind. -/
def AnswerAlike (situation : Context → State → Prop) (ms cs : Json.Members) : Prop :=
  ∃ c c', load (.object ms) = .ok c ∧ load (.object cs) = .ok c' ∧
    ∀ ctx s, situation ctx s → c.evaluate ctx s = c'.evaluate ctx s

def signs : List String :=
  ["==", "!=", "<", ">", "<=", ">="]

theorem exists_parse_of_mem_signs {sign : String} (h : sign ∈ signs) : ∃ c, Comparison.parse sign = .ok c := by
  simp only [signs, List.mem_cons, List.not_mem_nil, or_false] at h
  rcases h with rfl | rfl | rfl | rfl | rfl | rfl
  all_goals exact ⟨_, rfl⟩

private theorem evaluate_compareVariable (ctx : Context) (ref : Reference) (c : Comparison) :
    evaluate ctx (.test (.compareVariable ref c (.single (.literal n)))) =
      evaluate ctx (.test (.compareIntegers c (.variable ref) (.constant n))) := by
  simp only [evaluate, Test.evaluate, Ranged.evaluate, Source.evaluate, Operand.evaluate, pure_bind]

/-- A threshold of a creature has the answer of the comparison of its reading with the same number by ">=",
wherever there is a creature in the role; one of the weather has it everywhere. A comparison of a variable by any of
the six signs has everywhere the answer and the diagnostics of the comparison of the operand that reads it. -/
theorem thresholds_agree (slot : Slot) (n : Int32) (ms os cs : Json.Members) :
    (Threshold n slot ms os → Compares cs os ">=" n →
      AnswerAlike (fun ctx s => (ctx.character? s.world slot).isSome = true) ms cs) ∧
    (WeatherThreshold n ms os → Compares cs os ">=" n → AnswerAlike (fun _ _ => True) ms cs) ∧
    ∀ sign ∈ signs, VariableComparison slot sign n ms os → Compares cs os sign n →
      AnswerAlike (fun _ _ => True) ms cs := by
  have hreaches : Comparison.parse ">=" = .ok .greaterOrEqual := rfl
  refine ⟨?_, ?_, ?_⟩
  · intro hthreshold hcompares
    obtain ⟨c, reading, hload, hread, hc⟩ := hthreshold.compiles
    refine ⟨c, _, hload, hcompares.load hreaches hread, ?_⟩
    intro ctx s hfound
    obtain ⟨creature, hcreature⟩ := Option.isSome_iff_exists.1 hfound
    -- where there is no creature the condition is false, but the comparison may be true of the 0 that is read
    rw [hc ctx s creature hcreature, ← Comparison.greaterOrEqual_holds]
    change _ = (Comparison.greaterOrEqual.holds (reading.read (ctx.character? s.world slot)) n, s)
    rw [hcreature]
    rfl
  · intro hthreshold hcompares
    obtain ⟨gauge, hload, hread⟩ := hthreshold.compiles
    refine ⟨_, _, hload, hcompares.load hreaches hread, ?_⟩
    intro ctx s _
    change (decide (n ≤ s.world.environment.gauge gauge), s) =
      (Comparison.greaterOrEqual.holds (s.world.environment.gauge gauge) n, s)
    rw [Comparison.greaterOrEqual_holds]
  · intro sign hsign hcomparison hcompares
    obtain ⟨c, hc⟩ := exists_parse_of_mem_signs hsign
    obtain ⟨ref, hload, hread⟩ := hcomparison.compiles hc
    refine ⟨_, _, hload, hcompares.load hc hread, ?_⟩
    intro ctx s _
    exact congrArg (· s) (evaluate_compareVariable ctx ref c)

/-- The strength of a guard reaches 8 exactly if the comparison of it says so, and so it is with the temperature
and with a variable of the guard. -/
theorem thresholds_agree_about_guard :
    let guard := Character.ofName "Guard"
    let ctx : Context := ⟨none, some (.creature guard.id), .missionGoal⟩
    let s : State := ⟨World.empty.addCharacter guard, .scripted [], [], []⟩
    let eight : Json := .object [("const", .int 8)]
    let compared (os : Json.Members) : Json.Members :=
      [("compare_int", .array [.object os, eight]), ("op", .string ">=")]
    let strength : Json.Members := [("npc_val", .string "strength")]
    let temperature : Json.Members := [("weather", .string "temperature")]
    let trust : Json.Members := [("npc_val", .string "var"), ("var_name", .string "trust")]
    let same (ms os : Json.Members) : Prop := ∃ c c', load (.object ms) = .ok c ∧
      load (.object (compared os)) = .ok c' ∧ c.evaluate ctx s = c'.evaluate ctx s
    same [("npc_has_strength", .int 8)] strength ∧ same [("is_temperature", .int 8)] temperature ∧
      same [("npc_compare_var", .string "trust"), ("op", .string ">="), ("value", .int 8)] trust := by
  intro guard ctx s eight compared strength temperature trust same
  have hliteral : Kind.IsLiteral .integer (.int 8) 8 := ⟨8, by decide, rfl⟩
  have hkeys : ["compare_int", "op"].filter Catalog.isKey = ["compare_int"] := by decide
  have hcompares (os : Json.Members) : Compares (compared os) os ">=" 8 :=
    ⟨⟨_, ⟨_, rfl, hliteral⟩, hkeys, rfl⟩, rfl⟩
  refine ⟨?_, ?_, ?_⟩
  · have hsingle : Single [("npc_has_strength", .int 8)] "npc_has_strength" (.int 8) := ⟨by decide, rfl⟩
    have hthreshold : Threshold 8 .secondary [("npc_has_strength", .int 8)] strength :=
      .measure (by decide) hsingle hliteral ⟨by decide, by decide, rfl⟩
    obtain ⟨c, c', hload, hload', hagree⟩ := (thresholds_agree _ _ _ _ _).1 hthreshold (hcompares strength)
    exact ⟨c, c', hload, hload', hagree ctx s (by decide)⟩
  · have hsingle : Single [("is_temperature", .int 8)] "is_temperature" (.int 8) := ⟨by decide, rfl⟩
    have hthreshold : WeatherThreshold 8 [("is_temperature", .int 8)] temperature :=
      .measure (by decide) hsingle hliteral (by decide) rfl
    obtain ⟨c, c', hload, hload', hagree⟩ :=
      (thresholds_agree .primary _ _ _ _).2.1 hthreshold (hcompares temperature)
    exact ⟨c, c', hload, hload', hagree ctx s trivial⟩
  · let ms : Json.Members := [("npc_compare_var", .string "trust"), ("op", .string ">="), ("value", .int 8)]
    have hsingle : Single ms "npc_compare_var" (.string "trust") := ⟨by decide, rfl⟩
    have hcomparison : VariableComparison .secondary ">=" 8 ms trust :=
      .named (by decide) hsingle rfl rfl rfl rfl hliteral ⟨by decide, by decide, rfl⟩ rfl rfl rfl rfl
    obtain ⟨c, c', hload, hload', hagree⟩ :=
      (thresholds_agree _ _ _ _ _).2.2 ">=" (by decide) hcomparison (hcompares trust)
    exact ⟨c, c', hload, hload', hagree ctx s trivial⟩

end Condition

end Parley
