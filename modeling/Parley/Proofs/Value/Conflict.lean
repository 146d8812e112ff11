import Parley.Proofs.Value.WellFormed

/-!
Operands with more than one source. Main statement: such an object is accepted exactly if its first source is a
reading, whose operand it then is, and what stands beside it is dropped; without a reading it is refused.
-/

set_option autoImplicit false
set_option relaxedAutoImplicit false

namespace Parley.Operand

variable {ms : Json.Members} {member : String} {o : Operand}

/-- The members that say where an operand comes from. -/
def sources : List String :=
  ["const", "time", "weather", "rand", "arithmetic", "u_val", "npc_val", "global_val", "faction_val", "party_val"]

/-- The members of an object that say where an operand comes from. -/
def sourcesOf (ms : Json.Members) : List String :=
  sources.filter ms.has

/-- The operand that the first reading of an object gives. A later one counts only where those before it are not
there, or name no keyword. -/
inductive First (ms : Json.Members) : Operand → Prop
  | constant {json : Json} {n : Int32} (const_eq : ms.get? "const" = some json)
      (literal : Kind.IsLiteral .integer json n) :
      First ms (.constant n)
  | clock {name : String} {reading : ClockReading} (before : ms.has "const" = false)
      (time_eq : ms.get? "time" = some (.string name)) (reading_eq : Named.ofName? name = some reading) :
      First ms (.clock reading)
  | weather {name : String} {gauge : WeatherGauge} (before : ∀ s ∈ ["const", "time"], ms.has s = false)
      (weather_eq : ms.get? "weather" = some (.string name)) (gauge_eq : Named.ofName? name = some gauge) :
      First ms (.weather gauge)
  | random {json : Json} {most : Int64} (before : ∀ s ∈ ["const", "time", "weather"], ms.has s = false)
      (rand_eq : ms.get? "rand" = some json) (most_eq : json.int? = some most) :
      First ms (.random most)
  | primary {keyword : String} {o : Operand}
      (before : ∀ s ∈ ["const", "time", "weather", "rand"], ms.has s = false)
      (val_eq : ms.get? "u_val" = some (.string keyword))
      (keyword_eq : loadKeyword ms .primary keyword = .ok (some o)) :
      First ms o
  | secondary {keyword : String} {o : Operand}
      (before : ∀ s ∈ ["const", "time", "weather", "rand"], ms.has s = false)
      (passed : ∀ keyword, ms.get? "u_val" = some (.string keyword) → loadKeyword ms .primary keyword = .ok none)
      (val_eq : ms.get? "npc_val" = some (.string keyword))
      (keyword_eq : loadKeyword ms .secondary keyword = .ok (some o)) :
      First ms o

/-- An object that has no reading: no member is for one, and no actor's is a keyword. -/
structure NoReading (ms : Json.Members) : Prop where
  absent : ∀ s ∈ ["const", "time", "weather", "rand"], ms.has s = false
  no_keyword : ∀ slot keyword, ms.get? (scopeOf slot).member = some (.string keyword) →
    loadKeyword ms slot keyword = .ok none

private theorem loadActor_eq_ok_none_iff {slot : Slot} : loadActor ms slot = .ok none ↔
    ∀ keyword, ms.get? (scopeOf slot).member = some (.string keyword) → loadKeyword ms slot keyword = .ok none := by
  unfold loadActor
  split
  · rename_i keyword hget
    simp [hget]
  · rename_i hnot
    exact iff_of_true rfl fun keyword hget => absurd hget (hnot keyword)

private theorem loadActor_eq_ok_some_iff {slot : Slot} : loadActor ms slot = .ok (some o) ↔
    ∃ keyword, ms.get? (scopeOf slot).member = some (.string keyword) ∧
      loadKeyword ms slot keyword = .ok (some o) := by
  unfold loadActor
  split
  · rename_i keyword hget
    simp [hget]
  · rename_i hnot
    exact iff_of_false nofun fun ⟨keyword, hget, _⟩ => hnot keyword hget

private theorem loadReading_of_absent (h : ∀ s ∈ ["const", "time", "weather", "rand"], ms.has s = false) :
    loadReading ms = loadActor ms .primary >>= fun
      | some o => .ok (some o)
      | none => loadActor ms .secondary := by
  have hnone (s : String) (hs : s ∈ ["const", "time", "weather", "rand"]) : ms.get? s = none :=
    Json.Members.get?_eq_none_of_has (h s hs)
  have hconst := hnone "const" (by decide)
  have htime := hnone "time" (by decide)
  have hweather := hnone "weather" (by decide)
  have hrand := hnone "rand" (by decide)
  simp only [loadReading, hconst, htime, hweather, hrand]
  cases loadActor ms .primary with
  | error e => rfl
  | ok reading => cases reading <;> rfl

private theorem first_or_noReading_of_absent (habsent : ∀ s ∈ ["const", "time", "weather", "rand"], ms.has s = false)
    {reading : Option Operand} (h : loadReading ms = .ok reading) :
    (∃ o, reading = some o ∧ First ms o) ∨ reading = none ∧ NoReading ms := by
  rw [loadReading_of_absent habsent] at h
  obtain ⟨primary, hprimary, h⟩ := Loaded.bind_eq_ok_iff.1 h
  cases primary with
  | some o =>
    cases h
    obtain ⟨keyword, hget, hkeyword⟩ := loadActor_eq_ok_some_iff.1 hprimary
    exact .inl ⟨o, rfl, .primary habsent hget hkeyword⟩
  | none =>
    have hpassed := loadActor_eq_ok_none_iff.1 hprimary
    cases reading with
    | some o =>
      obtain ⟨keyword, hget, hkeyword⟩ := loadActor_eq_ok_some_iff.1 h
      exact .inl ⟨o, rfl, .secondary habsent hpassed hget hkeyword⟩
    | none =>
      refine .inr ⟨rfl, habsent, fun slot => ?_⟩
      cases slot with
      | primary => exact hpassed
      | secondary => exact loadActor_eq_ok_none_iff.1 h

/-- What is read is the first reading, or there is none. -/
theorem first_or_noReading {reading : Option Operand} (h : loadReading ms = .ok reading) :
    (∃ o, reading = some o ∧ First ms o) ∨ reading = none ∧ NoReading ms := by
  have hread := h
  unfold loadReading at h
  split at h
  · rename_i json hconst
    obtain ⟨n, hn, rfl⟩ := Loaded.map_eq_ok_iff.1 h
    exact .inl ⟨_, rfl, .constant hconst (Json.asInt32_eq_ok_iff.1 hn)⟩
  rename_i hconst
  split at h
  · rename_i json htime
    obtain ⟨name, hname, h⟩ := Loaded.bind_eq_ok_iff.1 h
    rw [Json.asString_eq_ok_iff.1 hname] at htime
    split at h
    · rename_i hreading
      cases h
      exact .inl ⟨_, rfl, .clock (by simp [Json.Members.has, hconst]) htime hreading⟩
    · cases h
  rename_i htime
  split at h
  · rename_i json hweather
    obtain ⟨name, hname, h⟩ := Loaded.bind_eq_ok_iff.1 h
    rw [Json.asString_eq_ok_iff.1 hname] at hweather
    split at h
    · rename_i hgauge
      cases h
      exact .inl ⟨_, rfl, .weather (by simp [Json.Members.has, hconst, htime]) hweather hgauge⟩
    · cases h
  rename_i hweather
  split at h
  · rename_i json hrand
    obtain ⟨most, hmost, rfl⟩ := Loaded.map_eq_ok_iff.1 h
    have hbefore : ∀ s ∈ ["const", "time", "weather"], ms.has s = false := by
      simp [Json.Members.has, hconst, htime, hweather]
    exact .inl ⟨_, rfl, .random hbefore hrand (Json.asInt_eq_ok_iff.1 hmost)⟩
  rename_i hrand
  exact first_or_noReading_of_absent (by simp [Json.Members.has, hconst, htime, hweather, hrand]) hread

theorem loadReading_of_first (h : First ms o) : loadReading ms = .ok (some o) := by
  cases h with
  | constant const_eq literal =>
    rw [loadReading, const_eq]
    exact Loaded.map_eq_ok_iff.2 ⟨_, Json.asInt32_eq_ok_iff.2 literal, rfl⟩
  | clock before time_eq reading_eq =>
    rw [loadReading, Json.Members.get?_eq_none_of_has before, time_eq]
    simp [Json.asString, reading_eq, bind, Except.bind, pure, Except.pure]
  | weather before weather_eq gauge_eq =>
    have hconst := Json.Members.get?_eq_none_of_has (before "const" (by decide))
    have htime := Json.Members.get?_eq_none_of_has (before "time" (by decide))
    rw [loadReading, hconst, htime, weather_eq]
    simp [Json.asString, gauge_eq, bind, Except.bind, pure, Except.pure]
  | random before rand_eq most_eq =>
    have hconst := Json.Members.get?_eq_none_of_has (before "const" (by decide))
    have htime := Json.Members.get?_eq_none_of_has (before "time" (by decide))
    have hweather := Json.Members.get?_eq_none_of_has (before "weather" (by decide))
    rw [loadReading, hconst, htime, hweather, rand_eq]
    exact Loaded.map_eq_ok_iff.2 ⟨_, Json.asInt_eq_ok_iff.2 most_eq, rfl⟩
  | primary before val_eq keyword_eq =>
    have hprimary : loadActor ms .primary = .ok (some o) := loadActor_eq_ok_some_iff.2 ⟨_, val_eq, keyword_eq⟩
    rw [loadReading_of_absent before]
    exact Loaded.bind_eq_ok_iff.2 ⟨_, hprimary, rfl⟩
  | secondary before passed val_eq keyword_eq =>
    have hsecondary : loadActor ms .secondary = .ok (some o) := loadActor_eq_ok_some_iff.2 ⟨_, val_eq, keyword_eq⟩
    rw [loadReading_of_absent before]
    exact Loaded.bind_eq_ok_iff.2 ⟨none, loadActor_eq_ok_none_iff.2 passed, hsecondary⟩

private theorem loadReading_of_noReading (h : NoReading ms) : loadReading ms = .ok none := by
  have hactor (slot : Slot) : loadActor ms slot = .ok none := loadActor_eq_ok_none_iff.2 (h.no_keyword slot)
  rw [loadReading_of_absent h.absent]
  exact Loaded.bind_eq_ok_iff.2 ⟨none, hactor .primary, hactor .secondary⟩

private theorem length_sourcesOf_le (h : NoReading ms) : (sourcesOf ms).length ≤ (Source.membersOf ms).length := by
  have hreadings : ["const", "time", "weather", "rand"].filter ms.has = [] := by
    refine List.filter_eq_nil_iff.2 fun s hs => ?_
    simp [h.absent s hs]
  have hsplit : sources = ["const", "time", "weather", "rand"] ++
      ["arithmetic", "u_val", "npc_val", "global_val", "faction_val", "party_val"] := rfl
  have hsublist : List.Sublist ["arithmetic", "u_val", "npc_val", "global_val", "faction_val", "party_val"]
      Source.members := by decide
  rw [sourcesOf, hsplit, List.filter_append, hreadings, List.nil_append]
  exact (hsublist.filter ms.has).length_le

private theorem load_of_conflict (h : NoReading ms) (hlength : 2 ≤ (sourcesOf ms).length) :
    Operand.load (.object ms) member = .error (.invalidValue member (.conflictingSources (Source.membersOf ms))) := by
  have hle := length_sourcesOf_le h
  have hsource : Source.load .integer (.object ms) member =
      .error (.invalidValue member (.conflictingSources (Source.membersOf ms))) := by
    rw [Source.load.eq_def]
    exact if_pos (by omega)
  rw [Operand.load.eq_def]
  simp only [loadReading_of_noReading h]
  rw [Ranged.load.eq_def]
  simp only [hsource]
  rfl

/-- An object with two or more sources is accepted exactly if it has a reading, and then it is what its first reading
gives, whatever stands beside it. Without a reading the conflict is found. -/
theorem accepted_iff_first (ms : Json.Members) (member : String) (hlength : 2 ≤ (sourcesOf ms).length) :
    (∀ o, Operand.load (.object ms) member = .ok o ↔ First ms o) ∧
      (NoReading ms → Operand.load (.object ms) member =
        .error (.invalidValue member (.conflictingSources (Source.membersOf ms)))) := by
  refine ⟨?_, fun h => load_of_conflict h hlength⟩
  intro o
  constructor
  · intro h
    rcases Operand.load_eq_ok_iff.1 h with ⟨_, ⟨⟩, hreading⟩ | ⟨hreading, -⟩
    · rcases first_or_noReading hreading with ⟨_, ⟨⟩, hfirst⟩ | ⟨⟨⟩, -⟩
      exact hfirst
    · rcases first_or_noReading (hreading ms rfl) with ⟨_, ⟨⟩, -⟩ | ⟨-, hnone⟩
      rw [load_of_conflict hnone hlength] at h
      cases h
  · intro hfirst
    exact Operand.load_eq_ok_iff.2 (.inl ⟨ms, rfl, loadReading_of_first hfirst⟩)

/-- Two sources without a reading are refused, and a constant beside a draw is a constant. -/
theorem accepted_iff_first_constant :
    Operand.load (.object [("const", .int 1), ("rand", .int 2)]) "value" = .ok (.constant 1) ∧
      Operand.load (.object [("arithmetic", .array []), ("u_val", .string "mood")]) "value" =
        .error (.invalidValue "value" (.conflictingSources ["arithmetic", "u_val"])) := by
  refine ⟨((accepted_iff_first _ "value" (by decide)).1 _).2 (.constant rfl ⟨1, by decide, rfl⟩), ?_⟩
  refine (accepted_iff_first _ "value" (by decide)).2 ⟨by decide, ?_⟩
  rintro slot keyword hget
  cases slot with
  | primary =>
    cases hget
    rfl
  | secondary => cases hget

/-- Not every conflict is found: a constant hides a draw. -/
theorem conflict_accepted : ¬∀ (ms : Json.Members) (member : String), 2 ≤ (sourcesOf ms).length →
    ∃ e, Operand.load (.object ms) member = .error e := by
  intro h
  have hload : Operand.load (.object [("const", .int 1), ("rand", .int 2)]) "value" = .ok (.constant 1) :=
    Operand.load_eq_ok_iff.2 (.inl ⟨_, rfl, loadReading_of_first (.constant rfl ⟨1, by decide, rfl⟩)⟩)
  obtain ⟨e, he⟩ := h [("const", .int 1), ("rand", .int 2)] "value" (by decide)
  rw [hload] at he
  cases he

end Parley.Operand
