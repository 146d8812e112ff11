import Parley.Proofs.Value.Arithmetic

/-!
What content is compiled to what syntax, as rules: a relation for each compiler of values and effects,
whose derivations are what proofs about compiled content are an induction on. Main statements: what a
compiler gives has been written so.
-/

set_option autoImplicit false
set_option relaxedAutoImplicit false

namespace Parley

/-- The members of an object that is compiled to an operand which is no value. -/
inductive Operand.Reading (ms : Json.Members) : Operand → Prop
  | constant (n : Int32) : Operand.Reading ms (.constant n)
  | clock (reading : ClockReading) : Operand.Reading ms (.clock reading)
  | weather (gauge : WeatherGauge) : Operand.Reading ms (.weather gauge)
  | random {json : Json} (member_eq : ms.get? "rand" = some json) (most : Int64) :
      Operand.Reading ms (.random most)
  | creature {slot : Slot} {json : Json} (member_eq : ms.get? (scopeOf slot).member = some json)
      (reading : CreatureReading) :
      Operand.Reading ms (.creature slot reading)
  | coordinate {slot : Slot} {json : Json} (member_eq : ms.get? (scopeOf slot).member = some json)
      (axis : Axis) :
      Operand.Reading ms (.coordinate slot axis)
  | stored {slot : Slot} {json : Json} {ref : Reference}
      (member_eq : ms.get? (scopeOf slot).member = some json) (ref_eq : loadVariable ms slot = .ok ref) :
      Operand.Reading ms (.variable ref)
  | elapsed {slot : Slot} {json : Json} {ref : Reference}
      (member_eq : ms.get? (scopeOf slot).member = some json) (ref_eq : loadVariable ms slot = .ok ref) :
      Operand.Reading ms (.elapsed ref)

namespace Operand

variable {ms : Json.Members} {slot : Slot} {operand : Operand}

private theorem reading_of_loadKeyword {json : Json} {keyword : String}
    (hmember : ms.get? (scopeOf slot).member = some json)
    (h : loadKeyword ms slot keyword = .ok (some operand)) : Reading ms operand := by
  unfold loadKeyword at h
  split at h
  · cases h
    exact .creature hmember _
  split at h
  · obtain ⟨part, -, h⟩ := Loaded.bind_eq_ok_iff.1 h
    cases h
    exact .creature hmember _
  · obtain ⟨skill, -, h⟩ := Loaded.bind_eq_ok_iff.1 h
    cases h
    exact .creature hmember _
  · obtain ⟨effectId, -, h⟩ := Loaded.bind_eq_ok_iff.1 h
    obtain ⟨part, -, h⟩ := Loaded.bind_eq_ok_iff.1 h
    cases h
    exact .creature hmember _
  · cases h
    exact .coordinate hmember .x
  · cases h
    exact .coordinate hmember .y
  · cases h
    exact .coordinate hmember .z
  · obtain ⟨ref, href, h⟩ := Loaded.bind_eq_ok_iff.1 h
    cases h
    exact .stored hmember href
  · obtain ⟨ref, href, h⟩ := Loaded.bind_eq_ok_iff.1 h
    cases h
    exact .elapsed hmember href
  · cases h

private theorem reading_of_loadActor (h : loadActor ms slot = .ok (some operand)) : Reading ms operand := by
  unfold loadActor at h
  split at h
  · rename_i hmember
    exact reading_of_loadKeyword hmember h
  · cases h

theorem reading_of_loadReading (h : loadReading ms = .ok (some operand)) : Reading ms operand := by
  unfold loadReading at h
  split at h
  · obtain ⟨n, -, h⟩ := Loaded.map_eq_ok_iff.1 h
    cases h
    exact .constant n
  split at h
  · obtain ⟨name, -, h⟩ := Loaded.bind_eq_ok_iff.1 h
    split at h <;> cases h
    exact .clock _
  split at h
  · obtain ⟨name, -, h⟩ := Loaded.bind_eq_ok_iff.1 h
    split at h <;> cases h
    exact .weather _
  split at h
  · rename_i hrand
    obtain ⟨n, -, h⟩ := Loaded.map_eq_ok_iff.1 h
    cases h
    exact .random hrand n
  split at h
  · exact reading_of_loadActor h
  · exact reading_of_loadActor h

end Operand

mutual

/-- The content that is compiled to an effect. -/
inductive Effect.Written : Json → Effect → Prop
  | sequence {items : List Json} {effects : List Effect}
      (all : Effect.WrittenAll items effects) :
      Effect.Written (.array items) (.sequence effects)
  | arithmetic {ms : Json.Members} {items : List Json} {effect : Effect}
      (member_eq : ms.get? "arithmetic" = some (.array items))
      (inner : Effect.WrittenArithmetic items effect) :
      Effect.Written (.object ms) effect
  | setText {ms target : Json.Members} {json : Json} {ref : Reference} {value : Source .text}
      (arithmetic_eq : ms.get? "arithmetic" = none)
      (member_eq : ms.get? "set_string_var" = some json)
      (target_eq : ms.objectAt "target_var" = .ok target)
      (ref_eq : Reference.load target false = .ok ref)
      (inner : Source.Written .text "set_string_var" json value) :
      Effect.Written (.object ms) (.setText ref value)

/-- The items that are compiled to effects, one by one. -/
inductive Effect.WrittenAll : List Json → List Effect → Prop
  | nil : Effect.WrittenAll [] []
  | cons {item : Json} {effect : Effect} {rest : List Json} {effects : List Effect}
      (head : Effect.Written item effect) (tail : Effect.WrittenAll rest effects) :
      Effect.WrittenAll (item :: rest) (effect :: effects)

/-- The arrays that are compiled to arithmetic effects. -/
inductive Effect.WrittenArithmetic : List Json → Effect → Prop
  | value {a : Json} {v : Operand}
      (a_written : Operand.Written "arithmetic" a v) :
      Effect.WrittenArithmetic [a] (.report (.operand v))
  | step {target sign : Json} {ref : Reference} {delta : Int32}
      (sign_ne : Effect.isAssign sign = false)
      (target_eq : Effect.loadTarget target = .ok ref)
      (sign_eq : Effect.loadStep sign = .ok delta) :
      Effect.WrittenArithmetic [target, sign] (.step ref delta)
  | assign {target sign a : Json} {ref : Reference} {v : Operand}
      (sign_eq : Effect.isAssign sign = true)
      (target_eq : Effect.loadTarget target = .ok ref)
      (a_written : Operand.Written "arithmetic" a v) :
      Effect.WrittenArithmetic [target, sign, a] (.assign ref (.operand v))
  | binary {a sign b : Json} {op : Operator} {l r : Operand}
      (sign_ne : Effect.isAssign sign = false)
      (sign_eq : Effect.loadOperator sign = .ok op)
      (a_written : Operand.Written "arithmetic" a l)
      (b_written : Operand.Written "arithmetic" b r) :
      Effect.WrittenArithmetic [a, sign, b] (.report (.binary op l r))
  | assignBinary {target assign a sign b : Json} {ref : Reference} {op : Operator} {l r : Operand}
      (assign_eq : Effect.isAssign assign = true)
      (sign_eq : Effect.loadOperator sign = .ok op)
      (target_eq : Effect.loadTarget target = .ok ref)
      (a_written : Operand.Written "arithmetic" a l)
      (b_written : Operand.Written "arithmetic" b r) :
      Effect.WrittenArithmetic [target, assign, a, sign, b] (.assign ref (.binary op l r))

/-- The content that is compiled to an operand under a member. -/
inductive Operand.Written : String → Json → Operand → Prop
  | reading {member : String} {ms : Json.Members} {operand : Operand}
      (reading_eq : Operand.loadReading ms = .ok (some operand)) :
      Operand.Written member (.object ms) operand
  | value {member : String} {json : Json} {range : Ranged .integer}
      (reading_eq : ∀ ms, json = .object ms → Operand.loadReading ms = .ok none)
      (inner : Ranged.Written .integer member json range) :
      Operand.Written member json (.value range)

/-- The content that is compiled to a value of a measure or a range. -/
inductive Ranged.Written : (m : Measure) → String → Json → Ranged m → Prop
  | pair {m : Measure} {member : String} {low high : Json} {a b : Source (.measure m)}
      (low_written : Source.Written (.measure m) member low a)
      (high_written : Source.Written (.measure m) member high b) :
      Ranged.Written m member (.array [low, high]) (.pair a b)
  | single {m : Measure} {member : String} {json : Json} {source : Source (.measure m)}
      (not_array : ∀ items, json ≠ .array items)
      (inner : Source.Written (.measure m) member json source) :
      Ranged.Written m member json (.single source)

/-- The content that is compiled to a source of a kind. -/
inductive Source.Written : (k : Kind) → String → Json → Source k → Prop
  | literal {k : Kind} {member : String} {json : Json} {value : k.Value}
      (not_object : ∀ ms, json ≠ .object ms)
      (value_eq : k.literal json member = .ok value) :
      Source.Written k member json (.literal value)
  | arithmetic {k : Kind} {member : String} {ms : Json.Members} {items : List Json}
      {effect : Effect} {default : Option k.Value}
      (members_le : (Source.membersOf ms).length ≤ 1)
      (default_eq : k.loadDefault ms = .ok default)
      (member_eq : ms.get? "arithmetic" = some (.array items))
      (inner : Effect.WrittenArithmetic items effect) :
      Source.Written k member (.object ms) (.computed effect default)
  | effect {k : Kind} {member : String} {ms : Json.Members} {json : Json}
      {effect : Effect} {default : Option k.Value}
      (members_le : (Source.membersOf ms).length ≤ 1)
      (default_eq : k.loadDefault ms = .ok default)
      (member_eq : ms.get? "effect" = some json)
      (inner : Effect.Written json effect) :
      Source.Written k member (.object ms) (.computed effect default)
  | reference {k : Kind} {member : String} {ms : Json.Members} {ref : Reference}
      {default : Option k.Value}
      (members_le : (Source.membersOf ms).length ≤ 1)
      (default_eq : k.loadDefault ms = .ok default)
      (ref_eq : Reference.load ms true = .ok ref) :
      Source.Written k member (.object ms) (.variable ref default)

end

-- the compilers call each other on smaller and smaller content; the measures are theirs
mutual

theorem Effect.written_of_load {json : Json} {effect : Effect}
    (h : Effect.load json = .ok effect) : Effect.Written json effect := by
  rw [Effect.load.eq_def] at h
  split at h
  · obtain ⟨effects, hitems, rfl⟩ := Loaded.map_eq_ok_iff.1 h
    exact .sequence (Effect.writtenAll_of_loadAll hitems)
  · split at h
    · rename_i hmember
      exact .arithmetic hmember (Effect.written_of_arithmetic h)
    · cases h
    · rename_i hnone
      split at h
      · rename_i hmember
        split at h
        · cases h
        · rename_i htarget
          split at h
          · cases h
          · rename_i href
            obtain ⟨source, hvalue, rfl⟩ := Loaded.map_eq_ok_iff.1 h
            exact .setText hnone hmember htarget href (Source.written_of_load hvalue)
      · cases h
  · cases h
  termination_by 3 * sizeOf json
  decreasing_by
    all_goals subst_vars
    all_goals
      first
        | (simp only [Json.array.sizeOf_spec]; omega)
        | (have hlt := Json.Members.sizeOf_lt_of_get? ‹_›
           simp only [Json.array.sizeOf_spec, Json.object.sizeOf_spec] at hlt ⊢; omega)

theorem Effect.writtenAll_of_loadAll {items : List Json} {effects : List Effect}
    (h : Effect.loadAll items = .ok effects) : Effect.WrittenAll items effects := by
  rw [Effect.loadAll.eq_def] at h
  split at h
  · cases h
    exact .nil
  · split at h
    · cases h
    · rename_i hitem
      obtain ⟨others, hrest, rfl⟩ := Loaded.map_eq_ok_iff.1 h
      exact .cons (Effect.written_of_load hitem) (Effect.writtenAll_of_loadAll hrest)
  termination_by 3 * sizeOf items

theorem Effect.written_of_arithmetic {items : List Json} {effect : Effect}
    (h : Effect.arithmetic items = .ok effect) : Effect.WrittenArithmetic items effect := by
  cases Effect.shape_of_arithmetic h with
  | alone a_eq => exact .value (Operand.written_of_load a_eq)
  | binary a_eq sign_mem b_eq =>
    have hsign := Effect.isAssign_string_eq_false (Effect.ne_assign_of_mem_signs sign_mem)
    have hop := Effect.loadOperator_eq_ok_iff.2 ⟨_, rfl, sign_mem⟩
    exact .binary hsign hop (Operand.written_of_load a_eq) (Operand.written_of_load b_eq)
  | assign target_is a_eq =>
    exact .assign rfl (Effect.loadTarget_eq_ok_iff.2 target_is) (Operand.written_of_load a_eq)
  | assignBinary target_is a_eq sign_mem b_eq =>
    have htarget := Effect.loadTarget_eq_ok_iff.2 target_is
    have hop := Effect.loadOperator_eq_ok_iff.2 ⟨_, rfl, sign_mem⟩
    exact .assignBinary rfl hop htarget (Operand.written_of_load a_eq) (Operand.written_of_load b_eq)
  | increment target_is => exact .step rfl (Effect.loadTarget_eq_ok_iff.2 target_is) rfl
  | decrement target_is => exact .step rfl (Effect.loadTarget_eq_ok_iff.2 target_is) rfl
  termination_by 3 * sizeOf items
  decreasing_by
    all_goals
      subst_vars
      simp only [List.cons.sizeOf_spec]
      omega

theorem Operand.written_of_load {json : Json} {member : String} {operand : Operand}
    (h : Operand.load json member = .ok operand) : Operand.Written member json operand := by
  rcases Operand.load_eq_ok_iff.1 h with ⟨ms, rfl, hreading⟩ | ⟨hreading, range, hrange, rfl⟩
  · exact .reading hreading
  · exact .value hreading (Ranged.written_of_load hrange)
  termination_by 3 * sizeOf json + 2

theorem Ranged.written_of_load {m : Measure} {json : Json} {member : String} {range : Ranged m}
    (h : Ranged.load m json member = .ok range) : Ranged.Written m member json range := by
  rcases Ranged.load_eq_ok_iff.1 h with ⟨value, hvalue, rfl⟩ | ⟨low, high, a, b, rfl, hlow, hhigh, rfl⟩
  · have hnot : ∀ items, json ≠ .array items := by
      rintro items rfl
      exact Source.load_array_ne_ok items value hvalue
    exact .single hnot (Source.written_of_load hvalue)
  · exact .pair (Source.written_of_load hlow) (Source.written_of_load hhigh)
  termination_by 3 * sizeOf json + 1

theorem Source.written_of_load {k : Kind} {json : Json} {member : String} {source : Source k}
    (h : Source.load k json member = .ok source) : Source.Written k member json source := by
  cases json with
  | object ms =>
    obtain ⟨name, default, hmembers, hdefault, hgiven⟩ := Source.load_object_eq_ok_iff.1 h
    have hle : (Source.membersOf ms).length ≤ 1 := by rw [hmembers]; exact Nat.le_refl 1
    cases hgiven with
    | arithmetic get_eq effect_eq => exact .arithmetic hle hdefault get_eq (Effect.written_of_arithmetic effect_eq)
    | effect get_eq effect_eq => exact .effect hle hdefault get_eq (Effect.written_of_load effect_eq)
    | reference ref_eq => exact .reference hle hdefault ref_eq
  | null | bool _ | number _ | string _ | array _ =>
    obtain ⟨value, hvalue, rfl⟩ := (Source.load_literal_eq_ok_iff (by simp)).1 h
    exact .literal (by simp) (Kind.literal_eq_ok_iff.2 hvalue)
  termination_by 3 * sizeOf json
  decreasing_by
    all_goals
      subst_vars
      have hlt := Json.Members.sizeOf_lt_of_get? ‹_›
      simp only [Json.array.sizeOf_spec, Json.object.sizeOf_spec] at hlt ⊢
      omega

end

end Parley
