import Parley.Proofs.Condition.Values
import Parley.Proofs.Text.Numeral
import Parley.Value.Eval

/-!
Defaults of variables. Content cannot leave out the default of a variable value, and a default that it writes
for an operand reads as an integer. Main statement: the values of a compiled test have usable defaults.
-/

set_option autoImplicit false
set_option relaxedAutoImplicit false

namespace Parley

def Source.Defaulted {k : Kind} : Source k → Prop
  | .variable _ default => default.isSome = true
  | .literal _ | .computed _ _ => True

def Ranged.Defaulted {m : Measure} : Ranged m → Prop
  | .single value => value.Defaulted
  | .pair low high => low.Defaulted ∧ high.Defaulted

def Operand.Defaulted : Operand → Prop
  | .variable ref | .elapsed ref => ref.DefaultsToInteger
  | .value range => range.Defaulted
  | .constant _ | .random _ | .clock _ | .weather _ | .creature .. | .coordinate .. => True

def Test.Value.Defaulted : Test.Value → Prop
  | .text v => v.Defaulted
  | .range v => v.Defaulted
  | .operand o => o.Defaulted

theorem Kind.resolve_unreported {k : Kind} {text : String} {default : Option k.Value} (origin : Origin)
    (hempty : text = "" → default.isSome = true) (hread : text ≠ "" → ∃ value, k.read text = .ok value) :
    (k.resolve origin text default).2 = none := by
  unfold resolve
  split
  · rename_i htext
    obtain ⟨value, rfl⟩ := Option.isSome_iff_exists.1 (hempty htext)
    rfl
  · rename_i htext
    obtain ⟨value, hvalue⟩ := hread htext
    rw [hvalue]

variable {ms : Json.Members}

private theorem Reference.get?_default_of_load {ref : Reference} (h : load ms true = .ok ref) :
    ∃ json, ms.get? "default" = some json := by
  obtain ⟨_, -, -, -, hdefault, hrequired⟩ := load_eq_ok_iff.1 h
  exact Option.isSome_iff_exists.1 (hdefault.has_default (hrequired rfl))

private theorem Kind.isSome_of_loadDefault {k : Kind} {json : Json} {default : Option k.Value}
    (hmember : ms.get? "default" = some json) (h : k.loadDefault ms = .ok default) :
    default.isSome = true := by
  rw [loadDefault, hmember] at h
  obtain ⟨value, -, rfl⟩ := Loaded.map_eq_ok_iff.1 h
  rfl

private theorem Source.Written.defaulted {k : Kind} {member : String} {json : Json} {v : Source k}
    (h : Written k member json v) : v.Defaulted := by
  cases h with
  | literal | arithmetic | effect => trivial
  | reference _ default_eq ref_eq =>
    obtain ⟨json, hmember⟩ := Reference.get?_default_of_load ref_eq
    exact Kind.isSome_of_loadDefault hmember default_eq

private theorem Ranged.Written.defaulted {m : Measure} {member : String} {json : Json} {v : Ranged m}
    (h : Written m member json v) : v.Defaulted := by
  cases h with
  | pair low_written high_written => exact ⟨low_written.defaulted, high_written.defaulted⟩
  | single _ inner => exact inner.defaulted

private theorem Operand.defaultsToInteger_of_loadVariable {slot : Slot} {ref : Reference}
    (h : loadVariable ms slot = .ok ref) : ref.DefaultsToInteger := by
  obtain ⟨name, -, h⟩ := Loaded.bind_eq_ok_iff.1 h
  split at h
  · cases h
    nofun
  · obtain ⟨n, -, h⟩ := Loaded.bind_eq_ok_iff.1 h
    cases h
    intro text htext
    cases htext
    exact ⟨n, Kind.readInteger_text n⟩

theorem Operand.Reading.defaulted {o : Operand} (h : Reading ms o) : o.Defaulted := by
  cases h with
  | constant | clock | weather | random | creature | coordinate => trivial
  | stored _ ref_eq | elapsed _ ref_eq => exact defaultsToInteger_of_loadVariable ref_eq

private theorem Operand.Written.defaulted {member : String} {json : Json} {o : Operand}
    (h : Written member json o) : o.Defaulted := by
  cases h with
  | reading reading_eq => exact (reading_of_loadReading reading_eq).defaulted
  | value _ inner => exact inner.defaulted

private theorem Test.Value.WrittenIn.defaulted {contents : List Json} {v : Test.Value} (h : v.WrittenIn contents) :
    v.Defaulted := by
  cases h with
  | defaultText | defaultRange => trivial
  | text _ written => exact written.defaulted
  | range _ written => exact written.defaulted
  | operand _ written => exact written.defaulted

theorem Condition.defaulted_of_load {json : Json} {c : Condition} (h : load json = .ok c) :
    ∀ t ∈ c.tests, ∀ v ∈ t.values, v.Defaulted :=
  fun t ht v hv => ((written_of_load h).values t ht v hv).defaulted

theorem Condition.default_of_load {json : Json} {c : Condition} (h : load json = .ok c) {t : Test}
    (ht : t ∈ c.tests) {ref : Reference} (href : t.reference? = some ref) : ref.default = none := by
  obtain ⟨key, -, hasked⟩ := (written_of_load h).asked t ht
  cases hasked with
  | fact => cases href
  | arguments _ test_eq =>
    cases Test.made_of_load test_eq with
    | variableIs | compareVariable | compareElapsed =>
      cases href
      rfl
    | _ => cases href

end Parley
