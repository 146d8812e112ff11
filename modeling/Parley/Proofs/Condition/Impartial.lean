import Parley.Proofs.Condition.Values

/-!
Values that name no actor. Main statement: a condition whose content has nothing for values but literals and
variables of the world or of the player's faction is compiled to one that takes its values from nothing else.
-/

set_option autoImplicit false
set_option relaxedAutoImplicit false

namespace Parley

def Reference.Impartial (ref : Reference) : Prop :=
  ref.scope = .global ∨ ref.scope = .party

def Source.Impartial {k : Kind} : Source k → Prop
  | .literal _ => True
  | .variable ref _ => ref.Impartial
  | .computed _ _ => False

def Ranged.Impartial {m : Measure} : Ranged m → Prop
  | .single value => value.Impartial
  | .pair low high => low.Impartial ∧ high.Impartial

def Operand.Impartial : Operand → Prop
  | .constant _ | .random _ | .clock _ | .weather _ => True
  | .creature .. | .coordinate .. => False
  | .variable ref | .elapsed ref => ref.Impartial
  | .value range => range.Impartial

/-- A test none of whose values names an actor. The actor that it is of, and a variable of that actor, are no
values. -/
def Test.Impartial : Test → Prop
  | .fact .. | .variableIs .. => True
  | .text _ _ value => value.Impartial
  | .level _ _ value | .compareVariable _ _ value | .oneIn value => value.Impartial
  | .compareElapsed _ _ time => time.Impartial
  | .count _ _ value amount => value.Impartial ∧ amount.Impartial
  | .anyTrait _ values => ∀ value ∈ values, value.Impartial
  | .xInY a b => a.Impartial ∧ b.Impartial
  | .compareIntegers _ l r => l.Impartial ∧ r.Impartial
  | .compareTexts l r => l.Impartial ∧ r.Impartial

def Condition.Impartial (c : Condition) : Prop :=
  ∀ t ∈ c.tests, t.Impartial

namespace Json

/-- A literal, or an object whose only source is a variable of the world or of the player's faction. -/
def ImpartialSource : Json → Prop
  | .object ms => ∀ name ∈ Source.membersOf ms, name = Scope.global.member ∨ name = Scope.party.member
  | _ => True

/-- A value that names no actor, or the two ends of a range that name none. -/
def Impartial : Json → Prop
  | .array [low, high] => low.ImpartialSource ∧ high.ImpartialSource
  | json => json.ImpartialSource

private theorem Impartial.source {json : Json} (h : json.Impartial) : json.ImpartialSource := by
  cases json with
  | array items => trivial
  | _ => exact h

end Json

private theorem Scope.member_mem_membersOf {ms : Json.Members} {scope : Scope} (h : ms.has scope.member = true) :
    scope.member ∈ Source.membersOf ms :=
  List.mem_filter.2 ⟨scope.member_mem_members, h⟩

private theorem Scope.impartial_of_member {scope : Scope} (h : scope.member = Scope.global.member ∨
    scope.member = Scope.party.member) : scope = .global ∨ scope = .party := by
  revert h
  cases scope <;> decide

section Values

variable {json : Json}

private theorem Reference.impartial_of_load {ms : Json.Members} {requireDefault : Bool} {ref : Reference}
    (h : load ms requireDefault = .ok ref) (hms : (Json.object ms).ImpartialSource) : ref.Impartial := by
  obtain ⟨_, hscope, -⟩ := load_eq_ok_iff.1 h
  exact Scope.impartial_of_member (hms _ (Scope.member_mem_membersOf (Scope.has_of_find? hscope)))

private theorem Json.ImpartialSource.not_computed {ms : Json.Members} (h : (Json.object ms).ImpartialSource)
    {name : String} {value : Json} (hname : name ∈ ["arithmetic", "effect"])
    (hmember : ms.get? name = some value) : False := by
  have hmem : name ∈ Source.membersOf ms :=
    List.mem_filter.2 ⟨List.mem_append_left _ hname, Json.Members.has_of_get? hmember⟩
  have hnever : ∀ n ∈ ["arithmetic", "effect"], ¬ (n = Scope.global.member ∨ n = Scope.party.member) := by
    decide
  exact hnever name hname (h name hmem)

private theorem Source.Written.impartial {k : Kind} {member : String} {v : Source k} (h : Written k member json v)
    (hjson : json.ImpartialSource) : v.Impartial := by
  cases h with
  | literal => trivial
  | arithmetic _ _ member_eq _ => exact (hjson.not_computed (by decide) member_eq).elim
  | effect _ _ member_eq _ => exact (hjson.not_computed (by decide) member_eq).elim
  | reference _ _ ref_eq => exact Reference.impartial_of_load ref_eq hjson

private theorem Ranged.Written.impartial {m : Measure} {member : String} {v : Ranged m} (h : Written m member json v)
    (hjson : json.Impartial) : v.Impartial := by
  cases h with
  | pair low_written high_written => exact ⟨low_written.impartial hjson.1, high_written.impartial hjson.2⟩
  | single _ inner => exact inner.impartial hjson.source

private theorem Json.ImpartialSource.not_actor {ms : Json.Members} (h : (Json.object ms).ImpartialSource) {slot : Slot}
    {json : Json} (hmember : ms.get? (Operand.scopeOf slot).member = some json) : False := by
  have hmem := Scope.member_mem_membersOf (Json.Members.has_of_get? hmember)
  have hscope := Scope.impartial_of_member (h _ hmem)
  cases slot <;> rcases hscope with hscope | hscope <;> cases hscope

private theorem Operand.Reading.impartial {ms : Json.Members} {o : Operand} (h : Reading ms o)
    (hms : (Json.object ms).ImpartialSource) : o.Impartial := by
  cases h with
  | constant | clock | weather | random => trivial
  | creature member_eq | coordinate member_eq => exact (hms.not_actor member_eq).elim
  | stored member_eq _ | elapsed member_eq _ => exact (hms.not_actor member_eq).elim

private theorem Operand.Written.impartial {member : String} {o : Operand} (h : Written member json o)
    (hjson : json.Impartial) : o.Impartial := by
  cases h with
  | reading reading_eq => exact (Operand.reading_of_loadReading reading_eq).impartial hjson
  | value _ inner => exact inner.impartial hjson

end Values

def Test.Value.Impartial : Test.Value → Prop
  | .text v => v.Impartial
  | .range v => v.Impartial
  | .operand o => o.Impartial

private theorem Test.impartial_of_values {t : Test} (h : ∀ v ∈ t.values, v.Impartial) : t.Impartial := by
  cases t with
  | fact | variableIs => trivial
  | text | level | compareVariable | compareElapsed | oneIn => exact h _ List.mem_cons_self
  | count | xInY | compareIntegers | compareTexts =>
    exact ⟨h _ List.mem_cons_self, h _ (List.mem_cons_of_mem _ List.mem_cons_self)⟩
  | anyTrait slot values => exact fun v hv => h (.text v) (List.mem_map_of_mem hv)

private theorem Test.Value.WrittenIn.impartial {contents : List Json} {v : Test.Value} (h : v.WrittenIn contents)
    (hcontents : ∀ json ∈ contents, json.Impartial) : v.Impartial := by
  cases h with
  | defaultText | defaultRange => trivial
  | text mem written => exact written.impartial (hcontents _ mem).source
  | range mem written => exact written.impartial (hcontents _ mem)
  | operand mem written => exact written.impartial (hcontents _ mem)

theorem Condition.Written.impartial {json : Json} {c : Condition} (h : Written json c)
    (hvalues : ∀ value ∈ json.argumentValues, value.Impartial) : c.Impartial := by
  intro t ht
  exact Test.impartial_of_values fun v hv => (h.values t ht v hv).impartial hvalues

end Parley
