import Parley.Proofs.Condition.Spelling
import Parley.Proofs.Condition.Tests
import Parley.Proofs.Evaluation.Formula

/-!
Mirrored content: the same conditions with the spellings of all their keys exchanged. Main statement: content
and its mirror image are compiled, if at all, to conditions that ask the same of exchanged roles.
-/

set_option autoImplicit false
set_option relaxedAutoImplicit false

namespace Parley

namespace Json

mutual

/-- Content in which every key that exists in two spellings is in the other one. What stands under such a key
stays as it is. -/
def mirrored : Json → Json
  | .null => .null
  | .bool b => .bool b
  | .number n => .number n
  | .string key => .string (Catalog.counterpart key)
  | .array items => .array (mirroredItems items)
  | .object ms => .ofMembers (mirroredMembers ms)

def mirroredItems : List Json → List Json
  | [] => []
  | item :: rest => item.mirrored :: mirroredItems rest

/-- Members with the other spellings of their names, and with what is combined mirrored. -/
def mirroredMembers : List (String × Json) → List (String × Json)
  | [] => []
  | (name, value) :: rest =>
    (Catalog.counterpart name,
      if (Catalog.combinator? name).isSome then value.mirrored else value) :: mirroredMembers rest

end

mutual

def Ordered : Json → Prop
  | .null | .bool _ | .number _ | .string _ => True
  | .array items => OrderedItems items
  | .object ms => Entries.Sorted ms ∧ OrderedMembers ms

def OrderedItems : List Json → Prop
  | [] => True
  | item :: rest => item.Ordered ∧ OrderedItems rest

def OrderedMembers : List (String × Json) → Prop
  | [] => True
  | (_, value) :: rest => value.Ordered ∧ OrderedMembers rest

end

private theorem ordered_of_member {ms : Members} {name : String} {value : Json} (h : OrderedMembers ms)
    (hmember : (name, value) ∈ ms) : value.Ordered := by
  induction ms with
  | nil => cases hmember
  | cons first rest ih =>
    rcases List.mem_cons.1 hmember with heq | hrest
    · cases heq
      exact h.1
    · exact ih h.2 hrest

def mirroredPart (name : String) (value : Json) : Json :=
  if (Catalog.combinator? name).isSome then value.mirrored else value

private theorem mirroredMembers_eq_map (ms : Members) :
    mirroredMembers ms = ms.map fun e => (Catalog.counterpart e.1, mirroredPart e.1 e.2) := by
  induction ms with
  | nil => rfl
  | cons first rest ih => rw [mirroredMembers, ih, List.map_cons, mirroredPart]

private theorem names_mirroredMembers (ms : Members) :
    (mirroredMembers ms).map Prod.fst = ms.names.map Catalog.counterpart := by
  rw [mirroredMembers_eq_map, Members.names, List.map_map, List.map_map]
  rfl

namespace Members

variable {ms : Members} (h : Entries.Sorted ms)
include h

private theorem nodup_mirrored : ((mirroredMembers ms).map Prod.fst).Nodup := by
  rw [names_mirroredMembers]
  exact List.pairwise_map.2 (h.nodup.imp fun hne heq => hne (Catalog.counterpart_injective heq))

private theorem get?_mirrored (name : String) :
    get? (Entries.ofList (mirroredMembers ms)) (Catalog.counterpart name) =
      (ms.get? name).map (mirroredPart name) := by
  have hperm := Entries.ofList_perm (nodup_mirrored h)
  have hdistinct := (hperm.map Prod.fst).nodup_iff.2 (nodup_mirrored h)
  rw [get?, Entries.find?_eq_of_perm hperm hdistinct, mirroredMembers_eq_map]
  exact Entries.find?_map Catalog.counterpart_injective mirroredPart name ms

private theorem get?_mirrored_of_not_combinator {name : String} (hname : Catalog.combinator? name = none) :
    get? (Entries.ofList (mirroredMembers ms)) (Catalog.counterpart name) = ms.get? name := by
  have hpart : mirroredPart name = id := by
    funext value
    rw [mirroredPart, hname]
    rfl
  rw [get?_mirrored h, hpart, Option.map_id, id]

private theorem keysOf_mirrored :
    (Condition.keysOf (Entries.ofList (mirroredMembers ms))).Perm
      ((Condition.keysOf ms).map Catalog.counterpart) := by
  have hnames := (Entries.ofList_perm (nodup_mirrored h)).map Prod.fst
  have hkeys : ((mirroredMembers ms).map Prod.fst).filter Catalog.isKey =
      (Condition.keysOf ms).map Catalog.counterpart := by
    have hsame : Catalog.isKey ∘ Catalog.counterpart = Catalog.isKey := funext Catalog.isKey_counterpart
    rw [names_mirroredMembers, List.filter_map, hsame, Condition.keysOf]
  rw [← hkeys]
  exact hnames.filter _

end Members

end Json

/-- The scope of the other actor. -/
def Scope.mirrored : Scope → Scope
  | .primary => .secondary
  | .secondary => .primary
  | .global => .global
  | .faction => .faction
  | .party => .party

/-- The variable of the same name of the other actor. -/
def Reference.mirrored (ref : Reference) : Reference :=
  { ref with scope := ref.scope.mirrored }

/-- The same test of the other actor, with the same values. -/
def Test.mirrored : Test → Test
  | .fact slot q => .fact slot.other q
  | .text slot q value => .text slot.other q value
  | .level slot q value => .level slot.other q value
  | .count slot q value amount => .count slot.other q value amount
  | .anyTrait slot values => .anyTrait slot.other values
  | .variableIs ref expected => .variableIs ref.mirrored expected
  | .compareVariable ref c value => .compareVariable ref.mirrored c value
  | .compareElapsed ref c time => .compareElapsed ref.mirrored c time
  | .oneIn n => .oneIn n
  | .xInY a b => .xInY a b
  | .compareIntegers c l r => .compareIntegers c l r
  | .compareTexts l r => .compareTexts l r

namespace Condition

mutual

def mirrored : Condition → Condition
  | .constant b => .constant b
  | .all conditions => .all (mirroredAll conditions)
  | .any conditions => .any (mirroredAll conditions)
  | .negate condition => .negate condition.mirrored
  | .test t => .test t.mirrored

def mirroredAll : List Condition → List Condition
  | [] => []
  | condition :: rest => condition.mirrored :: mirroredAll rest

end

end Condition

namespace Loaded

variable {α β γ δ : Type} {R : α → β → Prop} {S : γ → δ → Prop}

/-- Two outcomes of compiling: both failures, or related. -/
inductive Corresponds (R : α → β → Prop) : Loaded α → Loaded β → Prop
  | error (e e' : Defect) : Corresponds R (.error e) (.error e')
  | ok {a : α} {b : β} (h : R a b) : Corresponds R (.ok a) (.ok b)

namespace Corresponds

theorem of_eq {x y : Loaded α} (h : y = x) : Corresponds Eq x y := by
  subst h
  cases y with
  | error e => exact .error e e
  | ok a => exact .ok rfl

private theorem bind {x : Loaded α} {y : Loaded β} {f : α → Loaded γ} {g : β → Loaded δ} (h : Corresponds R x y)
    (hf : ∀ a b, R a b → Corresponds S (f a) (g b)) : Corresponds S (x >>= f) (y >>= g) := by
  cases h with
  | error e e' => exact .error e e'
  | ok h => exact hf _ _ h

private theorem step {x y : Loaded α} {f : α → Loaded γ} {g : α → Loaded δ} (h : Corresponds Eq x y)
    (hf : ∀ a, Corresponds S (f a) (g a)) : Corresponds S (x >>= f) (y >>= g) := by
  refine h.bind ?_
  rintro a _ rfl
  exact hf a

private theorem map {x : Loaded α} {y : Loaded β} {f : α → γ} {g : β → δ} (h : Corresponds R x y)
    (hf : ∀ a b, R a b → S (f a) (g b)) : Corresponds S (x.map f) (y.map g) := by
  cases h with
  | error e e' => exact .error e e'
  | ok h => exact .ok (hf _ _ h)

private theorem of_ok_imp {x y : Loaded α} (h : ∀ a, x = .ok a → y = .ok a) (h' : ∀ a, y = .ok a → x = .ok a) :
    Corresponds Eq x y := by
  cases x with
  | ok a =>
    rw [h a rfl]
    exact .ok rfl
  | error e =>
    cases y with
    | error e' => exact .error e e'
    | ok b => cases h' b rfl

theorem exists_ok_iff {x : Loaded α} {y : Loaded β} (h : Corresponds R x y) :
    (∃ a, x = .ok a) ↔ ∃ b, y = .ok b := by
  cases h with
  | error e e' => exact ⟨nofun, nofun⟩
  | ok h => exact ⟨fun _ => ⟨_, rfl⟩, fun _ => ⟨_, rfl⟩⟩

theorem related {x : Loaded α} {y : Loaded β} {a : α} {b : β} (h : Corresponds R x y) (hx : x = .ok a)
    (hy : y = .ok b) : R a b := by
  cases h with
  | error e e' => cases hx
  | ok h =>
    cases hx
    cases hy
    exact h

end Corresponds

end Loaded

open Loaded (Corresponds)

private theorem Source.load_corresponds (k : Kind) (json : Json) (member member' : String) :
    Corresponds Eq (Source.load k json member) (Source.load k json member') :=
  .of_ok_imp (fun _ h => Source.load_member h member') fun _ h => Source.load_member h member

private theorem Ranged.load_corresponds (m : Measure) (json : Json) (member member' : String) :
    Corresponds Eq (Ranged.load m json member) (Ranged.load m json member') :=
  .of_ok_imp (fun _ h => Ranged.load_member h member') fun _ h => Ranged.load_member h member

private theorem Operand.load_corresponds (json : Json) (member member' : String) :
    Corresponds Eq (Operand.load json member) (Operand.load json member') :=
  .of_ok_imp (fun _ h => Operand.load_member h member') fun _ h => Operand.load_member h member

private theorem Source.loadAll_cons (k : Kind) (member : String) (item : Json) (rest : List Json) :
    Source.loadAll k member (item :: rest) =
      Source.load k item member >>= fun value => (Source.loadAll k member rest).map (value :: ·) := by
  rw [loadAll]
  cases Source.load k item member <;> rfl

private theorem Source.loadAll_corresponds (k : Kind) (items : List Json) (member member' : String) :
    Corresponds Eq (Source.loadAll k member items) (Source.loadAll k member' items) := by
  induction items with
  | nil => exact .ok rfl
  | cons item rest ih =>
    rw [loadAll_cons, loadAll_cons]
    refine (Source.load_corresponds k item member member').step fun value => ?_
    exact ih.map fun _ _ hrest => by rw [hrest]

def Arguments.companions : List String :=
  ["amount", "bodypart", "charges", "context", "count", "default", "intensity", "item", "level", "op", "range",
    "skill", "time", "type", "value", "x", "y"]

private theorem Arguments.isKey_of_mem_companions {name : String} (h : name ∈ companions) :
    Catalog.isKey name = false := by
  have hall : ∀ name ∈ companions, Catalog.isKey name = false := by decide +kernel
  exact hall name h

/-- Members that hold the same under two keys, and the same arguments beside them. -/
structure Json.Members.Twins (ms ms' : Json.Members) (key key' : String) : Prop where
  own : ms'.get? key' = ms.get? key
  beside : ∀ name ∈ Arguments.companions, ms'.get? name = ms.get? name

namespace Json.Members.Twins

variable {ms ms' : Json.Members} {key key' : String} (h : Twins ms ms' key key')
include h

private theorem require : Corresponds Eq (ms.require key) (ms'.require key') := by
  unfold Json.Members.require
  rw [h.own]
  cases ms.get? key with
  | none => exact .error _ _
  | some value => exact .ok rfl

private theorem string : Corresponds Eq (ms.string key) (ms'.string key') := by
  refine h.require.step fun value => ?_
  cases value with
  | string text => exact .ok rfl
  | _ => exact .error _ _

private theorem arrayAt : Corresponds Eq (ms.arrayAt key) (ms'.arrayAt key') := by
  refine h.require.step fun value => ?_
  cases value with
  | array items => exact .ok rfl
  | _ => exact .error _ _

private theorem objectAt : Corresponds Eq (ms.objectAt key) (ms'.objectAt key') := by
  refine h.require.step fun value => ?_
  cases value with
  | object params => exact .ok rfl
  | _ => exact .error _ _

private theorem choice (α : Type) [Named α] : Corresponds Eq (ms.choice α key) (ms'.choice α key') := by
  refine h.require.step fun value => ?_
  unfold Json.asChoice
  cases Json.choose α value with
  | error fault => exact .error _ _
  | ok a => exact .ok rfl

private theorem source (k : Kind) (default : Option k.Value) :
    Corresponds Eq (Source.loadMember k ms key default) (Source.loadMember k ms' key' default) := by
  unfold Source.loadMember
  rw [h.own]
  cases ms.get? key with
  | some json => exact Source.load_corresponds k json key key'
  | none =>
    cases default with
    | none => exact .error _ _
    | some value => exact .ok rfl

private theorem ranged (m : Measure) (default : Option m.Value) :
    Corresponds Eq (Ranged.loadMember m ms key default) (Ranged.loadMember m ms' key' default) := by
  unfold Ranged.loadMember
  rw [h.own]
  cases ms.get? key with
  | some json => exact Ranged.load_corresponds m json key key'
  | none =>
    cases default with
    | none => exact .error _ _
    | some value => exact .ok rfl

-- what stands beside the keys is read in the same way
private theorem rangedBeside {name : String} (hname : name ∈ Arguments.companions) (m : Measure)
    (default : Option m.Value) :
    Ranged.loadMember m ms' name default = Ranged.loadMember m ms name default := by
  unfold Ranged.loadMember
  rw [h.beside name hname]

private theorem comparison : Test.loadComparison ms' = Test.loadComparison ms := by
  unfold Test.loadComparison Json.Members.string Json.Members.require
  rw [h.beside "op" (by decide)]

private theorem bodyPart : loadBodyPart ms' = loadBodyPart ms := by
  unfold loadBodyPart Json.Members.choice?
  rw [h.beside "bodypart" (by decide)]

private theorem needLevel : Test.loadNeedLevel ms' = Test.loadNeedLevel ms := by
  unfold Test.loadNeedLevel Json.Members.has Json.Members.choice Json.Members.require
  rw [h.beside "level" (by decide), h.rangedBeside (by decide)]

private theorem reference (slot : Slot) :
    Corresponds (fun ref ref' => ref' = ref.mirrored) (Test.loadReference ms key slot)
      (Test.loadReference ms' key' slot.other) := by
  have hbeside {name : String} (hname : name ∈ Arguments.companions) :
      ms'.stringOr name "" = ms.stringOr name "" := by
    rw [Json.Members.stringOr, Json.Members.stringOr, h.beside name hname]
  have hname : Corresponds Eq (Reference.loadName ms key) (Reference.loadName ms' key') := by
    unfold Reference.loadName
    rw [hbeside (by decide), hbeside (by decide)]
    exact h.string.step fun name => .of_eq rfl
  refine hname.step fun name => .ok ?_
  cases slot <;> rfl

private theorem twoValues : Corresponds Eq (Test.twoValues ms key) (Test.twoValues ms' key') := by
  refine h.arrayAt.step fun items => ?_
  match items with
  | [l, r] => exact .ok rfl
  | [] | [_] | _ :: _ :: _ :: _ => exact .error _ _

private theorem bool : ms'.bool "default" = ms.bool "default" := by
  unfold Json.Members.bool Json.Members.require
  rw [h.beside "default" (by decide)]

private theorem stringOr : ms'.stringOr "value" "" = ms.stringOr "value" "" := by
  unfold Json.Members.stringOr
  rw [h.beside "value" (by decide)]

end Json.Members.Twins

private theorem Test.loadItems_corresponds (key key' : String) (slot : Slot) (params : Json.Members) :
    Corresponds (fun t t' => t' = t.mirrored) (loadItems key slot params)
      (loadItems key' slot.other params) := by
  refine (Corresponds.of_eq rfl).step fun item => ?_
  by_cases hcount : params.has "count" = true
  · simp only [if_pos hcount]
    exact (Corresponds.of_eq rfl).step fun n => .ok rfl
  · simp only [if_neg hcount]
    by_cases hcharges : params.has "charges" = true
    · simp only [if_pos hcharges]
      exact (Corresponds.of_eq rfl).step fun n => .ok rfl
    · simp only [if_neg hcharges]
      exact .error _ _

/-- Under the other key, the same arguments make the same test of the other actor. -/
theorem Test.load_corresponds {ms ms' : Json.Members} {key key' : String} (h : ms.Twins ms' key key')
    (slot : Slot) (arguments : Arguments) :
    Corresponds (fun t t' => t' = t.mirrored) (load ms key slot arguments)
      (load ms' key' slot.other arguments) := by
  cases arguments with
  | anyTrait =>
    exact h.arrayAt.step fun items =>
      (Source.loadAll_corresponds .text items key key').step fun traits => .ok rfl
  | text q => exact (h.source .text none).step fun text => .ok rfl
  | prompt => exact (h.source .text none).step fun text => (Corresponds.of_eq h.bool).step fun b => .ok rfl
  | level q => exact (h.ranged .integer none).step fun n => .ok rfl
  | hitPoints =>
    exact (h.ranged .integer none).step fun n => (Corresponds.of_eq h.bodyPart).step fun part => .ok rfl
  | need => exact (h.choice Need).step fun need => (Corresponds.of_eq h.needLevel).step fun n => .ok rfl
  | items => exact h.objectAt.step fun params => loadItems_corresponds key key' slot params
  | category | nearLocation =>
    exact (h.source .text none).step fun text =>
      (Corresponds.of_eq (h.rangedBeside (by decide) _ _)).step fun n => .ok rfl
  | effect =>
    exact (h.source .text none).step fun text =>
      (Corresponds.of_eq (h.rangedBeside (by decide) _ _)).step fun n =>
        (Corresponds.of_eq h.bodyPart).step fun part => .ok rfl
  | skill =>
    exact h.objectAt.step fun params => (Corresponds.of_eq rfl).step fun text =>
      (Corresponds.of_eq rfl).step fun n => .ok rfl
  | direction => exact (h.choice Direction).step fun choice => .ok rfl
  | aimRule => exact (h.choice AimRule).step fun choice => .ok rfl
  | engagementRule => exact (h.choice EngagementRule).step fun choice => .ok rfl
  | reserveRule => exact (h.choice ReserveRule).step fun choice => .ok rfl
  | rechargeRule => exact (h.choice RechargeRule).step fun choice => .ok rfl
  | season => exact (h.choice Season).step fun choice => .ok rfl
  | missionGoal => exact (h.choice MissionGoal).step fun choice => .ok rfl
  | variableIs =>
    refine (h.reference slot).bind ?_
    rintro ref _ rfl
    exact (Corresponds.of_eq h.stringOr).step fun expected => .ok rfl
  | compareVariable | compareElapsed =>
    refine (h.reference slot).bind ?_
    rintro ref _ rfl
    exact (Corresponds.of_eq h.comparison).step fun c =>
      (Corresponds.of_eq (h.rangedBeside (by decide) _ _)).step fun value => .ok rfl
  | oneIn => exact (h.ranged .integer none).step fun n => .ok rfl
  | xInY =>
    exact h.objectAt.step fun params => (Corresponds.of_eq rfl).step fun a =>
      (Corresponds.of_eq rfl).step fun b => .ok rfl
  | compareIntegers =>
    exact h.twoValues.step fun values => (Operand.load_corresponds values.1 key key').step fun a =>
      (Operand.load_corresponds values.2 key key').step fun b =>
        (Corresponds.of_eq h.comparison).step fun c => .ok rfl
  | compareTexts =>
    exact h.twoValues.step fun values => (Source.load_corresponds .text values.1 key key').step fun a =>
      (Source.load_corresponds .text values.2 key key').step fun b => .ok rfl

private theorem Catalog.combinator?_of_not_isKey {name : String} (h : isKey name = false) :
    combinator? name = none := by
  rw [← Option.not_isSome_iff_eq_none]
  intro hcombinator
  rw [isKey_of_combinator? hcombinator] at h
  cases h

/-- Content whose keys combine conditions or exist in two spellings. -/
def Json.Doubled (json : Json) : Prop :=
  ∀ key ∈ json.conditionKeys, Catalog.isKey key = true →
    (Catalog.combinator? key).isSome = true ∨ (Catalog.twin? key).isSome = true

namespace Condition

variable {ms : Json.Members} {key : String}

private theorem exists_get?_of_keysOf (h : keysOf ms = [key]) : ∃ value, ms.get? key = some value := by
  have hmem : key ∈ keysOf ms := h ▸ List.mem_singleton.2 rfl
  refine Option.ne_none_iff_exists'.1 fun hnone => ?_
  exact Entries.find?_eq_none_iff.1 hnone (List.mem_filter.1 hmem).1

private theorem isKey_of_keysOf (h : keysOf ms = [key]) : Catalog.isKey key = true := by
  have hmem : key ∈ keysOf ms := h ▸ List.mem_singleton.2 rfl
  exact (List.mem_filter.1 hmem).2

private theorem load_of_not_one_key (h : (keysOf ms).length ≠ 1) : ∃ defect, load (.object ms) = .error defect := by
  have hcount : ms.names.countP Catalog.isKey = (keysOf ms).length := List.countP_eq_length_filter
  rw [← hcount] at h
  by_cases hnone : ms.names.countP Catalog.isKey = 0
  · exact ⟨_, load_of_no_key hnone⟩
  · exact ⟨_, load_of_two_keys (by omega)⟩

private theorem loadAll_cons (item : Json) (rest : List Json) :
    loadAll (item :: rest) = load item >>= fun c => (loadAll rest).map (c :: ·) := by
  rw [loadAll]
  cases load item <;> rfl

private theorem loadKey_corresponds (h : Catalog.isKey key = true →
      (Catalog.combinator? key).isSome = true ∨ (Catalog.twin? key).isSome = true) :
    Corresponds (fun c c' => c' = c.mirrored) (loadKey key) (loadKey (Catalog.counterpart key)) := by
  cases htwin : Catalog.twin? key with
  | none =>
    rw [Catalog.counterpart_of_not_twin? htwin]
    by_cases htrue : key = "true"
    · subst htrue
      exact .ok rfl
    by_cases hfalse : key = "false"
    · subst hfalse
      exact .ok rfl
    cases hkey : Catalog.isKey key with
    | false =>
      rw [loadKey_of_not_isKey htrue hfalse hkey]
      exact .error _ _
    | true =>
      have hcombinator : (Catalog.combinator? key).isSome = true := by
        refine (h hkey).resolve_right ?_
        rw [htwin]
        nofun
      rw [loadKey_of_takesArguments (Bool.or_eq_true_iff.2 (.inr hcombinator))]
      exact .error _ _
  | some other =>
    obtain ⟨slot, asked, hasked⟩ := Catalog.exists_asked_of_twin? htwin
    have hother := Catalog.asked?_of_twin? htwin hasked
    rw [Catalog.counterpart_of_twin? htwin]
    cases asked with
    | inl q =>
      obtain ⟨-, hkey, hkey'⟩ := Catalog.twin?_eq_some_iff.1 htwin
      rw [loadKey_of_isKey hkey, loadKey_of_isKey hkey', (Catalog.fact?_of_asked? hasked).2,
        (Catalog.fact?_of_asked? hother).2]
      exact .ok rfl
    | inr arguments =>
      rw [loadKey_of_takesArguments (Catalog.takesArguments_of_asked? hasked),
        loadKey_of_takesArguments (Catalog.takesArguments_of_asked? hother)]
      exact .error _ _

/-- An object with one key that exists in two spellings, and its mirror image. -/
theorem load_twin_corresponds {slot : Slot} {asked : Fact ⊕ Arguments} {other : String}
    (hsorted : Entries.Sorted ms) (keys_eq : keysOf ms = [key])
    (keys_eq' : keysOf (Entries.ofList (Json.mirroredMembers ms)) = [other])
    (htwin : Catalog.twin? key = some other) (hasked : Catalog.asked? key = some (slot, asked)) :
    Corresponds (fun c c' => c' = c.mirrored) (load (.object ms)) (load (Json.object ms).mirrored) := by
  have hother := Catalog.asked?_of_twin? htwin hasked
  have hcombinator := Catalog.combinator?_of_twin? htwin
  have hcombinator' := Catalog.combinator?_of_twin? (Catalog.twin?_symm htwin)
  rw [Json.mirrored, Json.ofMembers]
  cases asked with
  | inl q =>
    rw [load_of_simple_key keys_eq (Catalog.isSimple_of_asked? hasked),
      load_of_simple_key keys_eq' (Catalog.isSimple_of_asked? hother), load_string, load_string,
      ← Catalog.counterpart_of_twin? htwin]
    refine loadKey_corresponds fun _ => .inr ?_
    rw [htwin]
    rfl
  | inr arguments =>
    rw [load_of_arguments keys_eq hcombinator (Catalog.arguments?_of_asked? hasked),
      load_of_arguments keys_eq' hcombinator' (Catalog.arguments?_of_asked? hother)]
    have htwins : ms.Twins (Entries.ofList (Json.mirroredMembers ms)) key other := by
      refine ⟨?_, fun name hname => ?_⟩
      · rw [← Catalog.counterpart_of_twin? htwin]
        exact Json.Members.get?_mirrored_of_not_combinator hsorted hcombinator
      · have hkey := Arguments.isKey_of_mem_companions hname
        have hplain := Json.Members.get?_mirrored_of_not_combinator hsorted
          (Catalog.combinator?_of_not_isKey hkey)
        rwa [Catalog.counterpart_of_not_isKey hkey] at hplain
    exact (Test.load_corresponds htwins slot arguments).map fun t t' ht => by rw [ht, mirrored]

mutual

/-- Content and its mirror image are compiled to a condition and the same of exchanged roles, or neither is
compiled. -/
theorem load_corresponds (json : Json) (hordered : json.Ordered) (hdoubled : json.Doubled) :
    Corresponds (fun c c' => c' = c.mirrored) (load json) (load json.mirrored) := by
  match json with
  | .null | .number _ =>
    rw [load.eq_def, load.eq_def]
    exact .error _ _
  | .array items =>
    rw [load.eq_def, load.eq_def]
    exact .error _ _
  | .bool b =>
    rw [load.eq_def, load.eq_def]
    exact .ok rfl
  | .string key =>
    rw [Json.mirrored, load_string, load_string]
    exact loadKey_corresponds (hdoubled key (List.mem_singleton.2 rfl))
  | .object ms =>
    have hkeys := Json.Members.keysOf_mirrored hordered.1
    by_cases hone : (keysOf ms).length = 1
    · obtain ⟨key, keys_eq⟩ := List.length_eq_one_iff.1 hone
      rw [keys_eq, List.map_singleton, List.perm_singleton] at hkeys
      have hkey := isKey_of_keysOf keys_eq
      rcases hdoubled key (mem_conditionKeys_of_keysOf keys_eq) hkey with hcombinator | htwin
      · obtain ⟨combinator, combinator_eq⟩ := Option.isSome_iff_exists.1 hcombinator
        obtain ⟨value, member_eq⟩ := exists_get?_of_keysOf keys_eq
        rw [Catalog.counterpart_of_combinator? hcombinator] at hkeys
        have member_eq' := Json.Members.get?_mirrored hordered.1 key
        rw [Catalog.counterpart_of_combinator? hcombinator, member_eq, Option.map_some, Json.mirroredPart,
          if_pos hcombinator] at member_eq'
        rw [Json.mirrored, Json.ofMembers, load_combination keys_eq combinator_eq member_eq,
          load_combination hkeys combinator_eq member_eq']
        have hvalue := Json.ordered_of_member hordered.2 (Entries.mem_of_find? member_eq)
        have hdoubled' : value.Doubled := fun k hk =>
          hdoubled k (conditionKeys_subset_of_combinator combinator_eq member_eq k hk)
        have hlt := Json.Members.sizeOf_lt_of_get? member_eq
        cases combinator with
        | negate => exact (load_corresponds value hvalue hdoubled').map fun c c' hc => by rw [hc, mirrored]
        | all =>
          exact (loadItems_corresponds key value hvalue hdoubled').map fun cs cs' hcs => by
            rw [hcs, mirrored]
        | any =>
          exact (loadItems_corresponds key value hvalue hdoubled').map fun cs cs' hcs => by
            rw [hcs, mirrored]
      · obtain ⟨other, htwin⟩ := Option.isSome_iff_exists.1 htwin
        obtain ⟨slot, asked, hasked⟩ := Catalog.exists_asked_of_twin? htwin
        rw [Catalog.counterpart_of_twin? htwin] at hkeys
        exact load_twin_corresponds hordered.1 keys_eq hkeys htwin hasked
    · have hlength := hkeys.length_eq
      rw [List.length_map] at hlength
      obtain ⟨defect, hdefect⟩ := load_of_not_one_key hone
      obtain ⟨defect', hdefect'⟩ := load_of_not_one_key (hlength ▸ hone)
      rw [Json.mirrored, Json.ofMembers, hdefect, hdefect']
      exact .error _ _
  termination_by 2 * sizeOf json

private theorem loadItems_corresponds (key : String) (value : Json) (hordered : value.Ordered)
    (hdoubled : value.Doubled) :
    Corresponds (fun cs cs' => cs' = mirroredAll cs) (loadItems key value) (loadItems key value.mirrored) := by
  match value with
  | .array items =>
    rw [Json.mirrored, loadItems_array, loadItems_array]
    exact loadAll_corresponds items hordered hdoubled
  | .null | .bool _ | .number _ | .string _ | .object _ =>
    rw [loadItems.eq_def, loadItems.eq_def]
    exact .error _ _
  termination_by 2 * sizeOf value + 1

private theorem loadAll_corresponds (items : List Json) (hordered : Json.OrderedItems items)
    (hdoubled : (Json.array items).Doubled) :
    Corresponds (fun cs cs' => cs' = mirroredAll cs) (loadAll items) (loadAll (Json.mirroredItems items)) := by
  match items with
  | [] =>
    rw [Json.mirroredItems, loadAll]
    exact .ok rfl
  | item :: rest =>
    have hitem : item.Doubled := fun key hkey => hdoubled key (List.mem_append_left _ hkey)
    have hrest : (Json.array rest).Doubled := fun key hkey => hdoubled key (List.mem_append_right _ hkey)
    rw [Json.mirroredItems, loadAll_cons, loadAll_cons]
    refine (load_corresponds item hordered.1 hitem).bind fun c c' hc => ?_
    exact (loadAll_corresponds rest hordered.2 hrest).map fun cs cs' hcs => by rw [hc, hcs, mirroredAll]
  termination_by 2 * sizeOf items

end

end Condition

end Parley
