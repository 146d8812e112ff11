import Parley.Condition.Eval
import Parley.Proofs.Condition.Written
import Parley.Proofs.Content.Granting

/-!
The occasion of a context. Nothing that is evaluated looks at it but two facts, which only two bare keys
ask for. Main statement: a copy of a context has the same actors in the same roles, and conditions whose
content uses neither key have the same answers in it.
-/

set_option autoImplicit false
set_option relaxedAutoImplicit false

namespace Parley

def Context.on (ctx : Context) (occasion : Occasion) : Context :=
  { ctx with occasion := occasion }

open Evaluation

variable (ctx : Context) (occasion : Occasion)

mutual

private theorem Effect.run_on (e : Effect) : e.run (ctx.on occasion) = e.run ctx := by
  match e with
  | .report value => rw [Effect.run, Effect.run, value.evaluate_on]; rfl
  | .assign target value => rw [Effect.run, Effect.run, value.evaluate_on]; rfl
  | .setText target value => rw [Effect.run, Effect.run, value.evaluate_on]; rfl
  | .sequence es => rw [Effect.run, Effect.run, Effect.runAll_on]

private theorem Effect.runAll_on (es : List Effect) :
    Effect.runAll (ctx.on occasion) es = Effect.runAll ctx es := by
  match es with
  | [] => rfl
  | e :: rest => rw [Effect.runAll, Effect.runAll, e.run_on, Effect.runAll_on rest]

private theorem Term.evaluate_on (t : Term) : t.evaluate (ctx.on occasion) = t.evaluate ctx := by
  match t with
  | .operand value => rw [Term.evaluate, Term.evaluate, value.evaluate_on]
  | .binary op l r => rw [Term.evaluate, Term.evaluate, l.evaluate_on, r.evaluate_on]

private theorem Operand.evaluate_on (o : Operand) : o.evaluate (ctx.on occasion) = o.evaluate ctx := by
  match o with
  | .value range => rw [Operand.evaluate, Operand.evaluate, range.evaluate_on]
  | .constant _ | .random _ | .clock _ | .weather _ | .creature _ _ | .coordinate _ _ |
    .variable _ | .elapsed _ => rfl

private theorem Source.evaluate_on {k : Kind} (value : Source k) :
    value.evaluate (ctx.on occasion) = value.evaluate ctx := by
  match value with
  | .literal _ | .variable _ _ => rfl
  | .computed e default => rw [Source.evaluate, Source.evaluate, e.run_on]

private theorem Ranged.evaluate_on {m : Measure} (range : Ranged m) :
    range.evaluate (ctx.on occasion) = range.evaluate ctx := by
  match range with
  | .single value => rw [Ranged.evaluate, Ranged.evaluate, value.evaluate_on]
  | .pair low high => rw [Ranged.evaluate, Ranged.evaluate, low.evaluate_on, high.evaluate_on]

end

def Fact.OfOccasion (q : Fact) : Prop :=
  q = .byRadio ∨ q = .hasReason

private theorem Evaluation.texts_on (values : List (Source .text)) :
    texts (ctx.on occasion) values = texts ctx values := by
  induction values with
  | nil => rfl
  | cons value rest ih => rw [texts, texts, value.evaluate_on, ih]

private theorem Test.evaluate_on (t : Test) (h : ∀ slot q, t = .fact slot q → ¬ q.OfOccasion) :
    t.evaluate (ctx.on occasion) = t.evaluate ctx := by
  cases t with
  | fact slot q =>
    have hq := h slot q rfl
    cases q with
    | byRadio => exact absurd (.inl rfl) hq
    | hasReason => exact absurd (.inr rfl) hq
    | _ => rfl
  | text slot q value =>
    rw [Test.evaluate, Test.evaluate, value.evaluate_on]
    cases q <;> rfl
  | level slot q value =>
    rw [Test.evaluate, Test.evaluate, value.evaluate_on]
    cases q <;> rfl
  | count slot q value amount =>
    rw [Test.evaluate, Test.evaluate, value.evaluate_on, amount.evaluate_on]
    cases q <;> rfl
  | anyTrait slot values =>
    rw [Test.evaluate, Test.evaluate, texts_on]
    rfl
  | variableIs ref expected => rfl
  | compareVariable ref c value =>
    rw [Test.evaluate, Test.evaluate, value.evaluate_on]
    rfl
  | compareElapsed ref c time =>
    rw [Test.evaluate, Test.evaluate, time.evaluate_on]
    rfl
  | oneIn n => rw [Test.evaluate, Test.evaluate, n.evaluate_on]
  | xInY a b => rw [Test.evaluate, Test.evaluate, a.evaluate_on, b.evaluate_on]
  | compareIntegers c l r => rw [Test.evaluate, Test.evaluate, l.evaluate_on, r.evaluate_on]
  | compareTexts l r => rw [Test.evaluate, Test.evaluate, l.evaluate_on, r.evaluate_on]

private theorem Test.not_ofOccasion_of_load {ms : Json.Members} {key : String} {slot : Slot}
    {arguments : Arguments} {t : Test} (h : load ms key slot arguments = .ok t) :
    ∀ slot' q, t = .fact slot' q → ¬ q.OfOccasion := by
  rintro slot' q rfl
  -- some forms of arguments make facts, each of its own kind; all others make no fact
  cases written_of_load h with
  | direction | aimRule | engagementRule | reserveRule | rechargeRule | season | missionGoal =>
    rintro (h | h) <;> cases h

namespace Json

mutual

/-- The keys that content uses where conditions stand, at any depth. -/
def conditionKeys : Json → List String
  | .null | .bool _ | .number _ => []
  | .string key => [key]
  | .array items => conditionKeysOfItems items
  | .object ms => conditionKeysOfMembers ms

def conditionKeysOfItems : List Json → List String
  | [] => []
  | item :: rest => conditionKeys item ++ conditionKeysOfItems rest

/-- The keys among the names of some members, and those that combined conditions use. -/
def conditionKeysOfMembers : List (String × Json) → List String
  | [] => []
  | (name, value) :: rest =>
    (if Catalog.isKey name then [name] else []) ++
      (if (Catalog.combinator? name).isSome then conditionKeys value else []) ++
      conditionKeysOfMembers rest

end

theorem conditionKeys_subset_of_member {ms : Members} {name : String} {value : Json}
    (hmember : (name, value) ∈ ms) (hcombinator : (Catalog.combinator? name).isSome = true) :
    ∀ key ∈ value.conditionKeys, key ∈ (Json.object ms).conditionKeys := by
  intro key hkey
  change key ∈ conditionKeysOfMembers ms
  induction ms with
  | nil => cases hmember
  | cons first rest ih =>
    obtain ⟨name', value'⟩ := first
    simp only [conditionKeysOfMembers, List.mem_append]
    rcases List.mem_cons.1 hmember with heq | hrest
    · cases heq
      rw [if_pos hcombinator]
      exact .inl (.inr hkey)
    · exact .inr (ih hrest)

private theorem mem_conditionKeys_of_name {ms : Members} {name : String} (hname : name ∈ ms.names)
    (hkey : Catalog.isKey name = true) : name ∈ (Json.object ms).conditionKeys := by
  change name ∈ conditionKeysOfMembers ms
  induction ms with
  | nil => cases hname
  | cons first rest ih =>
    obtain ⟨name', value'⟩ := first
    simp only [conditionKeysOfMembers, List.mem_append]
    rcases List.mem_cons.1 hname with heq | hrest
    · subst heq
      rw [if_pos hkey]
      exact .inl (.inl (List.mem_singleton.2 rfl))
    · exact .inr (ih hrest)

private theorem conditionKeys_subset_of_item {items : List Json} {item : Json} (hitem : item ∈ items) :
    ∀ key ∈ item.conditionKeys, key ∈ (Json.array items).conditionKeys := by
  intro key hkey
  change key ∈ conditionKeysOfItems items
  induction items with
  | nil => cases hitem
  | cons first rest ih =>
    rw [conditionKeysOfItems, List.mem_append]
    rcases List.mem_cons.1 hitem with rfl | hrest
    · exact .inl hkey
    · exact .inr (ih hrest)

/-- Content that uses neither of the keys that ask about the occasion. -/
def Regardless (json : Json) : Prop :=
  "is_by_radio" ∉ json.conditionKeys ∧ "has_reason" ∉ json.conditionKeys

private theorem Regardless.of_subset {json part : Json} (h : json.Regardless)
    (hsubset : ∀ key ∈ part.conditionKeys, key ∈ json.conditionKeys) : part.Regardless :=
  ⟨fun hkey => h.1 (hsubset _ hkey), fun hkey => h.2 (hsubset _ hkey)⟩

end Json

private theorem Catalog.eq_of_ofOccasion {key : String} {slot : Slot} {q : Fact}
    (h : fact? key = some (slot, q)) (hq : q.OfOccasion) :
    key = "is_by_radio" ∨ key = "has_reason" := by
  have hall : ∀ e ∈ simple, e.2.2 = .byRadio ∨ e.2.2 = .hasReason →
      e.1 = "is_by_radio" ∨ e.1 = "has_reason" := by decide
  exact hall _ (Entries.mem_of_find? h) hq

theorem Catalog.isKey_of_combinator? {key : String} (h : (combinator? key).isSome = true) :
    isKey key = true := by
  rw [isKey, takesArguments, h, Bool.or_true, Bool.or_true]

namespace Condition

private theorem evaluate_on_of_loadKey {json : Json} {key : String} {c : Condition}
    (hjson : json.Regardless) (hkey : key ∈ json.conditionKeys) (h : loadKey key = .ok c) :
    c.evaluate (ctx.on occasion) = c.evaluate ctx := by
  unfold loadKey at h
  split at h
  · cases h; rfl
  · cases h; rfl
  · split at h
    · rename_i slot q hfact
      cases h
      rw [evaluate, evaluate, Test.evaluate_on]
      rintro slot' q' heq hq
      cases heq
      rcases Catalog.eq_of_ofOccasion hfact hq with rfl | rfl
      · exact hjson.1 hkey
      · exact hjson.2 hkey
    · split at h <;> cases h

theorem mem_conditionKeys_of_keysOf {ms : Json.Members} {key : String} (h : keysOf ms = [key]) :
    key ∈ (Json.object ms).conditionKeys := by
  have hmem : key ∈ keysOf ms := h ▸ List.mem_singleton.2 rfl
  obtain ⟨hname, hkey⟩ := List.mem_filter.1 hmem
  exact Json.mem_conditionKeys_of_name hname hkey

private theorem regardless_of_combinator {ms : Json.Members} {key : String} {value : Json}
    {combinator : Combinator} (h : (Json.object ms).Regardless)
    (hcombinator : Catalog.combinator? key = some combinator) (hmember : ms.get? key = some value) :
    value.Regardless :=
  h.of_subset (Json.conditionKeys_subset_of_member (Entries.mem_of_find? hmember)
    (Option.isSome_of_eq_some hcombinator))

mutual

private theorem Written.evaluate_on {json : Json} {c : Condition} (h : Written json c)
    (hjson : json.Regardless) : c.evaluate (ctx.on occasion) = c.evaluate ctx := by
  match h with
  | .constant b => rfl
  | .key key_eq =>
    exact evaluate_on_of_loadKey ctx occasion hjson (List.mem_singleton.2 rfl) key_eq
  | .negate _ combinator_eq member_eq inner =>
    rw [evaluate, evaluate,
      inner.evaluate_on (regardless_of_combinator hjson combinator_eq member_eq)]
  | .all _ combinator_eq member_eq inner =>
    have hitems := regardless_of_combinator hjson combinator_eq member_eq
    rw [evaluate, evaluate]
    exact (inner.evaluate_on fun item hitem =>
      hitems.of_subset (Json.conditionKeys_subset_of_item hitem)).1
  | .any _ combinator_eq member_eq inner =>
    have hitems := regardless_of_combinator hjson combinator_eq member_eq
    rw [evaluate, evaluate]
    exact (inner.evaluate_on fun item hitem =>
      hitems.of_subset (Json.conditionKeys_subset_of_item hitem)).2
  | .test _ _ _ test_eq =>
    rw [evaluate, evaluate, Test.evaluate_on ctx occasion _ (Test.not_ofOccasion_of_load test_eq)]
  | .bare keys_eq _ _ key_eq =>
    exact evaluate_on_of_loadKey ctx occasion hjson (mem_conditionKeys_of_keysOf keys_eq) key_eq

private theorem WrittenAll.evaluate_on {items : List Json} {cs : List Condition} (h : WrittenAll items cs)
    (hitems : ∀ item ∈ items, item.Regardless) :
    evaluateAll (ctx.on occasion) cs = evaluateAll ctx cs ∧
      evaluateAny (ctx.on occasion) cs = evaluateAny ctx cs := by
  match h with
  | .nil => exact ⟨rfl, rfl⟩
  | .cons head tail =>
    obtain ⟨hitem, hrest⟩ := List.forall_mem_cons.1 hitems
    have hhead := head.evaluate_on hitem
    obtain ⟨hall, hany⟩ := tail.evaluate_on hrest
    exact ⟨by rw [evaluateAll, evaluateAll, hhead, hall], by rw [evaluateAny, evaluateAny, hhead, hany]⟩

end

/-- The answer of a condition that is compiled and evaluated in a context, or its defect. -/
def answer (ctx : Context) (json : Json) : Evaluation (Loaded Bool) :=
  match load json with
  | .error defect => return .error defect
  | .ok c => do
    return .ok (← c.evaluate ctx)

private theorem answer_eq_error_iff {json : Json} {defect : Defect} (s : State) :
    (answer ctx json s).1 = .error defect ↔ load json = .error defect := by
  unfold answer
  cases load json with
  | error other =>
    change (Except.error other : Loaded Bool) = .error defect ↔ _
    rw [Except.error.injEq, Except.error.injEq]
  | ok c =>
    constructor
    · intro h
      cases h
    · intro h
      cases h

end Condition

namespace Context

private theorem exists_copy_eq_on (shape : Shape) : ∃ occasion, ctx.copy shape = ctx.on occasion := by
  cases shape with
  | conversation => exact ⟨.conversation ctx.byRadio ctx.reason, rfl⟩
  | missionGoal => exact ⟨.missionGoal, rfl⟩

private theorem copy_conversation {byRadio : Bool} {reason : String}
    (h : ctx.occasion = .conversation byRadio reason) : ctx.copy .conversation = ctx := by
  obtain ⟨primary, secondary, _⟩ := ctx
  cases h
  rfl

/-- A copy of a context has the same actors in the same roles. In it the same content has the same defects,
and content that uses neither key about the occasion has the same answers, from all states and with all that
evaluation does to them. In the copy of a conversation as one all content has. A copy as a conversation is held over
the same medium and for the same reason, and one as a mission's goal over none and for no reason. -/
theorem copy_preserves_answers (ctx : Context) (shape : Shape) :
    (∀ slot, (ctx.copy shape).handle? slot = ctx.handle? slot) ∧
    (∀ json defect s, (Condition.answer (ctx.copy shape) json s).1 = .error defect ↔
      (Condition.answer ctx json s).1 = .error defect) ∧
    (∀ json, "is_by_radio" ∉ json.conditionKeys → "has_reason" ∉ json.conditionKeys →
      Condition.answer (ctx.copy shape) json = Condition.answer ctx json) ∧
    (∀ byRadio reason, ctx.occasion = .conversation byRadio reason → shape = .conversation →
      ∀ json, Condition.answer (ctx.copy shape) json = Condition.answer ctx json) ∧
    (shape = .conversation → (ctx.copy shape).occasion = .conversation ctx.byRadio ctx.reason) ∧
    (shape = .missionGoal → (ctx.copy shape).occasion = .missionGoal ∧
      (ctx.copy shape).byRadio = false ∧ (ctx.copy shape).reason = "") := by
  refine ⟨?_, ?_, ?_, ?_, ?_, ?_⟩
  · intro slot
    cases shape <;> cases slot <;> rfl
  · intro json defect s
    rw [Condition.answer_eq_error_iff, Condition.answer_eq_error_iff]
  · intro json hradio hreason
    obtain ⟨occasion, hcopy⟩ := ctx.exists_copy_eq_on shape
    unfold Condition.answer
    cases hload : Condition.load json with
    | error defect => rfl
    | ok c =>
      have hsame := (Condition.written_of_load hload).evaluate_on ctx occasion ⟨hradio, hreason⟩
      simp only [hcopy, hsame]
  · rintro byRadio reason hoccasion rfl json
    rw [ctx.copy_conversation hoccasion]
  · rintro rfl
    rfl
  · rintro rfl
    exact ⟨rfl, rfl, rfl⟩

/-- Whether it is night is the same question on every occasion; whether the radio is on is one for
conversations. -/
theorem copy_preserves_answers_by_night :
    let ctx : Context := ⟨none, none, .conversation true "news"⟩
    let night : Json := .object [("not", .string "is_day")]
    Condition.answer (ctx.copy .missionGoal) night = Condition.answer ctx night ∧
    Condition.answer (ctx.copy .conversation) (.string "is_by_radio") =
      Condition.answer ctx (.string "is_by_radio") ∧
    (ctx.copy .conversation).occasion = .conversation true "news" ∧ (ctx.copy .missionGoal).reason = "" := by
  intro ctx night
  obtain ⟨-, -, hsame, -, -, hgoal⟩ := copy_preserves_answers ctx .missionGoal
  obtain ⟨-, -, -, hall, hconversation, -⟩ := copy_preserves_answers ctx .conversation
  refine ⟨?_, ?_, ?_, ?_⟩
  · exact hsame night (by decide) (by decide)
  · exact hall true "news" rfl rfl _
  · exact hconversation rfl
  · exact (hgoal rfl).2.2

end Context

end Parley
