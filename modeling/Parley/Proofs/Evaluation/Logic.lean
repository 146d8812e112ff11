import Parley.Proofs.Evaluation.Composition

/-!
A logic of evaluations: what the primitive steps keep and composition keeps holds of the evaluation of
every expression. Main statements: one rule for each kind of expression, whose accesses are all that a
proof has to look at.
-/

set_option autoImplicit false
set_option relaxedAutoImplicit false

namespace Parley.Evaluation

/-- A question whose answer does not depend on the global variables. -/
def Blind {α : Type} (f : World → α) : Prop :=
  ∀ (w : World) (globals : Variables), f { w with globals := globals } = f w

/-- A property of evaluations that give values and one of runs of effects, kept by every step that has
an allowed access, and by composition. -/
structure Logic (ctx : Context) (allowed : Access → Prop) where
  Value : {α : Type} → Evaluation α → Prop
  Run : Evaluation PUnit → Prop
  value_pure : ∀ {α : Type} (a : α), Value (pure a)
  value_bind : ∀ {α β : Type} {m : Evaluation α} {f : α → Evaluation β},
    Value m → (∀ a, Value (f a)) → Value (m >>= f)
  value_report : ∀ d, Value (report d)
  value_ask : ∀ {α : Type} {f : World → α}, Blind f → Value (ask f)
  value_read : ∀ {ref : Reference}, allowed (.read ref) → Value (read ctx ref)
  value_draw : allowed .draw → ∀ a b, Value (draw a b)
  value_chance : allowed .draw → ∀ f, Value (chance f)
  /-- What is run to compute a value has a frame of its own. -/
  value_framed : ∀ {α : Type} {m : Evaluation PUnit} {f : String → Evaluation α},
    allowed .compute → Run m → (∀ text, Value (f text)) → Value (do openFrame; m; f (← closeFrame))
  run_pure : Run (pure ⟨⟩)
  run_bind : ∀ {m n : Evaluation PUnit}, Run m → Run n → Run (m >>= fun _ => n)
  /-- A report writes the reserved variable. -/
  run_report : ∀ {α : Type} {m : Evaluation α} (f : α → String),
    Value m → Run (do write ctx .temp (f (← m)))
  run_write : ∀ {α : Type} {m : Evaluation α} {ref : Reference} (f : α → String),
    allowed (.write ref) → Value m → Run (do write ctx ref (f (← m)))

namespace Logic

variable {ctx : Context} {allowed : Access → Prop} (L : Logic ctx allowed)

private theorem settle {α : Type} (outcome : α × Option Diagnostic) : L.Value (Evaluation.settle outcome) := by
  unfold Evaluation.settle
  split
  · exact L.value_pure _
  · exact L.value_bind (L.value_report _) fun _ => L.value_pure _

private theorem integer {ref : Reference} (h : allowed (.read ref)) : L.Value (Evaluation.integer ctx ref) :=
  L.value_bind (L.value_read h) fun _ => L.settle _

private theorem elapsed {ref : Reference} (h : allowed (.read ref)) : L.Value (Evaluation.elapsed ctx ref) :=
  L.value_bind (L.value_read h) fun _ =>
    L.value_bind (L.value_ask fun _ _ => rfl) fun _ => L.settle _

mutual

theorem effect (L : Logic ctx allowed) (e : Effect) (h : ∀ x ∈ e.accesses, allowed x) :
    L.Run (e.run ctx) := by
  match e with
  | .report value =>
    rw [Effect.accesses] at h
    exact L.run_report _ (term L value h)
  | .assign target value =>
    rw [Effect.accesses, List.forall_mem_cons] at h
    exact L.run_write _ h.1 (term L value h.2)
  | .setText target value =>
    rw [Effect.accesses, List.forall_mem_cons] at h
    exact L.run_write id h.1 (source L value h.2)
  | .sequence list =>
    rw [Effect.accesses] at h
    exact effects L list h

private theorem effects (L : Logic ctx allowed) (es : List Effect)
    (h : ∀ x ∈ Effect.accessesAll es, allowed x) : L.Run (Effect.runAll ctx es) := by
  match es with
  | [] => exact L.run_pure
  | e :: rest =>
    rw [Effect.accessesAll, List.forall_mem_append] at h
    exact L.run_bind (effect L e h.1) (effects L rest h.2)

theorem term (L : Logic ctx allowed) (t : Term) (h : ∀ x ∈ t.accesses, allowed x) :
    L.Value (t.evaluate ctx) := by
  match t with
  | .operand value =>
    rw [Term.accesses] at h
    exact operand L value h
  | .binary op l r =>
    rw [Term.accesses, List.forall_mem_append] at h
    exact L.value_bind (operand L l h.1) fun _ => L.value_bind (operand L r h.2) fun _ =>
      L.settle _

theorem operand (L : Logic ctx allowed) (o : Operand) (h : ∀ x ∈ o.accesses, allowed x) :
    L.Value (o.evaluate ctx) := by
  match o with
  | .constant n => exact L.value_pure n
  | .random most =>
    rw [Operand.accesses, List.forall_mem_singleton] at h
    exact L.value_bind (L.value_draw h _ _) fun _ => L.value_pure _
  | .clock reading =>
    rw [Operand.evaluate]
    exact L.value_ask fun _ _ => rfl
  | .weather gauge =>
    rw [Operand.evaluate]
    exact L.value_ask fun _ _ => rfl
  | .creature slot reading =>
    rw [Operand.evaluate]
    exact L.value_ask fun _ _ => rfl
  | .coordinate slot axis =>
    rw [Operand.evaluate]
    exact L.value_ask fun _ _ => rfl
  | .variable ref =>
    rw [Operand.accesses, List.forall_mem_singleton] at h
    exact L.integer h
  | .elapsed ref =>
    rw [Operand.accesses, List.forall_mem_singleton] at h
    exact L.value_bind (L.elapsed h) fun _ => L.value_pure _
  | .value range =>
    rw [Operand.accesses] at h
    exact ranged L range h

theorem source (L : Logic ctx allowed) {k : Kind} (v : Source k)
    (h : ∀ x ∈ v.accesses, allowed x) : L.Value (v.evaluate ctx) := by
  match v with
  | .literal value => exact L.value_pure value
  | .variable ref default =>
    rw [Source.accesses, List.forall_mem_singleton] at h
    exact L.value_bind (L.value_read h) fun _ => L.settle _
  | .computed e default =>
    rw [Source.accesses, List.forall_mem_cons] at h
    exact L.value_framed h.1 (effect L e h.2) fun _ => L.settle _

theorem ranged (L : Logic ctx allowed) {m : Measure} (v : Ranged m)
    (h : ∀ x ∈ v.accesses, allowed x) : L.Value (v.evaluate ctx) := by
  match v with
  | .single value =>
    rw [Ranged.accesses] at h
    exact source L value h
  | .pair low high =>
    rw [Ranged.accesses, List.forall_mem_append, List.forall_mem_append,
      List.forall_mem_singleton] at h
    exact L.value_bind (source L low h.1.1) fun _ => L.value_bind (source L high h.1.2) fun _ =>
      L.value_bind (L.value_draw h.2 _ _) fun _ => L.value_pure _

end

private theorem holds {slot : Slot} {check : World → Check}
    (h : Blind fun w => (check w).holds ctx w slot) : L.Value (holds ctx slot check) :=
  L.value_ask h

private theorem composed : Composed L.Value :=
  ⟨L.value_pure, L.value_bind⟩

theorem texts (values : List (Source .text))
    (h : ∀ x ∈ values.flatMap Source.accesses, allowed x) : L.Value (texts ctx values) :=
  L.composed.texts fun v hv => L.source v fun x hx => h x (List.mem_flatMap_of_mem hv hx)

private theorem test (t : Test) (h : ∀ x ∈ t.accesses, allowed x) : L.Value (t.evaluate ctx) := by
  cases t with
  | fact slot q => exact L.holds (by intro w globals; cases q <;> rfl)
  | text slot q value =>
    rw [Test.accesses] at h
    exact L.value_bind (L.source value h) fun _ =>
      L.holds (by intro w globals; cases q <;> rfl)
  | level slot q value =>
    rw [Test.accesses] at h
    exact L.value_bind (L.ranged value h) fun _ =>
      L.holds (by intro w globals; cases q <;> rfl)
  | count slot q value amount =>
    rw [Test.accesses, List.forall_mem_append] at h
    exact L.value_bind (L.source value h.1) fun _ => L.value_bind (L.ranged amount h.2) fun _ =>
      L.holds (by intro w globals; cases q <;> rfl)
  | anyTrait slot values =>
    rw [Test.accesses] at h
    exact L.value_bind (L.texts values h) fun _ => L.holds fun _ _ => rfl
  | variableIs ref expected =>
    rw [Test.accesses, List.forall_mem_singleton] at h
    exact L.value_bind (L.value_read h) fun _ => L.value_pure _
  | compareVariable ref c value =>
    rw [Test.accesses, List.forall_mem_cons] at h
    exact L.value_bind (L.ranged value h.2) fun _ => L.value_bind (L.integer h.1) fun _ =>
      L.value_pure _
  | compareElapsed ref c time =>
    rw [Test.accesses, List.forall_mem_cons] at h
    exact L.value_bind (L.ranged time h.2) fun _ => L.value_bind (L.elapsed h.1) fun _ =>
      L.value_pure _
  | oneIn n =>
    rw [Test.accesses, List.forall_mem_append, List.forall_mem_singleton] at h
    exact L.value_bind (L.ranged n h.1) fun _ => L.value_chance h.2 _
  | xInY a b =>
    rw [Test.accesses, List.forall_mem_append, List.forall_mem_append,
      List.forall_mem_singleton] at h
    exact L.value_bind (L.ranged a h.1.1) fun _ => L.value_bind (L.ranged b h.1.2) fun _ =>
      L.value_chance h.2 _
  | compareIntegers c l r =>
    rw [Test.accesses, List.forall_mem_append] at h
    exact L.value_bind (L.operand l h.1) fun _ => L.value_bind (L.operand r h.2) fun _ =>
      L.value_pure _
  | compareTexts l r =>
    rw [Test.accesses, List.forall_mem_append] at h
    exact L.value_bind (L.source l h.1) fun _ => L.value_bind (L.source r h.2) fun _ =>
      L.value_pure _

theorem condition (c : Condition) (h : ∀ x ∈ c.accesses, allowed x) : L.Value (c.evaluate ctx) := by
  rw [Condition.accesses_eq_flatMap_tests] at h
  exact L.composed.condition c fun t ht => L.test t fun x hx => h x (List.mem_flatMap_of_mem ht hx)

end Logic

end Parley.Evaluation
