import Parley.Proofs.Evaluation.Influence

/-!
Properties that pervade evaluation: composition keeps them and every step has them. Main statement: the evaluation
of every value and the run of every effect has such a property, and of all questions about the world only those need
to have it that values ask.
-/

set_option autoImplicit false
set_option relaxedAutoImplicit false

namespace Parley

namespace Evaluation

/-- A property that composition keeps and that every step of values and effects has. -/
structure Stepwise (ctx : Context) (P : {α : Type} → Evaluation α → Prop) : Prop extends Composed P where
  report : ∀ d, P (report d)
  read : ∀ ref, P (read ctx ref)
  write : ∀ ref text, P (write ctx ref text)
  openFrame : P openFrame
  closeFrame : P closeFrame
  draw : ∀ a b, P (draw a b)
  turn : P (ask fun w => w.calendar.turn)
  clock : ∀ reading : ClockReading, P (ask fun w => reading.read w.calendar)
  gauge : ∀ gauge : WeatherGauge, P (ask fun w => w.environment.gauge gauge)
  creature : ∀ slot (reading : CreatureReading), P (ask fun w => reading.read (ctx.character? w slot))
  coordinate : ∀ slot (axis : Axis), P (ask fun w => (ctx.position? w slot).elim 0 fun s => axis.read s)

namespace Stepwise

variable {ctx : Context} {P : {α : Type} → Evaluation α → Prop}

private theorem settle (H : Stepwise ctx P) {α : Type} (outcome : α × Option Diagnostic) : P (settle outcome) := by
  unfold Evaluation.settle
  split
  · exact H.pure _
  · exact H.bind (H.report _) fun _ => H.pure _

theorem integer (H : Stepwise ctx P) (ref : Reference) : P (integer ctx ref) :=
  H.bind (H.read ref) fun _ => H.settle _

theorem elapsed (H : Stepwise ctx P) (ref : Reference) : P (elapsed ctx ref) :=
  H.bind (H.read ref) fun _ => H.bind H.turn fun _ => H.settle _

mutual

theorem effect (H : Stepwise ctx P) (e : Effect) : P (e.run ctx) := by
  match e with
  | .report value => exact H.bind (term H value) fun _ => H.write _ _
  | .assign target value => exact H.bind (term H value) fun _ => H.write _ _
  | .setText target value => exact H.bind (source H value) fun _ => H.write _ _
  | .sequence list => exact effects H list

private theorem effects (H : Stepwise ctx P) (es : List Effect) : P (Effect.runAll ctx es) := by
  match es with
  | [] => exact H.pure _
  | e :: rest => exact H.bind (effect H e) fun _ => effects H rest

private theorem term (H : Stepwise ctx P) (t : Term) : P (t.evaluate ctx) := by
  match t with
  | .operand value => exact operand H value
  | .binary op l r => exact H.bind (operand H l) fun _ => H.bind (operand H r) fun _ => H.settle _

theorem operand (H : Stepwise ctx P) (o : Operand) : P (o.evaluate ctx) := by
  match o with
  | .constant n => exact H.pure n
  | .random most => exact H.bind (H.draw _ _) fun _ => H.pure _
  | .clock reading => exact H.clock reading
  | .weather gauge => exact H.gauge gauge
  | .creature slot reading => exact H.creature slot reading
  | .coordinate slot axis => exact H.coordinate slot axis
  | .variable ref => exact H.integer ref
  | .elapsed ref => exact H.bind (H.elapsed ref) fun _ => H.pure _
  | .value range => exact ranged H range

theorem source (H : Stepwise ctx P) {k : Kind} (v : Source k) : P (v.evaluate ctx) := by
  match v with
  | .literal value => exact H.pure value
  | .variable ref default => exact H.bind (H.read ref) fun _ => H.settle _
  | .computed e default =>
    have hresult : P (do Evaluation.settle (k.resolve .computed (← Evaluation.closeFrame) default)) :=
      H.bind H.closeFrame fun _ => H.settle _
    exact H.bind H.openFrame fun _ => H.bind (effect H e) fun _ => hresult

theorem ranged (H : Stepwise ctx P) {m : Measure} (v : Ranged m) : P (v.evaluate ctx) := by
  match v with
  | .single value => exact source H value
  | .pair low high =>
    exact H.bind (source H low) fun _ => H.bind (source H high) fun _ => H.bind (H.draw _ _) fun _ => H.pure _

end

end Stepwise

/-- A property that composition keeps and that every step has, a question about the world if variables have no
influence on its answer. -/
structure Pervasive (ctx : Context) (P : {α : Type} → Evaluation α → Prop) : Prop extends Composed P where
  report : ∀ d, P (report d)
  read : ∀ ref, P (read ctx ref)
  write : ∀ ref text, P (write ctx ref text)
  openFrame : P openFrame
  closeFrame : P closeFrame
  draw : ∀ a b, P (draw a b)
  ask : ∀ {α : Type} {f : World → α}, (∀ {w w' : World}, w.Develops w' → f w' = f w) → P (ask f)

/-- Variables have no influence on what values ask about the world. -/
theorem Pervasive.stepwise {ctx : Context} {P : {α : Type} → Evaluation α → Prop} (H : Pervasive ctx P) :
    Stepwise ctx P where
  toComposed := H.toComposed
  report := H.report
  read := H.read
  write := H.write
  openFrame := H.openFrame
  closeFrame := H.closeFrame
  draw := H.draw
  turn := H.ask fun h => congrArg Calendar.turn h.calendar_eq
  clock reading := H.ask fun h => congrArg reading.read h.calendar_eq
  gauge gauge := H.ask fun h => congrArg (·.gauge gauge) h.environment_eq
  creature slot reading := by
    refine H.ask fun h => ?_
    rw [← reading.read_outline, h.character?_outline, reading.read_outline]
  coordinate slot axis := by
    refine H.ask fun h => ?_
    rw [h.position?_eq]

end Evaluation

end Parley
