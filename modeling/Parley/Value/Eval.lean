import Parley.Talk.State
import Parley.Value.Syntax

/-!
Evaluation of values and effects. It always gives a value: where a text is missing or unreadable, the
zero of the kind stands in and a diagnostic is logged.
-/

set_option autoImplicit false
set_option relaxedAutoImplicit false

namespace Parley

/-- The value that a text stands for, and what there is to report about it: the default where the text
is empty, else what it reads as. -/
def Kind.resolve (k : Kind) (origin : Origin) (text : String) (default : Option k.Value) :
    k.Value × Option Diagnostic :=
  if text = "" then
    match default with
    | some value => (value, none)
    | none => (k.zero, some (.noValue k origin))
  else
    match k.read text with
    | .ok value => (value, none)
    | .error fault => (k.zero, some (.badValue k origin fault))

/-- What a stored integer and its default stand for. An empty default is 0. -/
def Reference.resolveInteger (ref : Reference) (text : String) : Int32 × Option Diagnostic :=
  if text = "" then
    match ref.default with
    | none => (0, none)
    | some default => Kind.resolve .integer (.default ref.name) default (some 0)
  else Kind.resolve .integer (.variable ref.name) text none

/-- The turns that have passed since a stored turn, and what there is to report about it; none if no
turn is stored. -/
def Reference.elapsed (ref : Reference) (now : Int64) (text : String) :
    Option Int64 × Option Diagnostic :=
  if text = "" then (none, none)
  else
    match Numeral.int64 (Text.trimChars text.toList) with
    | .error fault => (none, some (.badTurn text ref.name fault))
    | .ok turn =>
      match Narrow.int64? (now.toInt - turn.toInt) with
      | none => (none, some (.turnOutOfRange text ref.name))
      | some elapsed => (some elapsed, none)

/-- The result of an operator, 0 where it is undefined, and what there is to report about it. -/
def Operator.resolve (op : Operator) (l r : Int32) : Int32 × Option Diagnostic :=
  match op.result? l r with
  | some n => (n, none)
  | none => (0, some (.undefined op l r))

def Measure.ofDraw : (m : Measure) → Int64 → m.Value
  | .integer, n => Narrow.clamp32 n.toInt
  | .duration, n => ⟨n⟩

def Measure.toBound : (m : Measure) → m.Value → Int64
  | .integer, n => n.toInt64
  | .duration, d => d.turns

namespace Evaluation

/-- A value, with its diagnostic added to the log if there is one. -/
def settle {α : Type} (outcome : α × Option Diagnostic) : Evaluation α := do
  match outcome.2 with
  | none => return outcome.1
  | some d =>
    report d
    return outcome.1

def integer (ctx : Context) (ref : Reference) : Evaluation Int32 := do
  settle (ref.resolveInteger (← read ctx ref))

def elapsed (ctx : Context) (ref : Reference) : Evaluation (Option Int64) := do
  let text ← read ctx ref
  settle (ref.elapsed (← ask (·.calendar.turn)) text)

end Evaluation

open Evaluation

mutual

def Effect.run (ctx : Context) : Effect → Evaluation PUnit
  | .report value => do
    let n ← value.evaluate ctx
    write ctx .temp (Numeral.text n.toInt)
  | .assign target value => do
    let n ← value.evaluate ctx
    write ctx target (Numeral.text n.toInt)
  | .setText target value => do
    let text ← value.evaluate ctx
    write ctx target text
  | .sequence effects => Effect.runAll ctx effects

def Effect.runAll (ctx : Context) : List Effect → Evaluation PUnit
  | [] => return
  | effect :: rest => do
    effect.run ctx
    Effect.runAll ctx rest

/-- The value of an operand or of an operator between two, the left one first. -/
def Term.evaluate (ctx : Context) : Term → Evaluation Int32
  | .operand value => value.evaluate ctx
  | .binary op l r => do
    let a ← l.evaluate ctx
    let b ← r.evaluate ctx
    settle (op.resolve a b)

def Operand.evaluate (ctx : Context) : Operand → Evaluation Int32
  | .constant n => return n
  | .random most => do
    return Narrow.clamp32 (← draw 0 most).toInt
  | .clock reading => ask fun w => reading.read w.calendar
  | .weather gauge => ask fun w => w.environment.gauge gauge
  | .creature slot reading => ask fun w => reading.read (ctx.character? w slot)
  | .coordinate slot axis => ask fun w => (ctx.position? w slot).elim 0 fun s => axis.read s
  | .variable ref => integer ctx ref
  | .elapsed ref => do
    return (← elapsed ctx ref).elim (-1) fun n => Narrow.clamp32 n.toInt
  | .value range => range.evaluate ctx

/-- The value of a source. A computed one is run inside a frame of its own. -/
def Source.evaluate (ctx : Context) {k : Kind} : Source k → Evaluation k.Value
  | .literal value => return value
  | .variable ref default => do
    settle (k.resolve (.variable ref.name) (← read ctx ref) default)
  | .computed effect default => do
    openFrame
    effect.run ctx
    settle (k.resolve .computed (← closeFrame) default)

/-- The value of a measure. Both ends of a range are evaluated anew, the lower one first. -/
def Ranged.evaluate (ctx : Context) {m : Measure} : Ranged m → Evaluation m.Value
  | .single value => value.evaluate ctx
  | .pair low high => do
    let a ← low.evaluate ctx
    let b ← high.evaluate ctx
    return m.ofDraw (← draw (m.toBound a) (m.toBound b))

end

/-- The text that an effect reports when it is run inside a frame of its own. -/
def Effect.result (ctx : Context) (effect : Effect) : Evaluation String := do
  openFrame
  effect.run ctx
  closeFrame

end Parley
