import Parley.Proofs.Evaluation.Isolation
import Parley.Proofs.Value.Arithmetic
import Parley.Proofs.Value.Conflict

/-!
Nested arithmetic. Each operator of a formula prints its result, stores it in a frame of its own and is
read back by the one around it. Main statements: a computed value that reports a term is the term, and a
formula is compiled to an operand that evaluates as the formula itself.
-/

set_option autoImplicit false
set_option relaxedAutoImplicit false

namespace Parley

open Evaluation

/-- An operand that content may use in a formula. -/
structure Leaf where
  json : Json
  member : String
  operand : Operand
  loads : Operand.load json member = .ok operand

/-- Operands under operators, nested to any depth. -/
inductive Formula
  | leaf (l : Leaf)
  | alone (inner : Formula)
  | binary (op : Operator) (l r : Formula)

def Formula.json : Formula → Json
  | .leaf l => l.json
  | .alone inner => .object [("arithmetic", .array [inner.json])]
  | .binary op l r => .object [("arithmetic", .array [l.json, .string op.symbol, r.json])]

namespace Operator

/-- The exact result of an operator. Quotients are cut off toward zero. -/
def exact : Operator → Int → Int → Int
  | .add, l, r => l + r
  | .subtract, l, r => l - r
  | .multiply, l, r => l * r
  | .divide, l, r => l.tdiv r
  | .modulo, l, r => l.tmod r

/-- The operator has no result on 32 bits: the divisor is zero, the exact result does not fit, or the
smallest number is divided by -1, the remainder included. -/
def Undefined (op : Operator) (l r : Int) : Prop :=
  (op = .divide ∨ op = .modulo) ∧ (r = 0 ∨ l = -0x80000000 ∧ r = -1) ∨
    ¬(-0x80000000 ≤ op.exact l r ∧ op.exact l r < 0x80000000)

instance (op : Operator) (l r : Int) : Decidable (op.Undefined l r) :=
  inferInstanceAs (Decidable (_ ∨ _))

example : Operator.divide.exact (-7) 2 = -3 ∧ Operator.modulo.exact (-7) 2 = -1 := by decide

example : Operator.modulo.Undefined (-0x80000000) (-1) := by decide

/-- The exact result of an operator if it is defined, otherwise 0 and one error. -/
def compute (op : Operator) (l r : Int32) : Evaluation Int32 :=
  if op.Undefined l.toInt r.toInt then do
    report (.undefined op l r)
    return 0
  else return Int32.ofInt (op.exact l.toInt r.toInt)

end Operator

/-- The value of a formula: the whole left side is evaluated before the right one. -/
def Formula.evaluate (ctx : Context) : Formula → Evaluation Int32
  | .leaf l => l.operand.evaluate ctx
  | .alone inner => inner.evaluate ctx
  | .binary op l r => do
    let a ← l.evaluate ctx
    let b ← r.evaluate ctx
    op.compute a b

namespace Operator

private theorem tdiv_fits {l r : Int} (hlo : -0x80000000 ≤ l) (hhi : l < 0x80000000)
    (h : ¬(l = -0x80000000 ∧ r = -1)) : -0x80000000 ≤ l.tdiv r ∧ l.tdiv r < 0x80000000 := by
  by_cases hone : r = 1
  · rw [hone, Int.tdiv_one]
    exact ⟨hlo, hhi⟩
  · by_cases hminus : r = -1
    · have hneg : l.tdiv (-1) = -l := by rw [Int.tdiv_neg, Int.tdiv_one]
      rw [hminus, hneg]
      omega
    · -- any other divisor at least halves the number
      have habs : (l.tdiv r).natAbs = l.natAbs / r.natAbs := Int.natAbs_tdiv l r
      by_cases hzero : r = 0
      · rw [hzero, Int.tdiv_zero]
        omega
      · have hhalf : l.natAbs / r.natAbs ≤ l.natAbs / 2 := Nat.div_le_div_left (by omega) (by decide)
        omega

private theorem tmod_fits {l r : Int} (hlo : -0x80000000 ≤ r) (hhi : r < 0x80000000) (h : r ≠ 0) :
    -0x80000000 ≤ l.tmod r ∧ l.tmod r < 0x80000000 := by
  have habs : (l.tmod r).natAbs = l.natAbs % r.natAbs := Int.natAbs_tmod l r
  have hlt : l.natAbs % r.natAbs < r.natAbs := Nat.mod_lt _ (Int.natAbs_pos.2 h)
  omega

private theorem not_undefined (op : Operator) {l r : Int} (hzero : r ≠ 0)
    (hmin : ¬(l = -0x80000000 ∧ r = -1))
    (hfits : -0x80000000 ≤ op.exact l r ∧ op.exact l r < 0x80000000) : ¬op.Undefined l r := by
  rintro (⟨-, h | h⟩ | h)
  · exact hzero h
  · exact hmin h
  · exact h hfits

private theorem int32?_eq (n : Int) : Narrow.int32? n =
    if ¬(-0x80000000 ≤ n ∧ n < 0x80000000) then none else some (Int32.ofInt n) := by
  rw [Narrow.int32?, ite_not]

/-- The result of an operator is the exact one, where that is defined. -/
theorem result?_eq (op : Operator) (l r : Int32) :
    op.result? l r = if op.Undefined l.toInt r.toInt then none
      else some (Int32.ofInt (op.exact l.toInt r.toInt)) := by
  have hzero : r = 0 ↔ r.toInt = 0 := Int32.toInt_inj.symm
  have hl := Int32.le_toInt l
  have hl' := Int32.toInt_lt l
  have hr := Int32.le_toInt r
  have hr' := Int32.toInt_lt r
  cases op with
  | add | subtract | multiply =>
    rw [result?, int32?_eq]
    simp only [Undefined, reduceCtorEq, false_or, or_self, false_and, exact]
  | divide =>
    rw [result?, int32?_eq]
    by_cases h : r.toInt = 0
    · rw [if_pos (hzero.2 h), if_pos (.inl ⟨.inl rfl, .inl h⟩)]
    · rw [if_neg fun h' => h (hzero.1 h')]
      by_cases hmin : l.toInt = -0x80000000 ∧ r.toInt = -1
      · rw [if_pos (show Undefined _ _ _ from .inl ⟨.inl rfl, .inr hmin⟩), hmin.1, hmin.2]
        rfl
      · have hfits := tdiv_fits hl hl' hmin
        rw [if_neg (Decidable.not_not.2 hfits), if_neg (not_undefined .divide h hmin hfits)]
        rfl
  | modulo =>
    rw [result?, int32?_eq, int32?_eq]
    by_cases h : r.toInt = 0
    · rw [if_pos (hzero.2 h), if_pos (.inl ⟨.inr rfl, .inl h⟩)]
    · rw [if_neg fun h' => h (hzero.1 h')]
      by_cases hmin : l.toInt = -0x80000000 ∧ r.toInt = -1
      · rw [if_pos (show Undefined _ _ _ from .inl ⟨.inr rfl, .inr hmin⟩), hmin.1, hmin.2]
        rfl
      · have hquotient := tdiv_fits hl hl' hmin
        have hfits := @tmod_fits l.toInt _ hr hr' h
        rw [if_neg (Decidable.not_not.2 hquotient), if_neg (Decidable.not_not.2 hfits),
          if_neg (not_undefined .modulo h hmin hfits)]
        rfl

private theorem settle_resolve (op : Operator) (l r : Int32) : settle (op.resolve l r) = op.compute l r := by
  rw [resolve, result?_eq, compute]
  by_cases h : op.Undefined l.toInt r.toInt
  · rw [if_pos h, if_pos h]
    rfl
  · rw [if_neg h, if_neg h]
    rfl

end Operator

/-- A computed integer that reports a term is the term: the text that it is printed to is not empty, is
read back as the same integer, and leaves no trace. -/
theorem Source.evaluate_report (ctx : Context) {t : Term} (h : ∀ x ∈ t.accesses, x.Authored)
    (default : Option Int32) :
    (Source.computed (k := .integer) (.report t) default).evaluate ctx = t.evaluate ctx := by
  funext s
  have hterm : t.evaluate ctx s.openFrame = ((t.evaluate ctx s).1, (t.evaluate ctx s).2.openFrame) :=
    ((isolation ctx).term t h).eq_openFrame s
  have hrun : (Effect.run ctx (.report t) s.openFrame).2 =
      (t.evaluate ctx s).2.openFrame.write ctx .temp (Numeral.text (t.evaluate ctx s).1.toInt) := by
    change (t.evaluate ctx s.openFrame).2.write ctx .temp _ = _
    rw [hterm]
  have hclose : (Effect.run ctx (.report t) s.openFrame).2.closeFrame =
      (Numeral.text (t.evaluate ctx s).1.toInt, (t.evaluate ctx s).2) := by
    rw [hrun, State.write_temp_of_cons _ rfl]
    rfl
  have hresolve : Kind.resolve .integer .computed (Numeral.text (t.evaluate ctx s).1.toInt) default =
      ((t.evaluate ctx s).1, none) := by
    have hread : Kind.read .integer (Numeral.text (t.evaluate ctx s).1.toInt) =
        .ok (t.evaluate ctx s).1 := Kind.readInteger_text _
    rw [Kind.resolve.eq_def, if_neg (Numeral.text_ne_empty _), hread]
  change settle (Kind.resolve .integer .computed
    (Effect.run ctx (.report t) s.openFrame).2.closeFrame.1 default)
    (Effect.run ctx (.report t) s.openFrame).2.closeFrame.2 = _
  rw [hclose, hresolve]
  rfl

theorem Source.load_member {k : Kind} {json : Json} {member : String} {value : Source k}
    (h : Source.load k json member = .ok value) (member' : String) :
    Source.load k json member' = .ok value := by
  cases json with
  | object ms => exact load_object_eq_ok_iff.2 (load_object_eq_ok_iff.1 h)
  | null | bool _ | number _ | string _ | array _ =>
    exact (load_literal_eq_ok_iff (by simp)).2 ((load_literal_eq_ok_iff (by simp)).1 h)

theorem Ranged.load_member {m : Measure} {json : Json} {member : String} {range : Ranged m}
    (h : Ranged.load m json member = .ok range) (member' : String) :
    Ranged.load m json member' = .ok range := by
  rcases load_eq_ok_iff.1 h with ⟨value, hvalue, rfl⟩ | ⟨low, high, a, b, rfl, hlow, hhigh, rfl⟩
  · exact load_eq_ok_iff.2 (.inl ⟨value, Source.load_member hvalue member', rfl⟩)
  · have hlow' := Source.load_member hlow member'
    have hhigh' := Source.load_member hhigh member'
    exact load_eq_ok_iff.2 (.inr ⟨low, high, a, b, rfl, hlow', hhigh', rfl⟩)

theorem Operand.load_member {json : Json} {member : String} {operand : Operand}
    (h : Operand.load json member = .ok operand) (member' : String) :
    Operand.load json member' = .ok operand := by
  rcases load_eq_ok_iff.1 h with hreading | ⟨hreading, range, hrange, rfl⟩
  · exact load_eq_ok_iff.2 (.inl hreading)
  · exact load_eq_ok_iff.2 (.inr ⟨hreading, range, Ranged.load_member hrange member', rfl⟩)

private theorem Operand.load_arithmetic {items : List Json} {e : Effect} (h : Effect.arithmetic items = .ok e)
    (member : String) :
    Operand.load (.object [("arithmetic", .array items)]) member =
      .ok (.value (.single (.computed e none))) := by
  have hsource : Source.load .integer (.object [("arithmetic", .array items)]) member =
      .ok (.computed e none) :=
    Source.load_object_eq_ok_iff.2 ⟨"arithmetic", none, rfl, rfl, .arithmetic rfl h⟩
  have hranged : Ranged.load .integer (.object [("arithmetic", .array items)]) member =
      .ok (.single (.computed e none)) :=
    Ranged.load_eq_ok_iff.2 (.inl ⟨_, hsource, rfl⟩)
  exact load_eq_ok_iff.2 (.inr ⟨by rintro ms ⟨⟩; rfl, _, hranged, rfl⟩)

private theorem Effect.arithmetic_binary (op : Operator) {a b : Json} {l r : Operand}
    (ha : Operand.load a "arithmetic" = .ok l) (hb : Operand.load b "arithmetic" = .ok r) :
    Effect.arithmetic [a, .string op.symbol, b] = .ok (.report (.binary op l r)) := by
  have hsign : (op.symbol, op) ∈ signs := by cases op <;> decide
  exact arithmetic_of_shape (.binary ha hsign hb)

/-- Every formula is accepted, and what it is compiled to evaluates as the formula. -/
theorem Formula.compiled_evaluates (f : Formula) (member : String) :
    ∃ operand, Operand.load f.json member = .ok operand ∧
      ∀ ctx, operand.evaluate ctx = f.evaluate ctx := by
  induction f generalizing member with
  | leaf l => exact ⟨l.operand, Operand.load_member l.loads member, fun _ => rfl⟩
  | alone inner ih =>
    obtain ⟨v, hv, heval⟩ := ih "arithmetic"
    refine ⟨_, Operand.load_arithmetic (Effect.arithmetic_of_shape (.alone hv)) member, fun ctx => ?_⟩
    have haccesses : ∀ x ∈ (Term.operand v).accesses, x.Authored := by
      rw [Term.accesses]
      exact Operand.authored_of_load hv
    calc (Operand.value (.single (.computed (.report (.operand v)) none))).evaluate ctx
        = (Source.computed (k := .integer) (.report (.operand v)) none).evaluate ctx := rfl
      _ = (Term.operand v).evaluate ctx := Source.evaluate_report ctx haccesses none
      _ = inner.evaluate ctx := heval ctx
  | binary op l r ihl ihr =>
    obtain ⟨a, ha, hevall⟩ := ihl "arithmetic"
    obtain ⟨b, hb, hevalr⟩ := ihr "arithmetic"
    refine ⟨_, Operand.load_arithmetic (Effect.arithmetic_binary op ha hb) member, fun ctx => ?_⟩
    have haccesses : ∀ x ∈ (Term.binary op a b).accesses, x.Authored := by
      rw [Term.accesses, List.forall_mem_append]
      exact ⟨Operand.authored_of_load ha, Operand.authored_of_load hb⟩
    calc (Operand.value (.single (.computed (.report (.binary op a b)) none))).evaluate ctx
        = (Source.computed (k := .integer) (.report (.binary op a b)) none).evaluate ctx := rfl
      _ = (Term.binary op a b).evaluate ctx := Source.evaluate_report ctx haccesses none
      _ = (do let m ← a.evaluate ctx; let n ← b.evaluate ctx; settle (op.resolve m n)) := rfl
      _ = (do let m ← l.evaluate ctx; let n ← r.evaluate ctx; op.compute m n) := by
        simp only [hevall, hevalr, Operator.settle_resolve]

def Leaf.constant (n : Int32) : Leaf where
  json := .object [("const", .int n.toInt)]
  member := "const"
  operand := .constant n
  loads := by
    have hwide : (Json.int n.toInt).int? = some n.toInt64 :=
      Narrow.int64?_eq_some_iff.2 (Int32.toInt_toInt64 n)
    have hliteral : Kind.IsLiteral .integer (Json.int n.toInt) n := ⟨_, hwide, Int32.toInt_toInt64 n⟩
    exact Operand.load_eq_ok_iff.2 (.inl ⟨_, rfl, Operand.loadReading_of_first (.constant rfl hliteral)⟩)

/-- Minus seven by two is minus three, which has no remainder by zero. -/
theorem Formula.compiled_evaluates_without_remainder :
    let number (n : Int) : Json := .object [("const", .int n)]
    let quotient : Json := .object [("arithmetic", .array [number (-7), .string "/", number 2])]
    let remainder : Json := .object [("arithmetic", .array [quotient, .string "%", number 0])]
    ∃ operand, Operand.load remainder "value" = .ok operand ∧
      ∀ ctx s, operand.evaluate ctx s = (0, s.report (.undefined .modulo (-3) 0)) := by
  intro number quotient remainder
  let f : Formula := .binary .modulo
    (.binary .divide (.leaf (.constant (-7))) (.leaf (.constant 2))) (.leaf (.constant 0))
  obtain ⟨operand, hload, hevaluate⟩ := Formula.compiled_evaluates f "value"
  refine ⟨operand, hload, fun ctx s => ?_⟩
  have hleaf (n : Int32) (t : State) : (Formula.leaf (.constant n)).evaluate ctx t = (n, t) := rfl
  have hbinary (op : Operator) (l r : Formula) (t : State) : (Formula.binary op l r).evaluate ctx t =
      op.compute (l.evaluate ctx t).1 (r.evaluate ctx (l.evaluate ctx t).2).1
        (r.evaluate ctx (l.evaluate ctx t).2).2 := rfl
  have hquotient : Operator.divide.compute (-7) 2 s = (-3, s) := rfl
  have hremainder : Operator.modulo.compute (-3) 0 s = (0, s.report (.undefined .modulo (-3) 0)) := rfl
  rw [hevaluate]
  simp only [f, hleaf, hbinary, hquotient, hremainder]

end Parley
