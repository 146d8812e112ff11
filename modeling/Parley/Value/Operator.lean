import Parley.Content.Defect
import Parley.Number.Narrow

/-!
Operators on integers: the arithmetic ones, whose results may be undefined, and the comparisons.
-/

set_option autoImplicit false
set_option relaxedAutoImplicit false

namespace Parley

inductive Operator
  | add
  | subtract
  | multiply
  | divide
  | modulo
  deriving DecidableEq, Repr

namespace Operator

/-- The sign of an operator. -/
def symbol : Operator → String
  | .add => "+"
  | .subtract => "-"
  | .multiply => "*"
  | .divide => "/"
  | .modulo => "%"

/-- The operator of a sign. -/
def parse : String → Loaded Operator
  | "+" => .ok .add
  | "-" => .ok .subtract
  | "*" => .ok .multiply
  | "/" => .ok .divide
  | "%" => .ok .modulo
  | other => .error (.unknownOperator other)

/-- The result of an operator on 32 bits, if it is defined and fits. Quotients are cut off toward
zero, and a remainder needs a quotient that fits. -/
def result? (op : Operator) (l r : Int32) : Option Int32 :=
  match op with
  | .add => Narrow.int32? (l.toInt + r.toInt)
  | .subtract => Narrow.int32? (l.toInt - r.toInt)
  | .multiply => Narrow.int32? (l.toInt * r.toInt)
  | .divide => if r = 0 then none else Narrow.int32? (l.toInt.tdiv r.toInt)
  | .modulo =>
    if r = 0 then none
    else (Narrow.int32? (l.toInt.tdiv r.toInt)).bind fun _ => Narrow.int32? (l.toInt.tmod r.toInt)

end Operator

inductive Comparison
  | equal
  | notEqual
  | less
  | greater
  | lessOrEqual
  | greaterOrEqual
  deriving DecidableEq, Repr

namespace Comparison

/-- The comparison of a sign. -/
def parse : String → Loaded Comparison
  | "==" => .ok .equal
  | "!=" => .ok .notEqual
  | "<" => .ok .less
  | ">" => .ok .greater
  | "<=" => .ok .lessOrEqual
  | ">=" => .ok .greaterOrEqual
  | other => .error (.unknownOperator other)

/-- Whether a comparison accepts an order. -/
def accepts : Comparison → Ordering → Bool
  | .equal, o => o == .eq
  | .notEqual, o => o != .eq
  | .less, o => o == .lt
  | .greater, o => o == .gt
  | .lessOrEqual, o => o != .gt
  | .greaterOrEqual, o => o != .lt

def holds {α : Type} [Ord α] (c : Comparison) (a b : α) : Bool :=
  c.accepts (compare a b)

end Comparison

end Parley
