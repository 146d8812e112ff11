import Parley.Condition.Syntax

/-!
What the evaluation of an expression may do to the state, read off its syntax.
-/

set_option autoImplicit false
set_option relaxedAutoImplicit false

namespace Parley

/-- What evaluation may do besides asking about the world and logging. -/
inductive Access
  | read (ref : Reference)
  | write (ref : Reference)
  | draw
  | compute

mutual

/-- The accesses of an effect and of the effects nested in it. A report writes no variable of its
own. -/
def Effect.accesses : Effect → List Access
  | .report value => value.accesses
  | .assign target value => .write target :: value.accesses
  | .setText target value => .write target :: value.accesses
  | .sequence effects => Effect.accessesAll effects

def Effect.accessesAll : List Effect → List Access
  | [] => []
  | effect :: rest => effect.accesses ++ Effect.accessesAll rest

def Term.accesses : Term → List Access
  | .operand value => value.accesses
  | .binary _ l r => l.accesses ++ r.accesses

def Operand.accesses : Operand → List Access
  | .random _ => [.draw]
  | .variable ref | .elapsed ref => [.read ref]
  | .value range => range.accesses
  | .constant _ | .clock _ | .weather _ | .creature .. | .coordinate .. => []

def Source.accesses {k : Kind} : Source k → List Access
  | .literal _ => []
  | .variable ref _ => [.read ref]
  | .computed effect _ => .compute :: effect.accesses

def Ranged.accesses {m : Measure} : Ranged m → List Access
  | .single value => value.accesses
  | .pair low high => low.accesses ++ high.accesses ++ [.draw]

end

def Test.accesses : Test → List Access
  | .fact .. => []
  | .text _ _ value => value.accesses
  | .level _ _ value => value.accesses
  | .count _ _ value amount => value.accesses ++ amount.accesses
  | .anyTrait _ values => values.flatMap Source.accesses
  | .variableIs ref _ => [.read ref]
  | .compareVariable ref _ value => .read ref :: value.accesses
  | .compareElapsed ref _ time => .read ref :: time.accesses
  | .oneIn n => n.accesses ++ [.draw]
  | .xInY x y => x.accesses ++ y.accesses ++ [.draw]
  | .compareIntegers _ l r => l.accesses ++ r.accesses
  | .compareTexts l r => l.accesses ++ r.accesses

mutual

def Condition.accesses : Condition → List Access
  | .constant _ => []
  | .all conditions | .any conditions => Condition.accessesAll conditions
  | .negate condition => condition.accesses
  | .test t => t.accesses

def Condition.accessesAll : List Condition → List Access
  | [] => []
  | condition :: rest => condition.accesses ++ Condition.accessesAll rest

end

end Parley
