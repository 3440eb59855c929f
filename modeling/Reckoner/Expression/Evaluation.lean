import Reckoner.Binary64.Arithmetic
import Reckoner.Expression.Rejection
import Reckoner.Expression.Tree

/-! Values of expression trees. Every number on the way has to be finite. -/
namespace Reckoner

def Binary64.finite (x : Binary64) : Except ArithmeticError Binary64 :=
  if x.isFinite then .ok x else .error .overflow

def Operator.apply (op : Operator) (x y : Binary64) : Except ArithmeticError Binary64 :=
  match op with
  | .plus => (x.add y).finite
  | .minus => (x.sub y).finite
  | .star => (x.mul y).finite
  | .slash => if y.isZero then .error .divisionByZero else (x.div y).finite

namespace Expr

/-- The number of steps that a walk over the tree takes at most. -/
def weight : Expr → Nat
  | number _ => 1
  | negate operand => operand.weight + 1
  | binary _ left right => left.weight + right.weight + 2

/-- The weight of right operands that wait for the value on their left. -/
def pendingWeight : List (Operator × Expr) → Nat
  | [] => 0
  | (_, right) :: rest => right.weight + 1 + pendingWeight rest

mutual

/-- Walks down the left spine of the tree without nesting, and leaves the right operands for the
way back. -/
def evaluateSpine (e : Expr) (pending : List (Operator × Expr)) :
    Except ArithmeticError Binary64 :=
  match e with
  | binary op left right => left.evaluateSpine ((op, right) :: pending)
  | number value => do
    let x ← value.finite
    evaluatePending x pending
  | negate operand => do
    let x ← operand.evaluateSpine []
    evaluatePending x.neg pending
termination_by e.weight + pendingWeight pending
decreasing_by all_goals simp only [weight, pendingWeight]; omega

/-- Applies the operators that wait to the value on their left, the innermost first. -/
def evaluatePending (x : Binary64) (pending : List (Operator × Expr)) :
    Except ArithmeticError Binary64 :=
  match pending with
  | [] => .ok x
  | (op, right) :: rest => do
    let y ← right.evaluateSpine []
    let z ← op.apply x y
    evaluatePending z rest
termination_by pendingWeight pending
decreasing_by all_goals simp only [pendingWeight]; omega

end

/-- The value of the tree, left operands before right ones. -/
def evaluate (e : Expr) : Except ArithmeticError Binary64 := e.evaluateSpine []

end Expr
end Reckoner
