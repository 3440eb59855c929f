import Reckoner.Expression.Evaluation
import Reckoner.Proofs.Outcome

/-!
The value of a tree in terms of the values of its parts. The walk down the left spine gives the same
as plain recursion would.
-/
namespace Reckoner

theorem Binary64.finite_eq_ok_iff {x y : Binary64} :
    x.finite = .ok y ↔ x = y ∧ x.isFinite = true := by
  unfold finite
  cases x.isFinite <;> simp

namespace Expr

variable {op : Operator} {right : Expr} {pending : List (Operator × Expr)}

theorem evaluatePending_nil (x : Binary64) : evaluatePending x [] = .ok x := by
  rw [evaluatePending]

theorem evaluatePending_cons (x : Binary64) :
    evaluatePending x ((op, right) :: pending) =
      right.evaluate.bind fun y => (op.apply x y).bind (evaluatePending · pending) := by
  rw [evaluatePending]
  rfl

theorem evaluateSpine_number (value : Binary64) :
    (number value).evaluateSpine pending = value.finite.bind (evaluatePending · pending) := by
  rw [evaluateSpine]
  rfl

theorem evaluateSpine_negate (operand : Expr) :
    (negate operand).evaluateSpine pending =
      operand.evaluate.bind fun x => evaluatePending x.neg pending := by
  rw [evaluateSpine]
  rfl

theorem evaluateSpine_binary (left : Expr) :
    (binary op left right).evaluateSpine pending =
      left.evaluateSpine ((op, right) :: pending) := by
  rw [evaluateSpine]

/-- What waits for the value of a tree does not change that value. -/
theorem evaluateSpine_eq_bind (e : Expr) (pending : List (Operator × Expr)) :
    e.evaluateSpine pending = e.evaluate.bind (evaluatePending · pending) := by
  induction e generalizing pending with
  | number value =>
    rw [evaluate, evaluateSpine_number, evaluateSpine_number, bind_bind]
    simp only [evaluatePending_nil, ok_bind]
  | negate operand ih =>
    rw [evaluate, evaluateSpine_negate, evaluateSpine_negate, bind_bind]
    simp only [evaluatePending_nil, ok_bind]
  | binary op left right ihl ihr =>
    rw [evaluate, evaluateSpine_binary, evaluateSpine_binary, ihl, ihl, bind_bind]
    simp only [evaluatePending_cons, bind_bind, evaluatePending_nil, ok_bind]

theorem evaluate_number (value : Binary64) : (number value).evaluate = value.finite := by
  rw [evaluate, evaluateSpine_number]
  simp only [evaluatePending_nil, bind_ok]

theorem evaluate_negate (operand : Expr) :
    (negate operand).evaluate = operand.evaluate.map Binary64.neg := by
  rw [evaluate, evaluateSpine_negate]
  simp only [evaluatePending_nil]
  rfl

/-- The left operand comes first, and its error before the one of the right operand. -/
theorem evaluate_binary (op : Operator) (left right : Expr) :
    (binary op left right).evaluate =
      left.evaluate.bind fun x => right.evaluate.bind (op.apply x) := by
  rw [evaluate, evaluateSpine_binary, evaluateSpine_eq_bind]
  simp only [evaluatePending_cons, evaluatePending_nil, bind_ok]

end Expr
end Reckoner
