import Reckoner.Proofs.Expression.Evaluation

/-!
The value of a tree by recursion over it, and where there is none. The walk down the left spine
gives the same value. Where several trees fail in a tree, the error is that of the first of them in
postorder.
-/
namespace Reckoner

namespace Operator

/-- The nearest number to the exact result, which may be an infinity. -/
def rounded (op : Operator) (x y : Binary64) : Binary64 :=
  match op with
  | plus => x.add y
  | minus => x.sub y
  | star => x.mul y
  | slash => x.div y

/-- A divisor must not be a zero of either sign, and a result has to be finite. -/
def outcome (op : Operator) (x y : Binary64) : Except ArithmeticError Binary64 :=
  if op = slash ∧ y.isZero = true then .error .divisionByZero
  else if (op.rounded x y).isFinite = true then .ok (op.rounded x y)
  else .error .overflow

theorem apply_eq_outcome (op : Operator) (x y : Binary64) : op.apply x y = op.outcome x y := by
  cases op with
  | plus | minus | star => rfl
  | slash =>
    unfold apply outcome
    by_cases hzero : y.isZero = true
    · rw [if_pos hzero, if_pos ⟨rfl, hzero⟩]
    · rw [if_neg hzero, if_neg fun h => hzero h.2]
      rfl

end Operator

namespace Expr

/-- The value by recursion, the left operand before the right one. -/
def value : Expr → Except ArithmeticError Binary64
  | number x => if x.isFinite then .ok x else .error .overflow
  | negate operand => do
    let x ← operand.value
    return x.neg
  | binary op left right => do
    let x ← left.value
    let y ← right.value
    op.outcome x y

/-- The trees in the tree, operands before the operation on them and left ones before right ones. -/
def postorder : Expr → List Expr
  | number x => [number x]
  | negate operand => operand.postorder ++ [negate operand]
  | binary op left right => left.postorder ++ (right.postorder ++ [binary op left right])

/-- The error of a tree whose operands have values. -/
def fault? : Expr → Option ArithmeticError
  | number x => if x.isFinite then none else some .overflow
  | negate _ => none
  | binary op left right =>
    match left.value, right.value with
    | .ok x, .ok y =>
      match op.outcome x y with
      | .ok _ => none
      | .error error => some error
    | _, _ => none

theorem evaluate_eq_value (e : Expr) : e.evaluate = e.value := by
  induction e with
  | number x => exact evaluate_number x
  | negate operand ih =>
    rw [evaluate_negate, ih]
    rfl
  | binary op left right ihl ihr =>
    rw [evaluate_binary, ihl, ihr]
    simp only [funext (op.apply_eq_outcome _)]
    rfl

/-- The first fault in postorder is the error of the tree. -/
theorem findSome?_fault? (e : Expr) :
    e.postorder.findSome? fault? =
      match e.value with
      | .ok _ => none
      | .error error => some error := by
  induction e with
  | number x =>
    simp only [postorder, List.findSome?_singleton, fault?, value]
    cases x.isFinite <;> rfl
  | negate operand ih =>
    rw [postorder, List.findSome?_append, ih, value]
    cases operand.value <;> rfl
  | binary op left right ihl ihr =>
    rw [postorder, List.findSome?_append, List.findSome?_append, ihl, ihr,
      List.findSome?_singleton, fault?, value]
    cases left.value with
    | error error => rfl
    | ok x =>
      cases right.value with
      | error error => rfl
      | ok y => rfl

/-- The walk down the left spine is the plain recursion. It fails with the error of the first tree
in postorder that has no value though its operands have theirs. -/
theorem evaluate_leftToRight (e : Expr) :
    e.evaluate = e.value ∧
    ∀ error, e.evaluate = .error error ↔ e.postorder.findSome? fault? = some error := by
  refine ⟨e.evaluate_eq_value, fun error => ?_⟩
  rw [evaluate_eq_value, findSome?_fault?]
  cases e.value with
  | ok x => exact ⟨nofun, nofun⟩
  | error first => simp

/-- A zero divisor on the left is found before a number on the right that is too large. -/
example (op : Operator) (x : Binary64) :
    (binary op (binary .slash (number (.zero false)) (number (.zero true)))
      (binary .star (number (.infinity true)) (number x))).postorder.findSome? fault? =
        some .divisionByZero := rfl

end Expr
end Reckoner
