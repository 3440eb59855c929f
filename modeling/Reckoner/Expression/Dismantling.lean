import Reckoner.Expression.Tree

/-! Taking trees apart node by node, with a worklist in place of nested calls. -/
namespace Reckoner.Expr

/-- The operands of a node, from left to right. -/
def operands : Expr → List Expr
  | number _ => []
  | negate operand => [operand]
  | binary _ left right => [left, right]

/-- What is left of a node when leaves stand in the places of its operands. -/
def cutOff : Expr → Expr
  | number value => number value
  | negate _ => negate (number (Binary64.zero false))
  | binary op _ _ => binary op (number (Binary64.zero false)) (number (Binary64.zero false))

/-- The number of nodes. -/
def size : Expr → Nat
  | number _ => 1
  | negate operand => operand.size + 1
  | binary _ left right => left.size + right.size + 1

/-- The number of nodes in all trees of a worklist. -/
def totalSize : List Expr → Nat
  | [] => 0
  | e :: rest => e.size + totalSize rest

theorem size_pos (e : Expr) : 0 < e.size := by cases e <;> simp [size]

/-- The operands hold all nodes but one. -/
theorem totalSize_operands (e : Expr) : totalSize e.operands + 1 = e.size := by
  cases e <;> simp [totalSize, operands, size]

theorem totalSize_reverse_append (xs ys : List Expr) :
    totalSize (xs.reverse ++ ys) = totalSize xs + totalSize ys := by
  induction xs generalizing ys with
  | nil => simp [totalSize]
  | cons x xs ih =>
    rw [List.reverse_cons, List.append_assoc, ih]
    simp only [List.cons_append, List.nil_append, totalSize]
    omega

/-- The nodes in the order in which they are taken from the worklist, each cut off from its
operands, which are put on the worklist from left to right. The last one on it comes first. -/
def dismantle (pending : List Expr) : List Expr :=
  match pending with
  | [] => []
  | node :: rest => node.cutOff :: dismantle (node.operands.reverse ++ rest)
termination_by totalSize pending
decreasing_by
  have := totalSize_operands node
  have := totalSize_reverse_append node.operands rest
  have : totalSize (node :: rest) = node.size + totalSize rest := rfl
  omega

end Reckoner.Expr
