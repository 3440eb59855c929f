import Reckoner.Expression.Token

/-! Expression trees, their fully parenthesized text and their equality by value. -/
namespace Reckoner

inductive Expr where
  | number (value : Binary64)
  | negate (operand : Expr)
  | binary (op : Operator) (left right : Expr)
  deriving DecidableEq, Repr

namespace Expr

/-- The tree in fully parenthesized form, followed by `rest`. -/
def writeBefore (rest : List Char) : Expr → List Char
  | number value => Layout.plain.write value ++ rest
  | negate operand => '(' :: '-' :: operand.writeBefore (')' :: rest)
  | binary op left right =>
    '(' :: left.writeBefore (' ' :: op.symbol :: ' ' :: right.writeBefore (')' :: rest))

/-- Every operation stands in parentheses of its own, with blanks around a binary operator. -/
def text (e : Expr) : String := String.ofList (e.writeBefore [])

/-- Trees of one shape whose numbers have the same values. -/
def sameValue : Expr → Expr → Bool
  | number x, number y => x.sameValue y
  | negate a, negate b => a.sameValue b
  | binary op a b, binary op' a' b' => op == op' && a.sameValue a' && b.sameValue b'
  | _, _ => false

theorem writeBefore_eq_append (e : Expr) (rest : List Char) :
    e.writeBefore rest = e.writeBefore [] ++ rest := by
  induction e generalizing rest with
  | number value => simp [writeBefore]
  | negate operand ih => rw [writeBefore, writeBefore, ih, ih [')']]; simp
  | binary op left right ihl ihr =>
    rw [writeBefore, writeBefore, ihl, ihr, ihl (' ' :: op.symbol :: _), ihr [')']]; simp

end Expr
end Reckoner
