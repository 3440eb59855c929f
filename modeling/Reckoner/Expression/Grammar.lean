import Reckoner.Expression.Rejection
import Reckoner.Expression.Tree

/-!
Reading lexemes as an expression, by descent through the grammar

    expression = term, any number of: "+" or "-", term
    term       = unary, any number of: "*" or "/", unary
    unary      = "-", unary  |  primary
    primary    = NUMBER  |  "(", expression, ")"

with both operator levels grouped to the left.
-/
namespace Reckoner

/-- The lexemes still to be read, within how many groups and negations, and within how many
groups. -/
structure Cursor where
  rest : List Lexeme
  depth : Nat
  openGroups : Nat
  deriving DecidableEq, Repr

/-- A tree, and a cursor behind it with fewer lexemes left than at the start. -/
structure Parsed (start : Cursor) where
  tree : Expr
  cursor : Cursor
  shorter : cursor.rest.length < start.rest.length
  deriving Repr

namespace Cursor

/-- At the end of the lexemes an open group is missed before an operand is. -/
def endError (c : Cursor) : GrammarError :=
  if 0 < c.openGroups then .unbalancedParentheses else .unexpectedEnd

mutual

def expression (limit : Nat) (c : Cursor) : Except GrammarError (Parsed c) := do
  let first ← term limit c
  sums limit first
termination_by (c.rest.length, 3)
decreasing_by
  · exact Prod.Lex.right _ (by decide)
  · exact Prod.Lex.left _ _ first.shorter

/-- Adds to the left operand all terms that follow. -/
def sums {start : Cursor} (limit : Nat) (left : Parsed start) :
    Except GrammarError (Parsed start) :=
  match h : left.cursor.rest with
  | ⟨.operator op, _⟩ :: rest =>
    if op.isAdditive then do
      let right ← term limit ⟨rest, left.cursor.depth, left.cursor.openGroups⟩
      sums limit ⟨.binary op left.tree right.tree, right.cursor, by
        have := left.shorter; have := right.shorter; simp_all; omega⟩
    else .ok left
  | _ => .ok left
termination_by (left.cursor.rest.length, 0)
decreasing_by
  · exact Prod.Lex.left _ _ (by simp [h])
  · exact Prod.Lex.left _ _ (by have := right.shorter; simp_all; omega)

def term (limit : Nat) (c : Cursor) : Except GrammarError (Parsed c) := do
  let first ← unary limit c
  products limit first
termination_by (c.rest.length, 2)
decreasing_by
  · exact Prod.Lex.right _ (by decide)
  · exact Prod.Lex.left _ _ first.shorter

/-- Multiplies the left operand by all factors that follow. -/
def products {start : Cursor} (limit : Nat) (left : Parsed start) :
    Except GrammarError (Parsed start) :=
  match h : left.cursor.rest with
  | ⟨.operator op, _⟩ :: rest =>
    if op.isAdditive then .ok left
    else do
      let right ← unary limit ⟨rest, left.cursor.depth, left.cursor.openGroups⟩
      products limit ⟨.binary op left.tree right.tree, right.cursor, by
        have := left.shorter; have := right.shorter; simp_all; omega⟩
  | _ => .ok left
termination_by (left.cursor.rest.length, 0)
decreasing_by
  · exact Prod.Lex.left _ _ (by simp [h])
  · exact Prod.Lex.left _ _ (by have := right.shorter; simp_all; omega)

def unary (limit : Nat) (c : Cursor) : Except GrammarError (Parsed c) :=
  match h : c.rest with
  | ⟨.operator .minus, _⟩ :: rest =>
    if limit ≤ c.depth then .error (.tooComplex limit)
    else do
      let operand ← unary limit ⟨rest, c.depth + 1, c.openGroups⟩
      .ok ⟨.negate operand.tree, { operand.cursor with depth := operand.cursor.depth - 1 }, by
        have := operand.shorter; simp_all; omega⟩
  | _ => primary limit c
termination_by (c.rest.length, 1)
decreasing_by
  · exact Prod.Lex.left _ _ (by simp [h])
  · exact Prod.Lex.right _ (by decide)

def primary (limit : Nat) (c : Cursor) : Except GrammarError (Parsed c) :=
  match h : c.rest with
  | [] => .error c.endError
  | ⟨.number value, _⟩ :: rest => .ok ⟨.number value, { c with rest }, by simp [h]⟩
  | ⟨.opening, _⟩ :: rest =>
    if limit ≤ c.depth then .error (.tooComplex limit)
    else do
      let inner ← expression limit ⟨rest, c.depth + 1, c.openGroups + 1⟩
      match hrest : inner.cursor.rest with
      | ⟨.closing, _⟩ :: after =>
        .ok ⟨inner.tree, ⟨after, inner.cursor.depth - 1, inner.cursor.openGroups - 1⟩, by
          have := inner.shorter; simp_all; omega⟩
      | lexeme :: _ => .error (.unexpectedToken lexeme)
      | [] => .error .unbalancedParentheses
  | ⟨.closing, pos⟩ :: _ =>
    if c.openGroups = 0 then .error .unbalancedParentheses
    else .error (.unexpectedToken ⟨.closing, pos⟩)
  | lexeme :: _ => .error (.unexpectedToken lexeme)
termination_by (c.rest.length, 0)
decreasing_by exact Prod.Lex.left _ _ (by simp [h])

end

end Cursor

/-- The tree of a complete sequence of lexemes, with at most `limit` groups and negations inside
each other. -/
def Expr.ofLexemes (lexemes : List Lexeme) (limit : Nat) : Except GrammarError Expr :=
  match lexemes with
  | [] => .error .empty
  | _ => do
    let parsed ← Cursor.expression limit ⟨lexemes, 0, 0⟩
    match parsed.cursor.rest with
    | [] => .ok parsed.tree
    | lexeme :: _ => .error (.unexpectedToken lexeme)

end Reckoner
