import Reckoner.Decimal.Layout

/-! Tokens of an arithmetic expression and their places in its text. -/
namespace Reckoner

inductive Operator where
  | plus | minus | star | slash
  deriving DecidableEq, Repr

namespace Operator

def ofChar? : Char → Option Operator
  | '+' => some plus
  | '-' => some minus
  | '*' => some star
  | '/' => some slash
  | _ => none

def symbol : Operator → Char
  | plus => '+'
  | minus => '-'
  | star => '*'
  | slash => '/'

def isAdditive : Operator → Bool
  | plus | minus => true
  | star | slash => false

theorem ofChar?_eq_some_iff {c : Char} {op : Operator} : ofChar? c = some op ↔ c = op.symbol := by
  constructor
  · intro h
    unfold ofChar? at h
    split at h <;> simp_all [symbol] <;> subst h <;> rfl
  · rintro rfl
    cases op <;> rfl

end Operator

inductive Token where
  | number (value : Binary64)
  | operator (op : Operator)
  | opening
  | closing
  deriving DecidableEq, Repr

namespace Token

/-- Tokens of a single character. -/
def ofChar? : Char → Option Token
  | '(' => some opening
  | ')' => some closing
  | c => (Operator.ofChar? c).map operator

/-- A number is shown by its value, not as it was written. -/
def text : Token → String
  | number value => value.text
  | operator op => op.symbol.toString
  | opening => "("
  | closing => ")"

end Token

/-- A token together with the number of characters before it. -/
structure Lexeme where
  token : Token
  pos : Nat
  deriving DecidableEq, Repr

end Reckoner
