import Reckoner.Expression.Token
import Reckoner.Text.Escape

/-! Reasons for which an expression has no value, and how they are told. -/
namespace Reckoner

inductive LexicalError where
  | invalidCharacter (c : Char) (pos : Nat)
  | malformedNumber (literal : String) (pos : Nat)
  | tooLong (length limit : Nat)
  deriving DecidableEq, Repr

inductive GrammarError where
  | empty
  | unbalancedParentheses
  | unexpectedToken (lexeme : Lexeme)
  | unexpectedEnd
  | tooComplex (limit : Nat)
  deriving DecidableEq, Repr

inductive ArithmeticError where
  | divisionByZero
  | overflow
  deriving DecidableEq, Repr

inductive Rejection where
  | lexical (error : LexicalError)
  | grammar (error : GrammarError)
  | arithmetic (error : ArithmeticError)
  deriving DecidableEq, Repr

def LexicalError.code : LexicalError → String
  | invalidCharacter .. => "LEX_INVALID_CHARACTER"
  | malformedNumber .. => "LEX_MALFORMED_NUMBER"
  | tooLong .. => "LEX_EXPRESSION_TOO_LONG"

def GrammarError.code : GrammarError → String
  | empty => "PARSE_EMPTY_EXPRESSION"
  | unbalancedParentheses => "PARSE_UNBALANCED_PARENTHESES"
  | unexpectedToken _ => "PARSE_UNEXPECTED_TOKEN"
  | unexpectedEnd => "PARSE_UNEXPECTED_END"
  | tooComplex _ => "PARSE_TOO_COMPLEX"

def ArithmeticError.code : ArithmeticError → String
  | divisionByZero => "EVAL_DIVISION_BY_ZERO"
  | overflow => "EVAL_NUMERIC_OVERFLOW"

/-- The name of the reason, whatever its details. -/
def Rejection.code : Rejection → String
  | lexical error => error.code
  | grammar error => error.code
  | arithmetic error => error.code

def LexicalError.message : LexicalError → String
  | invalidCharacter c pos =>
    "invalid character '" ++ String.ofList (Text.escapeChar c) ++ "' at position " ++ pos.repr
  | malformedNumber literal pos => "malformed number '" ++ literal ++ "' at position " ++ pos.repr
  | tooLong length limit =>
    "expression too long (" ++ length.repr ++ " characters, max " ++ limit.repr ++ ")"

def GrammarError.message : GrammarError → String
  | empty => "empty expression"
  | unbalancedParentheses => "unbalanced parentheses"
  | unexpectedToken lexeme =>
    "unexpected token '" ++ lexeme.token.text ++ "' at position " ++ lexeme.pos.repr
  | unexpectedEnd => "unexpected end of expression"
  | tooComplex _ => "expression too complex"

def ArithmeticError.message : ArithmeticError → String
  | divisionByZero => "division by zero"
  | overflow => "numeric overflow"

def Rejection.message : Rejection → String
  | lexical error => error.message
  | grammar error => error.message
  | arithmetic error => error.message

end Reckoner
