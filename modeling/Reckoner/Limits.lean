import Reckoner.Expression.Evaluation
import Reckoner.Expression.Grammar
import Reckoner.Expression.Scanner

/-! Evaluation of expression texts within limits of length and nesting. -/
namespace Reckoner

structure Limits where
  /-- In characters. -/
  maxExpressionLength : UInt64 := 1000
  /-- Of groups and negations inside each other. -/
  maxDepth : UInt64 := 100
  deriving DecidableEq, Repr

namespace Limits

inductive Fault where
  | zero (field : String)
  | tooLarge (field : String) (value max : UInt64)
  deriving DecidableEq, Repr

def Fault.message : Fault → String
  | zero field => "calculator." ++ field ++ " must be greater than zero"
  | tooLarge field value max =>
    "calculator." ++ field ++ " must be at most " ++ max.toNat.repr ++ ", got " ++ value.toNat.repr

def check (field : String) (value max : UInt64) : Except Fault Unit :=
  if value = 0 then .error (.zero field)
  else if max < value then .error (.tooLarge field value max)
  else .ok ()

/-- Both limits have to be positive, and low enough for the nesting that they permit. -/
def validate (limits : Limits) : Except Fault Unit := do
  check "max_expression_len" limits.maxExpressionLength 10000
  check "max_depth" limits.maxDepth 500

/-- The tree of a text. Nothing is parsed before the whole text has been split into lexemes. -/
def parse (limits : Limits) (text : String) : Except Rejection Expr := do
  let lexemes ← (lexemes text).mapError .lexical
  (Expr.ofLexemes lexemes limits.maxDepth.toNat).mapError .grammar

/-- The value of a text, or the first reason not to give one. -/
def evaluate (limits : Limits) (text : String) : Except Rejection Binary64 :=
  if limits.maxExpressionLength.toNat < text.length then
    .error (.lexical (.tooLong text.length limits.maxExpressionLength.toNat))
  else do
    let tree ← limits.parse text
    tree.evaluate.mapError .arithmetic

end Limits
end Reckoner
