import Reckoner.LogFilter.Directive

/-! Which messages are logged. A filter is a list of directives with commas between them. -/
namespace Reckoner.LogFilter

/-- The filter for a degree of verbosity, if more is wanted than usual. -/
def ofVerbosity? : Nat → Option String
  | 0 => none
  | 1 => some "info"
  | 2 => some "debug"
  | _ => some "trace"

/-- Nothing may stand between two commas, which means no directive. -/
def check (text : String) : Except Refusal Unit :=
  (text.toList.splitOn ',').forM fun cs => if cs.isEmpty then .ok () else checkDirective cs

/-- Why no filter is in use. -/
inductive Failure where
  /-- The text is no filter. -/
  | unusable (text : String)
  /-- A part of it would begin or end within a character. -/
  | severed
  deriving DecidableEq, Repr

/-- A filter that is well formed. -/
def usable (text : String) : Except Failure String :=
  match check text with
  | .ok () => .ok text
  | .error .malformed => .error (.unusable text)
  | .error .severed => .error .severed

/-- The filter in use: the one in the environment unless it is malformed, else that of the
verbosity, else the configured one. -/
def choose (override : Option String) (verbosity : Nat) (configured : String) :
    Except Failure String :=
  match override.map usable with
  | some (.ok filter) => .ok filter
  | some (.error .severed) => .error .severed
  | _ => usable ((ofVerbosity? verbosity).getD configured)

end Reckoner.LogFilter
