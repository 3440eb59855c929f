import Reckoner.LogFilter.Pattern
import Reckoner.Text.Blank

/-!
Directives of a log filter.

A directive is a level, or a target that may be followed by a span in brackets, with a field in
braces in it, and by an equals sign and a level. Its form is that of the text without the blanks
around it, in which its parts have their places, counted in bytes. But what is at a place is taken
from the whole text: blanks in front of a directive spoil its parts.
-/
namespace Reckoner.LogFilter

/-- Why a text is not in use as a directive. -/
inductive Refusal where
  | malformed
  /-- A part would begin or end within a character. -/
  | severed
  deriving DecidableEq, Repr

/-- A level is written by its name or number, or left out. -/
def isLevel (cs : List Char) : Bool :=
  let digits :=
    match cs with
    | '+' :: rest => rest
    | _ => cs
  cs.isEmpty || (Text.natural? 10 digits).any (· ≤ 5)
    || ["off", "error", "warn", "info", "debug", "trace"].contains
      (String.ofList (cs.map Char.toLower))

/-- A number, or a word for what is not a finite one. -/
def isNumber (cs : List Char) : Bool :=
  let unsigned :=
    match cs with
    | '+' :: rest | '-' :: rest => rest
    | _ => cs
  Text.isUnsignedDecimal unsigned
    || ["inf", "infinity", "nan"].contains (String.ofList (unsigned.map Char.toLower))

/-- A field is a name, which a value may follow. -/
def isField (cs : List Char) : Bool :=
  match cs.splitOn '=' with
  | _ :: value :: _ => isNumber value || isPattern value
  | _ => !cs.isEmpty

/-- Letters and digits of any script may begin a target. -/
def isTargetStart (c : Char) : Bool := Text.isAlphanumeric c || c == '-' || c == ':' || c == '_'

/-- What a text has from a place on. -/
def partFrom (text : List Char) (start : Nat) : Except Refusal (List Char) :=
  match Text.splitBytes? start text with
  | some (_, rest) => .ok rest
  | none => .error .severed

/-- What a text has between two places. -/
def part (text : List Char) (start stop : Nat) : Except Refusal (List Char) := do
  match Text.splitBytes? (stop - start) (← partFrom text start) with
  | some (cs, _) => return cs
  | none => throw .severed

/-- The level of a directive begins at this place. -/
def checkLevel (text : List Char) (place : Nat) : Except Refusal Unit := do
  if isLevel (← partFrom text place) then return ()
  else throw .malformed

/-- What follows a span may be a level. -/
def checkEnd (text : List Char) (place : Nat) : List Char → Except Refusal Unit
  | [] => .ok ()
  | '=' :: _ => checkLevel text (place + 1)
  | _ => .error .malformed

/-- What follows the name of a span: a field, which ends with the first closing brace. -/
def checkField (text : List Char) (place : Nat) (cs : List Char) : Except Refusal Unit := do
  let stop := place + Text.byteLength (cs.takeWhile (· != '\x7d'))
  match cs.dropWhile (· != '\x7d') with
  | [] => throw .malformed
  | _ :: rest =>
    if isField (← part text place stop) then
      match rest with
      | ']' :: rest => checkEnd text (stop + 2) rest
      | _ => throw .malformed
    else throw .malformed

/-- A span, from its name on. -/
def checkSpan (text : List Char) (place : Nat) (cs : List Char) : Except Refusal Unit := do
  let isName (c : Char) : Bool := c != ']' && c != '\x7b'
  let stop := place + Text.byteLength (cs.takeWhile isName)
  match cs.dropWhile isName with
  | [] => throw .malformed
  | mark :: rest =>
    let _ ← part text place stop
    if mark == ']' then checkEnd text (stop + 1) rest else checkField text (stop + 1) rest

/-- A directive begins with its target or span. A target by itself may be a level. -/
def checkDirective (text : List Char) : Except Refusal Unit := do
  let isTarget (c : Char) : Bool := c != '=' && c != '['
  match Text.trimBlanks text with
  | [] => throw .malformed
  | '[' :: rest => checkSpan text 1 rest
  | c :: cs =>
    if isTargetStart c then
      let stop := Text.byteLength (c :: cs.takeWhile isTarget)
      match cs.dropWhile isTarget with
      | [] => return ()
      | mark :: rest =>
        let _ ← part text 0 stop
        if mark == '=' then checkLevel text (stop + 1) else checkSpan text (stop + 1) rest
    else throw .malformed

end Reckoner.LogFilter
