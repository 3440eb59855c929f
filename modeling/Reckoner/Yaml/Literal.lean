import Reckoner.Text.Numeral
import Reckoner.Text.Utf8
import Reckoner.Yaml.Line

/-! Plain and quoted scalars of a YAML text, each of which may take several lines. -/
namespace Reckoner.Yaml

def isFlowMark (c : Char) : Bool := c == ',' || c == '[' || c == ']' || c == '\x7b' || c == '\x7d'

/-- A scalar as it was read: its text, what follows, and in which column. -/
structure Literal where
  text : List Char
  rest : List Char
  column : Nat
  /-- A line ended within it or after it. -/
  broken : Bool
  /-- A line ended after it. -/
  lineEnded : Bool

namespace Literal

/-- The rest of a plain scalar, behind its characters so far and the blanks after them in reverse
order. It goes on in lines that are indented by `indent`. -/
def takePlain? (flow : Bool) (indent : Nat) (before blanks : List Char) (broken : Bool)
    (column : Nat) (cs : List Char) : Option Literal :=
  match cs with
  | [] => some ⟨before.reverse, [], column, broken, false⟩
  | c :: rest =>
    if hblank : isBlank c || isBreak c then
      match _h : takeBreaks? indent [] column (c :: rest) with
      | none => none
      | some (breaks, after, column) =>
        let lineEnded := !breaks.isEmpty
        let atMark := column == 0 && isDocumentMark after
        let outside := lineEnded && ((!flow && column < indent) || atMark)
        if outside || after.head? == some '#' then
          some ⟨before.reverse, after, column, broken || lineEnded, lineEnded⟩
        else
          takePlain? flow indent before (foldBreaks (c :: rest) breaks).reverse
            (broken || lineEnded) column after
    else if (c == ':' && endsWord rest) || (flow && isFlowMark c) then
      some ⟨before.reverse, c :: rest, column, broken, false⟩
    else if flow && c == ':' && rest.head?.any (fun d => isFlowMark d || d == '?') then none
    else takePlain? flow indent (c :: (blanks ++ before)) [] broken (column + 1) rest
termination_by cs.length
decreasing_by
  · exact length_takeBreaks?_lt hblank ‹_›
  · simp

/-- Meaning of a character after a backslash between double quotes. -/
def escaped? : Char → Option Char
  | '0' => some '\x00'
  | 'a' => some '\x07'
  | 'b' => some '\x08'
  | 't' | '\t' => some '\t'
  | 'n' => some '\n'
  | 'v' => some '\x0b'
  | 'f' => some '\x0c'
  | 'r' => some '\r'
  | 'e' => some '\x1b'
  | ' ' => some ' '
  | '"' => some '"'
  | '/' => some '/'
  | '\\' => some '\\'
  | 'N' => some '\u0085'
  | '_' => some '\u00a0'
  | 'L' => some '\u2028'
  | 'P' => some '\u2029'
  | _ => none

/-- How many hexadecimal digits follow such a character. -/
def escapeLength : Char → Nat
  | 'x' => 2
  | 'u' => 4
  | 'U' => 8
  | _ => 0

/-- The rest of a scalar between quotes, behind its characters so far in reverse order. A quote
within single quotes is written twice. Between double quotes a backslash takes away the end of its
line. -/
def takeQuoted? (quote : Char) (before : List Char) (broken : Bool) (column : Nat)
    (cs : List Char) : Option Literal :=
  match cs with
  | [] => none
  | c :: rest =>
    if c = quote then
      match rest with
      | d :: after =>
        if quote = '\'' ∧ d = quote then
          takeQuoted? quote (quote :: before) broken (column + 2) after
        else some ⟨before.reverse, rest, column + 1, broken, false⟩
      | [] => some ⟨before.reverse, rest, column + 1, broken, false⟩
    else if c = '\\' ∧ quote = '"' then
      match rest with
      | [] => none
      | e :: after =>
        if isBreak e then
          match _h : takeBreaks? 0 [] 0 after with
          | none => none
          | some (breaks, after, column) =>
            if column == 0 && isDocumentMark after then none
            else takeQuoted? quote (breaks.reverse ++ before) true column after
        else
          let length := escapeLength e
          let char? :=
            if length = 0 then escaped? e
            else if after.length < length then none
            else (Text.natural? 16 (after.take length)).bind Text.charOfCode?
          match char? with
          | none => none
          | some d =>
            takeQuoted? quote (d :: before) broken (column + 2 + length) (after.drop length)
    else if hblank : isBlank c || isBreak c then
      match _h : takeBreaks? 0 [] column (c :: rest) with
      | none => none
      | some (breaks, after, column) =>
        if !breaks.isEmpty && column == 0 && isDocumentMark after then none
        else
          takeQuoted? quote ((foldBreaks (c :: rest) breaks).reverse ++ before)
            (broken || !breaks.isEmpty) column after
    else takeQuoted? quote (c :: before) broken (column + 1) rest
termination_by cs.length
decreasing_by
  · grind
  · have := length_takeBreaks?_le ‹takeBreaks? _ _ _ _ = _›
    simp at this ⊢
    omega
  · simp
    omega
  · exact length_takeBreaks?_lt hblank ‹_›
  · simp

end Literal
end Reckoner.Yaml
