import Reckoner.Document
import Reckoner.Text.Blank
import Reckoner.Text.Numeral
import Reckoner.Text.Utf8

/-!
Settings in environment variables.

A name is `APP__` and the path of a field, with `__` or a point between its parts, in any case.
Blanks around the name and around the path do not count. A value is a truth value, a number,
a quoted string, a list in brackets, a table in braces or a word; what is of no such form is text as
it stands.
-/
namespace Reckoner.Environment

def isSpace (c : Char) : Bool :=
  c == ' ' || c == '\t' || c == '\n' || c == '\x0c' || c == '\r'

/-- Ends a word within a list or table. -/
def isMark (c : Char) : Bool := c == ',' || c == '[' || c == ']' || c == '\x7b' || c == '\x7d'

def isKeyChar (c : Char) : Bool := c.isAlphanum || c == '_' || c == '-'

/-- Of the control characters only the tab may stand in a string. -/
def isControl (c : Char) : Bool := (c < ' ' && c != '\t') || c == '\x7f'

def skipSpaces (cs : List Char) : List Char := cs.dropWhile isSpace

/-- A word without quotes is a number, if it has the form of one. -/
def word (cs : List Char) : Document :=
  let text := String.ofList cs
  let (negative, unsigned) :=
    match cs with
    | '-' :: rest => (true, rest)
    | '+' :: rest => (false, rest)
    | _ => (false, cs)
  if cs.contains '.' && Text.isUnsignedDecimal unsigned then .number text
  else
    match Text.natural? 10 unsigned with
    | some n =>
      if n = 0 then .natural 0
      else if negative then if 2 * n ≤ UInt64.size then .number text else .text text
      else if n < UInt64.size then .natural n else .text text
    | none => .text text

def escaped? : Char → Option Char
  | 'b' => some '\x08'
  | 't' => some '\t'
  | 'n' => some '\n'
  | 'f' => some '\x0c'
  | 'r' => some '\r'
  | '"' => some '"'
  | '\\' => some '\\'
  | _ => none

/-- The rest of a string with escapes up to its closing quote, behind the characters before in
reverse order. -/
def takeEscaped? (before : List Char) : List Char → Option (String × List Char)
  | '"' :: rest => some (String.ofList before.reverse, rest)
  | '\\' :: 'u' :: a :: b :: c :: d :: rest => do
    let e ← (Text.natural? 16 [a, b, c, d]).bind Text.charOfCode?
    takeEscaped? (e :: before) rest
  | '\\' :: 'U' :: a :: b :: c :: d :: e :: f :: g :: h :: rest => do
    let e ← (Text.natural? 16 [a, b, c, d, e, f, g, h]).bind Text.charOfCode?
    takeEscaped? (e :: before) rest
  | '\\' :: c :: rest => do takeEscaped? ((← escaped? c) :: before) rest
  | c :: rest => if isControl c then none else takeEscaped? (c :: before) rest
  | [] => none

/-- The characters at the front that fit into so many bytes. -/
def takeBytes (bytes : Nat) : List Char → List Char
  | [] => []
  | c :: rest =>
    if c.utf8Size ≤ bytes then c :: takeBytes (bytes - c.utf8Size) rest else []

/-- A string up to its closing quote. Before the first escape it is counted in characters but taken
in bytes, so that as many bytes are lost there as the characters have beyond one each. -/
def takeString? (cs : List Char) : Option (String × List Char) :=
  let isLiteral (c : Char) : Bool := c != '"' && c != '\\' && !isControl c
  let literal := cs.takeWhile isLiteral
  match cs.dropWhile isLiteral with
  | '"' :: rest => some (String.ofList literal, rest)
  | '\\' :: rest => takeEscaped? (takeBytes literal.length literal).reverse ('\\' :: rest)
  | _ => none

def takeKey? : List Char → Option (String × List Char)
  | '"' :: rest => takeString? rest
  | cs =>
    let key := cs.takeWhile isKeyChar
    if key.isEmpty then none else some (String.ofList key, cs.dropWhile isKeyChar)

mutual

/-- The value at the front with the spaces around it, and what follows. -/
def takeValue? : Nat → List Char → Option (Document × List Char)
  | 0, _ => none
  | fuel + 1, cs => do
    let (value, rest) ←
      match skipSpaces cs with
      | 't' :: 'r' :: 'u' :: 'e' :: rest => some (.bool true, rest)
      | 'f' :: 'a' :: 'l' :: 's' :: 'e' :: rest => some (.bool false, rest)
      | '[' :: rest => takeItems? fuel [] rest
      | '\x7b' :: rest => takeEntries? fuel [] rest
      | '"' :: rest => (takeString? rest).map fun (text, rest) => (.text text, rest)
      | '\'' :: rest =>
        match rest with
        | c :: '\'' :: rest => some (.text c.toString, rest)
        | _ => none
      | rest =>
        some (word (Text.trimBlanks (rest.takeWhile (!isMark ·))), rest.dropWhile (!isMark ·))
    return (value, skipSpaces rest)

/-- The rest of a list, behind the items before in reverse order. A comma may end it. -/
def takeItems? : Nat → List Document → List Char → Option (Document × List Char)
  | 0, _, _ => none
  | _ + 1, items, ']' :: rest => some (.list items.reverse, rest)
  | fuel + 1, items, cs => do
    match ← takeValue? fuel cs with
    | (value, ',' :: rest) => takeItems? fuel (value :: items) rest
    | (value, ']' :: rest) => some (.list (value :: items).reverse, rest)
    | _ => none

/-- The rest of a table, behind the entries before in reverse order. A comma may end it. -/
def takeEntries? : Nat → List (String × Document) → List Char → Option (Document × List Char)
  | 0, _, _ => none
  | _ + 1, entries, '\x7d' :: rest =>
    some (.table (Document.lastEntries entries.reverse), rest)
  | fuel + 1, entries, cs => do
    let (key, rest) ← takeKey? (skipSpaces cs)
    match skipSpaces rest with
    | '=' :: rest =>
      match ← takeValue? fuel rest with
      | (value, ',' :: rest) => takeEntries? fuel ((key, value) :: entries) rest
      | (value, '\x7d' :: rest) =>
        some (.table (Document.lastEntries ((key, value) :: entries).reverse), rest)
      | _ => none
    | _ => none

end

/-- The value that a variable is set to. Every list or table and every item of one takes
a character, so twice their number is depth enough. -/
def readValue (text : String) : Document :=
  let cs := text.toList
  match takeValue? (2 * cs.length + 2) cs with
  | some (value, []) => value
  | _ => .text text

/-- The parts of a path. -/
def splitPath (part : List Char) : List Char → List String
  | '_' :: '_' :: rest => String.ofList part.reverse :: splitPath [] rest
  | '.' :: rest => String.ofList part.reverse :: splitPath [] rest
  | c :: rest => splitPath (c :: part) rest
  | [] => [String.ofList part.reverse]

/-- The path named by a variable, in lower case. Other variables, and those whose path has an empty
part, name none. -/
def path? (name : String) : Option (List String) :=
  let lower := (Text.trimBlanks name.toList).map Char.toLower
  let start := "app__".toList
  if start.isPrefixOf lower then
    let parts := splitPath [] (Text.trimBlanks (lower.drop start.length))
    if parts.contains "" then none else some parts
  else none

/-- The document in which a path leads to a value and to nothing else. -/
def nest (value : Document) : List String → Document
  | [] => value
  | key :: path => .table [(key, nest value path)]

end Reckoner.Environment
