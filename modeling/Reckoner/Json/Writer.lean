import Reckoner.Document

/-! JSON texts of documents, on one line or indented. -/
namespace Reckoner.Json

/-- Escaped are the quote, the backslash and the controls, these by their short names if they have
one. -/
def escapeChar (c : Char) : List Char :=
  match c with
  | '"' => ['\\', '"']
  | '\\' => ['\\', '\\']
  | '\x08' => ['\\', 'b']
  | '\x0c' => ['\\', 'f']
  | '\n' => ['\\', 'n']
  | '\r' => ['\\', 'r']
  | '\t' => ['\\', 't']
  | c =>
    if c < ' ' then
      ['\\', 'u', '0', '0', Nat.digitChar (c.toNat / 16), Nat.digitChar (c.toNat % 16)]
    else [c]

def writeText (text : String) : List Char := '"' :: (text.toList.flatMap escapeChar ++ ['"'])

mutual

/-- The value on one line, without blanks. -/
def compact : Document → List Char
  | .null => "null".toList
  | .bool true => "true".toList
  | .bool false => "false".toList
  | .natural n => Nat.toDigits 10 n
  | .negative n => '-' :: Nat.toDigits 10 n
  | .number literal => literal.toList
  | .text text => writeText text
  | .list items => '[' :: (compactItems items ++ [']'])
  | .table entries => '\x7b' :: (compactEntries entries ++ ['\x7d'])

def compactItems : List Document → List Char
  | [] => []
  | [value] => compact value
  | value :: next :: rest => compact value ++ ',' :: compactItems (next :: rest)

def compactEntries : List (String × Document) → List Char
  | [] => []
  | [(key, value)] => writeText key ++ ':' :: compact value
  | (key, value) :: next :: rest =>
    writeText key ++ ':' :: (compact value ++ ',' :: compactEntries (next :: rest))

end

/-- A new line at some depth of nesting, indented by two blanks for each level. -/
def newline (depth : Nat) : List Char := '\n' :: List.replicate (2 * depth) ' '

mutual

/-- The value with every item and entry on a line of its own, within `depth` lists and tables. -/
def indented (depth : Nat) : Document → List Char
  | .list [] => ['[', ']']
  | .list items =>
    '[' :: (newline (depth + 1) ++ indentedItems (depth + 1) items ++ newline depth ++ [']'])
  | .table [] => ['\x7b', '\x7d']
  | .table entries =>
    '\x7b' :: (newline (depth + 1) ++ indentedEntries (depth + 1) entries ++ newline depth
      ++ ['\x7d'])
  | .null => compact .null
  | .bool value => compact (.bool value)
  | .natural n => compact (.natural n)
  | .negative n => compact (.negative n)
  | .number literal => compact (.number literal)
  | .text text => compact (.text text)

def indentedItems (depth : Nat) : List Document → List Char
  | [] => []
  | [value] => indented depth value
  | value :: next :: rest =>
    indented depth value ++ ',' :: (newline depth ++ indentedItems depth (next :: rest))

def indentedEntries (depth : Nat) : List (String × Document) → List Char
  | [] => []
  | [(key, value)] => writeText key ++ ':' :: ' ' :: indented depth value
  | (key, value) :: next :: rest =>
    writeText key ++ ':' :: ' ' ::
      (indented depth value ++ ',' :: (newline depth ++ indentedEntries depth (next :: rest)))

end

/-- The JSON text of a document on one line. -/
def write (value : Document) : String := String.ofList (compact value)

/-- The indented JSON text of a document. -/
def writeIndented (value : Document) : String := String.ofList (indented 0 value)

end Reckoner.Json
