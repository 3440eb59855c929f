import Reckoner.LogFilter.Mode
import Reckoner.Text.Numeral
import Reckoner.Text.Utf8

/-! Escapes in a pattern. -/
namespace Reckoner.LogFilter

/-- What an escape stands for: a character, any character of a class, or a place in the text. -/
inductive Escape where
  | character (c : Char)
  | anyOf
  | place
  deriving DecidableEq, Repr

namespace Escape

/-- So many digits and what follows. Between them and behind them is passed over what does not
count. -/
def takeDigits? (m : Mode) : Nat → List Char → Option (List Char × List Char)
  | 0, cs => some ([], cs)
  | _ + 1, [] => none
  | count + 1, c :: rest =>
    (takeDigits? m count (m.skip rest)).map fun (digits, rest) => (c :: digits, rest)

/-- A character given by so many hexadecimal digits. -/
def takeCode? (m : Mode) (length : Nat) (cs : List Char) : Option (Char × List Char) := do
  let (digits, rest) ← takeDigits? m length (m.skip cs)
  return (← (Text.natural? 16 digits).bind Text.charOfCode?, rest)

/-- The escape behind a backslash. Signs stand for themselves, letters only if they mean something.
Classes and the edges of words can be asked for in bytes only, properties not at all. -/
def take? (m : Mode) : List Char → Option (Escape × List Char)
  | [] => none
  | 'x' :: rest => do
    let (c, rest) ← takeCode? m 2 rest
    if m.unicode || c.toNat < 128 then some (.character c, rest) else none
  | 'u' :: rest => (takeCode? m 4 rest).map fun (c, rest) => (.character c, rest)
  | 'U' :: rest => (takeCode? m 8 rest).map fun (c, rest) => (.character c, rest)
  | c :: rest =>
    match c with
    | 'd' | 's' | 'w' => if m.unicode then none else some (.anyOf, rest)
    | 'b' | 'B' | '<' | '>' => if m.unicode then none else some (.place, rest)
    | 'A' | 'z' => some (.place, rest)
    | 'a' => some (.character '\x07', rest)
    | 'f' => some (.character '\x0c', rest)
    | 'n' => some (.character '\n', rest)
    | 'r' => some (.character '\r', rest)
    | 't' => some (.character '\t', rest)
    | 'v' => some (.character '\x0b', rest)
    | _ => if c.toNat < 128 && !c.isAlphanum then some (.character c, rest) else none

end Escape
end Reckoner.LogFilter
