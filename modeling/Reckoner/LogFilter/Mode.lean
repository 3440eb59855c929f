import Reckoner.Text.Blank

/-! How a pattern is read, which its flags change. -/
namespace Reckoner.LogFilter

structure Mode where
  /-- Letters stand for both their cases. -/
  anyCase : Bool
  /-- The pattern is for characters, and not for bytes. -/
  unicode : Bool
  /-- Blanks and comments do not count. -/
  spaced : Bool
  deriving DecidableEq, Repr

namespace Mode

/-- The flags in order. Those behind a dash are taken away. -/
def withFlags (m : Mode) (value : Bool) : List Char → Mode
  | [] => m
  | flag :: rest =>
    match flag with
    | '-' => m.withFlags false rest
    | 'i' => withFlags { m with anyCase := value } value rest
    | 'u' => withFlags { m with unicode := value } value rest
    | 'x' => withFlags { m with spaced := value } value rest
    | _ => m.withFlags value rest

/-- The other case of a letter is known in bytes only: characters that would stand for both cases
are refused. -/
def knowsCase (m : Mode) : Bool := !(m.anyCase && m.unicode)

/-- Passes blanks and comments, each up to the end of its line. -/
def skipBlanks (comment : Bool) : List Char → List Char
  | [] => []
  | c :: rest =>
    if comment then skipBlanks (c != '\n') rest
    else if c == '#' then skipBlanks true rest
    else if Text.isBlank c then skipBlanks false rest
    else c :: rest

def skip (m : Mode) (cs : List Char) : List Char := if m.spaced then skipBlanks false cs else cs

/-- The next character but blanks and one sign of a comment. -/
def peek? (m : Mode) (cs : List Char) : Option Char :=
  if m.spaced then
    match cs.dropWhile Text.isBlank with
    | '#' :: rest => (rest.dropWhile Text.isBlank).head?
    | rest => rest.head?
  else cs.head?

end Mode
end Reckoner.LogFilter
