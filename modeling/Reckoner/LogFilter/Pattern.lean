import Reckoner.LogFilter.Escape
import Reckoner.LogFilter.Nesting
import Reckoner.Text.Alphanumeric

/-!
Patterns for the values of fields in a log filter. They are regular expressions, of which only the
form matters here: groups and classes are closed, something stands before each sign of repetition,
and nothing is asked for that is not known of characters or that would cut them. Braces count no
repetitions, because a field ends at its first closing brace.
-/
namespace Reckoner.LogFilter

/-- How far a pattern has been read: in which mode, what of the innermost group and of those around
it, with their modes, what of the open classes, the innermost first, and the names of groups. -/
structure PatternState where
  mode : Mode
  level : Level
  groups : List (Level × Mode)
  classes : List ClassLevel
  names : List String
  deriving DecidableEq, Repr

namespace PatternState

def start : PatternState := ⟨⟨false, true, false⟩, .empty, [], [], []⟩

def addPiece (s : PatternState) (nesting : Nat) : PatternState :=
  { s with level := s.level.addPiece nesting }

def openGroup (s : PatternState) (mode : Mode) : PatternState :=
  { s with mode, level := .empty, groups := (s.level, s.mode) :: s.groups }

def closeGroup? (s : PatternState) : Option PatternState :=
  match s.groups with
  | [] => none
  | (level, mode) :: groups =>
    some { s with mode, level := level.addPiece (s.level.nesting + 1), groups }

/-- The name of a group up to the sign that ends it, and what follows. -/
def takeName? (cs : List Char) : Option (String × List Char) :=
  let isPart (c : Char) : Bool := Text.isAlphanumeric c || "_.[]".toList.contains c
  let name := cs.takeWhile isPart
  match cs.dropWhile isPart with
  | '>' :: rest =>
    if name.head?.any fun c => Text.isAlphabetic c || c == '_' then
      some (String.ofList name, rest)
    else none
  | _ => none

/-- A group with a name that no other group has. -/
def openNamed? (s : PatternState) (cs : List Char) : Option (PatternState × List Char) := do
  let (name, rest) ← takeName? cs
  if s.names.contains name then none
  else some ({ s with names := name :: s.names }.openGroup s.mode, rest)

/-- Flags are set for a group, or up to the end of the group in which they stand by themselves. -/
def takeFlags? (s : PatternState) (cs : List Char) : Option (PatternState × List Char) :=
  let flags := cs.takeWhile fun c => c != ':' && c != ')'
  let mode := s.mode.withFlags true flags
  if !flags.Nodup || !flags.all "imsUuRx-".toList.contains || flags.getLast? == some '-' then none
  else
    match cs.drop flags.length with
    | ':' :: rest => some (s.openGroup mode, rest)
    | ')' :: rest =>
      if flags.isEmpty then none else some ({ s with mode, level := s.level.addFlags }, rest)
    | _ => none

/-- What follows the opening sign of a group. -/
def takeGroup? (s : PatternState) : List Char → Option (PatternState × List Char)
  | '?' :: 'P' :: '<' :: rest | '?' :: '<' :: rest => s.openNamed? rest
  | '?' :: rest => s.takeFlags? rest
  | rest => some (s.openGroup s.mode, rest)

/-- Opens a class within those that are open. Of bytes there is no complement. -/
def openClass? (s : PatternState) (cs : List Char) : Option (PatternState × List Char) :=
  let opened := { s with classes := .empty :: s.classes }
  match s.mode.skip cs with
  | '^' :: rest => if s.mode.unicode then some (opened, rest) else none
  | rest => some (opened, rest)

/-- The next piece outside of classes. -/
def takePiece? (s : PatternState) : List Char → Option (PatternState × List Char)
  | '(' :: rest => s.takeGroup? (s.mode.skip rest)
  | ')' :: rest => s.closeGroup?.map (·, rest)
  | '|' :: rest => some ({ s with level := s.level.endBranch }, rest)
  | '*' :: rest | '+' :: rest | '?' :: rest => do
    let level ← s.level.repeat?
    return ({ s with level }, if rest.head? == some '?' then rest.drop 1 else rest)
  | '[' :: rest => s.openClass? rest
  | '\x7b' :: _ | [] => none
  | '\\' :: rest => do
    match ← Escape.take? s.mode rest with
    | (.character _, rest) => if s.mode.knowsCase then some (s.addPiece 0, rest) else none
    | (_, rest) => some (s.addPiece 0, rest)
  | '.' :: rest => if s.mode.unicode then some (s.addPiece 0, rest) else none
  | '^' :: rest | '$' :: rest => some (s.addPiece 0, rest)
  | _ :: rest => if s.mode.knowsCase then some (s.addPiece 0, rest) else none

/-- A character or an escape as an item of a class. -/
def takeItem? (m : Mode) : List Char → Option (Escape × List Char)
  | [] => none
  | '\\' :: rest => Escape.take? m rest
  | c :: rest => some (.character c, rest)

/-- A class holds no places, and in bytes only characters of one byte. -/
def isItem (m : Mode) : Escape → Bool
  | .character c => m.knowsCase && (m.unicode || c.toNat < 128)
  | .anyOf => true
  | .place => false

/-- What follows an item of a class. A dash and another item may belong to it, in order. -/
def afterItem? (m : Mode) (first : Escape) (cs : List Char) : Option (List Char) :=
  match m.skip cs with
  | '-' :: rest =>
    if (m.peek? rest).any fun c => c == ']' || c == '-' then some ('-' :: rest)
    else
      match first, takeItem? m (m.skip rest) with
      | .character a, some (.character b, rest) =>
        if a ≤ b && isItem m (.character b) then some rest else none
      | _, _ => none
  | rest => some rest

/-- Names of classes, which stand between colons in brackets within a class. -/
def classNames : List String :=
  ["alnum", "alpha", "ascii", "blank", "cntrl", "digit", "graph", "lower", "print", "punct",
    "space", "upper", "word", "xdigit"]

/-- What follows a class with a name, and whether its complement is meant. -/
def takeNamedClass? : List Char → Option (Bool × List Char)
  | ':' :: cs =>
    let complement := cs.head? == some '^'
    let cs := if complement then cs.drop 1 else cs
    match cs.dropWhile (· != ':') with
    | ':' :: ']' :: rest =>
      if classNames.contains (String.ofList (cs.takeWhile (· != ':'))) then
        some (complement, rest)
      else none
    | _ => none
  | _ => none

/-- Closes the innermost class, which becomes an item of the class around it or a piece. -/
def closeClass (s : PatternState) (level : ClassLevel) (outer : List ClassLevel) : PatternState :=
  match outer with
  | [] => { s with classes := [] }.addPiece (level.nesting + 1)
  | parent :: outer => { s with classes := parent.addItem (level.nesting + 1) :: outer }

/-- The next piece within a class. At its start dashes and a closing bracket stand for
themselves. -/
def takeClassPiece? (s : PatternState) (level : ClassLevel) (outer : List ClassLevel) :
    List Char → Option (PatternState × List Char)
  | [] => none
  | c :: rest =>
    let put (level : ClassLevel) : PatternState := { s with classes := level :: outer }
    if level.opening && c == '-' then
      if s.mode.knowsCase then some (put level.addDash, rest) else none
    else if level.opening && level.items.isEmpty && c == ']' then
      if s.mode.knowsCase then some (put (level.addItem 0), rest) else none
    else
      match c, rest with
      | ']', rest => some (s.closeClass level outer, rest)
      | '[', rest =>
        match takeNamedClass? rest with
        | some (complement, rest) =>
          if s.mode.knowsCase && (s.mode.unicode || !complement) then
            some (put (level.addItem 0), rest)
          else none
        | none => (put { level with opening := false }).openClass? rest
      | '&', '&' :: rest | '-', '-' :: rest | '~', '~' :: rest => some (put level.endOperand, rest)
      | c, rest => do
        let (item, rest) ← takeItem? s.mode (c :: rest)
        if isItem s.mode item then return (put (level.addItem 0), ← afterItem? s.mode item rest)
        else none

def take? (s : PatternState) (cs : List Char) : Option (PatternState × List Char) :=
  match s.classes with
  | [] => s.takePiece? cs
  | level :: outer => s.takeClassPiece? level outer cs

/-- A pattern goes on and comes to its end in this way. Each piece has to take a character. -/
def completes (s : PatternState) (cs : List Char) : Bool :=
  match s.mode.skip cs with
  | [] => s.groups.isEmpty && s.classes.isEmpty && s.level.nesting ≤ nestingLimit
  | next =>
    match s.take? next with
    | none => false
    | some (s, rest) => if rest.length < cs.length then s.completes rest else false
termination_by cs.length

end PatternState

def isPattern (cs : List Char) : Bool := PatternState.start.completes cs

end Reckoner.LogFilter
