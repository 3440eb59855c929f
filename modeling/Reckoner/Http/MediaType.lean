import Reckoner.Http.Header

/-!
Media types, as far as they tell whether a body is JSON.

A media type is `family/subtype`, where a plus sign in the subtype sets off a suffix, and parameters
`name=value` may follow, each behind a semicolon.
-/
namespace Reckoner.Http

/-- The parts of a media type in lower case, without its parameters. -/
structure MediaType where
  family : String
  subtype : String
  suffix : Option String
  deriving DecidableEq, Repr

namespace MediaType

/-- A place among the parameters. -/
inductive Place where
  /-- Before a name. Parameters may end here. -/
  | start
  | name
  /-- Behind the equals sign. -/
  | equals
  | value
  /-- Behind the opening quote. The next character is never the closing one. -/
  | quote
  | quoted
  /-- Behind the closing quote. -/
  | closed
  deriving DecidableEq, Repr

def Place.next? (place : Place) (c : Char) : Option Place :=
  match place, c with
  | start, ' ' => some start
  | start, c => if isTokenChar c then some name else none
  | name, '=' => some equals
  | name, c => if isTokenChar c then some name else none
  | equals, '"' => some quote
  | equals, c => if isTokenChar c then some value else none
  | value, ';' => some start
  | value, c => if isTokenChar c then some value else none
  | quoted, '"' => some closed
  | quote, c | quoted, c => if ' ' ≤ c && c < '\x7f' then some quoted else none
  | closed, ';' => some start
  | closed, ' ' => some closed
  | closed, _ => none

def Place.mayEnd : Place → Bool
  | start | equals | value | closed => true
  | name | quote | quoted => false

/-- The text behind a first semicolon. -/
def areParameters (cs : List Char) : Bool :=
  (cs.foldlM Place.next? .start).any Place.mayEnd

/-- A subtype and its suffix, which follows the last plus sign unless that is in front of all. -/
def splitSuffix (cs : List Char) : List Char × Option (List Char) :=
  let suffix := (cs.reverse.takeWhile (· != '+')).reverse
  let before := cs.take (cs.length - suffix.length - 1)
  if before.isEmpty then (cs, none) else (before, some suffix)

def ofText? (text : String) : Option MediaType :=
  let cs := text.toList
  let family := cs.takeWhile isTokenChar
  match cs.dropWhile isTokenChar with
  | '/' :: rest =>
    let (subtype, suffix) := splitSuffix (rest.takeWhile isTokenChar)
    let complete :=
      match rest.dropWhile isTokenChar with
      | [] => true
      | ';' :: parameters => !subtype.isEmpty && areParameters parameters
      | _ => false
    if !family.isEmpty && complete then
      some ⟨(String.ofList family).toLower, (String.ofList subtype).toLower,
        suffix.map fun cs => (String.ofList cs).toLower⟩
    else none
  | _ => none

def isJson (m : MediaType) : Bool :=
  m.family == "application" && (m.subtype == "json" || m.suffix == some "json")

end MediaType
end Reckoner.Http
