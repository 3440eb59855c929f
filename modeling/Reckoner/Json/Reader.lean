import Reckoner.Document
import Reckoner.Json.Token

/-! Reading one JSON value, with the lists and tables around the current place on a stack. -/
namespace Reckoner.Json

/-- A number as it was written. -/
def Numeral.literal (n : Numeral) : List Char :=
  (if n.negative then ['-'] else []) ++ n.whole
    ++ (if n.places.isEmpty then [] else '.' :: n.places)
    ++ match n.exponent with
      | none => []
      | some (negative, digits) => 'e' :: (if negative then ['-'] else []) ++ digits

def Numeral.document (n : Numeral) : Document :=
  if n.negative || !n.places.isEmpty || n.exponent.isSome then .number (String.ofList n.literal)
  else .natural (Text.digitsValue n.whole)

/-- A list or table that is not closed yet, with what it holds so far in reverse order. -/
inductive Frame where
  | list (items : List Document)
  | table (entries : List (String × Document)) (key : String)

/-- What is expected next: a value, the key of an entry, or what may follow a value. -/
inductive Phase where
  | value
  | key (entries : List (String × Document))
  | after (value : Document)

/-- Reads up to the end of the outermost value and returns it with what follows. The meaning of
strings is left to `decode`. -/
def readFrom (decode : List StringUnit → Option String) (stack : List Frame) (phase : Phase)
    (input : List (Option Char)) : Option (Document × List (Option Char)) :=
  match phase, stack with
  | .after value, [] => some (value, input)
  | phase, stack =>
    match _h : nextToken? input with
    | none => none
    | some (token, rest) =>
      match phase, token, stack with
      | .value, .null, _ => readFrom decode stack (.after .null) rest
      | .value, .bool b, _ => readFrom decode stack (.after (.bool b)) rest
      | .value, .number numeral, _ => readFrom decode stack (.after numeral.document) rest
      | .value, .text units, _ =>
        match decode units with
        | some text => readFrom decode stack (.after (.text text)) rest
        | none => none
      | .value, .openList, _ =>
        match _h' : nextToken? rest with
        | some (.closeList, rest') => readFrom decode stack (.after (.list [])) rest'
        | _ => readFrom decode (.list [] :: stack) .value rest
      | .value, .openTable, _ =>
        match _h' : nextToken? rest with
        | some (.closeTable, rest') => readFrom decode stack (.after (.table [])) rest'
        | _ => readFrom decode stack (.key []) rest
      | .key entries, .text units, _ =>
        match decode units, _h' : nextToken? rest with
        | some key, some (.colon, rest') =>
          readFrom decode (.table entries key :: stack) .value rest'
        | _, _ => none
      | .after value, .comma, .list items :: stack =>
        readFrom decode (.list (value :: items) :: stack) .value rest
      | .after value, .closeList, .list items :: stack =>
        readFrom decode stack (.after (.list (value :: items).reverse)) rest
      | .after value, .comma, .table entries key :: stack =>
        readFrom decode stack (.key ((key, value) :: entries)) rest
      | .after value, .closeTable, .table entries key :: stack =>
        readFrom decode stack (.after (.table ((key, value) :: entries).reverse)) rest
      | _, _, _ => none
termination_by input.length
decreasing_by
  all_goals
    have := length_nextToken?_lt ‹nextToken? input = _›
    try have := length_nextToken?_lt ‹nextToken? rest = _›
    omega

theorem length_readFrom_le {decode : List StringUnit → Option String} {stack : List Frame}
    {phase : Phase} {input rest : List (Option Char)} {value : Document}
    (h : readFrom decode stack phase input = some (value, rest)) : rest.length ≤ input.length := by
  fun_induction readFrom decode stack phase input
  all_goals grind [→ length_nextToken?_lt]

/-- The value at the front, whose strings have to be characters all through. -/
def readValue? (input : List (Option Char)) : Option (Document × List (Option Char)) :=
  readFrom decodeString? [] .value input

/-- What follows the value at the front. Nothing is asked of its strings but their form. -/
def skipValue? (input : List (Option Char)) : Option (List (Option Char)) :=
  (readFrom (fun _ => some "") [] .value input).map (·.2)

/-- The value of a text that holds nothing else. -/
def read? (text : String) : Option Document :=
  match readValue? (text.toList.map some) with
  | some (value, rest) => if rest.all isBlank then some value else none
  | none => none

end Reckoner.Json
