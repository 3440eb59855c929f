import Reckoner.Yaml.Scalar
import Reckoner.Yaml.Token

/-! Reading the tokens of a YAML text as a document. A table has all entries that are written. -/
namespace Reckoner.Yaml

/-- A collection that is not closed yet, with what it holds so far. Items and entries stand in
reverse order. -/
inductive Frame where
  | sequence (items : List Document)
  /-- A sequence in the column of the key that it belongs to. It ends where no entry follows. -/
  | openSequence (items : List Document)
  | mapping (entries : List (String × Document)) (key : String)
  | list (items : List Document)
  | table (entries : List (String × Document)) (key : String)
  /-- A single entry as an item of a list. -/
  | entry (key : String)

/-- What is expected next. -/
inductive Phase where
  | value
  | item (items : List Document)
  | entry (entries : List (String × Document))
  | after (value : Document)

def Phase.rank : Phase → Nat
  | after _ => 0
  | _ => 1

/-- How many collections may be open within each other. -/
def depthLimit : Nat := 128

/-- How many collections are being read that do not stand on the stack. -/
def Phase.depth : Phase → Nat
  | item _ | entry _ => 1
  | _ => 0

/-- Something may be left out after a dash or a colon. -/
def Frame.allowsNothing : Frame → Token → Bool
  | sequence _, .entry | sequence _, .closeBlock => true
  | openSequence _, .entry | openSequence _, .closeBlock | openSequence _, .key _ => true
  | mapping .., .key _ | mapping .., .closeBlock => true
  | table .., .comma | table .., .closeTable => true
  | entry _, .comma | entry _, .closeList => true
  | _, _ => false

/-- Reads up to the end of the outermost value, after which only marks may follow. -/
def build? (stack : List Frame) (phase : Phase) (tokens : List Token) : Option Document :=
  if depthLimit < stack.length + phase.depth then none
  else match phase, tokens, stack with
  | .value, .scalar text plain :: rest, _ =>
    build? stack (.after (if plain then plainScalar text else .text text)) rest
  | .value, .openSequence :: .entry :: rest, _ => build? (.sequence [] :: stack) .value rest
  | .value, .openMapping :: .key key :: rest, _ => build? (.mapping [] key :: stack) .value rest
  | .value, .openList :: rest, _ => build? stack (.item []) rest
  | .value, .openTable :: rest, _ => build? stack (.entry []) rest
  | .value, .entry :: rest, .mapping .. :: _ => build? (.openSequence [] :: stack) .value rest
  | .value, token :: rest, frame :: stack =>
    if frame.allowsNothing token then build? (frame :: stack) (.after .null) (token :: rest)
    else none
  | .item items, .closeList :: rest, _ => build? stack (.after (.list items.reverse)) rest
  | .item items, .key key :: rest, _ => build? (.entry key :: .list items :: stack) .value rest
  | .item items, .scalar text plain :: rest, _ =>
    build? (.list items :: stack) (.after (if plain then plainScalar text else .text text)) rest
  | .item items, .openList :: rest, _ => build? (.list items :: stack) (.item []) rest
  | .item items, .openTable :: rest, _ => build? (.list items :: stack) (.entry []) rest
  | .entry entries, .closeTable :: rest, _ => build? stack (.after (.table entries.reverse)) rest
  | .entry entries, .key key :: rest, _ => build? (.table entries key :: stack) .value rest
  | .entry entries, .scalar key _ :: rest, _ =>
    build? (.table entries key :: stack) (.after .null) rest
  | .after value, tokens, [] => if tokens.all (· == .documentEnd) then some value else none
  | .after value, .entry :: rest, .sequence items :: stack =>
    build? (.sequence (value :: items) :: stack) .value rest
  | .after value, .closeBlock :: rest, .sequence items :: stack =>
    build? stack (.after (.list (value :: items).reverse)) rest
  | .after value, .entry :: rest, .openSequence items :: stack =>
    build? (.openSequence (value :: items) :: stack) .value rest
  | .after value, tokens, .openSequence items :: stack =>
    build? stack (.after (.list (value :: items).reverse)) tokens
  | .after value, .key next :: rest, .mapping entries key :: stack =>
    build? (.mapping ((key, value) :: entries) next :: stack) .value rest
  | .after value, .closeBlock :: rest, .mapping entries key :: stack =>
    build? stack (.after (.table ((key, value) :: entries).reverse)) rest
  | .after value, .comma :: rest, .list items :: stack => build? stack (.item (value :: items)) rest
  | .after value, .closeList :: rest, .list items :: stack =>
    build? stack (.after (.list (value :: items).reverse)) rest
  | .after value, .comma :: rest, .table entries key :: stack =>
    build? stack (.entry ((key, value) :: entries)) rest
  | .after value, .closeTable :: rest, .table entries key :: stack =>
    build? stack (.after (.table ((key, value) :: entries).reverse)) rest
  | .after value, tokens, .entry key :: stack =>
    build? stack (.after (.table [(key, value)])) tokens
  | _, _, _ => none
termination_by (tokens.length, stack.length, phase.rank)
decreasing_by all_goals grind [Phase.rank]

/-- The entries of a YAML text with at most one document, which holds a table or nothing. Nothing is
a document if it is marked as one. Anchors, aliases, tags, block scalars, directives and explicit
keys are not part of the YAML that is read here. -/
def readTable? (text : String) : Option (List (String × Document)) := do
  let tokens ← tokens? text
  let content := if tokens.head? == some .documentStart then tokens.drop 1 else tokens
  if tokens.isEmpty || (content.length < tokens.length && content.all (· == .documentEnd)) then
    return []
  match ← build? [] .value content with
  | .table entries => return entries
  | _ => none

end Reckoner.Yaml
