import Reckoner.Yaml.Literal

/-!
Tokens of a YAML text: block and flow collections, plain and quoted scalars. Block collections are
opened and closed by indentation. Anchors, tags, block scalars, complex keys and directives are
refused.
-/
namespace Reckoner.Yaml

inductive Token where
  /-- Marks between documents. -/
  | documentStart | documentEnd
  /-- A block collection is opened by its first entry or key, and closed by less indentation. -/
  | openSequence | openMapping | closeBlock
  /-- The dash of an entry. -/
  | entry
  /-- A scalar and the colon after it. -/
  | key (name : String)
  | scalar (text : String) (plain : Bool)
  | openList | closeList | openTable | closeTable | comma
  deriving DecidableEq, Repr

/-- What is still to be read, in which column, within how many flow collections and which block
collections (their columns, the innermost first), and whether a key or entry may stand here. -/
structure Scan where
  rest : List Char
  column : Nat
  flowDepth : Nat
  blocks : List Nat
  keyAllowed : Bool

namespace Scan

/-- Passes blanks, breaks and comments, and a byte order mark in front of a line. Within a block,
tabs do not stand for indentation. -/
def skip (flow : Bool) (column : Nat) (keyAllowed : Bool) (cs : List Char) :
    List Char × Nat × Bool :=
  match cs with
  | [] => (cs, column, keyAllowed)
  | c :: rest =>
    if isBreak c then skip flow 0 (keyAllowed || !flow) rest
    else if c == ' ' || (c == '\t' && (flow || !keyAllowed)) || (c == '\ufeff' && column == 0) then
      skip flow (column + 1) keyAllowed rest
    else if c == '#' then skip flow column keyAllowed (rest.dropWhile (!isBreak ·))
    else (cs, column, keyAllowed)
termination_by cs.length
decreasing_by
  · simp
  · simp
  · exact Nat.lt_succ_of_le (List.dropWhile_sublist _).length_le

def toToken (s : Scan) : Scan :=
  let (rest, column, keyAllowed) := skip (0 < s.flowDepth) s.column s.keyAllowed s.rest
  { s with rest, column, keyAllowed }

/-- Block collections in a column to the right of this one have come to their end. -/
def closeBlocks (s : Scan) : List Token × Scan :=
  if 0 < s.flowDepth then ([], s)
  else
    ((s.blocks.takeWhile (s.column < ·)).map fun _ => .closeBlock,
      { s with blocks := s.blocks.dropWhile (s.column < ·) })

/-- Opens a block collection in this column, unless there is one. -/
def openBlock (token : Token) (s : Scan) : List Token × Scan :=
  if s.blocks.head?.all (· < s.column) then
    ([token], { s with blocks := s.column :: s.blocks })
  else ([], s)

/-- The indentation of further lines of a scalar. -/
def indent (s : Scan) : Nat :=
  match s.blocks with
  | [] => 0
  | column :: _ => column + 1

/-- A mark of a flow collection. -/
def flowToken (token : Token) (flowDepth : Nat) (keyAllowed : Bool) (s : Scan) :
    List Token × Scan :=
  ([token], { s with rest := s.rest.drop 1, column := s.column + 1, flowDepth, keyAllowed })

/-- A mark between documents, before which all block collections end. -/
def documentToken (token : Token) (s : Scan) : List Token × Scan :=
  ((s.blocks.map fun _ => .closeBlock) ++ [token],
    { s with
      rest := s.rest.drop 3, column := s.column + 3, blocks := [], keyAllowed := false })

/-- In the column of a block collection, where a key may stand, nothing else may. -/
def needsKey (s : Scan) : Bool :=
  s.flowDepth == 0 && s.keyAllowed && s.blocks.head? == some s.column

/-- How many bytes a colon may be from the start of its key. -/
def keyReach : Nat := 1024

/-- A scalar has been read: it is a key if a colon follows near enough in the same line. -/
def afterScalar? (s : Scan) (plain : Bool) (literal : Literal) : Option (List Token × Scan) :=
  let flow := 0 < s.flowDepth
  let text := String.ofList literal.text
  let column := literal.column + (literal.rest.takeWhile isBlank).length
  let isNear : Bool := Text.byteLength (s.rest.take (column - s.column)) ≤ keyReach
  let isKeyMark : List Char → Bool
    | ':' :: rest => !literal.broken && (flow || endsWord rest) && isNear
    | _ => false
  let rest := literal.rest.dropWhile isBlank
  if isKeyMark rest then
    if flow || s.keyAllowed then
      let (opened, s) := if flow then ([], s) else s.openBlock .openMapping
      some (opened ++ [.key text],
        { s with rest := rest.drop 1, column := column + 1, keyAllowed := false })
    else none
  else if s.needsKey then none
  else
    some ([.scalar text plain],
      { s with rest := literal.rest, column := literal.column, keyAllowed := literal.lineEnded })

/-- The tokens that start here, where there is neither a blank nor the end of the text. -/
def next? (s : Scan) : Option (List Token × Scan) :=
  let flow := 0 < s.flowDepth
  match s.rest with
  | [] => none
  | c :: rest =>
    if s.column == 0 && isDocumentMark s.rest then
      some (s.documentToken (if c == '-' then .documentStart else .documentEnd))
    else match c with
    | '[' => if s.needsKey then none else some (s.flowToken .openList (s.flowDepth + 1) true)
    | '\x7b' => if s.needsKey then none else some (s.flowToken .openTable (s.flowDepth + 1) true)
    | ']' => if flow then some (s.flowToken .closeList (s.flowDepth - 1) false) else none
    | '\x7d' => if flow then some (s.flowToken .closeTable (s.flowDepth - 1) false) else none
    | ',' => if flow then some (s.flowToken .comma s.flowDepth true) else none
    | '"' | '\'' => do s.afterScalar? false (← Literal.takeQuoted? c [] false (s.column + 1) rest)
    | '#' | '&' | '*' | '!' | '|' | '>' | '%' | '@' | '\x60' | '\t' => none
    | _ =>
      if c == '-' && endsWord rest then
        if flow || !s.keyAllowed then none
        else
          let (opened, s) := s.openBlock .openSequence
          some (opened ++ [.entry], { s with rest, column := s.column + 1, keyAllowed := true })
      else if (c == '?' || c == ':') && (flow || endsWord rest) then none
      else do
        s.afterScalar? true (← Literal.takePlain? flow s.indent [] [] false s.column (c :: rest))

/-- All tokens from here on, behind those before in reverse order. Each step has to take
a character. -/
def tokensAfter? (before : List Token) (s : Scan) : Option (List Token) :=
  let t := s.toToken
  if t.rest.isEmpty then some (before.reverse ++ t.blocks.map fun _ => .closeBlock)
  else
    let (closed, t) := t.closeBlocks
    match t.next? with
    | none => none
    | some (tokens, t) =>
      if t.rest.length < s.rest.length then
        tokensAfter? (tokens.reverse ++ (closed.reverse ++ before)) t
      else none
termination_by s.rest.length

end Scan

/-- The tokens of a text. -/
def tokens? (text : String) : Option (List Token) :=
  let cs := text.toList
  if cs.all isPrintable then Scan.tokensAfter? [] ⟨normalizeBreaks cs, 0, 0, [], true⟩ else none

end Reckoner.Yaml
