import Reckoner.Json.Reader
import Reckoner.Json.Writer
import Reckoner.Limits

/-!
What an evaluation request holds, and what is sent back.

A request is a JSON table whose entry `expression` is a string, or a list of that string alone. It
is read from the front, and a value of another kind is found out as soon as its form is known,
before any mistake that comes after it.
-/
namespace Reckoner

namespace Json.Numeral

/-- The significand, as many of its digits as fit into 64 bits, and the number of digits that the
point has to move to the right. -/
structure Significand where
  value : Nat
  shift : Int
  full : Bool
  deriving DecidableEq, Repr

def Significand.push? (s : Significand) (digit : Char) : Option Significand :=
  let value := 10 * s.value + (digit.toNat - '0'.toNat)
  if value < UInt64.size then some { s with value } else none

/-- A digit in front of the point counts even if there is no room for it. -/
def Significand.pushWhole (s : Significand) (digit : Char) : Significand :=
  if s.full then { s with shift := s.shift + 1 }
  else (s.push? digit).getD { s with shift := s.shift + 1, full := true }

/-- A place behind the point is dropped if there is no room for it, with all that follow. -/
def Significand.pushPlace (s : Significand) (digit : Char) : Significand :=
  if s.full then s
  else ((s.push? digit).map fun t => { t with shift := t.shift - 1 }).getD { s with full := true }

def significand (n : Numeral) : Significand :=
  let whole := n.whole.foldl Significand.pushWhole ⟨0, 0, false⟩
  n.places.foldl Significand.pushPlace { whole with full := false }

/-- The number does not exceed the finite binary64 numbers, computed as the product of its
significand and a power of ten. -/
def isRepresentable (n : Numeral) : Bool :=
  let s := n.significand
  let exponent : Int :=
    match n.exponent with
    | none => 0
    | some (negative, digits) =>
      let size := Text.digitsValue digits
      if negative then -size else size
  let shift := s.shift + exponent
  s.value == 0 || shift < 0 ||
    (shift ≤ 308 &&
      ((Binary64.ofDecimal s.value 0).mul (Binary64.ofDecimal (Nat.pow 10 shift.toNat) 0)).isFinite)

end Json.Numeral

namespace Http

inductive PayloadError where
  /-- Not a JSON text. -/
  | malformed
  /-- A JSON text up to a value of the wrong kind. -/
  | wrongKind
  deriving DecidableEq, Repr

open Json

/-- Why the value at the front is no table, list or string that was looked for. -/
def kindError (input : List (Option Char)) : PayloadError :=
  match nextToken? input with
  | some (.null, _) | some (.bool _, _) | some (.openList, _) | some (.openTable, _) => .wrongKind
  | some (.number numeral, _) => if numeral.isRepresentable then .wrongKind else .malformed
  | some (.text units, _) => if (decodeString? units).isSome then .wrongKind else .malformed
  | _ => .malformed

/-- The string at the front and what follows it. -/
def readString (input : List (Option Char)) :
    Except PayloadError (String × List (Option Char)) :=
  match nextToken? input with
  | some (.text units, rest) =>
    match decodeString? units with
    | some text => .ok (text, rest)
    | none => .error .malformed
  | _ => .error (kindError input)

theorem length_readString_lt {input rest : List (Option Char)} {text : String}
    (h : readString input = .ok (text, rest)) : rest.length < input.length := by
  unfold readString at h
  grind [→ length_nextToken?_lt]

theorem length_skipValue?_le {input rest : List (Option Char)} (h : skipValue? input = some rest) :
    rest.length ≤ input.length := by
  simp only [skipValue?, Option.map_eq_some_iff] at h
  obtain ⟨⟨_, _⟩, hread, rfl⟩ := h
  exact length_readFrom_le hread

/-- The rest of a table, from a key on, in which `found` was read before. Entries of other names
are skipped. -/
def readEntries (found : Option String) (input : List (Option Char)) :
    Except PayloadError (String × List (Option Char)) :=
  match _hkey : nextToken? input with
  | some (.text units, rest) =>
    match decodeString? units with
    | none => .error .malformed
    | some key =>
      if key = "expression" && found.isSome then .error .wrongKind
      else
        match _hcolon : nextToken? rest with
        | some (.colon, rest) =>
          if key = "expression" then
            match _hvalue : readString rest with
            | .error error => .error error
            | .ok (text, rest) =>
              match _hend : nextToken? rest with
              | some (.comma, rest) => readEntries (some text) rest
              | some (.closeTable, rest) => .ok (text, rest)
              | _ => .error .malformed
          else
            match _hvalue : skipValue? rest with
            | none => .error .malformed
            | some rest =>
              match _hend : nextToken? rest with
              | some (.comma, rest) => readEntries found rest
              | some (.closeTable, rest) => .ok (found.getD "", rest)
              | _ => .error .malformed
        | _ => .error .malformed
  | _ => .error .malformed
termination_by input.length
decreasing_by
  all_goals grind [→ length_nextToken?_lt, → length_readString_lt, → length_skipValue?_le]

/-- The expression of a table or list, and what follows it. -/
def readRequest (input : List (Option Char)) :
    Except PayloadError (String × List (Option Char)) :=
  match nextToken? input with
  | some (.openTable, rest) =>
    match nextToken? rest with
    | some (.closeTable, rest) => .ok ("", rest)
    | _ => readEntries none rest
  | some (.openList, rest) =>
    match nextToken? rest with
    | some (.closeList, rest) => .ok ("", rest)
    | _ =>
      match readString rest with
      | .error error => .error error
      | .ok (text, rest) =>
        match nextToken? rest with
        | some (.closeList, rest) => .ok (text, rest)
        | _ => .error .malformed
  | _ => .error (kindError input)

/-- The expression asked for, empty if there is none. Nothing but blanks may follow it. -/
def readExpression (input : List (Option Char)) : Except PayloadError String := do
  let (text, rest) ← readRequest input
  if rest.all isBlank then .ok text else .error .malformed

/-- The reply to an expression that has a value. -/
def resultPayload (value : Binary64) : Document :=
  .table [("result", .number (String.ofList (Layout.json.write value)))]

/-- A text that is no expression is the client's mistake; an expression without a finite value was
understood. -/
def statusOf : Rejection → Nat
  | .lexical _ | .grammar _ => 400
  | .arithmetic _ => 422

def errorPayload (message : String) : Document := .table [("error", .text message)]

end Http
end Reckoner
