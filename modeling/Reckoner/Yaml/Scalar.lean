import Reckoner.Binary64.Rounding
import Reckoner.Document
import Reckoner.Text.Numeral

/-! What a plain scalar of a YAML text stands for. -/
namespace Reckoner.Yaml

open Text (digitsValue exponentValue isUnsignedDecimal)

/-- Whole numbers take at most 128 bits. -/
def wholeSize : Nat := UInt64.size * UInt64.size

/-- A number without sign, in one of four radices. A zero in front of other digits is refused. -/
def unsigned? : List Char → Option Nat
  | '0' :: 'x' :: digits => Text.natural? 16 digits
  | '0' :: 'o' :: digits => Text.natural? 8 digits
  | '0' :: 'b' :: digits => Text.natural? 2 digits
  | '0' :: _ :: _ => none
  | digits => Text.natural? 10 digits

def dropPlus : List Char → List Char
  | '+' :: rest => rest
  | cs => cs

/-- A whole number with or without a plus sign. -/
def natural? (cs : List Char) : Option Nat := (unsigned? (dropPlus cs)).filter (· < wholeSize)

/-- A whole number after a minus sign. -/
def negated? : List Char → Option Nat
  | '-' :: rest => (unsigned? rest).filter fun n => 2 * n ≤ wholeSize
  | _ => none

/-- The number `digits * 10 ^ scale` is not beyond the finite binary64 numbers. All numbers with
fewer than 309 digits before the point are not, all with more are. -/
def isInRange (digits : Nat) (scale : Int) : Bool :=
  let size := (Nat.toDigits 10 digits).length + scale
  digits == 0 || size < 309 ||
    (size == 309 &&
      (Binary64.ofRatio false (digits * Nat.pow 10 scale.toNat * Binary64.unitsPerOne)
        (Nat.pow 10 (-scale).toNat)).isFinite)

/-- A decimal without sign that is not too large to be a number. -/
def isUnsignedNumber (cs : List Char) : Bool :=
  let isNumeral (c : Char) : Bool := c.isDigit || c == '.'
  let numeral := cs.takeWhile isNumeral
  let places := (numeral.dropWhile (· != '.')).drop 1
  isUnsignedDecimal cs &&
    isInRange (digitsValue (numeral.filter Char.isDigit))
      (exponentValue (cs.dropWhile isNumeral) - places.length)

/-- Digits after a zero are no number, and neither is a sign after a sign. -/
def isDecimal (cs : List Char) : Bool :=
  let unsigned :=
    match cs with
    | '+' :: rest | '-' :: rest => rest
    | _ => cs
  let zeroPadded :=
    match unsigned with
    | '0' :: digit :: digits => (digit :: digits).all Char.isDigit
    | _ => false
  isUnsignedNumber unsigned && !zeroPadded

/-- Words for nothing, truth values and numbers; all else is text, also numbers in digits that are
too large to be read as decimals. -/
def plainScalar (text : String) : Document :=
  match text with
  | "" | "~" | "null" | "Null" | "NULL" => .null
  | "true" | "True" | "TRUE" => .bool true
  | "false" | "False" | "FALSE" => .bool false
  | ".inf" | ".Inf" | ".INF" | "+.inf" | "+.Inf" | "+.INF" | "-.inf" | "-.Inf" | "-.INF"
  | ".nan" | ".NaN" | ".NAN" => .number text
  | text =>
    let cs := text.toList
    match natural? cs, negated? cs with
    | some n, _ => .natural n
    | none, some n => .negative n
    | none, none => if isDecimal cs then .number text else .text text

end Reckoner.Yaml
