import Reckoner.Decimal.Shortest
import Reckoner.Text.Numeral

/-! Binary64 numbers read from text: digits with at most one point and perhaps an exponent, or
a word for what is no finite number, and a sign in front of either. -/
namespace Reckoner.Decimal

open Text (digitsValue exponentValue isUnsignedDecimal)

/-- The number nearest to the decimal, with the given sign. -/
def nearest (d : Decimal) (negative : Bool) : Binary64 :=
  .ofRatio negative (d.digits * Nat.pow 10 d.exponent.toNat * Binary64.unitsPerOne)
    (Nat.pow 10 (-d.exponent).toNat)

/-- The decimal that is written without a sign. -/
def unsigned? (cs : List Char) : Option Decimal :=
  if isUnsignedDecimal cs then
    let whole := cs.takeWhile Char.isDigit
    let (places, exponent) :=
      match cs.dropWhile Char.isDigit with
      | '.' :: rest => (rest.takeWhile Char.isDigit, rest.dropWhile Char.isDigit)
      | rest => ([], rest)
    some ⟨digitsValue (whole ++ places), exponentValue exponent - places.length⟩
  else none

/-- Words of either case for what is no finite number. -/
def word? (negative : Bool) (cs : List Char) : Option Binary64 :=
  let word := cs.map Char.toLower
  if word = "inf".toList ∨ word = "infinity".toList then some (.infinity negative)
  else if word = "nan".toList then some { Binary64.nan with negative }
  else none

/-- The number that is written, as near as there is one. -/
def read? (cs : List Char) : Option Binary64 :=
  let (negative, unsigned) :=
    match cs with
    | '-' :: rest => (true, rest)
    | '+' :: rest => (false, rest)
    | _ => (false, cs)
  match unsigned? unsigned with
  | some d => some (d.nearest negative)
  | none => word? negative unsigned

end Reckoner.Decimal
