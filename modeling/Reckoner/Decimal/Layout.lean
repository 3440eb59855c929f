import Reckoner.Decimal.Shortest

/-! Layouts in which a binary64 number is written. -/
namespace Reckoner

structure Layout where
  tie : Tie
  /-- Whether a number whose point stands after so many digits is written without an exponent. -/
  positional : Int → Bool
  /-- Follows a whole number that is written without an exponent. -/
  wholeEnding : List Char
  /-- Names of the infinities and of what is not a number. -/
  infinity : List Char
  negativeInfinity : List Char
  nan : List Char

namespace Layout

/-- Plain digits, whatever their number. -/
def plain : Layout where
  tie := .up
  positional _ := true
  wholeEnding := []
  infinity := "inf".toList
  negativeInfinity := "-inf".toList
  nan := "NaN".toList

/-- The numbers of a JSON text, which has none for infinities. -/
def json : Layout where
  tie := .toEven
  positional point := -5 < point && point ≤ 16
  wholeEnding := ".0".toList
  infinity := "null".toList
  negativeInfinity := "null".toList
  nan := "null".toList

/-- The digits with a point after the first `point` of them, or with zeros filled in. -/
def writePositional (layout : Layout) (digits : List Char) (point : Int) : List Char :=
  if digits.length ≤ point then
    digits ++ List.replicate (point.toNat - digits.length) '0' ++ layout.wholeEnding
  else if 0 < point then
    digits.take point.toNat ++ '.' :: digits.drop point.toNat
  else
    '0' :: '.' :: (List.replicate point.natAbs '0' ++ digits)

def writeScientific (digits : List Char) (point : Int) : List Char :=
  let exponent := point - 1
  digits.take 1 ++ (if digits.length ≤ 1 then [] else '.' :: digits.drop 1)
    ++ 'e' :: (if exponent < 0 then '-' else '+') :: Nat.toDigits 10 exponent.natAbs

def writeDecimal (layout : Layout) (d : Decimal) : List Char :=
  let digits := Nat.toDigits 10 d.digits
  let point := d.exponent + digits.length
  if layout.positional point then layout.writePositional digits point
  else writeScientific digits point

def write (layout : Layout) (x : Binary64) : List Char :=
  if x.isNaN then layout.nan
  else if x.isInfinite then if x.negative then layout.negativeInfinity else layout.infinity
  else (if x.negative then ['-'] else []) ++ layout.writeDecimal (Decimal.shortest layout.tie x)

end Layout

/-- The shortest digits that read back to the number, without an exponent. -/
def Binary64.text (x : Binary64) : String := String.ofList (Layout.plain.write x)

end Reckoner
