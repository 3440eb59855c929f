import Reckoner.Binary64.Basic

/-! Rounding of a nonnegative fraction to the nearest binary64 number, ties to even. -/
namespace Reckoner

inductive Tie where
  | toEven | up
  deriving DecidableEq, Repr

/-- The natural number nearest to `n / d`. -/
def Tie.nearest (tie : Tie) (n d : Nat) : Nat :=
  let below := n / d
  let twice := 2 * (n % d)
  if twice < d then below
  else if d < twice then below + 1
  else match tie with
    | .toEven => below + below % 2
    | .up => below + 1

namespace Binary64

/-- The rank of the magnitude nearest to `n / d` units. The step between two neighbours doubles in
every binade, so the quotient is rounded to a multiple of that step; a significand that is rounded
up to two binades carries into the next one by itself. -/
def nearestRank (n d : Nat) : Nat :=
  let doublings := (n / d).log2 - 52
  min (doublings * binade + Tie.toEven.nearest n (d * Nat.pow 2 doublings)) infinityRank

theorem nearestRank_le (n d : Nat) : nearestRank n d ≤ infinityRank := Nat.min_le_right _ _

/-- The number nearest to `n / d` units, with the given sign. -/
def ofRatio (negative : Bool) (n d : Nat) : Binary64 :=
  ⟨negative, nearestRank n d, Nat.lt_of_le_of_lt (nearestRank_le n d) (by decide)⟩

/-- The number nearest to `digits / 10 ^ places`. -/
def ofDecimal (digits places : Nat) : Binary64 :=
  ofRatio false (digits * unitsPerOne) (Nat.pow 10 places)

end Binary64
end Reckoner
