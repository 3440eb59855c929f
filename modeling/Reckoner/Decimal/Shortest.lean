import Reckoner.Binary64.Rounding

/-! The shortest decimal that reads back to a binary64 number, found on the coarsest decimal grid
that holds one. -/
namespace Reckoner

/-- The number `digits * 10 ^ exponent`. -/
structure Decimal where
  digits : Nat
  exponent : Int
  deriving DecidableEq, Repr

namespace Decimal

/-- Grid `j` consists of the multiples of `10 ^ (j - 1074)`, which is `10 ^ j / 5 ^ 1074` units. -/
def gridScale : Nat := Nat.pow 5 1074

/-- Point `t` of grid `j` reads back to the magnitude of this rank. -/
def readsBack (rank j t : Nat) : Bool :=
  Binary64.nearestRank (t * Nat.pow 10 j) gridScale == rank

/-- The point of grid `j` that reads back to the rank, the nearer one if both neighbours of the
magnitude do. -/
def onGrid (tie : Tie) (rank j : Nat) : Option Nat :=
  let scaled := Binary64.magnitude rank * gridScale
  let below := scaled / Nat.pow 10 j
  if readsBack rank j below then
    some (if readsBack rank j (below + 1) then tie.nearest scaled (Nat.pow 10 j) else below)
  else if readsBack rank j (below + 1) then some (below + 1)
  else none

/-- The point on the coarsest of the grids up to `j`; on the finest grid every magnitude is
a point itself. -/
def onCoarsestGrid (tie : Tie) (rank : Nat) : Nat → Decimal
  | 0 => ⟨Binary64.magnitude rank * gridScale, -1074⟩
  | j + 1 =>
    ((onGrid tie rank (j + 1)).map fun t => ⟨t, (j + 1 : Int) - 1074⟩).getD
      (onCoarsestGrid tie rank j)

/-- A grid whose least positive point is at least `2 ^ bits` units. -/
def gridAbove (bits : Nat) : Nat :=
  if bits ≤ 1074 then 1074 - (1074 - bits) * 3 / 10 else 1074 + (bits - 1074 + 2) / 3

/-- The decimal with the fewest digits that reads back to the magnitude of `x`, the nearest of
several; `tie` decides between two that are equally near. -/
def shortest (tie : Tie) (x : Binary64) : Decimal :=
  if x.isZero then ⟨0, 0⟩
  else onCoarsestGrid tie x.rank (gridAbove ((Binary64.magnitude x.rank).log2 + 1))

end Decimal
end Reckoner
