/-! Binary floating point numbers of width 64, with their values in units of `2 ^ -1074`. -/
namespace Reckoner

/-- The weight of the sign in a word, `2 ^ 63`. -/
def Binary64.signWeight : Nat := 0x8000000000000000

/-- The magnitudes are ranked in increasing order: zero is 0, the least subnormal number 1, and
the infinity comes after the last finite one. Higher ranks belong to the numbers that are none. -/
structure Binary64 where
  negative : Bool
  rank : Nat
  rank_lt : rank < Binary64.signWeight
  deriving DecidableEq, Repr

namespace Binary64

/-- The number of ranks from a power of two to the next, `2 ^ 52`. -/
def binade : Nat := 0x10000000000000

def infinityRank : Nat := 2047 * binade

def isFinite (x : Binary64) : Bool := x.rank < infinityRank

def isNaN (x : Binary64) : Bool := infinityRank < x.rank

def isInfinite (x : Binary64) : Bool := x.rank == infinityRank

def isZero (x : Binary64) : Bool := x.rank == 0

def zero (negative : Bool) : Binary64 := ⟨negative, 0, by decide⟩

def infinity (negative : Bool) : Binary64 := ⟨negative, infinityRank, by decide⟩

def nan : Binary64 := ⟨false, infinityRank + binade / 2, by decide⟩

/-- The word holds the sign in its highest bit and the rank below it. -/
def ofBits (word : UInt64) : Binary64 :=
  ⟨signWeight ≤ word.toNat, word.toNat % signWeight, Nat.mod_lt _ (by decide)⟩

def toBits (x : Binary64) : UInt64 :=
  UInt64.ofNat ((if x.negative then signWeight else 0) + x.rank)

/-- The magnitude of a rank, in units of `2 ^ -1074`: consecutive through two binades, after
that with a step that doubles in every binade. The rank of infinity stands for `2 ^ 1024`. -/
def magnitude (rank : Nat) : Nat :=
  if rank < 2 * binade then rank
  else (binade + rank % binade) * Nat.pow 2 (rank / binade - 1)

/-- One, in units of `2 ^ -1074`. -/
def unitsPerOne : Nat := Nat.pow 2 1074

/-- The value in units of `2 ^ -1074`. -/
def units (x : Binary64) : Int :=
  if x.negative then -(magnitude x.rank : Int) else magnitude x.rank

def neg (x : Binary64) : Binary64 := { x with negative := !x.negative }

/-- Equality of values: the two zeros are one, and what is not a number equals nothing. -/
def sameValue (x y : Binary64) : Bool :=
  !x.isNaN && !y.isNaN && (x == y || (x.isZero && y.isZero))

@[simp] theorem neg_neg (x : Binary64) : x.neg.neg = x := by simp [neg]

@[simp] theorem isFinite_neg (x : Binary64) : x.neg.isFinite = x.isFinite := rfl

@[simp] theorem isZero_neg (x : Binary64) : x.neg.isZero = x.isZero := rfl

theorem toBits_ofBits (word : UInt64) : (ofBits word).toBits = word := by
  have hw := word.toNat_lt
  apply UInt64.toNat_inj.mp
  by_cases h : signWeight ≤ word.toNat <;>
    simp only [ofBits, toBits, h, decide_true, decide_false, UInt64.toNat_ofNat', ↓reduceIte,
      Bool.false_eq_true] <;> simp only [signWeight] at * <;> omega

theorem ofBits_toBits (x : Binary64) : ofBits x.toBits = x := by
  obtain ⟨negative, rank, hr⟩ := x
  cases negative <;> simp only [ofBits, toBits, UInt64.toNat_ofNat', ↓reduceIte,
    Bool.false_eq_true, mk.injEq, decide_eq_false_iff_not, decide_eq_true_eq] <;>
    simp only [signWeight] at * <;> omega

end Binary64
end Reckoner
