import Mathlib.Algebra.Order.Field.Basic
import Mathlib.Algebra.Order.Field.Rat
import Mathlib.Tactic.FieldSimp
import Reckoner.Binary64.Arithmetic
import Reckoner.Proofs.Binary64.Rounding

/-!
The numbers as rationals. An operation whose exact result is the value of a finite number gives a
number with that value, and so does reading a decimal. Only the sign of a zero is left open.
-/
namespace Reckoner.Binary64

/-- The value of a finite number. -/
def toRat (x : Binary64) : ℚ := x.units / unitsPerOne

/-- The rational is the value of a finite number. -/
def Representable (q : ℚ) : Prop := ∃ x : Binary64, x.isFinite = true ∧ x.toRat = q

/-- The factor that a sign stands for. -/
def signum (negative : Bool) : ℚ := if negative then -1 else 1

variable {x y : Binary64} {n d rank : Nat} {negative : Bool}

theorem unitsPerOne_pos : (0 : ℚ) < unitsPerOne := by
  have h : 0 < unitsPerOne := by
    unfold unitsPerOne
    generalize 1074 = places
    exact Nat.pow_pos (by decide)
  exact_mod_cast h

theorem abs_signum (negative : Bool) : |signum negative| = 1 := by
  cases negative <;> simp [signum]

theorem signum_ne_zero (negative : Bool) : signum negative ≠ 0 := by
  cases negative <;> simp [signum]

theorem signum_bne (a b : Bool) : signum (a != b) = signum a * signum b := by
  cases a <;> cases b <;> simp [signum]

theorem signum_mul_abs (q : ℚ) : signum (q < 0) * |q| = q := by
  rcases lt_or_ge q 0 with hneg | hnonneg
  · simp [signum, hneg, abs_of_neg hneg]
  · simp [signum, not_lt.mpr hnonneg, abs_of_nonneg hnonneg]

theorem cast_natAbs (z : Int) : (z.natAbs : ℚ) = |(z : ℚ)| := by
  rw [Nat.cast_natAbs, Int.cast_abs]

theorem toRat_eq (x : Binary64) :
    x.toRat = signum x.negative * (magnitude x.rank / unitsPerOne) := by
  unfold toRat units signum
  generalize (unitsPerOne : ℚ) = unit
  cases x.negative
  · simp
  · simp [neg_div]

theorem abs_toRat (x : Binary64) : |x.toRat| = magnitude x.rank / unitsPerOne := by
  have hnonneg : (0 : ℚ) ≤ magnitude x.rank / unitsPerOne :=
    div_nonneg (Nat.cast_nonneg _) unitsPerOne_pos.le
  rw [toRat_eq, abs_mul, abs_signum, one_mul, abs_of_nonneg hnonneg]

theorem toRat_neg (x : Binary64) : x.neg.toRat = -x.toRat := by
  rw [toRat_eq, toRat_eq]
  show signum (!x.negative) * (magnitude x.rank / unitsPerOne) = _
  generalize (unitsPerOne : ℚ) = unit
  cases x.negative <;> simp [signum]

theorem toRat_zero (negative : Bool) : (zero negative).toRat = 0 := by
  rw [toRat_eq]
  show signum negative * (magnitude 0 / unitsPerOne) = 0
  rw [magnitude_of_lt (by decide), Nat.cast_zero, zero_div, mul_zero]

theorem magnitude_pos (h : 0 < rank) : 0 < magnitude rank := by
  rcases Nat.lt_or_ge rank (2 * binade) with hlt | hge
  · rwa [magnitude_of_lt hlt]
  · have hbinade : 0 < binade := by decide
    rw [magnitude_of_le hge]
    exact Nat.mul_pos (by omega) (Nat.two_pow_pos _)

/-- The zeros of either sign are the numbers whose value is zero. -/
theorem toRat_eq_zero_iff : x.toRat = 0 ↔ x.isZero = true := by
  have hunits := unitsPerOne_pos
  constructor
  · intro h
    have habs := abs_toRat x
    rw [h, abs_zero, eq_comm, div_eq_zero_iff, or_iff_left hunits.ne', Nat.cast_eq_zero] at habs
    by_contra hzero
    have hrank : 0 < x.rank := Nat.pos_of_ne_zero fun hrank => hzero (beq_iff_eq.mpr hrank)
    have := magnitude_pos hrank
    omega
  · intro h
    have hrank : x.rank = 0 := beq_iff_eq.mp h
    rw [toRat_eq, hrank, magnitude_of_lt (by decide), Nat.cast_zero, zero_div, mul_zero]

/-! Rounding a fraction that needs none. -/

theorem nearestRank_of_eq (hd : 0 < d) (hrank : rank < infinityRank) (h : n = magnitude rank * d) :
    nearestRank n d = rank := by
  have hcross : n * 1 = magnitude rank * d := by rw [Nat.mul_one, h]
  exact (nearestRank_congr hd Nat.one_pos hcross).trans (nearestRank_magnitude hrank)

/-- The number nearest to a fraction of units has the value of that fraction, if a finite number
has. -/
theorem toRat_ofRatio (hd : 0 < d)
    (h : Representable (signum negative * ((n : ℚ) / d / unitsPerOne))) :
    (ofRatio negative n d).isFinite = true ∧
      (ofRatio negative n d).toRat = signum negative * ((n : ℚ) / d / unitsPerOne) := by
  obtain ⟨z, hz, hvalue⟩ := h
  have hrank := rank_lt_of_isFinite hz
  have hdpos : (0 : ℚ) < d := by exact_mod_cast hd
  have hunits := unitsPerOne_pos
  have hnonneg : (0 : ℚ) ≤ (n : ℚ) / d / unitsPerOne :=
    div_nonneg (div_nonneg (Nat.cast_nonneg _) hdpos.le) hunits.le
  -- The magnitude of the number with that value makes up the fraction.
  have hfraction : (magnitude z.rank : ℚ) = n / d := by
    have habs := congrArg abs hvalue
    rw [abs_toRat, abs_mul, abs_signum, one_mul, abs_of_nonneg hnonneg,
      div_left_inj' hunits.ne'] at habs
    exact habs
  have hn : n = magnitude z.rank * d := by
    rw [eq_div_iff hdpos.ne'] at hfraction
    exact_mod_cast hfraction.symm
  have hnearest : (ofRatio negative n d).rank = z.rank := nearestRank_of_eq hd hrank hn
  constructor
  · show decide ((ofRatio negative n d).rank < infinityRank) = true
    rw [hnearest]
    exact decide_eq_true hrank
  · rw [toRat_eq, hnearest, hfraction]
    rfl

/-- The number nearest to a rational. -/
def ofRat (q : ℚ) : Binary64 := ofRatio (q < 0) (q.num.natAbs * unitsPerOne) q.den

/-- A rational is representable if rounding leaves it as it is. -/
theorem representable_iff {q : ℚ} :
    Representable q ↔ (ofRat q).isFinite = true ∧ (ofRat q).toRat = q := by
  constructor
  · intro h
    have hunits := unitsPerOne_pos
    have habs : ((q.num.natAbs * unitsPerOne : Nat) : ℚ) / q.den / unitsPerOne = |q| := by
      rw [Nat.cast_mul, cast_natAbs, div_right_comm, mul_div_cancel_right₀ _ hunits.ne']
      conv_rhs => rw [← q.num_div_den, abs_div, Nat.abs_cast]
    have hvalue : signum (decide (q < 0)) *
        (((q.num.natAbs * unitsPerOne : Nat) : ℚ) / q.den / unitsPerOne) = q := by
      rw [habs, signum_mul_abs]
    have h' := h
    rw [← hvalue] at h'
    obtain ⟨hfinite, heq⟩ := toRat_ofRatio q.den_pos h'
    exact ⟨hfinite, heq.trans hvalue⟩
  · intro h
    exact ⟨ofRat q, h⟩

instance (q : ℚ) : Decidable (Representable q) := decidable_of_iff _ representable_iff.symm

/-! The operations. -/

/-- A decimal as a fraction of units. -/
theorem decimal_eq (digits places : Nat) :
    ((digits * unitsPerOne : Nat) : ℚ) / (Nat.pow 10 places : Nat) / unitsPerOne =
      digits / 10 ^ places := by
  have hunits := unitsPerOne_pos
  rw [Nat.pow_eq]
  push_cast
  field_simp

theorem toRat_ofDecimal {digits places : Nat} (h : Representable (digits / 10 ^ places)) :
    (ofDecimal digits places).isFinite = true ∧
      (ofDecimal digits places).toRat = digits / 10 ^ places := by
  have hvalue : signum false *
      (((digits * unitsPerOne : Nat) : ℚ) / (Nat.pow 10 places : Nat) / unitsPerOne) =
        digits / 10 ^ places := by
    rw [decimal_eq]
    exact one_mul _
  rw [← hvalue] at h ⊢
  exact toRat_ofRatio (Nat.pow_pos (by decide)) h

theorem toRat_add (hx : x.isFinite = true) (hy : y.isFinite = true)
    (h : Representable (x.toRat + y.toRat)) :
    (x.add y).isFinite = true ∧ (x.add y).toRat = x.toRat + y.toRat := by
  have hsum : x.toRat + y.toRat = ((x.units + y.units : Int) : ℚ) / unitsPerOne := by
    unfold toRat
    push_cast
    exact (add_div _ _ _).symm
  unfold add
  simp only [isNaN_of_isFinite hx, isNaN_of_isFinite hy, isInfinite_of_isFinite hx,
    isInfinite_of_isFinite hy, Bool.or_self, Bool.false_eq_true, if_false]
  generalize x.units + y.units = sum at hsum ⊢
  by_cases hzero : sum = 0
  · rw [if_pos hzero, hsum, hzero, toRat_zero]
    exact ⟨rfl, by rw [Int.cast_zero, zero_div]⟩
  · rw [if_neg hzero]
    have hvalue : signum (decide (sum < 0)) * ((sum.natAbs : ℚ) / (1 : Nat) / unitsPerOne) =
        x.toRat + y.toRat := by
      have hsign : decide (sum < 0) = decide ((sum : ℚ) < 0) :=
        decide_eq_decide.mpr Int.cast_lt_zero.symm
      rw [hsum, Nat.cast_one, div_one, ← mul_div_assoc, hsign, cast_natAbs, signum_mul_abs]
    rw [← hvalue] at h ⊢
    exact toRat_ofRatio Nat.one_pos h

theorem toRat_sub (hx : x.isFinite = true) (hy : y.isFinite = true)
    (h : Representable (x.toRat - y.toRat)) :
    (x.sub y).isFinite = true ∧ (x.sub y).toRat = x.toRat - y.toRat := by
  rw [sub_eq_add_neg, ← toRat_neg] at h ⊢
  exact toRat_add hx ((isFinite_neg y).trans hy) h

theorem toRat_mul (hx : x.isFinite = true) (hy : y.isFinite = true)
    (h : Representable (x.toRat * y.toRat)) :
    (x.mul y).isFinite = true ∧ (x.mul y).toRat = x.toRat * y.toRat := by
  have hunits := unitsPerOne_pos
  have hvalue : signum (x.negative != y.negative) *
      (((magnitude x.rank * magnitude y.rank : Nat) : ℚ) / unitsPerOne / unitsPerOne) =
        x.toRat * y.toRat := by
    rw [toRat_eq, toRat_eq, signum_bne]
    push_cast
    field_simp
  unfold mul
  simp only [isNaN_of_isFinite hx, isNaN_of_isFinite hy, isInfinite_of_isFinite hx,
    isInfinite_of_isFinite hy, Bool.or_self, Bool.false_eq_true, if_false]
  rw [← hvalue] at h ⊢
  exact toRat_ofRatio (by exact_mod_cast hunits) h

theorem toRat_div (hx : x.isFinite = true) (hy : y.isFinite = true) (hzero : y.isZero = false)
    (h : Representable (x.toRat / y.toRat)) :
    (x.div y).isFinite = true ∧ (x.div y).toRat = x.toRat / y.toRat := by
  have hunits := unitsPerOne_pos
  have hrank : 0 < y.rank := Nat.pos_of_ne_zero (beq_eq_false_iff_ne.mp hzero)
  have hmagnitude : 0 < magnitude y.rank := magnitude_pos hrank
  have hvalue : signum (x.negative != y.negative) *
      (((magnitude x.rank * unitsPerOne : Nat) : ℚ) / magnitude y.rank / unitsPerOne) =
        x.toRat / y.toRat := by
    have hne : (magnitude y.rank : ℚ) ≠ 0 := by exact_mod_cast hmagnitude.ne'
    have hsign := signum_ne_zero y.negative
    have hsquare : signum y.negative * signum y.negative = 1 := by
      cases y.negative <;> simp [signum]
    rw [toRat_eq, toRat_eq, signum_bne]
    push_cast
    field_simp
    rw [pow_two, hsquare, mul_one]
  unfold div
  simp only [isNaN_of_isFinite hx, isNaN_of_isFinite hy, isInfinite_of_isFinite hx,
    isInfinite_of_isFinite hy, hzero, Bool.or_self, Bool.false_eq_true, if_false]
  rw [← hvalue] at h ⊢
  exact toRat_ofRatio hmagnitude h

end Reckoner.Binary64
