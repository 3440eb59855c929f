import Mathlib.Order.Monotone.Basic
import Mathlib.Tactic.Linarith
import Mathlib.Tactic.Ring
import Reckoner.Proofs.Binary64.Exactness

/-!
Rounding is to the nearest number, on a tie to the one with the even significand.
-/
namespace Reckoner.Binary64

variable {n d k m rank : Nat} {x y : Binary64} {q q' : ℚ}

theorem binade_pos : 0 < binade := by decide

theorem magnitude_binade (e : Nat) (hm : m < binade) :
    magnitude ((e + 1) * binade + m) = (binade + m) * 2 ^ e := by
  cases e with
  | zero => rw [magnitude_of_lt (by omega), Nat.pow_zero, Nat.mul_one, Nat.zero_add, Nat.one_mul]
  | succ e =>
    have hdiv : ((e + 2) * binade + m) / binade = e + 2 := by
      rw [Nat.mul_comm, Nat.mul_add_div binade_pos, Nat.div_eq_of_lt hm, Nat.add_zero]
    have hmod : ((e + 2) * binade + m) % binade = m := by
      rw [Nat.mul_comm, Nat.mul_add_mod, Nat.mod_eq_of_lt hm]
    have hle : 2 * binade ≤ (e + 2) * binade + m :=
      Nat.le_add_right_of_le (Nat.mul_le_mul_right _ (Nat.le_add_left 2 e))
    rw [magnitude_of_le hle, hdiv, hmod]
    rfl

/-- Within a binade and up to its end, the magnitudes are multiples of its step. -/
theorem magnitude_scaled (hm : m ≤ 2 * binade) (hk : k = 0 ∨ binade ≤ m) :
    magnitude (k * binade + m) = m * 2 ^ k := by
  rcases Nat.lt_or_ge m binade with hlt | hge
  · obtain rfl := hk.resolve_right (Nat.not_le.mpr hlt)
    rw [Nat.zero_mul, Nat.zero_add, Nat.pow_zero, Nat.mul_one, magnitude_of_lt (by omega)]
  · obtain ⟨m, rfl⟩ := Nat.exists_eq_add_of_le hge
    rcases Nat.lt_or_ge m binade with hlt | hge
    · rw [← magnitude_binade k hlt, Nat.succ_mul, Nat.add_assoc]
    · obtain rfl : m = binade := by omega
      calc magnitude (k * binade + (binade + binade))
          = magnitude ((k + 1 + 1) * binade + 0) := congrArg magnitude (by ring)
        _ = (binade + 0) * 2 ^ (k + 1) := magnitude_binade (k + 1) binade_pos
        _ = (binade + binade) * 2 ^ k := by ring

theorem strictMono_magnitude : StrictMono magnitude := by
  refine strictMono_nat_of_lt_succ fun rank => ?_
  obtain ⟨k, m, hm, hk, rfl⟩ : ∃ k m, m < 2 * binade ∧ (k = 0 ∨ binade ≤ m) ∧
      rank = k * binade + m := by
    rcases Nat.lt_or_ge rank binade with hlt | hge
    · exact ⟨0, rank, by omega, .inl rfl, by omega⟩
    · have hmod := Nat.mod_lt (rank - binade) binade_pos
      refine ⟨(rank - binade) / binade, binade + (rank - binade) % binade, by omega,
        .inr (Nat.le_add_right _ _), ?_⟩
      have hrank := Nat.div_add_mod' (rank - binade) binade
      omega
  rw [Nat.add_assoc, magnitude_scaled (Nat.le_of_lt hm) hk,
    magnitude_scaled hm (hk.imp_right Nat.le_succ_of_le)]
  exact Nat.mul_lt_mul_of_pos_right (Nat.lt_succ_self m) (Nat.two_pow_pos k)

/-- The rank that would be nearest if the finite magnitudes did not end. -/
def unboundedRank (n d : Nat) : Nat :=
  ((n / d).log2 - 52) * binade + Tie.toEven.nearest n (d * Nat.pow 2 ((n / d).log2 - 52))

theorem rank_ofRatio (negative : Bool) (n d : Nat) :
    (ofRatio negative n d).rank = min (unboundedRank n d) infinityRank := rfl

/-- The significand that rounding starts from has 53 bits, or fewer if it is subnormal. -/
theorem significand_bounds (n d : Nat) :
    n / (d * 2 ^ ((n / d).log2 - 52)) < 2 * binade ∧
      ((n / d).log2 - 52 = 0 ∨ binade ≤ n / (d * 2 ^ ((n / d).log2 - 52))) := by
  rw [← Nat.div_div_eq_div_mul]
  generalize n / d = whole
  have hbinade : binade = 2 ^ 52 := rfl
  constructor
  · rw [Nat.div_lt_iff_lt_mul (Nat.two_pow_pos _)]
    calc whole < 2 ^ (whole.log2 + 1) := Nat.lt_log2_self
      _ ≤ 2 ^ (53 + (whole.log2 - 52)) := Nat.pow_le_pow_right (by decide) (by omega)
      _ = 2 * binade * 2 ^ (whole.log2 - 52) := by rw [Nat.pow_add]; rfl
  · rcases Nat.lt_or_ge 52 whole.log2 with hlt | hle
    · have hne : whole ≠ 0 := by
        rintro rfl
        simp at hlt
      refine .inr ((Nat.le_div_iff_mul_le (Nat.two_pow_pos _)).mpr ?_)
      rw [hbinade, ← Nat.pow_add, Nat.add_sub_cancel' hlt.le]
      exact Nat.log2_self_le hne
    · exact .inl (Nat.sub_eq_zero_of_le hle)

theorem mod_two_add (k m : Nat) : (k * binade + m) % 2 = m % 2 := by
  have hbinade : binade % 2 = 0 := rfl
  rw [Nat.add_mod, Nat.mul_mod, hbinade, Nat.mul_zero, Nat.zero_mod, Nat.zero_add, Nat.mod_mod]

/-- The two ranks around the fraction, of which rounding takes the nearer or the even one. -/
theorem exists_below (n : Nat) (hd : 0 < d) :
    ∃ below rest step, rest < step ∧ n = magnitude below * d + rest ∧
      magnitude (below + 1) * d = magnitude below * d + step ∧
      (unboundedRank n d = below ∧ 2 * rest ≤ step ∨
        unboundedRank n d = below + 1 ∧ step ≤ 2 * rest) ∧
      (2 * rest = step → unboundedRank n d % 2 = 0) := by
  obtain ⟨hlt, hnormal⟩ := significand_bounds n d
  unfold unboundedRank
  rw [Nat.pow_eq]
  generalize (n / d).log2 - 52 = k at hlt hnormal ⊢
  have hstep : 0 < d * 2 ^ k := Nat.mul_pos hd (Nat.two_pow_pos k)
  refine ⟨k * binade + n / (d * 2 ^ k), n % (d * 2 ^ k), d * 2 ^ k, Nat.mod_lt _ hstep, ?_, ?_,
    ?_, ?_⟩
  · rw [magnitude_scaled hlt.le hnormal, Nat.mul_assoc, Nat.mul_comm (2 ^ k)]
    exact (Nat.div_add_mod' n (d * 2 ^ k)).symm
  · rw [Nat.add_assoc, magnitude_scaled hlt (hnormal.imp_right Nat.le_succ_of_le),
      magnitude_scaled hlt.le hnormal, Nat.succ_mul, Nat.add_mul, Nat.mul_comm (2 ^ k)]
  · unfold Tie.nearest
    dsimp only
    split_ifs <;> omega
  · intro htie
    rw [mod_two_add]
    unfold Tie.nearest
    dsimp only
    split_ifs <;> omega

/-- How far the magnitude is from the fraction, in units divided by `d`. -/
def distance (n d rank : Nat) : Nat := ((magnitude rank * d : Nat) - n : Int).natAbs

/-- No rank is nearer, and if another is as near, the one that is taken is even. -/
theorem distance_unboundedRank (n : Nat) (hd : 0 < d) (rank : Nat) :
    distance n d (unboundedRank n d) ≤ distance n d rank ∧
      (rank ≠ unboundedRank n d → distance n d rank = distance n d (unboundedRank n d) →
        unboundedRank n d % 2 = 0) := by
  obtain ⟨below, rest, step, hrest, hn, habove, hnearer, heven⟩ := exists_below n hd
  have hstrict {a b : Nat} (h : a < b) : magnitude a * d < magnitude b * d :=
    Nat.mul_lt_mul_of_pos_right (strictMono_magnitude h) hd
  have hbelow : rank < below → magnitude rank * d < magnitude below * d := hstrict
  have hbeyond : below + 1 < rank → magnitude (below + 1) * d < magnitude rank * d := hstrict
  have hself : distance n d below = rest := by
    unfold distance
    omega
  have hnext : distance n d (below + 1) = step - rest := by
    unfold distance
    omega
  have hother : rank = below ∨ rank = below + 1 ∨
      rest < distance n d rank ∨ step - rest < distance n d rank := by
    unfold distance
    omega
  have hleast : distance n d (unboundedRank n d) = min rest (step - rest) := by
    rcases hnearer with ⟨hrank, hle⟩ | ⟨hrank, hle⟩
    · rw [hrank, hself]
      omega
    · rw [hrank, hnext]
      omega
  constructor
  · rcases hother with rfl | rfl | hfar | hfar <;> omega
  · -- Two ranks are as near only if they are the two around the middle.
    intro hne hequal
    apply heven
    rcases hother with rfl | rfl | hfar | hfar <;> omega

/-- A rank is passed from the middle to the next one on, or behind the middle if it is even. -/
theorem lt_unboundedRank_iff (n : Nat) (hd : 0 < d) (rank : Nat) :
    rank < unboundedRank n d ↔
      (magnitude rank + magnitude (rank + 1)) * d < 2 * n ∨
        (magnitude rank + magnitude (rank + 1)) * d = 2 * n ∧ rank % 2 = 1 := by
  obtain ⟨below, rest, step, hrest, hn, habove, hnearer, heven⟩ := exists_below n hd
  have hmono {a b : Nat} (h : a ≤ b) : magnitude a * d ≤ magnitude b * d :=
    Nat.mul_le_mul_right d (strictMono_magnitude.monotone h)
  have hstrict : magnitude rank * d < magnitude (rank + 1) * d :=
    Nat.mul_lt_mul_of_pos_right (strictMono_magnitude rank.lt_succ_self) hd
  rw [Nat.add_mul]
  rcases Nat.lt_trichotomy rank below with hlt | rfl | hgt
  · have hnext : magnitude (rank + 1) * d ≤ magnitude below * d := hmono hlt
    omega
  · omega
  · have hself : magnitude (below + 1) * d ≤ magnitude rank * d := hmono hgt
    omega

theorem unboundedRank_eq_zero_iff (n : Nat) (hd : 0 < d) : unboundedRank n d = 0 ↔ 2 * n ≤ d := by
  have hpassed := lt_unboundedRank_iff n hd 0
  rw [magnitude_of_lt (by decide), magnitude_of_lt (by decide)] at hpassed
  omega

/-- The first magnitude that is too great, in the middle between the greatest finite one and the one
that would come next. -/
theorem infinityRank_le_unboundedRank_iff (n : Nat) (hd : 0 < d) :
    infinityRank ≤ unboundedRank n d ↔ (4 * binade - 1) * 2 ^ 2045 * d ≤ 2 * n := by
  have hlast : infinityRank - 1 = 2045 * binade + (2 * binade - 1) := rfl
  have hnext : infinityRank - 1 + 1 = 2045 * binade + 2 * binade := rfl
  have hodd : (2045 * binade + (2 * binade - 1)) % 2 = 1 := rfl
  have hsum : 2 * binade - 1 + 2 * binade = 4 * binade - 1 := rfl
  have hpassed := lt_unboundedRank_iff n hd (infinityRank - 1)
  rw [hnext, hlast, magnitude_scaled (by decide) (by decide),
    magnitude_scaled (by decide) (by decide), ← Nat.add_mul, hsum, hodd, ← hlast] at hpassed
  have hpos : 1 ≤ infinityRank := by decide
  rwa [and_iff_left rfl, ← Nat.le_iff_lt_or_eq, Nat.lt_iff_add_one_le,
    Nat.sub_add_cancel hpos] at hpassed

/-! The nearest number among the finite ones. -/

/-- The magnitude without its power of two: 53 bits, the highest of which is set unless the number is
subnormal. -/
def significand (x : Binary64) : Nat :=
  if x.rank < binade then x.rank else binade + x.rank % binade

theorem magnitude_eq_significand_mul (x : Binary64) :
    magnitude x.rank = x.significand * 2 ^ (x.rank / binade - 1) := by
  unfold significand
  split
  case isTrue hlt =>
    rw [magnitude_of_lt (by omega), Nat.div_eq_of_lt hlt, Nat.zero_sub, Nat.pow_zero, Nat.mul_one]
  case isFalse hge =>
    have hpos : 1 ≤ x.rank / binade := Nat.div_pos (Nat.not_lt.mp hge) binade_pos
    rw [← magnitude_binade _ (Nat.mod_lt _ binade_pos), Nat.sub_add_cancel hpos, Nat.div_add_mod']

theorem significand_mod_two (x : Binary64) : x.significand % 2 = x.rank % 2 := by
  have hrank := mod_two_add (x.rank / binade) (x.rank % binade)
  have hone := mod_two_add 1 (x.rank % binade)
  rw [Nat.div_add_mod'] at hrank
  rw [Nat.one_mul] at hone
  unfold significand
  split
  · rfl
  · rw [hone, hrank]

/-- The number is the nearest one to a rational that is not negative: finite below the middle
between the greatest finite magnitude and the next power of two, and on a tie the one with the even
significand. -/
structure IsNearest (q : ℚ) (x : Binary64) : Prop where
  positive : x.negative = false
  overflow : 2 ^ 1024 - 2 ^ 970 ≤ q → x = infinity false
  finite : q < 2 ^ 1024 - 2 ^ 970 → x.isFinite = true
  nearest : x.isFinite = true → ∀ y : Binary64, y.isFinite = true →
    |x.toRat - q| ≤ |y.toRat - q|
  even : x.isFinite = true → ∀ y : Binary64, y.isFinite = true →
    |y.toRat - q| = |x.toRat - q| → y.toRat ≠ x.toRat → x.significand % 2 = 0

theorem unitsPerOne_eq : (unitsPerOne : ℚ) = 2 ^ 1074 := by
  unfold unitsPerOne
  generalize 1074 = places
  exact Nat.cast_pow 2 places

theorem overflow_le_iff (n : Nat) (hd : 0 < d) :
    (2 ^ 1024 - 2 ^ 970 : ℚ) ≤ (n : ℚ) / d / unitsPerOne ↔
      infinityRank ≤ unboundedRank n d := by
  have hdpos : (0 : ℚ) < d := by exact_mod_cast hd
  have hbound : (((4 * binade - 1) * 2 ^ 2045 : Nat) : ℚ) =
      2 * ((2 ^ 1024 - 2 ^ 970) * unitsPerOne) := by
    have hsignificand : ((4 * binade - 1 : Nat) : ℚ) = 2 ^ 54 - 1 := by norm_num [binade]
    have hpower : (2 : ℚ) ^ 1024 = 2 ^ 54 * 2 ^ 970 := by rw [← pow_add]
    have hpower' : (2 : ℚ) ^ 2045 = 2 * 2 ^ 970 * 2 ^ 1074 := by rw [← pow_succ', ← pow_add]
    rw [Nat.cast_mul, Nat.cast_pow, Nat.cast_ofNat, hsignificand, unitsPerOne_eq, hpower, hpower']
    generalize (2 : ℚ) ^ 970 = step
    generalize (2 : ℚ) ^ 1074 = unit
    ring
  have hcast : (4 * binade - 1) * 2 ^ 2045 * d ≤ 2 * n ↔
      (2 : ℚ) * ((2 ^ 1024 - 2 ^ 970) * unitsPerOne) * d ≤ 2 * n := by
    rw [← hbound]
    generalize (4 * binade - 1) * 2 ^ 2045 = bound
    exact_mod_cast Iff.rfl
  rw [infinityRank_le_unboundedRank_iff n hd, hcast, le_div_iff₀ unitsPerOne_pos, le_div_iff₀ hdpos,
    mul_assoc 2]
  exact (mul_le_mul_iff_right₀ two_pos).symm

theorem le_least_iff (n : Nat) (hd : 0 < d) :
    (n : ℚ) / d / unitsPerOne ≤ 1 / 2 ^ 1075 ↔ unboundedRank n d = 0 := by
  have hdpos : (0 : ℚ) < d := by exact_mod_cast hd
  have hcast : 2 * n ≤ d ↔ (2 : ℚ) * n ≤ d := by exact_mod_cast Iff.rfl
  have hpower : (2 : ℚ) ^ 1075 = 2 * unitsPerOne := by rw [unitsPerOne_eq, ← pow_succ']
  have hunits := unitsPerOne_pos
  rw [unboundedRank_eq_zero_iff n hd, hcast, hpower, div_le_iff₀ hunits]
  generalize (unitsPerOne : ℚ) = unit at hunits ⊢
  field_simp

/-- The error of a number, as the distance of its rank. -/
theorem abs_toRat_sub (hpositive : x.negative = false) (n : Nat) (hd : 0 < d) :
    |x.toRat - (n : ℚ) / d / unitsPerOne| = distance n d x.rank / (d * unitsPerOne) := by
  have hdpos : (0 : ℚ) < d := by exact_mod_cast hd
  have hunits := unitsPerOne_pos
  have hdifference : x.toRat - (n : ℚ) / d / unitsPerOne =
      ((magnitude x.rank * d : Nat) - n : Int) / (d * unitsPerOne) := by
    rw [toRat_eq, hpositive]
    push_cast
    simp only [signum, Bool.false_eq_true, if_false, one_mul]
    field_simp
  rw [hdifference, abs_div, abs_of_pos (mul_pos hdpos hunits), distance, cast_natAbs]

theorem eq_of_rank (hx : x.negative = false) (hy : y.negative = false) (h : x.rank = y.rank) :
    x = y := by
  obtain ⟨negative, rank, hr⟩ := x
  obtain ⟨negative', rank', hr'⟩ := y
  obtain rfl : negative = false := hx
  obtain rfl : negative' = false := hy
  obtain rfl : rank = rank' := h
  rfl

theorem toRat_lt_toRat_iff (hx : x.negative = false) (hy : y.negative = false) :
    x.toRat < y.toRat ↔ x.rank < y.rank := by
  rw [toRat_eq, toRat_eq, hx, hy]
  simp only [signum, Bool.false_eq_true, if_false, one_mul]
  rw [div_lt_div_iff_of_pos_right unitsPerOne_pos, Nat.cast_lt, strictMono_magnitude.lt_iff_lt]

theorem toRat_abs (y : Binary64) : Binary64.toRat { y with negative := false } = |y.toRat| := by
  rw [abs_toRat, toRat_eq]
  exact one_mul _

/-- Of two values of the same magnitude only the one above zero is as near as zero. -/
theorem eq_of_abs_eq {a b : ℚ} (hzero : |a - q| ≤ q) (hmagnitude : |b| = a)
    (hequal : |b - q| = |a - q|) : b = a := by
  have hnonneg : 0 ≤ a := hmagnitude ▸ abs_nonneg b
  have hfar := neg_abs_le (b - q)
  rcases abs_eq hnonneg |>.mp hmagnitude with heq | hopposite
  · exact heq
  · linarith

/-- Rounding finds the nearest number. -/
theorem isNearest_ofRatio (n : Nat) (hd : 0 < d) :
    IsNearest ((n : ℚ) / d / unitsPerOne) (ofRatio false n d) := by
  have hdpos : (0 : ℚ) < d := by exact_mod_cast hd
  have hscale : 0 < (d : ℚ) * unitsPerOne := mul_pos hdpos unitsPerOne_pos
  have hnonneg : 0 ≤ (n : ℚ) / d / unitsPerOne :=
    div_nonneg (div_nonneg (Nat.cast_nonneg n) hdpos.le) unitsPerOne_pos.le
  have hrank (h : (ofRatio false n d).isFinite = true) :
      (ofRatio false n d).rank = unboundedRank n d := by
    have hlt := rank_lt_of_isFinite h
    rw [rank_ofRatio] at hlt ⊢
    exact Nat.min_eq_left ((min_lt_iff.mp hlt).resolve_right (lt_irrefl _)).le
  have herror {x : Binary64} (hx : x.negative = false) := abs_toRat_sub hx n hd
  have hoverflow := overflow_le_iff n hd
  generalize (n : ℚ) / d / unitsPerOne = q at herror hoverflow hnonneg ⊢
  -- A number below zero is farther away than the one of the same magnitude above zero.
  have habs (y : Binary64) :
      |Binary64.toRat { y with negative := false } - q| ≤ |y.toRat - q| := by
    have h := abs_abs_sub_abs_le y.toRat q
    rwa [abs_of_nonneg hnonneg, ← toRat_abs] at h
  have hnearest (h : (ofRatio false n d).isFinite = true) (y : Binary64) :
      |(ofRatio false n d).toRat - q| ≤ |Binary64.toRat { y with negative := false } - q| := by
    rw [herror rfl, herror rfl, hrank h, div_le_div_iff_of_pos_right hscale, Nat.cast_le]
    exact (distance_unboundedRank n hd y.rank).1
  constructor
  case positive => rfl
  case overflow => exact fun h => eq_of_rank rfl rfl (Nat.min_eq_right (hoverflow.mp h))
  case finite =>
    intro h
    have hlt := Nat.not_le.mp (mt hoverflow.mpr (not_le.mpr h))
    exact decide_eq_true (Nat.lt_of_le_of_lt (Nat.min_le_left _ _) hlt)
  case nearest => exact fun h y _ => (hnearest h y).trans (habs y)
  case even =>
    intro h y hy hequal hne
    have hclose := le_antisymm ((habs y).trans hequal.le) (hnearest h y)
    rw [herror rfl, herror rfl, hrank h, div_left_inj' hscale.ne', Nat.cast_inj] at hclose
    rw [significand_mod_two, hrank h]
    refine (distance_unboundedRank n hd y.rank).2 (fun hsame => hne ?_) hclose
    have hzero := hnearest h (zero false)
    rw [toRat_abs, toRat_zero, abs_zero, zero_sub, abs_neg, abs_of_nonneg hnonneg] at hzero
    refine eq_of_abs_eq hzero ?_ hequal
    rw [← toRat_abs]
    exact congrArg toRat (eq_of_rank rfl rfl (hsame.trans (hrank h).symm))

theorem isNearest_ofDecimal (digits places : Nat) :
    IsNearest (digits / 10 ^ places) (ofDecimal digits places) := by
  rw [← decimal_eq]
  exact isNearest_ofRatio _ (Nat.pow_pos (by decide))

/-- Halfway between two numbers. -/
example : ofDecimal 9007199254740993 0 = ofDecimal 9007199254740992 0 ∧
    ofDecimal 9007199254740995 0 = ofDecimal 9007199254740996 0 := by
  decide +kernel

/-- The greater of two numbers is no farther away from the middle on, and the lesser one up to it. -/
theorem abs_sub_le_abs_sub_iff {a b : ℚ} (h : a < b) (q : ℚ) :
    (|b - q| ≤ |a - q| ↔ a + b ≤ 2 * q) ∧ (|a - q| ≤ |b - q| ↔ 2 * q ≤ a + b) := by
  rw [← sq_le_sq, ← sq_le_sq]
  refine ⟨?_, ?_⟩ <;> constructor <;> intro hle <;> nlinarith

namespace IsNearest

theorem rank_le_infinityRank (h : IsNearest q x) : x.rank ≤ infinityRank := by
  rcases le_or_gt (2 ^ 1024 - 2 ^ 970) q with hover | hunder
  · rw [h.overflow hover]
    exact Nat.le_refl infinityRank
  · exact Nat.le_of_lt (rank_lt_of_isFinite (h.finite hunder))

/-- Two nearest numbers do not both lie on a tie: there would be an even and an odd one. -/
theorem not_tie (h : IsNearest q x) (h' : IsNearest q y) (hx : x.isFinite = true)
    (hy : y.isFinite = true) (hlt : y.rank < x.rank) : False := by
  have hvalue := (toRat_lt_toRat_iff h'.positive h.positive).mpr hlt
  have hequal : |y.toRat - q| = |x.toRat - q| :=
    le_antisymm (h'.nearest hy x hx) (h.nearest hx y hy)
  have hmiddle := (abs_sub_le_abs_sub_iff hvalue q).2.mp hequal.le
  have hxeven := h.even hx y hy hequal hvalue.ne
  have hyeven := h'.even hy x hx hequal.symm hvalue.ne'
  rw [significand_mod_two] at hxeven hyeven
  have hrank := rank_lt_of_isFinite hx
  -- The number behind the lesser one is odd, so it stands in front of the greater one.
  obtain ⟨z, hpositive, hz⟩ : ∃ z : Binary64, z.negative = false ∧ z.rank = y.rank + 1 :=
    ⟨⟨false, y.rank + 1, Nat.lt_trans (by omega) x.rank_lt⟩, rfl, rfl⟩
  have hfinite : z.isFinite = true := decide_eq_true (by omega)
  have hyz : y.toRat < z.toRat := (toRat_lt_toRat_iff h'.positive hpositive).mpr (by omega)
  have hzx : z.toRat < x.toRat := (toRat_lt_toRat_iff hpositive h.positive).mpr (by omega)
  have hcloser := (abs_sub_le_abs_sub_iff hzx q).1.mp (h.nearest hx z hfinite)
  linarith

/-- A greater rational is not rounded to a lesser number. -/
theorem rank_le (h : IsNearest q x) (h' : IsNearest q' y) (hle : q ≤ q') : x.rank ≤ y.rank := by
  rcases le_or_gt (2 ^ 1024 - 2 ^ 970) q' with hover | hunder
  · rw [h'.overflow hover]
    exact h.rank_le_infinityRank
  · have hx := h.finite (hle.trans_lt hunder)
    have hy := h'.finite hunder
    by_contra! hlt
    have hvalue := (toRat_lt_toRat_iff h'.positive h.positive).mpr hlt
    have hmiddle := (abs_sub_le_abs_sub_iff hvalue q).1.mp (h.nearest hx y hy)
    have hmiddle' := (abs_sub_le_abs_sub_iff hvalue q').2.mp (h'.nearest hy x hx)
    obtain rfl : q = q' := by linarith
    exact h.not_tie h' hx hy hlt

theorem unique (h : IsNearest q x) (h' : IsNearest q y) : x = y :=
  eq_of_rank h.positive h'.positive (Nat.le_antisymm (h.rank_le h' le_rfl) (h'.rank_le h le_rfl))

theorem eq_infinity_iff (h : IsNearest q x) : x = infinity false ↔ 2 ^ 1024 - 2 ^ 970 ≤ q := by
  refine ⟨fun hinfinite => ?_, h.overflow⟩
  subst hinfinite
  by_contra! hunder
  exact absurd (h.finite hunder) (by decide)

end IsNearest

/-- Decimals of the same value are rounded to the same number. -/
theorem ofDecimal_congr {digits digits' places places' : Nat}
    (h : (digits / 10 ^ places : ℚ) = digits' / 10 ^ places') :
    ofDecimal digits places = ofDecimal digits' places' := by
  have hnearest := isNearest_ofDecimal digits places
  rw [h] at hnearest
  exact hnearest.unique (isNearest_ofDecimal digits' places')

/-- Up to half of the least number there is nothing but zero. -/
theorem ofDecimal_eq_zero_iff (digits places : Nat) :
    ofDecimal digits places = zero false ↔ (digits / 10 ^ places : ℚ) ≤ 1 / 2 ^ 1075 := by
  have hd : 0 < Nat.pow 10 places := Nat.pow_pos (by decide)
  rw [← decimal_eq, le_least_iff _ hd]
  have hpos : 0 < infinityRank := by decide
  constructor
  · intro h
    have hrank := congrArg rank h
    rw [ofDecimal, rank_ofRatio] at hrank
    exact (Nat.min_eq_zero_iff.mp hrank).resolve_right hpos.ne'
  · intro h
    apply eq_of_rank rfl rfl
    rw [ofDecimal, rank_ofRatio, h, Nat.zero_min]
    rfl

end Reckoner.Binary64
