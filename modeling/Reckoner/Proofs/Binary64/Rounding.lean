import Reckoner.Binary64.Rounding

/-!
Rounding depends on the fraction alone, and leaves the magnitudes as they are.
-/
namespace Reckoner

theorem Tie.nearest_mul_right (tie : Tie) (n d : Nat) {k : Nat} (hk : 0 < k) :
    tie.nearest (n * k) (d * k) = tie.nearest n d := by
  have htwice : 2 * (n % d * k) = 2 * (n % d) * k := (Nat.mul_assoc _ _ _).symm
  unfold nearest
  rw [Nat.mul_div_mul_right n d hk, Nat.mul_mod_mul_right, htwice]
  simp only [Nat.mul_lt_mul_right hk]

theorem Tie.nearest_one (tie : Tie) (n : Nat) : tie.nearest n 1 = n := by
  simp [nearest, Nat.mod_one]

/-- The nearest natural number is one of the two around the fraction. -/
theorem Tie.nearest_eq_or (tie : Tie) (n d : Nat) :
    tie.nearest n d = n / d ∨ tie.nearest n d = n / d + 1 := by
  have htwo : n / d % 2 = 0 ∨ n / d % 2 = 1 := Nat.mod_two_eq_zero_or_one _
  unfold nearest
  dsimp only
  split
  · exact .inl rfl
  · split
    · exact .inr rfl
    · cases tie with
      | up => exact .inr rfl
      | toEven => rcases htwo with h | h <;> simp [h]

namespace Binary64

variable {n d n' d' : Nat} {x : Binary64}

theorem rank_lt_of_isFinite (h : x.isFinite = true) : x.rank < infinityRank := of_decide_eq_true h

theorem isNaN_of_isFinite (h : x.isFinite = true) : x.isNaN = false :=
  decide_eq_false (Nat.not_lt.mpr (Nat.le_of_lt (rank_lt_of_isFinite h)))

theorem isInfinite_of_isFinite (h : x.isFinite = true) : x.isInfinite = false :=
  beq_eq_false_iff_ne.mpr (Nat.ne_of_lt (rank_lt_of_isFinite h))

theorem nearestRank_mul_right (n d : Nat) {k : Nat} (hk : 0 < k) :
    nearestRank (n * k) (d * k) = nearestRank n d := by
  unfold nearestRank
  rw [Nat.mul_div_mul_right n d hk]
  dsimp only
  rw [Nat.mul_right_comm d k, Tie.nearest_mul_right _ _ _ hk]

/-- Two ways to write a fraction are rounded to the same rank. -/
theorem nearestRank_congr (hd : 0 < d) (hd' : 0 < d') (h : n * d' = n' * d) :
    nearestRank n d = nearestRank n' d' := by
  rw [← nearestRank_mul_right n d hd', ← nearestRank_mul_right n' d' hd, h, Nat.mul_comm d]

theorem nearestRank_one (n : Nat) :
    nearestRank n 1 =
      min ((n.log2 - 52) * binade + Tie.toEven.nearest n (Nat.pow 2 (n.log2 - 52)))
        infinityRank := by
  simp only [nearestRank, Nat.div_one, Nat.one_mul]

theorem nearestRank_zero (hd : 0 < d) : nearestRank 0 d = 0 := by
  simp [nearestRank, Tie.nearest, Nat.log2_zero, hd]

/-- The logarithm of a significand with its highest bit set, after some doublings. -/
theorem log2_significand {m : Nat} (h : m < binade) (e : Nat) :
    ((binade + m) * Nat.pow 2 e).log2 = 52 + e := by
  have hbinade : binade = 2 ^ 52 := rfl
  have hpos : 0 < 2 ^ e := Nat.two_pow_pos e
  rw [Nat.pow_eq, Nat.log2_eq_iff (Nat.mul_ne_zero (by omega) (Nat.ne_of_gt hpos))]
  constructor
  · rw [Nat.pow_add, ← hbinade]
    exact Nat.mul_le_mul_right _ (Nat.le_add_right _ _)
  · rw [Nat.add_right_comm, Nat.pow_add, Nat.pow_succ, ← hbinade]
    exact Nat.mul_lt_mul_of_pos_right (by omega) hpos

theorem magnitude_of_lt {rank : Nat} (h : rank < 2 * binade) : magnitude rank = rank :=
  if_pos h

theorem magnitude_of_le {rank : Nat} (h : 2 * binade ≤ rank) :
    magnitude rank = (binade + rank % binade) * Nat.pow 2 (rank / binade - 1) :=
  if_neg (Nat.not_lt.mpr h)

/-- A magnitude is rounded to its own rank. -/
theorem nearestRank_magnitude {rank : Nat} (h : rank < infinityRank) :
    nearestRank (magnitude rank) 1 = rank := by
  have hbinade : 0 < binade := by decide
  rcases Nat.lt_or_ge rank (2 * binade) with hlt | hge
  · have hlog : rank.log2 < 53 := by
      by_cases hzero : rank = 0
      · rw [hzero]
        decide
      · exact (Nat.log2_lt hzero).mpr hlt
    have hdoublings : rank.log2 - 52 = 0 := by omega
    rw [magnitude_of_lt hlt, nearestRank_one, hdoublings]
    simp [Tie.nearest_one, Nat.le_of_lt h]
  · have hm : rank % binade < binade := Nat.mod_lt rank hbinade
    have he : 2 ≤ rank / binade := (Nat.le_div_iff_mul_le hbinade).mpr hge
    have hrank := Nat.div_add_mod rank binade
    obtain ⟨e, hexponent⟩ : ∃ e, rank / binade = e + 1 := ⟨rank / binade - 1, by omega⟩
    have hnearest : Tie.toEven.nearest ((binade + rank % binade) * Nat.pow 2 e) (Nat.pow 2 e) =
        binade + rank % binade := by
      have hscale := Tie.toEven.nearest_mul_right (binade + rank % binade) 1 (Nat.two_pow_pos e)
      rwa [Nat.one_mul, Tie.nearest_one] at hscale
    have hsum : e * binade + (binade + rank % binade) = rank := by
      rw [hexponent, Nat.mul_comm, Nat.succ_mul] at hrank
      omega
    rw [magnitude_of_le hge, hexponent, Nat.add_sub_cancel, nearestRank_one, log2_significand hm,
      Nat.add_sub_cancel_left, hnearest, hsum]
    exact Nat.min_eq_left (Nat.le_of_lt h)

end Binary64
end Reckoner
