import Reckoner.Proofs.Binary64.Exactness

/-!
Numbers of the same value are equal, or zeros. Sums, differences and products do not tell such
numbers apart except by the sign of a zero, nor do quotients whose divisor is no zero.
-/
namespace Reckoner.Binary64

/-- Equal, or zeros of any signs. -/
structure UpToZero (x y : Binary64) : Prop where
  rank_eq : x.rank = y.rank
  sign : x.rank = 0 ∨ x.negative = y.negative

variable {x x' y y' : Binary64} {n d : Nat} {negative negative' : Bool}

theorem magnitude_zero : magnitude 0 = 0 := magnitude_of_lt (by decide)

theorem UpToZero.of_eq (h : x = y) : UpToZero x y := ⟨congrArg rank h, .inr (congrArg _ h)⟩

theorem sameValue_iff : x.sameValue y = true ↔ x.isNaN = false ∧ UpToZero x y := by
  obtain ⟨negative, rank, hrank⟩ := x
  obtain ⟨negative', rank', hrank'⟩ := y
  constructor
  · intro h
    simp only [sameValue, Bool.and_eq_true, Bool.not_eq_true', Bool.or_eq_true, beq_iff_eq, isZero,
      mk.injEq] at h
    obtain ⟨⟨hx, -⟩, ⟨hsign, hranks⟩ | ⟨hzero, hzero'⟩⟩ := h
    · exact ⟨hx, hranks, .inr hsign⟩
    · exact ⟨hx, hzero.trans hzero'.symm, .inl hzero⟩
  · rintro ⟨hx, hranks, hsign⟩
    obtain rfl : rank = rank' := hranks
    have hy : isNaN ⟨negative', rank, hrank'⟩ = false := hx
    rcases hsign with hzero | hsign
    · obtain rfl : rank = 0 := hzero
      simp [sameValue, hx, hy, isZero]
    · obtain rfl : negative = negative' := hsign
      simp [sameValue, hx]

namespace UpToZero

theorem isFinite_eq (h : UpToZero x y) : x.isFinite = y.isFinite := by
  simp only [isFinite, h.rank_eq]

theorem isZero_eq (h : UpToZero x y) : x.isZero = y.isZero := by
  simp only [isZero, h.rank_eq]

theorem units_eq (h : UpToZero x y) : x.units = y.units := by
  unfold units
  rw [← h.rank_eq]
  rcases h.sign with hzero | hsign
  · simp [hzero, magnitude_zero]
  · rw [hsign]

theorem neg (h : UpToZero x y) : UpToZero x.neg y.neg :=
  ⟨h.rank_eq, h.sign.imp_right (congrArg (!·))⟩

/-- The sign of a product or quotient, unless a factor or the dividend is zero. -/
theorem sign_bne (h : UpToZero x x') (h' : UpToZero y y') (hx : x.rank ≠ 0) (hy : y.rank ≠ 0) :
    (x.negative != y.negative) = (x'.negative != y'.negative) := by
  rw [h.sign.resolve_left hx, h'.sign.resolve_left hy]

theorem ofRatio (hd : 0 < d) (h : n ≠ 0 → negative = negative') :
    UpToZero (ofRatio negative n d) (ofRatio negative' n d) := by
  refine ⟨rfl, ?_⟩
  by_cases hn : n = 0
  · exact .inl (by rw [hn]; exact nearestRank_zero hd)
  · exact .inr (h hn)

theorem add (hx : x.isFinite = true) (hy : y.isFinite = true) (h : UpToZero x x')
    (h' : UpToZero y y') : UpToZero (x.add y) (x'.add y') := by
  have hx' : x'.isFinite = true := h.isFinite_eq ▸ hx
  have hy' : y'.isFinite = true := h'.isFinite_eq ▸ hy
  unfold Binary64.add
  simp only [isNaN_of_isFinite, isInfinite_of_isFinite, hx, hy, hx', hy', Bool.or_self,
    Bool.false_eq_true, if_false, h.units_eq, h'.units_eq]
  split
  · exact ⟨rfl, .inl rfl⟩
  · exact .of_eq rfl

theorem sub (hx : x.isFinite = true) (hy : y.isFinite = true) (h : UpToZero x x')
    (h' : UpToZero y y') : UpToZero (x.sub y) (x'.sub y') :=
  h.add hx ((isFinite_neg y).trans hy) h'.neg

theorem mul (hx : x.isFinite = true) (hy : y.isFinite = true) (h : UpToZero x x')
    (h' : UpToZero y y') : UpToZero (x.mul y) (x'.mul y') := by
  have hx' : x'.isFinite = true := h.isFinite_eq ▸ hx
  have hy' : y'.isFinite = true := h'.isFinite_eq ▸ hy
  unfold Binary64.mul
  simp only [isNaN_of_isFinite, isInfinite_of_isFinite, hx, hy, hx', hy', Bool.or_self,
    Bool.false_eq_true, if_false, ← h.rank_eq, ← h'.rank_eq]
  refine ofRatio (by exact_mod_cast unitsPerOne_pos) fun hproduct => h.sign_bne h' ?_ ?_
  · intro hzero
    exact hproduct (by rw [hzero, magnitude_zero, Nat.zero_mul])
  · intro hzero
    exact hproduct (by rw [hzero, magnitude_zero, Nat.mul_zero])

theorem div (hx : x.isFinite = true) (hy : y.isFinite = true) (hzero : y.isZero = false)
    (h : UpToZero x x') (h' : UpToZero y y') : UpToZero (x.div y) (x'.div y') := by
  have hx' : x'.isFinite = true := h.isFinite_eq ▸ hx
  have hy' : y'.isFinite = true := h'.isFinite_eq ▸ hy
  have hzero' : y'.isZero = false := h'.isZero_eq ▸ hzero
  have hrank : y.rank ≠ 0 := beq_eq_false_iff_ne.mp hzero
  unfold Binary64.div
  simp only [isNaN_of_isFinite, isInfinite_of_isFinite, hx, hy, hx', hy', hzero, hzero',
    Bool.or_self, Bool.false_eq_true, if_false, ← h.rank_eq, ← h'.rank_eq]
  refine ofRatio (magnitude_pos (Nat.pos_of_ne_zero hrank)) fun hdividend => h.sign_bne h' ?_ hrank
  intro hzero
  exact hdividend (by rw [hzero, magnitude_zero, Nat.zero_mul])

end UpToZero
end Reckoner.Binary64
