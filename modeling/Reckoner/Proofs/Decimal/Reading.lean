import Reckoner.Decimal.Reader
import Reckoner.Proofs.Decimal.ReadBack

/-!
Digits with a point among, before or behind them are read as the nearest number.
-/
namespace Reckoner.Decimal

open Text (digitsValue isUnsignedDecimal)

variable {c : Char} {cs digits whole places : List Char}

theorem nearest_neg_places (n k : Nat) :
    nearest ⟨n, -(k : Int)⟩ false = Binary64.ofDecimal n k := by
  have hzero : (-(k : Int)).toNat = 0 := by omega
  have hplaces : (- -(k : Int)).toNat = k := by omega
  unfold nearest Binary64.ofDecimal
  rw [hzero, hplaces, Nat.pow_eq, Nat.pow_zero, Nat.mul_one]

theorem takeWhile_isDigit (h : ∀ c ∈ digits, c.isDigit = true) (cs : List Char)
    (hrest : ∀ c ∈ cs.head?, c.isDigit = false) :
    (digits ++ cs).takeWhile Char.isDigit = digits ∧
      (digits ++ cs).dropWhile Char.isDigit = cs := by
  rw [List.takeWhile_append_of_pos h, List.dropWhile_append_of_pos h]
  cases cs with
  | nil => exact ⟨List.append_nil _, rfl⟩
  | cons c cs => simp [hrest c rfl]

theorem unsigned?_pointed (hne : pointed whole places ≠ [])
    (h : ∀ c ∈ whole ++ places, c.isDigit = true) :
    unsigned? (pointed whole places) =
      some ⟨digitsValue (whole ++ places), -(places.length : Int)⟩ := by
  rw [List.forall_mem_append] at h
  obtain ⟨hwhole, hplaces⟩ := h
  by_cases hnil : places = []
  · subst hnil
    rw [pointed_nil] at hne ⊢
    obtain ⟨htake, hdrop⟩ := takeWhile_isDigit hwhole [] (by simp)
    rw [List.append_nil] at htake hdrop
    simp [unsigned?, isUnsignedDecimal, htake, hdrop, hne, Text.isExponent, Text.exponentValue]
  · obtain ⟨htake, hdrop⟩ := takeWhile_isDigit hwhole ('.' :: places) (by simp)
    obtain ⟨htake', hdrop'⟩ := takeWhile_isDigit hplaces [] (by simp)
    rw [List.append_nil] at htake' hdrop'
    rw [pointed_of_ne_nil hnil]
    simp [unsigned?, isUnsignedDecimal, htake, hdrop, htake', hdrop', hnil, Text.isExponent,
      Text.exponentValue]

/-- Without a sign in front the text is read as it stands. -/
theorem read?_of_unsigned? {d : Decimal} (hsign : ∀ c ∈ cs.head?, c ≠ '-' ∧ c ≠ '+')
    (h : unsigned? cs = some d) : read? cs = some (d.nearest false) := by
  rw [read?, h]
  · rintro rest rfl
    exact (hsign '-' rfl).1 rfl
  · rintro rest rfl
    exact (hsign '+' rfl).2 rfl

theorem isDigit_or_point_of_mem (h : ∀ c ∈ whole ++ places, c.isDigit = true)
    (hc : c ∈ pointed whole places) : c.isDigit = true ∨ c = '.' := by
  by_cases hnil : places = []
  · subst hnil
    exact .inl (h c (List.mem_append_left _ hc))
  · rw [pointed_of_ne_nil hnil] at hc
    rcases List.mem_append.mp hc with hw | hp
    · exact .inl (h c (List.mem_append_left _ hw))
    · rcases List.mem_cons.mp hp with rfl | hp
      · exact .inr rfl
      · exact .inl (h c (List.mem_append_right _ hp))

theorem read?_pointed (hne : pointed whole places ≠ [])
    (h : ∀ c ∈ whole ++ places, c.isDigit = true) :
    read? (pointed whole places) =
      some (Binary64.ofDecimal (digitsValue (whole ++ places)) places.length) := by
  rw [← nearest_neg_places]
  refine read?_of_unsigned? ?_ (unsigned?_pointed hne h)
  intro c hc
  rcases isDigit_or_point_of_mem h (List.mem_of_mem_head? hc) with hdigit | rfl
  · constructor <;> rintro rfl <;> contradiction
  · decide

theorem nearest_true (d : Decimal) : d.nearest true = { d.nearest false with negative := true } :=
  rfl

/-- Behind a minus sign the number is read as one without a sign. -/
theorem read?_minus {d : Decimal} (h : unsigned? cs = some d) :
    read? ('-' :: cs) = some (d.nearest true) := by
  rw [read?, h]

/-- What is written for a number reads back to it, also for an infinity. -/
theorem read?_write {x : Binary64} (h : x.isNaN = false) :
    read? (Layout.plain.write x) = some x := by
  by_cases hfinite : x.isFinite = true
  · obtain ⟨whole, places, hwrite, hne, hdigits, hvalue⟩ := Layout.write_spec hfinite
    have hpointed : pointed whole places ≠ [] := by
      unfold pointed
      split <;> simp [hne]
    obtain ⟨negative, rank, hrank⟩ := x
    rw [hwrite]
    cases negative with
    | false => exact (read?_pointed hpointed hdigits).trans (congrArg some hvalue)
    | true =>
      refine (read?_minus (unsigned?_pointed hpointed hdigits)).trans (congrArg some ?_)
      rw [nearest_true, nearest_neg_places, hvalue]
      rfl
  · have hlow : ¬ x.rank < Binary64.infinityRank :=
      of_decide_eq_false (Bool.eq_false_iff.mpr hfinite)
    have hhigh : ¬ Binary64.infinityRank < x.rank := of_decide_eq_false h
    obtain ⟨negative, rank, hrank⟩ := x
    obtain rfl : rank = Binary64.infinityRank :=
      Nat.le_antisymm (Nat.not_lt.mp hhigh) (Nat.not_lt.mp hlow)
    cases negative <;> rfl

end Reckoner.Decimal
