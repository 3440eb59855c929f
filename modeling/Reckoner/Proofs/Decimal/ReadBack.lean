import Mathlib.Algebra.Order.Ring.Nat
import Reckoner.Decimal.Layout
import Reckoner.Proofs.Binary64.Rounding
import Reckoner.Text.Numeral

/-!
The digits that are written for a finite number read back to it.
-/
namespace Reckoner

/-- The magnitude of a number, without its sign. -/
def Binary64.abs (x : Binary64) : Binary64 := { x with negative := false }

namespace Decimal

variable {tie : Tie} {rank j t digits places : Nat} {x : Binary64}

theorem gridScale_pos : 0 < gridScale := by
  unfold gridScale
  generalize 1074 = places
  exact Nat.pow_pos (by decide)

theorem unitsPerOne_mul_gridScale : Binary64.unitsPerOne * gridScale = 10 ^ 1074 := by
  unfold Binary64.unitsPerOne gridScale
  generalize 1074 = places
  exact (Nat.mul_pow 2 5 places).symm

theorem readsBack_iff :
    readsBack rank j t = true ↔ Binary64.nearestRank (t * Nat.pow 10 j) gridScale = rank := by
  simp [readsBack]

theorem readsBack_of_onGrid (h : onGrid tie rank j = some t) : readsBack rank j t = true := by
  simp only [onGrid] at h
  split at h
  case isTrue hbelow =>
    obtain rfl := Option.some.inj h
    split
    case isTrue habove =>
      rcases tie.nearest_eq_or (Binary64.magnitude rank * gridScale) (Nat.pow 10 j) with heq | heq
      · rw [heq]
        exact hbelow
      · rw [heq]
        exact habove
    case isFalse => exact hbelow
  case isFalse =>
    split at h
    case isTrue habove =>
      obtain rfl := Option.some.inj h
      exact habove
    case isFalse => cases h

/-- On the finest grid every magnitude is a point itself. -/
theorem readsBack_finest (h : rank < Binary64.infinityRank) :
    readsBack rank 0 (Binary64.magnitude rank * gridScale) = true := by
  have hone : Binary64.magnitude rank * gridScale * Nat.pow 10 0 * 1 =
      Binary64.magnitude rank * gridScale := by
    rw [Nat.pow_eq, Nat.pow_zero, Nat.mul_one, Nat.mul_one]
  rw [readsBack_iff, Binary64.nearestRank_congr gridScale_pos Nat.one_pos hone]
  exact Binary64.nearestRank_magnitude h

theorem onCoarsestGrid_readsBack (tie : Tie) (h : rank < Binary64.infinityRank) (j : Nat) :
    ∃ i : Nat, (onCoarsestGrid tie rank j).exponent = (i : Int) - 1074 ∧
      readsBack rank i (onCoarsestGrid tie rank j).digits = true := by
  induction j with
  | zero => exact ⟨0, rfl, readsBack_finest h⟩
  | succ j ih =>
    rw [onCoarsestGrid]
    cases hpoint : onGrid tie rank (j + 1) with
    | none => exact ih
    | some t => exact ⟨j + 1, rfl, readsBack_of_onGrid hpoint⟩

/-- The shortest digits are a point of some grid that reads back to the number. -/
theorem shortest_readsBack (tie : Tie) (h : x.isFinite = true) :
    ∃ i : Nat, (shortest tie x).exponent = (i : Int) - 1074 ∧
      readsBack x.rank i (shortest tie x).digits = true := by
  have hrank := Binary64.rank_lt_of_isFinite h
  unfold shortest
  by_cases hzero : x.isZero = true
  · rw [if_pos hzero]
    refine ⟨1074, rfl, ?_⟩
    rw [readsBack_iff, Nat.zero_mul, Binary64.nearestRank_zero gridScale_pos]
    exact (beq_iff_eq.mp hzero).symm
  · rw [if_neg hzero]
    exact onCoarsestGrid_readsBack tie hrank _

/-- A fraction of the same value as a point is rounded to what the point reads back to. -/
theorem nearestRank_of_readsBack {n d : Nat} (h : readsBack rank j t = true) (hd : 0 < d)
    (hvalue : n * 10 ^ 1074 = t * 10 ^ j * d) :
    Binary64.nearestRank (n * Binary64.unitsPerOne) d = rank := by
  have hcross : n * Binary64.unitsPerOne * gridScale = t * Nat.pow 10 j * d := by
    rw [Nat.mul_assoc, unitsPerOne_mul_gridScale, hvalue, Nat.pow_eq]
  rw [← readsBack_iff.mp h]
  exact Binary64.nearestRank_congr hd gridScale_pos hcross

theorem ofDecimal_of_readsBack (h : readsBack x.rank j t = true)
    (hvalue : digits * 10 ^ 1074 = t * 10 ^ j * 10 ^ places) :
    Binary64.ofDecimal digits places = x.abs := by
  have hrank := nearestRank_of_readsBack h (Nat.pow_pos (by decide)) hvalue
  simp only [Binary64.ofDecimal, Binary64.ofRatio, Binary64.abs, Nat.pow_eq, hrank]

end Decimal

open Text (digitsValue)

theorem digitsValue_toDigits (n : Nat) : digitsValue (Nat.toDigits 10 n) = n :=
  Nat.ofDigitChars_ten_toDigits

theorem isDigit_toDigits (n : Nat) : ∀ c ∈ Nat.toDigits 10 n, c.isDigit = true :=
  fun _ hc => Nat.isDigit_of_mem_toDigits (by decide) (by decide) hc

theorem digitsValue_append_zeros (digits : List Char) (n : Nat) :
    digitsValue (digits ++ List.replicate n '0') = 10 ^ n * digitsValue digits :=
  (Nat.ofDigitChars_append 0).trans Nat.ofDigitChars_replicate_zero

theorem digitsValue_zeros_append (n : Nat) (digits : List Char) :
    digitsValue (List.replicate n '0' ++ digits) = digitsValue digits := by
  have happend : digitsValue (List.replicate n '0' ++ digits) =
      Nat.ofDigitChars 10 digits (Nat.ofDigitChars 10 (List.replicate n '0') 0) :=
    Nat.ofDigitChars_append 0
  rwa [Nat.ofDigitChars_replicate_zero, Nat.mul_zero] at happend

/-- Digits, with a point before the places if there are any. -/
def pointed (whole places : List Char) : List Char :=
  if places = [] then whole else whole ++ '.' :: places

@[simp] theorem pointed_nil (whole : List Char) : pointed whole [] = whole := rfl

theorem pointed_of_ne_nil {whole places : List Char} (h : places ≠ []) :
    pointed whole places = whole ++ '.' :: places := if_neg h

namespace Layout

variable {layout : Layout} {digits whole places : List Char} {j k : Nat}

/-! The three places for the point. -/

theorem writePositional_behind (hending : layout.wholeEnding = pointed [] (List.replicate k '0'))
    (digits : List Char) (n : Nat) :
    layout.writePositional digits ((digits.length : Int) + n) =
      pointed (digits ++ List.replicate n '0') (List.replicate k '0') := by
  have hzeros : ((digits.length : Int) + n).toNat - digits.length = n := by omega
  unfold writePositional
  rw [if_pos (by omega), hzeros, hending]
  unfold pointed
  split
  · exact List.append_nil _
  · rfl

theorem writePositional_within (hwhole : whole ≠ []) (hplaces : places ≠ []) :
    layout.writePositional (whole ++ places) whole.length = whole ++ '.' :: places := by
  have hw := List.length_pos_iff.mpr hwhole
  have hp := List.length_pos_iff.mpr hplaces
  unfold writePositional
  rw [List.length_append, if_neg (by omega), if_pos (by omega), Int.toNat_natCast,
    List.take_left, List.drop_left]

theorem writePositional_before (hne : digits ≠ []) (n : Nat) :
    layout.writePositional digits (-(n : Int)) =
      '0' :: '.' :: (List.replicate n '0' ++ digits) := by
  have hlength := List.length_pos_iff.mpr hne
  unfold writePositional
  rw [if_neg (by omega), if_neg (by omega), Int.natAbs_neg, Int.natAbs_natCast]

theorem isDigit_of_mem_replicate {c : Char} {n : Nat} (h : c ∈ List.replicate n '0') :
    c.isDigit = true := by
  rw [List.eq_of_mem_replicate h]
  decide

theorem write_of_isFinite {x : Binary64} (h : x.isFinite = true) :
    layout.write x = (if x.negative then ['-'] else []) ++
      layout.writeDecimal (Decimal.shortest layout.tie x) := by
  simp only [write, Binary64.isNaN_of_isFinite h, Binary64.isInfinite_of_isFinite h,
    Bool.false_eq_true, if_false]

/-- The digits of a point of grid `j` stand around a decimal point with the value of that point. -/
structure Places (digits : List Char) (j : Nat) (whole places : List Char) : Prop where
  whole_ne_nil : whole ≠ []
  isDigit : ∀ c ∈ whole ++ places, c.isDigit = true
  value : digitsValue (whole ++ places) * 10 ^ 1074 =
    digitsValue digits * 10 ^ j * 10 ^ places.length
  /-- A zero is only put where nothing else is in front of the point. -/
  head : digits.head? ≠ some '0' → whole.head? = some '0' → whole.length = 1

theorem exists_places (layout : Layout)
    (hending : layout.wholeEnding = pointed [] (List.replicate k '0')) (hne : digits ≠ [])
    (hdigits : ∀ c ∈ digits, c.isDigit = true) (j : Nat) :
    ∃ whole places, layout.writePositional digits ((j : Int) - 1074 + digits.length) =
        pointed whole places ∧
      Places digits j whole places ∧ (k ≠ 0 → places ≠ []) := by
  have hlength := List.length_pos_iff.mpr hne
  rcases Nat.lt_or_ge j 1074 with hlt | hge
  · -- The places make up for what the exponent lacks.
    obtain ⟨n, hn⟩ : ∃ n, 1074 = j + n := ⟨1074 - j, by omega⟩
    have hscale : 10 ^ 1074 = 10 ^ j * 10 ^ n := by rw [hn, Nat.pow_add]
    rcases Nat.lt_or_ge n digits.length with hwithin | hbefore
    · obtain ⟨whole, places, rfl, hplaces⟩ : ∃ whole places, digits = whole ++ places ∧
          places.length = n :=
        ⟨digits.take (digits.length - n), digits.drop (digits.length - n), by simp, by simp; omega⟩
      rw [List.length_append] at hwithin
      have hp : places ≠ [] := List.length_pos_iff.mp (by omega)
      have hw : whole ≠ [] := List.length_pos_iff.mp (by omega)
      have hpoint : (j : Int) - 1074 + (whole ++ places).length = whole.length := by
        rw [List.length_append]
        omega
      refine ⟨whole, places, ?_, ⟨hw, hdigits, ?_, ?_⟩, fun _ => hp⟩
      · rw [hpoint, writePositional_within hw hp, pointed_of_ne_nil hp]
      · rw [hscale, hplaces, Nat.mul_assoc]
      · intro hhead hzero
        obtain ⟨c, tail, rfl⟩ := List.exists_cons_of_ne_nil hw
        exact absurd hzero hhead
    · have hpoint : (j : Int) - 1074 + digits.length = -((n - digits.length : Nat) : Int) := by
        omega
      have hzeros : ['0'] ++ (List.replicate (n - digits.length) '0' ++ digits) =
          List.replicate (n - digits.length + 1) '0' ++ digits := rfl
      have hplaces : (List.replicate (n - digits.length) '0' ++ digits).length = n := by
        rw [List.length_append, List.length_replicate]
        omega
      refine ⟨['0'], List.replicate (n - digits.length) '0' ++ digits, ?_,
        ⟨by simp, ?_, ?_, fun _ _ => rfl⟩, fun _ => by simp [hne]⟩
      · rw [hpoint, writePositional_before hne, pointed_of_ne_nil (by simp [hne])]
        rfl
      · intro c hc
        rw [hzeros] at hc
        exact (List.mem_append.mp hc).elim isDigit_of_mem_replicate (hdigits c)
      · rw [hzeros, digitsValue_zeros_append, hplaces, hscale, Nat.mul_assoc]
  · obtain ⟨n, rfl⟩ : ∃ n, j = n + 1074 := ⟨j - 1074, by omega⟩
    have hpoint : ((n + 1074 : Nat) : Int) - 1074 + digits.length = digits.length + n := by omega
    refine ⟨digits ++ List.replicate n '0', List.replicate k '0', ?_,
      ⟨by simp [hne], ?_, ?_, ?_⟩, by simp⟩
    · rw [hpoint, writePositional_behind hending]
    · intro c hc
      rw [List.append_assoc] at hc
      rcases List.mem_append.mp hc with hc | hc
      · exact hdigits c hc
      · exact (List.mem_append.mp hc).elim isDigit_of_mem_replicate isDigit_of_mem_replicate
    · generalize 1074 = grid
      rw [digitsValue_append_zeros, digitsValue_append_zeros, List.length_replicate, Nat.pow_add]
      ac_rfl
    · intro hhead hzero
      obtain ⟨c, tail, rfl⟩ := List.exists_cons_of_ne_nil hne
      exact absurd hzero hhead

/-- A finite number is written as digits that read back to its magnitude, behind its sign. -/
theorem write_spec {x : Binary64} (h : x.isFinite = true) :
    ∃ whole places, plain.write x = (if x.negative then ['-'] else []) ++ pointed whole places ∧
      whole ≠ [] ∧ (∀ c ∈ whole ++ places, c.isDigit = true) ∧
      Binary64.ofDecimal (digitsValue (whole ++ places)) places.length = x.abs := by
  obtain ⟨j, hexponent, hreads⟩ := Decimal.shortest_readsBack .up h
  obtain ⟨whole, places, hwrite, hplaces, -⟩ :=
    exists_places plain (k := 0) rfl Nat.toDigits_ne_nil (isDigit_toDigits _) j
  have hvalue := hplaces.value
  rw [digitsValue_toDigits] at hvalue
  refine ⟨whole, places, ?_, hplaces.whole_ne_nil, hplaces.isDigit,
    Decimal.ofDecimal_of_readsBack hreads hvalue⟩
  have hdecimal : plain.writeDecimal (Decimal.shortest .up x) = pointed whole places := by
    rw [← hwrite, ← hexponent]
    rfl
  rw [write_of_isFinite h]
  exact congrArg _ hdecimal

end Layout
end Reckoner
