import Reckoner.Json.Reader
import Reckoner.Json.Writer
import Reckoner.Proofs.Decimal.ReadBack

/-!
Numbers of a JSON text: a well-formed one is read whole, and a finite binary64 number is written as
a well-formed one to which it is nearest.
-/
namespace Reckoner
namespace Json

open Text (digitsValue)

namespace Numeral

/-- How many digits the exponent moves the point to the right. -/
def shift (n : Numeral) : Int :=
  match n.exponent with
  | none => 0
  | some (negative, digits) =>
    if negative then -(digitsValue digits : Int) else digitsValue digits

/-- The binary64 number nearest to the one that is written. -/
def nearest (n : Numeral) : Binary64 :=
  .ofRatio n.negative
    (digitsValue (n.whole ++ n.places) * 10 ^ n.shift.toNat * Binary64.unitsPerOne)
    (10 ^ (n.places.length + (-n.shift).toNat))

/-- The exponent with its sign, also if that is a plus. -/
def exponentText (n : Numeral) : List Char :=
  match n.exponent with
  | none => []
  | some (negative, digits) => 'e' :: (if negative then '-' else '+') :: digits

def spelled (n : Numeral) : List Char :=
  (if n.negative then ['-'] else []) ++ pointed n.whole n.places ++ n.exponentText

/-- What the grammar asks of the parts of a number. -/
structure Proper (n : Numeral) : Prop where
  whole_ne_nil : n.whole ≠ []
  isDigit : ∀ c ∈ n.whole ++ n.places, c.isDigit = true
  /-- No other digits follow a zero in front of the point. -/
  head : n.whole.head? = some '0' → n.whole.length = 1
  exponent : ∀ negative digits, n.exponent = some (negative, digits) →
    digits ≠ [] ∧ ∀ c ∈ digits, c.isDigit = true

/-- No number goes on in the text. -/
def Ends (rest : List (Option Char)) : Prop :=
  ∀ c, rest.head? = some (some c) → c.isDigit = false ∧ c ≠ '.' ∧ c ≠ 'e' ∧ c ≠ 'E'

end Numeral

variable {c : Char} {rest : List (Option Char)} {digits whole places : List Char} {n : Numeral}

/-! Reading. -/

theorem takeDigits_append (hdigits : ∀ c ∈ digits, c.isDigit = true)
    (hrest : ∀ c, rest.head? = some (some c) → c.isDigit = false) :
    takeDigits (digits.map some ++ rest) = (digits, rest) := by
  have hall : ∀ x ∈ digits.map some, isDigit x = true := by
    intro x hx
    obtain ⟨c, hc, rfl⟩ := List.mem_map.mp hx
    exact hdigits c hc
  have hstop : rest.takeWhile isDigit = [] ∧ rest.dropWhile isDigit = rest := by
    match rest with
    | [] => exact ⟨rfl, rfl⟩
    | none :: _ => exact ⟨rfl, rfl⟩
    | some c :: _ =>
      have hc : isDigit (some c) = false := hrest c rfl
      simp [hc]
  unfold takeDigits
  rw [List.takeWhile_append_of_pos hall, List.dropWhile_append_of_pos hall, hstop.1, hstop.2]
  simp

theorem takePlaces?_of_ne (h : rest.head? ≠ some (some '.')) :
    takePlaces? rest = some ([], rest) := by
  unfold takePlaces?
  split
  · exact absurd rfl h
  · rfl

theorem takePlaces?_point (hne : places ≠ []) (hdigits : ∀ c ∈ places, c.isDigit = true)
    (hrest : ∀ c, rest.head? = some (some c) → c.isDigit = false) :
    takePlaces? (some '.' :: (places.map some ++ rest)) = some (places, rest) := by
  have hempty : places.isEmpty = false := by simpa using hne
  simp [takePlaces?, takeDigits_append hdigits hrest, hempty]

theorem takeExponent?_exponentText (hn : n.Proper) (hrest : Numeral.Ends rest) :
    takeExponent? (n.exponentText.map some ++ rest) = some (n.exponent, rest) := by
  unfold Numeral.exponentText
  cases hexponent : n.exponent with
  | none =>
    unfold takeExponent?
    split
    · rename_i c after hcons
      obtain ⟨-, -, he, hE⟩ := hrest c (congrArg List.head? hcons)
      simp [he, hE]
    · rfl
  | some exponent =>
    obtain ⟨negative, digits⟩ := exponent
    obtain ⟨hne, hdigits⟩ := hn.exponent negative digits hexponent
    have hempty : digits.isEmpty = false := by simpa using hne
    have htake := takeDigits_append hdigits fun c hc => (hrest c hc).1
    cases negative <;> simp [takeExponent?, takeSign, htake, hempty]

theorem takeNumeral?_pointed (hn : n.Proper) (hrest : Numeral.Ends rest) :
    takeNumeral? n.negative ((pointed n.whole n.places ++ n.exponentText).map some ++ rest) =
      some (n, rest) := by
  have hwhole : ∀ c ∈ n.whole, c.isDigit = true :=
    fun c hc => hn.isDigit c (List.mem_append_left _ hc)
  have hplaces : ∀ c ∈ n.places, c.isDigit = true :=
    fun c hc => hn.isDigit c (List.mem_append_right _ hc)
  have htail : ∀ c, (n.exponentText.map some ++ rest).head? = some (some c) →
      c.isDigit = false ∧ c ≠ '.' := by
    intro c hc
    unfold Numeral.exponentText at hc
    split at hc
    · exact ⟨(hrest c hc).1, (hrest c hc).2.1⟩
    · obtain rfl : 'e' = c := by simpa using hc
      decide
  have hparts : takeDigits ((pointed n.whole n.places ++ n.exponentText).map some ++ rest) =
        (n.whole, (if n.places = [] then [] else some '.' :: n.places.map some) ++
          (n.exponentText.map some ++ rest)) ∧
      takePlaces? ((if n.places = [] then [] else some '.' :: n.places.map some) ++
          (n.exponentText.map some ++ rest)) =
        some (n.places, n.exponentText.map some ++ rest) := by
    by_cases hnil : n.places = []
    · rw [if_pos hnil, hnil, pointed_nil, List.nil_append, List.map_append, List.append_assoc]
      exact ⟨takeDigits_append hwhole fun c hc => (htail c hc).1,
        takePlaces?_of_ne fun h => (htail '.' h).2 rfl⟩
    · rw [if_neg hnil, pointed_of_ne_nil hnil, List.map_append, List.map_append,
        List.append_assoc, List.append_assoc, List.map_cons, List.cons_append]
      refine ⟨takeDigits_append hwhole fun c hc => ?_,
        takePlaces?_point hnil hplaces fun c hc => (htail c hc).1⟩
      obtain rfl : '.' = c := by simpa using hc
      decide
  have hempty : n.whole.isEmpty = false := by simpa using hn.whole_ne_nil
  have hhead : (n.whole.head? == some '0' && n.whole.length != 1) = false := by
    rw [Bool.and_eq_false_iff, beq_eq_false_iff_ne, bne_eq_false_iff_eq]
    exact (Decidable.em (n.whole.head? = some '0')).symm.imp_right hn.head
  simp only [takeNumeral?, hparts.1, hparts.2, takeExponent?_exponentText hn hrest, hempty, hhead,
    Bool.or_self, Bool.false_eq_true, if_false]

theorem nextToken?_minus :
    nextToken? (some '-' :: rest) =
      (takeNumeral? true rest).map fun (numeral, rest) => (.number numeral, rest) := rfl

theorem nextToken?_digit (hc : c.isDigit = true) :
    nextToken? (some c :: rest) =
      (takeNumeral? false (some c :: rest)).map fun (numeral, rest) => (.number numeral, rest) := by
  have hblank : isBlank (some c) = false := by
    cases h : isBlank (some c) with
    | false => rfl
    | true =>
      simp only [isBlank, Bool.or_eq_true, beq_iff_eq] at h
      rcases h with ((rfl | rfl) | rfl) | rfl <;> exact hc.symm
  have hdrop : (some c :: rest).dropWhile isBlank = some c :: rest := by simp [hblank]
  unfold nextToken?
  rw [hdrop]
  split <;> first | rfl | (rename_i h; injection h with h; injection h with h; subst h; cases hc)

/-- A well-formed number is read whole where nothing continues it. -/
theorem nextToken?_spelled (hn : n.Proper) (hrest : Numeral.Ends rest) :
    nextToken? (n.spelled.map some ++ rest) = some (.number n, rest) := by
  have htake := takeNumeral?_pointed hn hrest
  unfold Numeral.spelled
  cases hsign : n.negative with
  | true =>
    rw [hsign] at htake
    rw [if_pos rfl, List.append_assoc, List.cons_append, List.nil_append, List.map_cons,
      List.cons_append, nextToken?_minus, htake]
    rfl
  | false =>
    rw [hsign] at htake
    obtain ⟨c, tail, hwhole⟩ := List.exists_cons_of_ne_nil hn.whole_ne_nil
    have hc : c.isDigit = true := hn.isDigit c (by simp [hwhole])
    obtain ⟨after, hafter⟩ :
        ∃ after, pointed n.whole n.places ++ n.exponentText = c :: after := by
      unfold pointed
      split <;> exact ⟨_, by rw [hwhole]; rfl⟩
    rw [if_neg Bool.false_ne_true, List.nil_append]
    rw [hafter, List.map_cons, List.cons_append] at htake ⊢
    rw [nextToken?_digit hc, htake]
    rfl

/-! Writing. -/

theorem head?_toDigits_ne {t : Nat} (h : t ≠ 0) : (Nat.toDigits 10 t).head? ≠ some '0' := by
  induction t using Nat.strong_induction_on with
  | _ t ih =>
    rcases Nat.lt_or_ge t 10 with hlt | hge
    · rw [Nat.toDigits_of_lt_base hlt]
      have hdigit : ∀ d : Fin 10, d.val ≠ 0 → [Nat.digitChar d.val].head? ≠ some '0' := by decide
      exact hdigit ⟨t, hlt⟩ h
    · rw [Nat.toDigits_of_base_le (by decide) hge]
      have hhead := ih (t / 10) (by omega) (by omega)
      cases hfront : Nat.toDigits 10 (t / 10) with
      | nil => exact absurd hfront Nat.toDigits_ne_nil
      | cons c tail =>
        rw [hfront] at hhead
        exact hhead

section

variable {x : Binary64} {j t : Nat}

theorem nearest_of_readsBack (hsign : n.negative = x.negative)
    (hreads : Decimal.readsBack x.rank j t = true)
    (hvalue : digitsValue (n.whole ++ n.places) * 10 ^ n.shift.toNat * 10 ^ 1074 =
      t * 10 ^ j * 10 ^ (n.places.length + (-n.shift).toNat)) : n.nearest = x := by
  have hrank := Decimal.nearestRank_of_readsBack hreads (Nat.pow_pos (by decide)) hvalue
  simp only [Numeral.nearest, Binary64.ofRatio, hrank, hsign]

theorem write_zero (hzero : x.isZero = true) :
    ∃ n : Numeral, n.Proper ∧ Layout.json.write x = n.spelled ∧ n.nearest = x := by
  have hrank : x.rank = 0 := beq_iff_eq.mp hzero
  have hfinite : x.isFinite = true := by
    unfold Binary64.isFinite
    rw [hrank]
    decide
  refine ⟨⟨x.negative, ['0'], ['0'], none⟩, ⟨by simp, by simp, by simp, by simp⟩, ?_, ?_⟩
  · rw [Layout.write_of_isFinite hfinite, Decimal.shortest, if_pos hzero]
    simp only [Numeral.spelled, Numeral.exponentText, List.append_nil]
    rfl
  · refine nearest_of_readsBack (j := 0) (t := 0) rfl ?_ ?_
    · rw [Decimal.readsBack_iff, Nat.zero_mul, hrank]
      exact Binary64.nearestRank_zero Decimal.gridScale_pos
    · have hdigits : digitsValue (['0'] ++ ['0']) = 0 := by decide
      rw [hdigits, Nat.zero_mul, Nat.zero_mul, Nat.zero_mul, Nat.zero_mul]

theorem write_positional (ht : t ≠ 0) (hreads : Decimal.readsBack x.rank j t = true) :
    ∃ n : Numeral, n.Proper ∧ n.negative = x.negative ∧ n.nearest = x ∧
      Layout.json.writePositional (Nat.toDigits 10 t)
        ((j : Int) - 1074 + (Nat.toDigits 10 t).length) =
          pointed n.whole n.places ++ n.exponentText := by
  obtain ⟨whole, places, hwrite, hplaces, -⟩ :=
    Layout.exists_places Layout.json (k := 1) rfl Nat.toDigits_ne_nil (isDigit_toDigits t) j
  have hvalue := hplaces.value
  rw [digitsValue_toDigits] at hvalue
  refine ⟨⟨x.negative, whole, places, none⟩, ⟨hplaces.whole_ne_nil, hplaces.isDigit,
    hplaces.head (head?_toDigits_ne ht), by simp⟩, rfl, nearest_of_readsBack rfl hreads ?_, ?_⟩
  · show digitsValue (whole ++ places) * 10 ^ 0 * 10 ^ 1074 = t * 10 ^ j * 10 ^ (places.length + 0)
    rw [Nat.pow_zero, Nat.mul_one, Nat.add_zero, hvalue]
  · rw [hwrite]
    exact (List.append_nil _).symm

theorem write_scientific (hreads : Decimal.readsBack x.rank j t = true) :
    ∃ n : Numeral, n.Proper ∧ n.negative = x.negative ∧ n.nearest = x ∧
      Layout.writeScientific (Nat.toDigits 10 t)
        ((j : Int) - 1074 + (Nat.toDigits 10 t).length) =
          pointed n.whole n.places ++ n.exponentText := by
  obtain ⟨c, tail, hdigits⟩ := List.exists_cons_of_ne_nil (Nat.toDigits_ne_nil (b := 10) (n := t))
  have hvalue : digitsValue (c :: tail) = t := hdigits ▸ digitsValue_toDigits t
  have hall := isDigit_toDigits t
  rw [hdigits] at hall ⊢
  -- One digit stands in front of the point, so the exponent counts the others.
  obtain ⟨exponent, hexponent⟩ : ∃ exponent : Int, exponent = (j : Int) - 1074 + tail.length :=
    ⟨_, rfl⟩
  have hpoint : (j : Int) - 1074 + (c :: tail).length - 1 = exponent := by
    rw [List.length_cons]
    omega
  let n : Numeral :=
    ⟨x.negative, [c], tail, some (decide (exponent < 0), Nat.toDigits 10 exponent.natAbs)⟩
  have hshift : n.shift = exponent := by
    simp only [n, Numeral.shift, digitsValue_toDigits, decide_eq_true_eq]
    split <;> omega
  refine ⟨n, ⟨by simp [n], hall, by simp [n], ?_⟩, rfl, nearest_of_readsBack rfl hreads ?_, ?_⟩
  · rintro negative digits hsome
    obtain ⟨-, rfl⟩ := Prod.mk.inj (Option.some.inj hsome)
    exact ⟨Nat.toDigits_ne_nil, isDigit_toDigits _⟩
  · have hscale : exponent.toNat + 1074 = j + (tail.length + (-exponent).toNat) := by omega
    rw [hshift, Nat.mul_assoc, Nat.mul_assoc, ← Nat.pow_add, ← Nat.pow_add]
    simp only [n, List.singleton_append, hvalue, hscale]
  · have hsign : (if decide (exponent < 0) = true then '-' else '+') =
        if exponent < 0 then '-' else '+' := by simp
    simp only [Layout.writeScientific, hpoint, n, Numeral.exponentText, hsign]
    cases tail with
    | nil => rfl
    | cons d tail => simp [pointed]

end

/-- A finite number is written as a well-formed one to which it is nearest. -/
theorem write_json {x : Binary64} (h : x.isFinite = true) :
    ∃ n : Numeral, n.Proper ∧ Layout.json.write x = n.spelled ∧ n.nearest = x := by
  by_cases hzero : x.isZero = true
  · exact write_zero hzero
  obtain ⟨j, hexponent, hreads⟩ := Decimal.shortest_readsBack .toEven h
  have ht : (Decimal.shortest .toEven x).digits ≠ 0 := by
    intro hdigits
    rw [hdigits, Decimal.readsBack_iff, Nat.zero_mul,
      Binary64.nearestRank_zero Decimal.gridScale_pos] at hreads
    exact hzero (beq_iff_eq.mpr hreads.symm)
  obtain ⟨n, hn, hsign, hnearest, htext⟩ : ∃ n : Numeral, n.Proper ∧ n.negative = x.negative ∧
      n.nearest = x ∧ Layout.json.writeDecimal (Decimal.shortest .toEven x) =
        pointed n.whole n.places ++ n.exponentText := by
    simp only [Layout.writeDecimal, hexponent]
    split
    · exact write_positional ht hreads
    · exact write_scientific hreads
  refine ⟨n, hn, ?_, hnearest⟩
  rw [Layout.write_of_isFinite h, Numeral.spelled, hsign, List.append_assoc]
  exact congrArg _ htext

end Json
end Reckoner
