import Reckoner.Proofs.Binary64.Nearest
import Reckoner.Proofs.Expression.Pieces

/-!
Rows of digits and points that are numbers, and the numbers that they stand for.
-/
namespace Reckoner.Scanner

open Binary64 (IsNearest isNearest_ofDecimal)
open Text (digitsValue)

/-- The characters stand for the number `digits / 10 ^ places`: digits, or digits with a point before
the last of them. -/
inductive Denotes : List Char → Nat → Nat → Prop
  | whole {cs : List Char} (hne : cs ≠ []) (hdigits : ∀ c ∈ cs, c.isDigit = true) :
      Denotes cs (digitsValue cs) 0
  | fraction {whole places : List Char} (hne : places ≠ [])
      (hdigits : ∀ c ∈ whole ++ places, c.isDigit = true) :
      Denotes (whole ++ '.' :: places) (digitsValue (whole ++ places)) places.length

variable {cs run run' : List Char} {digits digits' places places' : Nat} {value : Binary64}

theorem Denotes.exists_pointed (h : Denotes run digits places) :
    ∃ front back, run = pointed front back ∧ pointed front back ≠ [] ∧
      (∀ c ∈ front ++ back, c.isDigit = true) ∧ digits = digitsValue (front ++ back) ∧
      places = back.length := by
  cases h with
  | whole hne hdigits =>
    have hnil : run ++ [] = run := List.append_nil run
    exact ⟨run, [], rfl, hne, hnil.symm ▸ hdigits, by rw [hnil], rfl⟩
  | @fraction front back hne hdigits =>
    have hpointed : front ++ '.' :: back = pointed front back := (pointed_of_ne_nil hne).symm
    exact ⟨front, back, hpointed, hpointed ▸ by simp, hdigits, rfl, rfl⟩

theorem Denotes.isRun (h : Denotes run digits places) : IsRun run := by
  obtain ⟨front, back, rfl, hne, hdigits, -, -⟩ := h.exists_pointed
  exact ⟨hne, fun _ hc => isNumeral_of_mem_pointed hdigits hc⟩

theorem Denotes.literalValue?_eq (h : Denotes run digits places) :
    literalValue? run = some (.ofDecimal digits places) := by
  obtain ⟨front, back, rfl, hne, hdigits, rfl, rfl⟩ := h.exists_pointed
  exact literalValue?_pointed hne hdigits

theorem isNumber_iff_exists_denotes : IsNumber run ↔ ∃ digits places, Denotes run digits places := by
  constructor
  · rintro ⟨whole, places, hdigits, ⟨rfl, hne⟩ | ⟨rfl, hne⟩⟩
    · exact ⟨_, _, .whole hne fun c hc => hdigits c (List.mem_append_left _ hc)⟩
    · exact ⟨_, _, .fraction hne hdigits⟩
  · rintro ⟨digits, places, h⟩
    rw [← isSome_literalValue?_iff h.isRun, h.literalValue?_eq]
    rfl

/-- A row of digits and points has the value of the number that it stands for, and no value if it
stands for none. -/
theorem literalValue?_eq_some_iff (hrun : IsRun run) :
    literalValue? run = some value ↔
      ∃ digits places, Denotes run digits places ∧ Binary64.ofDecimal digits places = value := by
  constructor
  · intro h
    have hnumber : IsNumber run := (isSome_literalValue?_iff hrun).mp (by rw [h]; rfl)
    obtain ⟨digits, places, hdenotes⟩ := isNumber_iff_exists_denotes.mp hnumber
    rw [hdenotes.literalValue?_eq] at h
    exact ⟨digits, places, hdenotes, Option.some.inj h⟩
  · rintro ⟨digits, places, hdenotes, rfl⟩
    exact hdenotes.literalValue?_eq

/-! Zeros that do not change what a literal stands for. -/

theorem forall_mem_zeros (n : Nat) : ∀ c ∈ List.replicate n '0', c.isDigit = true := by
  intro c hc
  rw [List.eq_of_mem_replicate hc]
  rfl

theorem Denotes.zeros_append (h : Denotes run digits places) (n : Nat) :
    Denotes (List.replicate n '0' ++ run) digits places := by
  cases h with
  | whole hne hdigits =>
    rw [← digitsValue_zeros_append n run]
    exact .whole (List.append_ne_nil_of_right_ne_nil _ hne)
      (List.forall_mem_append.mpr ⟨forall_mem_zeros n, hdigits⟩)
  | @fraction front back hne hdigits =>
    rw [← digitsValue_zeros_append n, ← List.append_assoc, ← List.append_assoc]
    refine .fraction hne ?_
    rw [List.append_assoc]
    exact List.forall_mem_append.mpr ⟨forall_mem_zeros n, hdigits⟩

theorem literalValue?_zeros_append (h : Denotes run digits places) (n : Nat) :
    literalValue? (List.replicate n '0' ++ run) = literalValue? run := by
  rw [(h.zeros_append n).literalValue?_eq, h.literalValue?_eq]

/-- Zeros behind the other places, of which there need not be any. -/
theorem literalValue?_append_zeros {front back : List Char} (hne : pointed front back ≠ [])
    (hdigits : ∀ c ∈ front ++ back, c.isDigit = true) (n : Nat) :
    literalValue? (pointed front (back ++ List.replicate n '0')) =
      literalValue? (pointed front back) := by
  have hmore : pointed front (back ++ List.replicate n '0') ≠ [] := by
    by_cases hback : back = []
    · subst hback
      exact pointed_ne_nil hne
    · simp [pointed, hback]
  have hall : ∀ c ∈ front ++ (back ++ List.replicate n '0'), c.isDigit = true := by
    rw [← List.append_assoc]
    exact List.forall_mem_append.mpr ⟨hdigits, forall_mem_zeros n⟩
  rw [literalValue?_pointed hmore hall, literalValue?_pointed hne hdigits]
  refine congrArg some (Binary64.ofDecimal_congr ?_)
  rw [← List.append_assoc, digitsValue_append_zeros, List.length_append, List.length_replicate]
  push_cast
  rw [pow_add, mul_comm, mul_div_mul_right _ _ (by positivity)]

/-- A literal is read as the number nearest to what it stands for, so that neither zeros in front of
it or behind its places nor a missing zero before its point make a difference, and a greater literal
is no lesser number. What is well-formed is never refused by the reader of numbers. -/
theorem next_isNearest :
    (∀ run digits places, Denotes run digits places → ∃ value,
      (∀ pos rest, Bounds rest →
        next ⟨run ++ rest, pos, false⟩ =
          (some (.ok ⟨.number value, pos⟩), ⟨rest, pos + run.length, false⟩)) ∧
      (∀ x, IsNearest (digits / 10 ^ places) x ↔ x = value) ∧
      (value = .zero false ↔ (digits / 10 ^ places : ℚ) ≤ 1 / 2 ^ 1075) ∧
      (value = .infinity false ↔ (2 ^ 1024 - 2 ^ 970 : ℚ) ≤ digits / 10 ^ places)) ∧
    (∀ run digits places n, Denotes run digits places →
      literalValue? (List.replicate n '0' ++ run) = literalValue? run) ∧
    (∀ front back n, pointed front back ≠ [] → (∀ c ∈ front ++ back, c.isDigit = true) →
      literalValue? (pointed front (back ++ List.replicate n '0')) =
        literalValue? (pointed front back)) ∧
    (∀ back, back ≠ [] → (∀ c ∈ back, c.isDigit = true) →
      literalValue? ('.' :: back) = literalValue? ('0' :: '.' :: back)) ∧
    (∀ run digits places run' digits' places', Denotes run digits places →
      Denotes run' digits' places' → (digits / 10 ^ places : ℚ) ≤ digits' / 10 ^ places' →
      ∀ value ∈ literalValue? run, ∀ value' ∈ literalValue? run', value.rank ≤ value'.rank) ∧
    ∀ run, IsRun run → isWellFormed run = true →
      ∃ value, Decimal.read? (normalized run) = some value := by
  refine ⟨?nearest, ?front, ?back, ?missing, ?monotone, ?refused⟩
  case nearest =>
    intro run digits places h
    have hnearest := isNearest_ofDecimal digits places
    obtain ⟨hne, hall⟩ := h.isRun
    refine ⟨.ofDecimal digits places, ?_, ?_, Binary64.ofDecimal_eq_zero_iff digits places,
      hnearest.eq_infinity_iff⟩
    · exact fun pos rest hrest => next_literal hne hall hrest h.literalValue?_eq
    · intro x
      constructor
      · exact fun hx => hx.unique hnearest
      · rintro rfl
        exact hnearest
  case front => exact fun run digits places n h => literalValue?_zeros_append h n
  case back => exact fun front back n hne hdigits => literalValue?_append_zeros hne hdigits n
  case missing =>
    intro back hne hdigits
    have h : Denotes ([] ++ '.' :: back) _ _ := .fraction hne hdigits
    exact (literalValue?_zeros_append h 1).symm
  case monotone =>
    intro run digits places run' digits' places' h h' hle value hvalue value' hvalue'
    rw [h.literalValue?_eq] at hvalue
    rw [h'.literalValue?_eq] at hvalue'
    obtain rfl := Option.some.inj hvalue
    obtain rfl := Option.some.inj hvalue'
    exact (isNearest_ofDecimal digits places).rank_le (isNearest_ofDecimal digits' places') hle
  case refused =>
    intro run hrun hformed
    obtain ⟨digits, places, h⟩ := isNumber_iff_exists_denotes.mp ((isWellFormed_iff hrun).mp hformed)
    have hvalue := h.literalValue?_eq
    rw [literalValue?, if_pos hformed] at hvalue
    exact ⟨_, hvalue⟩

end Reckoner.Scanner
