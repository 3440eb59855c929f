import Reckoner.Proofs.Binary64.Exactness
import Reckoner.Proofs.Expression.Evaluation
import Reckoner.Proofs.Expression.Formula

/-!
Evaluation without rounding. While every literal and every result is the value of some finite
number, the numbers follow the exact values step by step.
-/
namespace Reckoner

open Binary64 (Representable)

/-- The exact result of an operation, which a zero divisor does not have. -/
def Operator.result? (op : Operator) (p q : ℚ) : Option ℚ :=
  match op with
  | .plus => some (p + q)
  | .minus => some (p - q)
  | .star => some (p * q)
  | .slash => if q = 0 then none else some (p / q)

namespace Formula

/-- The exact value, unless the evaluation stops at a zero divisor. -/
def value? : Formula → Option ℚ
  | literal digits places => some (digits / 10 ^ places)
  | negate operand => operand.value?.map (- ·)
  | binary op left right => left.value?.bind fun p => right.value?.bind (op.result? p)

/-- The values of the literals and the results of the operations, left operands before right ones,
up to where the evaluation ends. -/
def steps : Formula → List ℚ
  | literal digits places => [digits / 10 ^ places]
  | negate operand => operand.steps ++ (operand.value?.map (- ·)).toList
  | binary op left right =>
    match left.value? with
    | none => left.steps
    | some p => left.steps ++ (right.steps ++ (right.value?.bind (op.result? p)).toList)

end Formula

/-- The outcome is a finite number with the exact value. Where there is none, it is the error for a
zero divisor. -/
def Exactly (outcome : Except ArithmeticError Binary64) : Option ℚ → Prop
  | some q => ∃ x, outcome = .ok x ∧ x.isFinite = true ∧ x.toRat = q
  | none => outcome = .error .divisionByZero

variable {x y : Binary64} {q : ℚ}

theorem Binary64.exactly_finite (h : x.isFinite = true ∧ x.toRat = q) :
    Exactly x.finite (some q) :=
  ⟨x, finite_eq_ok_iff.mpr ⟨rfl, h.1⟩, h⟩

/-- An operation is exact if its exact result is representable. A zero of either sign is refused as
a divisor. -/
theorem Operator.exactly_apply (op : Operator) (hx : x.isFinite = true) (hy : y.isFinite = true)
    (h : ∀ q ∈ op.result? x.toRat y.toRat, Representable q) :
    Exactly (op.apply x y) (op.result? x.toRat y.toRat) := by
  cases op with
  | plus => exact Binary64.exactly_finite (Binary64.toRat_add hx hy (h _ rfl))
  | minus => exact Binary64.exactly_finite (Binary64.toRat_sub hx hy (h _ rfl))
  | star => exact Binary64.exactly_finite (Binary64.toRat_mul hx hy (h _ rfl))
  | slash =>
    simp only [result?, apply] at h ⊢
    by_cases hzero : y.toRat = 0
    · rw [if_pos hzero, if_pos (Binary64.toRat_eq_zero_iff.mp hzero)]
      exact rfl
    · have hne : y.isZero = false :=
        Bool.eq_false_iff.mpr fun hy => hzero (Binary64.toRat_eq_zero_iff.mpr hy)
      rw [if_neg hzero] at h ⊢
      rw [hne, if_neg Bool.false_ne_true]
      exact Binary64.exactly_finite (Binary64.toRat_div hx hy hne (h _ rfl))

namespace Formula

/-- The tree of a formula is evaluated exactly if all steps are representable. -/
theorem exactly_evaluate (f : Formula) (h : ∀ q ∈ f.steps, Representable q) :
    Exactly f.rounded.evaluate f.value? := by
  induction f with
  | literal digits places =>
    rw [rounded, Expr.evaluate_number]
    exact Binary64.exactly_finite (Binary64.toRat_ofDecimal (h _ (List.mem_singleton_self _)))
  | negate operand ih =>
    rw [steps, List.forall_mem_append] at h
    have hoperand := ih h.1
    rw [rounded, value?, Expr.evaluate_negate]
    cases hvalue : operand.value? with
    | none =>
      rw [hvalue] at hoperand
      rw [show operand.rounded.evaluate = _ from hoperand]
      rfl
    | some p =>
      rw [hvalue] at hoperand
      obtain ⟨x, hx, hfinite, rfl⟩ := hoperand
      rw [hx]
      exact ⟨x.neg, rfl, (Binary64.isFinite_neg x).trans hfinite, Binary64.toRat_neg x⟩
  | binary op left right ihl ihr =>
    rw [rounded, value?, Expr.evaluate_binary]
    rw [steps] at h
    cases hleft : left.value? with
    | none =>
      -- The right operand is not reached, so nothing is known of its steps.
      rw [hleft] at h ihl
      rw [show left.rounded.evaluate = _ from ihl h]
      rfl
    | some p =>
      rw [hleft] at h ihl
      simp only [List.forall_mem_append] at h
      obtain ⟨hl, hr, hresult⟩ := h
      obtain ⟨x, hx, hxfinite, rfl⟩ := ihl hl
      have hright := ihr hr
      rw [hx]
      cases hvalue : right.value? with
      | none =>
        rw [hvalue] at hright
        rw [show right.rounded.evaluate = _ from hright]
        rfl
      | some q =>
        rw [hvalue] at hright hresult
        obtain ⟨y, hy, hyfinite, rfl⟩ := hright
        rw [hy]
        exact op.exactly_apply hxfinite hyfinite fun q hq =>
          hresult q (Option.mem_toList.mpr hq)

end Formula

namespace Limits

variable {limits : Limits} {text : String} {f : Formula} {nesting : Nat}

/-- The text of a formula has the value of its tree. -/
theorem evaluate_spelled (h : Formula.Spelled .expression text.toList f nesting)
    (hlength : text.length ≤ limits.maxExpressionLength.toNat)
    (hdepth : nesting ≤ limits.maxDepth.toNat) :
    limits.evaluate text = f.rounded.evaluate.mapError .arithmetic := by
  obtain ⟨ls, hls, hphrase⟩ := Formula.exists_spelled_iff.mp ⟨f, h, rfl⟩
  have htree : Expr.ofLexemes ls limits.maxDepth.toNat = .ok f.rounded := by
    rw [ofLexemes_of_phrase hphrase, if_pos hdepth]
  exact evaluate_of_parse hlength (parse_eq_ok_iff.mpr ⟨ls, hls, htree⟩)

/-- The sentences are the texts of formulas. Within the limits, and if every literal and every
result up to the end of the exact evaluation is the value of a finite number, the text of a formula
has the exact value, and it is a division by zero if and only if there is none. -/
theorem evaluate_exactly (limits : Limits) (text : String) :
    ((∃ f nesting, Formula.Spelled .expression text.toList f nesting) ↔
      ∃ ls, lexemes text = .ok ls ∧ Sentence (ls.map Lexeme.token)) ∧
    ∀ f nesting, Formula.Spelled .expression text.toList f nesting →
      text.length ≤ limits.maxExpressionLength.toNat → nesting ≤ limits.maxDepth.toNat →
      (∀ q ∈ f.steps, Representable q) →
      (∀ q, f.value? = some q →
        ∃ x, limits.evaluate text = .ok x ∧ x.isFinite = true ∧ x.toRat = q) ∧
      (f.value? = none ↔ limits.evaluate text = .error (.arithmetic .divisionByZero)) := by
  constructor
  · constructor
    · rintro ⟨f, nesting, h⟩
      obtain ⟨ls, hls, hphrase⟩ := Formula.exists_spelled_iff.mp ⟨f, h, rfl⟩
      exact ⟨ls, hls, f.rounded, nesting, hphrase⟩
    · rintro ⟨ls, hls, tree, nesting, hphrase⟩
      obtain ⟨f, h, -⟩ := Formula.exists_spelled_iff.mpr ⟨ls, hls, hphrase⟩
      exact ⟨f, nesting, h⟩
  · intro f nesting hspelled hlength hdepth hsteps
    have hvalue := f.exactly_evaluate hsteps
    rw [evaluate_spelled hspelled hlength hdepth]
    cases hexact : f.value? with
    | none =>
      rw [hexact] at hvalue
      rw [show f.rounded.evaluate = _ from hvalue]
      exact ⟨nofun, fun _ => rfl, fun _ => rfl⟩
    | some q =>
      rw [hexact] at hvalue
      obtain ⟨x, hx, hfinite, hq⟩ := hvalue
      rw [hx]
      refine ⟨?_, nofun, nofun⟩
      rintro _ ⟨⟩
      exact ⟨x, rfl, hfinite, hq⟩

/-- A product, and a quotient by a negative zero with a number behind it that is not representable
but is not reached. -/
theorem evaluate_exactly_each :
    (∃ x, ({} : Limits).evaluate "-1.5*(2+.25)" = .ok x ∧ x.isFinite = true ∧
      x.toRat = -27 / 8) ∧
    ({} : Limits).evaluate "1/-(.5-.5)+.1" = .error (.arithmetic .divisionByZero) ∧
    ¬ Representable (1 / 10) := by
  have hproduct : Formula.Spelled .expression "-1.5*(2+.25)".toList
      (.binary .star (.negate (.literal 15 1)) (.binary .plus (.literal 2 0) (.literal 25 2)))
      1 := by
    have hfirst := @Formula.Spelled.literal ['1'] ['5'] (by decide) (List.all_eq_true.mp rfl)
    have htwo := @Formula.Spelled.literal ['2'] [] (by decide) (List.all_eq_true.mp rfl)
    have hquarter := @Formula.Spelled.literal [] ['2', '5'] (by decide) (List.all_eq_true.mp rfl)
    have hsum := ((htwo.operand false).operand true).binary .plus (hquarter.operand false)
    exact ((hfirst.negation.operand false).binary .star hsum.group).operand true
  have hquotient : Formula.Spelled .expression "1/-(.5-.5)+.1".toList
      (.binary .plus
        (.binary .slash (.literal 1 0)
          (.negate (.binary .minus (.literal 5 1) (.literal 5 1))))
        (.literal 1 1)) 2 := by
    have hone := @Formula.Spelled.literal ['1'] [] (by decide) (List.all_eq_true.mp rfl)
    have hhalf := @Formula.Spelled.literal [] ['5'] (by decide) (List.all_eq_true.mp rfl)
    have htenth := @Formula.Spelled.literal [] ['1'] (by decide) (List.all_eq_true.mp rfl)
    have hdifference := ((hhalf.operand false).operand true).binary .minus (hhalf.operand false)
    have hslash := (hone.operand false).binary .slash hdifference.group.negation
    exact (hslash.operand true).binary .plus (htenth.operand false)
  obtain ⟨hvalue, -⟩ := (evaluate_exactly {} "-1.5*(2+.25)").2 _ _ hproduct (by decide) (by decide)
    (by decide +kernel)
  obtain ⟨-, hnone⟩ := (evaluate_exactly {} "1/-(.5-.5)+.1").2 _ _ hquotient (by decide) (by decide)
    (by decide +kernel)
  refine ⟨hvalue _ (by decide +kernel), hnone.mp (by decide +kernel), by decide +kernel⟩

end Limits
end Reckoner
