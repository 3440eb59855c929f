import Reckoner.Proofs.Binary64.Sameness
import Reckoner.Proofs.Expression.Finiteness
import Reckoner.Proofs.Expression.Postorder

/-!
Trees that are the same by value have the same outcome. A zero of the other sign may turn up
anywhere on the way, but the one operation that could tell it apart refuses both zeros.
-/
namespace Reckoner

/-- Both succeed with numbers of the same value, or both fail alike. -/
inductive SameOutcome : Except ArithmeticError Binary64 → Except ArithmeticError Binary64 → Prop where
  | value {x y : Binary64} (h : x.sameValue y = true) : SameOutcome (.ok x) (.ok y)
  | error (error : ArithmeticError) : SameOutcome (.error error) (.error error)

variable {x x' y y' : Binary64} {r r' : Except ArithmeticError Binary64}

open Binary64 (UpToZero)

theorem SameOutcome.finite (h : UpToZero x x') : SameOutcome x.finite x'.finite := by
  unfold Binary64.finite
  rw [← h.isFinite_eq]
  cases hfinite : x.isFinite with
  | false => exact .error .overflow
  | true => exact .value (Binary64.sameValue_iff.mpr ⟨Binary64.isNaN_of_isFinite hfinite, h⟩)

theorem SameOutcome.neg (h : SameOutcome r r') :
    SameOutcome (r.map Binary64.neg) (r'.map Binary64.neg) := by
  cases h with
  | value h =>
    obtain ⟨hx, hsame⟩ := Binary64.sameValue_iff.mp h
    exact .value (Binary64.sameValue_iff.mpr ⟨hx, hsame.neg⟩)
  | error error => exact .error error

theorem SameOutcome.bind {f g : Binary64 → Except ArithmeticError Binary64}
    (h : SameOutcome r r')
    (hfg : ∀ x x', r = .ok x → UpToZero x x' → SameOutcome (f x) (g x')) :
    SameOutcome (r.bind f) (r'.bind g) := by
  cases h with
  | value h => exact hfg _ _ rfl (Binary64.sameValue_iff.mp h).2
  | error error => exact .error error

/-- An operator does not tell numbers of the same value apart. -/
theorem Operator.sameOutcome_apply (op : Operator) (hx : x.isFinite = true)
    (hy : y.isFinite = true) (h : UpToZero x x') (h' : UpToZero y y') :
    SameOutcome (op.apply x y) (op.apply x' y') := by
  cases op with
  | plus => exact .finite (h.add hx hy h')
  | minus => exact .finite (h.sub hx hy h')
  | star => exact .finite (h.mul hx hy h')
  | slash =>
    simp only [apply, ← h'.isZero_eq]
    cases hzero : y.isZero with
    | true => exact .error .divisionByZero
    | false => exact .finite (h.div hx hy hzero h')

namespace Expr

variable {a b : Expr}

theorem sameOutcome_evaluate (h : a.sameValue b = true) : SameOutcome a.evaluate b.evaluate := by
  fun_induction Expr.sameValue a b with
  | case1 x y =>
    rw [evaluate_number, evaluate_number]
    exact .finite (Binary64.sameValue_iff.mp h).2
  | case2 a b ih =>
    rw [evaluate_negate, evaluate_negate]
    exact (ih h).neg
  | case3 op a b op' a' b' iha ihb =>
    simp only [Bool.and_eq_true, beq_iff_eq] at h
    obtain ⟨⟨rfl, hleft⟩, hright⟩ := h
    rw [evaluate_binary, evaluate_binary]
    refine (iha hleft).bind fun x x' hx hxx => (ihb hright).bind fun y y' hy hyy => ?_
    exact op.sameOutcome_apply (isFinite_of_evaluate hx) (isFinite_of_evaluate hy) hxx hyy
  | case4 => contradiction

/-- A tree is the same as itself unless one of its numbers is none. -/
theorem sameValue_self_iff (e : Expr) :
    e.sameValue e = true ↔ ∀ x, Within (number x) e → x.isNaN = false := by
  induction e with
  | number y =>
    constructor
    · intro h x hx
      cases hx with
      | here => exact (Binary64.sameValue_iff.mp h).1
    · intro h
      exact Binary64.sameValue_iff.mpr ⟨h y .here, .of_eq rfl⟩
  | negate operand ih =>
    refine ih.trans ⟨fun h x hx => ?_, fun h x hx => h x hx.operand⟩
    cases hx with
    | operand hx => exact h x hx
  | binary op left right ihl ihr =>
    simp only [sameValue, BEq.rfl, Bool.true_and, Bool.and_eq_true, ihl, ihr]
    constructor
    · rintro ⟨hl, hr⟩ x hx
      cases hx with
      | left hx => exact hl x hx
      | right hx => exact hr x hx
    · exact fun h => ⟨fun x hx => h x hx.left, fun x hx => h x hx.right⟩

/-- Trees with the same numbers up to the signs of zeros succeed or fail alike. Each tree without
what is no number is the same as itself, and no other is. -/
theorem evaluate_sameValue :
    (∀ a b : Expr, a.sameValue b = true → SameOutcome a.evaluate b.evaluate) ∧
    ∀ e : Expr, e.sameValue e = true ↔ ∀ x, Within (number x) e → x.isNaN = false :=
  ⟨fun _ _ => sameOutcome_evaluate, sameValue_self_iff⟩

/-- The sign of one zero decides the sign of a sum that vanishes, but not whether it can be divided
by. -/
theorem evaluate_sameValue_zeros :
    let sum (negative : Bool) : Expr :=
      binary .plus (negate (number (.zero negative))) (number (.zero true))
    let quotient (negative : Bool) : Expr := binary .slash (number (.ofDecimal 1 0)) (sum negative)
    ((sum false).sameValue (sum true) = true ∧
      SameOutcome (sum false).evaluate (sum true).evaluate ∧
      (sum false).evaluate = .ok (.zero true) ∧ (sum true).evaluate = .ok (.zero false)) ∧
    (quotient false).sameValue (quotient true) = true ∧
      SameOutcome (quotient false).evaluate (quotient true).evaluate ∧
      (quotient true).evaluate = .error .divisionByZero := by
  intro sum quotient
  obtain ⟨hsum, hquotient, hminus, hplus, hzero⟩ :
      (sum false).sameValue (sum true) = true ∧
      (quotient false).sameValue (quotient true) = true ∧
      (sum false).value = .ok (.zero true) ∧ (sum true).value = .ok (.zero false) ∧
      (quotient true).value = .error .divisionByZero := by decide +kernel
  rw [← evaluate_eq_value] at hminus hplus hzero
  exact ⟨⟨hsum, evaluate_sameValue.1 _ _ hsum, hminus, hplus⟩,
    hquotient, evaluate_sameValue.1 _ _ hquotient, hzero⟩

end Expr
end Reckoner
