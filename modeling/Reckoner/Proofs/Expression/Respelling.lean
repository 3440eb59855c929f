import Reckoner.Proofs.Expression.Reading
import Reckoner.Proofs.Expression.Evaluation
import Reckoner.Proofs.Expression.Scanning

/-!
What becomes of a tree that is written and read again.

Negative numbers are written without parentheses and come back as negations. Nothing else changes,
because every operation stands in parentheses of its own.
-/
namespace Reckoner.Expr

def allFinite : Expr → Bool
  | number value => value.isFinite
  | negate operand => operand.allFinite
  | binary _ left right => left.allFinite && right.allFinite

/-- The tree with the sign of each number as an operation. -/
def respelled : Expr → Expr
  | number value => if value.negative then negate (number value.neg) else number value
  | negate operand => negate operand.respelled
  | binary op left right => binary op left.respelled right.respelled

/-- The nesting of the text. -/
def textNesting : Expr → Nat
  | number value => if value.negative then 1 else 0
  | negate operand => 2 + operand.textNesting
  | binary _ left right => 1 + max left.textNesting right.textNesting

/-- The tokens of the text. -/
def tokens : Expr → List Token
  | number value =>
    if value.negative then [.operator .minus, .number value.abs] else [.number value.abs]
  | negate operand => .opening :: .operator .minus :: (operand.tokens ++ [.closing])
  | binary op left right =>
    .opening :: (left.tokens ++ .operator op :: (right.tokens ++ [.closing]))

variable {rest : List Char}

/-- The text is split at the boundaries of its tokens. -/
theorem yields_writeBefore (e : Expr) (h : e.allFinite = true) (hrest : Scanner.Bounds rest) :
    Scanner.Yields (e.writeBefore rest) e.tokens rest := by
  induction e generalizing rest with
  | number value => exact Scanner.yields_write h hrest
  | negate operand ih =>
    have hclosing : Scanner.Yields (')' :: rest) [.closing] rest :=
      (Scanner.Yields.refl rest).symbol rfl
    have hends : Scanner.Bounds (')' :: rest) := Scanner.Bounds.of_cons rfl
    exact (((ih h hends).trans hclosing).symbol rfl).symbol rfl
  | binary op left right ihl ihr =>
    obtain ⟨hl, hr⟩ := Bool.and_eq_true_iff.mp h
    have hclosing : Scanner.Yields (')' :: rest) [.closing] rest :=
      (Scanner.Yields.refl rest).symbol rfl
    have hends : Scanner.Bounds (')' :: rest) := Scanner.Bounds.of_cons rfl
    have hright := (ihr hr hends).trans hclosing
    have hblank : Scanner.isBlank ' ' = true := rfl
    have hbehind := ((hright.blank hblank).symbol (Token.ofChar?_symbol op)).blank hblank
    exact ((ihl hl (Scanner.Bounds.of_cons rfl)).trans hbehind).symbol rfl

/-- The tokens are those of an operand, whatever stands around it. -/
theorem phrase_tokens (e : Expr) : Phrase .unary e.tokens e.respelled e.textNesting := by
  induction e with
  | number value =>
    obtain ⟨negative, rank, hrank⟩ := value
    cases negative with
    | false => exact .number _
    | true => exact (Phrase.number _).negation
  | negate operand ih =>
    have h := ih.negation.toTerm.toExpression.group
    rwa [← Nat.add_assoc] at h
  | binary op left right ihl ihr =>
    have h := (Phrase.binary op ihl ihr).group
    rwa [List.append_assoc] at h

theorem evaluate_respelled (e : Expr) : e.respelled.evaluate = e.evaluate := by
  induction e with
  | number value =>
    unfold respelled
    split
    · rw [evaluate_negate, evaluate_number, evaluate_number]
      cases hfinite : value.isFinite <;> simp [Binary64.finite, hfinite, Except.map]
    · rfl
  | negate operand ih => rw [respelled, evaluate_negate, evaluate_negate, ih]
  | binary op left right ihl ihr => rw [respelled, evaluate_binary, evaluate_binary, ihl, ihr]

/-- A tree of finite numbers is read back from its text as it is, but for the signs of its numbers,
within every limit that the nesting of the text permits and no other; and its value is the same. -/
theorem ofLexemes_lexemes_text (e : Expr) (h : e.allFinite = true) :
    ∃ ls, lexemes e.text = .ok ls ∧
      (∀ limit, e.textNesting ≤ limit → ofLexemes ls limit = .ok e.respelled) ∧
      (∀ limit, limit < e.textNesting → ofLexemes ls limit = .error (.tooComplex limit)) ∧
      e.respelled.evaluate = e.evaluate := by
  have hyields := e.yields_writeBefore h (show Scanner.Bounds [] by simp [Scanner.Bounds])
  obtain ⟨ls, hlexemes, hls⟩ := lexemes_of_yields hyields
  have hphrase : Phrase .expression (ls.map Lexeme.token) e.respelled e.textNesting :=
    hls ▸ e.phrase_tokens.toTerm.toExpression
  refine ⟨ls, hlexemes, ?_, ?_, e.evaluate_respelled⟩
  · intro limit hle
    rw [ofLexemes_of_phrase hphrase, if_pos hle]
  · intro limit hlt
    rw [ofLexemes_of_phrase hphrase, if_neg (Nat.not_le.mpr hlt)]

/-- The negation of a negative zero comes back as a twofold negation. -/
theorem ofLexemes_lexemes_text_zero :
    (negate (number (.zero true))).allFinite = true ∧
      ∃ ls, lexemes (negate (number (.zero true))).text = .ok ls ∧
        ofLexemes ls 3 = .ok (negate (negate (number (.zero false)))) ∧
        ofLexemes ls 2 = .error (.tooComplex 2) := by
  refine ⟨rfl, ?_⟩
  obtain ⟨ls, hlexemes, hok, herror, -⟩ :=
    ofLexemes_lexemes_text (negate (number (.zero true))) rfl
  exact ⟨ls, hlexemes, hok 3 (Nat.le_refl 3), herror 2 (Nat.lt_succ_self 2)⟩

end Reckoner.Expr
