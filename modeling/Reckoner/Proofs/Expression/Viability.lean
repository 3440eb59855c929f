import Reckoner.Proofs.Expression.Following

/-!
Which rows of tokens are complete expressions, and which could become one.
-/
namespace Reckoner

/-- Something can be put behind the tokens to make them a complete expression. -/
def Viable (ts : List Token) : Prop := ∃ more, Sentence (ts ++ more)

/-- Something can be put behind the tokens that makes them a complete expression, with no more than
so many groups and negations inside each other. -/
def Completes (limit : Nat) (ts : List Token) : Prop :=
  ∃ more tree nesting, nesting ≤ limit ∧ Phrase .expression (ts ++ more) tree nesting

namespace Prospect

variable {limit : Nat} {ts : List Token}

theorem peak_of_phrase {tree : Expr} {nesting : Nat} (h : Phrase .expression ts tree nesting) :
    (∃ q, start.after? ts = some q ∧ q.endError? = none) ∧ start.peak ts = nesting := by
  -- The limits within which the descent succeeds tell the nesting, and the peak as well.
  rw [← map_token_unplaced ts] at h ⊢
  have hne := h.lexemes_ne_nil
  have hlimit (limit : Nat) : nesting ≤ limit ↔
      ∃ q, start.after? ((unplaced ts).map Lexeme.token) = some q ∧ q.endError? = none ∧
        start.peak ((unplaced ts).map Lexeme.token) ≤ limit := by
    rw [← fault?_eq_none_iff limit.zero_le, ← exists_ofLexemes_eq_ok_iff hne,
      ofLexemes_of_phrase h limit]
    by_cases hle : nesting ≤ limit <;> simp [hle]
  obtain ⟨q, hq, hend, hpeak⟩ := (hlimit nesting).mp (Nat.le_refl _)
  have hge := (hlimit (start.peak _)).mpr ⟨q, hq, hend, Nat.le_refl _⟩
  exact ⟨⟨q, hq, hend⟩, Nat.le_antisymm hpeak hge⟩

/-- The derivations, with their nesting, are the runs that leave nothing open, with their peak. -/
theorem exists_phrase_iff {nesting : Nat} :
    (∃ tree, Phrase .expression ts tree nesting) ↔
      (∃ q, start.after? ts = some q ∧ q.endError? = none) ∧ start.peak ts = nesting := by
  refine ⟨fun ⟨_, h⟩ => peak_of_phrase h, ?_⟩
  rintro ⟨⟨q, hq, hend⟩, rfl⟩
  have hne : unplaced ts ≠ [] := by
    intro hnil
    obtain rfl := List.map_eq_nil_iff.mp hnil
    obtain rfl := Option.some.inj hq
    contradiction
  have hnone : start.fault? (start.peak ts) (unplaced ts) = none := by
    rw [fault?_eq_none_iff (depth_le_peak _ _), map_token_unplaced]
    exact ⟨q, hq, hend, Nat.le_refl _⟩
  obtain ⟨tree, htree⟩ := (exists_ofLexemes_eq_ok_iff hne).mpr hnone
  obtain ⟨nesting, -, hphrase⟩ := exists_phrase_of_ofLexemes htree
  rw [map_token_unplaced] at hphrase
  exact ⟨tree, (peak_of_phrase hphrase).2 ▸ hphrase⟩

theorem sentence_iff : Sentence ts ↔ ∃ q, start.after? ts = some q ∧ q.endError? = none := by
  constructor
  · rintro ⟨tree, nesting, h⟩
    exact (peak_of_phrase h).1
  · intro h
    obtain ⟨tree, h⟩ := exists_phrase_iff.mpr ⟨h, rfl⟩
    exact ⟨tree, _, h⟩

/-- What could be completed within a limit has not come near it on the way. -/
theorem completes_iff :
    Completes limit ts ↔ (∃ q, start.after? ts = some q) ∧ start.peak ts ≤ limit := by
  constructor
  · rintro ⟨more, tree, nesting, hle, h⟩
    obtain ⟨⟨r, hr, -⟩, hpeak⟩ := peak_of_phrase h
    obtain ⟨q, hq, -⟩ := after?_append_eq_some_iff.mp hr
    rw [peak_append hq] at hpeak
    exact ⟨⟨q, hq⟩, by omega⟩
  · rintro ⟨⟨q, hq⟩, hle⟩
    obtain ⟨⟨r, hr, hend⟩, hpeak⟩ := closes_completion q
    obtain ⟨tree, h⟩ := exists_phrase_iff.mpr
      ⟨⟨r, after?_append_eq_some_iff.mpr ⟨q, hq, hr⟩, hend⟩, rfl⟩
    refine ⟨q.completion, tree, _, ?_, h⟩
    rw [peak_append hq, hpeak, Nat.max_eq_left (depth_le_peak_of_after? hq)]
    exact hle

theorem viable_iff : Viable ts ↔ ∃ q, start.after? ts = some q := by
  constructor
  · rintro ⟨more, tree, nesting, h⟩
    exact (completes_iff.mp ⟨more, tree, nesting, Nat.le_refl _, h⟩).1
  · intro h
    obtain ⟨more, tree, nesting, -, hphrase⟩ := completes_iff.mpr ⟨h, Nat.le_refl _⟩
    exact ⟨more, tree, nesting, hphrase⟩

end Prospect
end Reckoner
