import Reckoner.Proofs.Expression.Completeness
import Reckoner.Proofs.Expression.Soundness

/-!
Complete expressions and their trees: both directions together.
-/
namespace Reckoner

variable {lexemes : List Lexeme} {limit nesting nesting' : Nat} {tree tree' : Expr}

/-- The tree that has been read, unless lexemes are left over. -/
def Parsed.complete {start : Cursor} (parsed : Parsed start) : Except GrammarError Expr :=
  match parsed.cursor.rest with
  | [] => .ok parsed.tree
  | lexeme :: _ => .error (.unexpectedToken lexeme)

theorem ofLexemes_eq_bind (h : lexemes ≠ []) :
    Expr.ofLexemes lexemes limit =
      (Cursor.expression limit ⟨lexemes, 0, 0⟩).bind Parsed.complete := by
  cases lexemes with
  | nil => exact absurd rfl h
  | cons lexeme rest => rfl

theorem Phrase.lexemes_ne_nil {level : Level} {ls : List Lexeme}
    (h : Phrase level (ls.map Lexeme.token) tree nesting) : ls ≠ [] :=
  fun hnil => h.ne_nil (by rw [hnil]; rfl)

/-- A complete expression is read within every limit that its nesting permits, and no other. -/
theorem ofLexemes_of_phrase (h : Phrase .expression (lexemes.map Lexeme.token) tree nesting)
    (limit : Nat) :
    Expr.ofLexemes lexemes limit =
      if nesting ≤ limit then .ok tree else .error (.tooComplex limit) := by
  obtain ⟨hok, herror⟩ := h.reads lexemes [] 0 0 rfl (by simp [Phrase.Level.EndsAt]) limit.zero_le
  rw [List.append_nil, Nat.zero_add] at hok herror
  rw [ofLexemes_eq_bind h.lexemes_ne_nil]
  by_cases hle : nesting ≤ limit
  · obtain ⟨hs, hp⟩ := hok hle
    rw [if_pos hle]
    exact congrArg (Except.bind · Parsed.complete) hp
  · rw [if_neg hle]
    exact congrArg (Except.bind · Parsed.complete) (herror (Nat.not_le.mp hle))

theorem exists_phrase_of_ofLexemes (h : Expr.ofLexemes lexemes limit = .ok tree) :
    ∃ nesting ≤ limit, Phrase .expression (lexemes.map Lexeme.token) tree nesting := by
  have hne : lexemes ≠ [] := by
    rintro rfl
    exact nomatch h
  rw [ofLexemes_eq_bind hne] at h
  obtain ⟨parsed, hp, hcomplete⟩ := bind_eq_ok_iff.mp h
  obtain ⟨ls, nesting, hrest, hphrase, hle, -, -⟩ :=
    Cursor.spans_of_ok limit.zero_le hp
  rw [Parsed.complete] at hcomplete
  split at hcomplete
  case h_1 hnil =>
    obtain rfl := Except.ok.inj hcomplete
    rw [hnil, List.append_nil] at hrest
    obtain rfl : lexemes = ls := hrest
    exact ⟨nesting, by simpa using hle, hphrase⟩
  case h_2 => contradiction

/-- Lexemes with these tokens, wherever they stand. -/
def unplaced (ts : List Token) : List Lexeme := ts.map fun token => ⟨token, 0⟩

@[simp] theorem map_token_unplaced (ts : List Token) : (unplaced ts).map Lexeme.token = ts := by
  simp [unplaced, Function.comp_def]

/-- No sequence of tokens has two trees, or one tree in two ways of different nesting. -/
theorem Phrase.unambiguous {ts : List Token} (h : Phrase .expression ts tree nesting)
    (h' : Phrase .expression ts tree' nesting') : tree = tree' ∧ nesting = nesting' := by
  rw [← map_token_unplaced ts] at h h'
  have hequal (limit : Nat) :=
    (ofLexemes_of_phrase h limit).symm.trans (ofLexemes_of_phrase h' limit)
  have htree := hequal (max nesting nesting')
  rw [if_pos (Nat.le_max_left _ _), if_pos (Nat.le_max_right _ _)] at htree
  refine ⟨Except.ok.inj htree, Nat.le_antisymm ?_ ?_⟩
  · refine Nat.le_of_not_lt fun hlt => ?_
    simpa [Nat.not_le.mpr hlt] using hequal nesting'
  · refine Nat.le_of_not_lt fun hlt => ?_
    simpa [Nat.not_le.mpr hlt] using hequal nesting

/-- The descent reads the sentences of the grammar whose nesting is within the limit, all of them
and nothing else, and gives each the tree of its only derivation. -/
theorem ofLexemes_eq_ok_iff_phrase (lexemes : List Lexeme) (limit : Nat) :
    (∀ tree, Expr.ofLexemes lexemes limit = .ok tree ↔
      ∃ nesting ≤ limit, Phrase .expression (lexemes.map Lexeme.token) tree nesting) ∧
    ∀ tree tree' nesting nesting',
      Phrase .expression (lexemes.map Lexeme.token) tree nesting →
      Phrase .expression (lexemes.map Lexeme.token) tree' nesting' →
      tree = tree' ∧ nesting = nesting' := by
  refine ⟨fun tree => ⟨exists_phrase_of_ofLexemes, ?_⟩, fun _ _ _ _ => Phrase.unambiguous⟩
  rintro ⟨nesting, hle, hphrase⟩
  rw [ofLexemes_of_phrase hphrase, if_pos hle]

end Reckoner
