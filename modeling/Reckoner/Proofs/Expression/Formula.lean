import Reckoner.Proofs.Expression.Pieces

/-!
Formulas with exact numbers, and the grammar of their texts, character by character:

    expression = term    |  expression, "+" or "-", term
    term       = unary   |  term, "*" or "/", unary
    unary      = "-", unary  |  LITERAL  |  "(", expression, ")"

with blanks before and behind every phrase.
-/
namespace Reckoner

open Text (digitsValue)

/-- The character of a token that is no number. -/
def Token.char? : Token → Option Char
  | number _ => none
  | operator op => some op.symbol
  | opening => some '('
  | closing => some ')'

theorem Token.ofChar?_eq_some_iff {c : Char} {token : Token} :
    ofChar? c = some token ↔ token.char? = some c := by
  constructor
  · intro h
    unfold ofChar? at h
    split at h
    · cases h
      rfl
    · cases h
      rfl
    · obtain ⟨op, hop, rfl⟩ := Option.map_eq_some_iff.mp h
      exact congrArg some (Operator.ofChar?_eq_some_iff.mp hop).symm
  · intro h
    cases token with
    | number value => cases h
    | operator op =>
      cases h
      exact ofChar?_symbol op
    | opening | closing =>
      cases h
      rfl

inductive Formula where
  /-- The digits of a number without the point, and how many of them stand behind it. -/
  | literal (digits places : Nat)
  | negate (operand : Formula)
  | binary (op : Operator) (left right : Formula)
  deriving DecidableEq, Repr

namespace Formula

/-- The tree with the nearest number for each literal. -/
def rounded : Formula → Expr
  | literal digits places => .number (.ofDecimal digits places)
  | negate operand => .negate operand.rounded
  | binary op left right => .binary op left.rounded right.rounded

variable {level : Phrase.Level} {c : Char} {cs ds es blanks : List Char} {ts us : List Token}
  {token : Token} {f : Formula} {nesting : Nat} {additive : Bool}

/-- The characters are a phrase of the level that stands for the formula. Its nesting counts groups
and negations. -/
inductive Spelled : Phrase.Level → List Char → Formula → Nat → Prop where
  | literal {whole places : List Char} (hne : pointed whole places ≠ [])
      (hdigits : ∀ c ∈ whole ++ places, c.isDigit = true) :
      Spelled .unary (pointed whole places)
        (.literal (digitsValue (whole ++ places)) places.length) 0
  | negation {cs : List Char} {f : Formula} {nesting : Nat}
      (operand : Spelled .unary cs f nesting) :
      Spelled .unary ('-' :: cs) (.negate f) (1 + nesting)
  | group {cs : List Char} {f : Formula} {nesting : Nat}
      (inner : Spelled .expression cs f nesting) :
      Spelled .unary ('(' :: (cs ++ [')'])) f (1 + nesting)
  | operand {cs : List Char} {f : Formula} {nesting : Nat} (additive : Bool)
      (only : Spelled (.operand additive) cs f nesting) :
      Spelled (.chain additive) cs f nesting
  | binary {cs ds : List Char} {f g : Formula} {m n : Nat} (op : Operator)
      (left : Spelled (.chain op.isAdditive) cs f m)
      (right : Spelled (.operand op.isAdditive) ds g n) :
      Spelled (.chain op.isAdditive) (cs ++ op.symbol :: ds) (.binary op f g) (max m n)
  | blankBefore {level : Phrase.Level} {c : Char} {cs : List Char} {f : Formula} {nesting : Nat}
      (hc : Scanner.isBlank c = true) (phrase : Spelled level cs f nesting) :
      Spelled level (c :: cs) f nesting
  | blankBehind {level : Phrase.Level} {c : Char} {cs : List Char} {f : Formula} {nesting : Nat}
      (hc : Scanner.isBlank c = true) (phrase : Spelled level cs f nesting) :
      Spelled level (cs ++ [c]) f nesting

namespace Spelled

theorem blanksBefore (hblanks : ∀ c ∈ blanks, Scanner.isBlank c = true)
    (h : Spelled level cs f nesting) : Spelled level (blanks ++ cs) f nesting := by
  induction blanks with
  | nil => exact h
  | cons c blanks ih =>
    rw [List.forall_mem_cons] at hblanks
    exact (ih hblanks.2).blankBefore hblanks.1

theorem blanksBehind (hblanks : ∀ c ∈ blanks, Scanner.isBlank c = true)
    (h : Spelled level cs f nesting) : Spelled level (cs ++ blanks) f nesting := by
  induction blanks generalizing cs with
  | nil => rwa [List.append_nil]
  | cons c blanks ih =>
    rw [List.forall_mem_cons] at hblanks
    rw [List.append_cons]
    exact ih hblanks.2 (h.blankBehind hblanks.1)

end Spelled

/-! From the characters to the tokens. -/

/-- The text is split into tokens, whatever follows it that does not go on with a literal, and they
are a phrase with the tree of the formula. -/
theorem Spelled.exists_phrase (h : Spelled level cs f nesting) :
    ∃ ts, (∀ rest, Scanner.Bounds rest → Scanner.Yields (cs ++ rest) ts rest) ∧
      Phrase level ts f.rounded nesting := by
  induction h with
  | literal hne hdigits =>
    refine ⟨_, fun rest hrest => ?_, .number _⟩
    exact .literal hne (fun _ hc => Scanner.isNumeral_of_mem_pointed hdigits hc) hrest
      (Scanner.literalValue?_pointed hne hdigits)
  | negation _ ih =>
    obtain ⟨ts, hyields, hphrase⟩ := ih
    exact ⟨_, fun rest hrest => (hyields rest hrest).symbol rfl, hphrase.negation⟩
  | @group cs _ _ _ ih =>
    obtain ⟨ts, hyields, hphrase⟩ := ih
    refine ⟨_, fun rest hrest => ?_, hphrase.group⟩
    have hclosing : Scanner.Yields (')' :: rest) [.closing] rest :=
      (Scanner.Yields.refl rest).symbol rfl
    have hinner := (hyields (')' :: rest) (.of_cons rfl)).trans hclosing
    rw [List.cons_append, List.append_assoc]
    exact hinner.symbol rfl
  | operand additive _ ih =>
    obtain ⟨ts, hyields, hphrase⟩ := ih
    exact ⟨ts, hyields, hphrase.toChain⟩
  | @binary cs ds _ _ _ _ op _ _ ihl ihr =>
    obtain ⟨ts, hleft, hphrasel⟩ := ihl
    obtain ⟨us, hright, hphraser⟩ := ihr
    refine ⟨_, fun rest hrest => ?_, hphrasel.extend op hphraser⟩
    have hop := Token.ofChar?_symbol op
    have hbounds : Scanner.Bounds (op.symbol :: (ds ++ rest)) :=
      .of_cons (Scanner.kind_of_symbol hop).1
    rw [List.append_assoc]
    exact (hleft _ hbounds).trans ((hright rest hrest).symbol hop)
  | blankBefore hc _ ih =>
    obtain ⟨ts, hyields, hphrase⟩ := ih
    exact ⟨ts, fun rest hrest => (hyields rest hrest).blank hc, hphrase⟩
  | @blankBehind _ c cs _ _ hc _ ih =>
    obtain ⟨ts, hyields, hphrase⟩ := ih
    refine ⟨ts, fun rest _ => ?_, hphrase⟩
    have hblank : Scanner.Yields (c :: rest) [] rest := (Scanner.Yields.refl rest).blank hc
    have h := (hyields (c :: rest) (.of_cons (Scanner.isNumeral_of_isBlank hc))).trans hblank
    rwa [List.append_nil, List.append_cons] at h

/-! From the tokens to the characters. -/

/-- The characters are pieces that are read as these tokens, with blanks around them. -/
inductive Spaced : List Char → List Token → Prop where
  | blanks {cs : List Char} (hblanks : ∀ c ∈ cs, Scanner.isBlank c = true) : Spaced cs []
  | token {blanks piece rest : List Char} {token : Token} {pos : Nat} {ts : List Token}
      (hblanks : ∀ c ∈ blanks, Scanner.isBlank c = true)
      (told : Scanner.Told piece pos (.ok ⟨token, pos⟩)) (others : Spaced rest ts) :
      Spaced (blanks ++ (piece ++ rest)) (token :: ts)

namespace Spaced

theorem of_items {ls : List Lexeme} {pos : Nat}
    (h : Scanner.items ⟨cs, pos, false⟩ = ls.map Except.ok) : Spaced cs (ls.map Lexeme.token) := by
  induction ls generalizing cs pos with
  | nil =>
    refine .blanks ?_
    by_contra hblank
    obtain ⟨blanks, piece, rest, rfl, hblanks, hrest, htold⟩ := Scanner.exists_piece cs hblank
    obtain ⟨item, hitem⟩ := htold (pos + blanks.length)
    rw [Scanner.items_told hblanks hitem hrest] at h
    cases h
  | cons lexeme ls ih =>
    obtain ⟨blanks, piece, rest, rfl, hblanks, -, htold, htail⟩ := Scanner.exists_told_of_items h
    have hothers : Spaced rest (ls.map Lexeme.token) := ih htail.symm
    cases htold with
    | symbol _ htoken => exact .token hblanks (.symbol 0 htoken) hothers
    | number _ hrun hvalue => exact .token hblanks (.number 0 hrun hvalue) hothers

theorem exists_of_cons (h : Spaced cs (token :: ts)) :
    ∃ blanks piece rest pos, cs = blanks ++ (piece ++ rest) ∧
      (∀ c ∈ blanks, Scanner.isBlank c = true) ∧ Scanner.Told piece pos (.ok ⟨token, pos⟩) ∧
      Spaced rest ts := by
  cases h with
  | token hblanks told others => exact ⟨_, _, _, _, rfl, hblanks, told, others⟩

theorem blanks_of_nil (h : Spaced cs []) : ∀ c ∈ cs, Scanner.isBlank c = true := by
  cases h with
  | blanks hblanks => exact hblanks

/-- The blanks between two rows of tokens count for the row behind them. -/
theorem exists_of_append (h : Spaced cs (ts ++ us)) :
    ∃ ds es, cs = ds ++ es ∧ Spaced ds ts ∧ Spaced es us := by
  induction ts generalizing cs with
  | nil => exact ⟨[], cs, rfl, .blanks (by simp), h⟩
  | cons token ts ih =>
    obtain ⟨blanks, piece, rest, pos, rfl, hblanks, htold, hothers⟩ := h.exists_of_cons
    obtain ⟨ds, es, rfl, hds, hes⟩ := ih hothers
    exact ⟨blanks ++ (piece ++ ds), es, by simp, .token hblanks htold hds, hes⟩

end Spaced

/-- A token that is no number is read from its only character. -/
theorem eq_singleton_of_told {piece : List Char} {pos : Nat} {lexeme : Lexeme}
    (h : Scanner.Told piece pos (.ok lexeme)) (hc : lexeme.token.char? = some c) :
    piece = [c] := by
  cases h with
  | symbol _ htoken =>
    rw [Token.ofChar?_eq_some_iff.mp htoken] at hc
    rw [Option.some.inj hc]
  | number => cases hc

theorem Spelled.of_told {piece : List Char} {pos : Nat} {value : Binary64}
    (h : Scanner.Told piece pos (.ok ⟨.number value, pos⟩)) :
    ∃ f, Spelled .unary piece f 0 ∧ f.rounded = .number value := by
  cases h with
  | symbol _ htoken => cases Token.ofChar?_eq_some_iff.mp htoken
  | number _ hrun hvalue =>
    have hnumber := (Scanner.isSome_literalValue?_iff hrun).mp (by rw [hvalue]; rfl)
    obtain ⟨whole, places, rfl, hne, hdigits⟩ := hnumber.exists_pointed
    rw [Scanner.literalValue?_pointed hne hdigits] at hvalue
    exact ⟨_, .literal hne hdigits, congrArg Expr.number (Option.some.inj hvalue)⟩

/-- A row of links is spelled behind the operand that it goes on from. -/
theorem Spelled.exists_chain {links : List Link}
    (operators : ∀ link ∈ links, link.op.isAdditive = additive)
    (others : ∀ link ∈ links, ∀ cs, Spaced cs link.tokens →
      ∃ g, Spelled (.operand additive) cs g link.nesting ∧ g.rounded = link.tree)
    (first : Spelled (.chain additive) ds f nesting) (h : Spaced es (Link.allTokens links)) :
    ∃ g, Spelled (.chain additive) (ds ++ es) g (Link.greatest nesting links) ∧
      g.rounded = Link.fold f.rounded links := by
  induction links generalizing ds es f nesting with
  | nil => exact ⟨f, first.blanksBehind h.blanks_of_nil, rfl⟩
  | cons link links ih =>
    rw [List.forall_mem_cons] at operators others
    obtain ⟨rfl, hops⟩ := operators
    obtain ⟨blanks, piece, rest, pos, rfl, hblanks, htold, hrest⟩ := h.exists_of_cons
    obtain ⟨us, vs, rfl, hus, hvs⟩ := hrest.exists_of_append
    obtain ⟨g, hg, htree⟩ := others.1 us hus
    obtain rfl : piece = [link.op.symbol] := eq_singleton_of_told htold rfl
    have hlonger := (first.blanksBehind hblanks).binary link.op hg
    obtain ⟨e, he, hfold⟩ := ih hops others.2 hlonger hvs
    refine ⟨e, ?_, ?_⟩
    · simpa using he
    · rw [hfold, Link.fold_cons, rounded, htree]

theorem Spelled.of_phrase {tree : Expr} (h : Phrase level ts tree nesting) (hcs : Spaced cs ts) :
    ∃ f, Spelled level cs f nesting ∧ f.rounded = tree := by
  induction h generalizing cs with
  | number value =>
    obtain ⟨blanks, piece, rest, pos, rfl, hblanks, htold, hrest⟩ := hcs.exists_of_cons
    obtain ⟨f, hf, htree⟩ := of_told htold
    exact ⟨f, (hf.blanksBehind hrest.blanks_of_nil).blanksBefore hblanks, htree⟩
  | negation _ ih =>
    obtain ⟨blanks, piece, rest, pos, rfl, hblanks, htold, hrest⟩ := hcs.exists_of_cons
    obtain rfl : piece = ['-'] := eq_singleton_of_told htold rfl
    obtain ⟨f, hf, rfl⟩ := ih hrest
    exact ⟨.negate f, hf.negation.blanksBefore hblanks, rfl⟩
  | group _ ih =>
    obtain ⟨blanks, piece, rest, pos, rfl, hblanks, htold, hrest⟩ := hcs.exists_of_cons
    obtain rfl : piece = ['('] := eq_singleton_of_told htold rfl
    obtain ⟨ds, es, rfl, hds, hes⟩ := hrest.exists_of_append
    obtain ⟨blanks', piece, rest, pos, rfl, hblanks', htold, hend⟩ := hes.exists_of_cons
    obtain rfl : piece = [')'] := eq_singleton_of_told htold rfl
    obtain ⟨f, hf, rfl⟩ := ih hds
    have hgroup := (hf.blanksBehind hblanks').group
    refine ⟨f, ?_, rfl⟩
    simpa using (hgroup.blanksBehind hend.blanks_of_nil).blanksBefore hblanks
  | term links _ operators _ ih ihs =>
    obtain ⟨ds, es, rfl, hds, hes⟩ := hcs.exists_of_append
    obtain ⟨f, hf, rfl⟩ := ih hds
    exact exists_chain operators (fun link hlink _ => ihs link hlink) (hf.operand false) hes
  | expression links _ operators _ ih ihs =>
    obtain ⟨ds, es, rfl, hds, hes⟩ := hcs.exists_of_append
    obtain ⟨f, hf, rfl⟩ := ih hds
    exact exists_chain operators (fun link hlink _ => ihs link hlink) (hf.operand true) hes

/-- The texts of formulas are the sentences, and the tree that is read from such a text is the one
of its formula. -/
theorem exists_spelled_iff {text : String} {tree : Expr} :
    (∃ f, Spelled .expression text.toList f nesting ∧ f.rounded = tree) ↔
      ∃ ls, lexemes text = .ok ls ∧ Phrase .expression (ls.map Lexeme.token) tree nesting := by
  constructor
  · rintro ⟨f, hf, rfl⟩
    obtain ⟨ts, hyields, hphrase⟩ := hf.exists_phrase
    have hall := hyields [] (by simp [Scanner.Bounds])
    rw [List.append_nil] at hall
    obtain ⟨ls, hls, rfl⟩ := lexemes_of_yields hall
    rw [String.ofList_toList] at hls
    exact ⟨ls, hls, hphrase⟩
  · rintro ⟨ls, hls, hphrase⟩
    exact Spelled.of_phrase hphrase (.of_items (Scanner.mapM_id_eq_ok hls))

end Formula
end Reckoner
