import Reckoner.Expression.Scanner
import Reckoner.Proofs.Decimal.Reading

/-!
How the scanner splits a text: blanks vanish, a symbol is a token of its own, and a literal reaches
up to where no digit or point follows.
-/
namespace Reckoner

theorem Token.ofChar?_symbol (op : Operator) : ofChar? op.symbol = some (operator op) := by
  cases op <;> rfl

namespace Scanner

open Text (digitsValue)

variable {c : Char} {cs rest mid whole places : List Char} {token : Token}
  {ts us : List Token} {pos : Nat} {value : Binary64}

/-- No literal goes on in the text. -/
def Bounds (rest : List Char) : Prop := ∀ c ∈ rest.head?, isNumeral c = false

theorem Bounds.of_cons (h : isNumeral c = false) : Bounds (c :: rest) := by
  simpa [Bounds] using h

theorem takeWhile_numeral (hall : ∀ c ∈ cs, isNumeral c = true) (hrest : Bounds rest) :
    (cs ++ rest).takeWhile isNumeral = cs := by
  rw [List.takeWhile_append_of_pos hall]
  cases rest with
  | nil => exact List.append_nil cs
  | cons c rest => simp [hrest c rfl]

theorem dropWhile_numeral (hall : ∀ c ∈ cs, isNumeral c = true) (hrest : Bounds rest) :
    (cs ++ rest).dropWhile isNumeral = rest := by
  rw [List.dropWhile_append_of_pos hall]
  cases rest with
  | nil => rfl
  | cons c rest => simp [hrest c rfl]

theorem isBlank_of_isNumeral (h : isNumeral c = true) : isBlank c = false := by
  cases hblank : isBlank c with
  | false => rfl
  | true =>
    simp only [isBlank, Bool.or_eq_true, beq_iff_eq] at hblank
    rcases hblank with ((rfl | rfl) | rfl) | rfl <;> exact h.symm

theorem isNumeral_of_isBlank (h : isBlank c = true) : isNumeral c = false := by
  cases hnumeral : isNumeral c with
  | false => rfl
  | true => rw [isBlank_of_isNumeral hnumeral] at h; contradiction

theorem kind_of_symbol (h : Token.ofChar? c = some token) :
    isNumeral c = false ∧ isBlank c = false := by
  unfold Token.ofChar? at h
  split at h
  · exact ⟨rfl, rfl⟩
  · exact ⟨rfl, rfl⟩
  · obtain ⟨op, hop, -⟩ := Option.map_eq_some_iff.mp h
    obtain rfl := Operator.ofChar?_eq_some_iff.mp hop
    cases op <;> exact ⟨rfl, rfl⟩

/-! What comes next. -/

theorem next_nil : next ⟨[], pos, false⟩ = (none, ⟨[], pos, false⟩) := rfl

theorem next_blank (h : isBlank c = true) :
    next ⟨c :: rest, pos, false⟩ = next ⟨rest, pos + 1, false⟩ := by
  have hstart : pos + ((c :: rest).takeWhile isBlank).length =
      pos + 1 + (rest.takeWhile isBlank).length := by
    rw [List.takeWhile_cons_of_pos h, List.length_cons]
    omega
  simp only [next, hstart, List.dropWhile_cons_of_pos h, Bool.false_eq_true, if_false]

theorem next_symbol (h : Token.ofChar? c = some token) :
    next ⟨c :: rest, pos, false⟩ = (some (.ok ⟨token, pos⟩), ⟨rest, pos + 1, false⟩) := by
  obtain ⟨hnumeral, hblank⟩ := kind_of_symbol h
  simp [next, hblank, hnumeral, h]

theorem next_literal {literal : List Char} (hne : literal ≠ [])
    (hall : ∀ c ∈ literal, isNumeral c = true) (hrest : Bounds rest)
    (hvalue : literalValue? literal = some value) :
    next ⟨literal ++ rest, pos, false⟩ =
      (some (.ok ⟨.number value, pos⟩), ⟨rest, pos + literal.length, false⟩) := by
  obtain ⟨c, tail, rfl⟩ := List.exists_cons_of_ne_nil hne
  have hc := hall c List.mem_cons_self
  have htail : ∀ c ∈ tail, isNumeral c = true := fun d hd => hall d (List.mem_cons_of_mem _ hd)
  have hblank := isBlank_of_isNumeral hc
  simp [next, hblank, hc, takeWhile_numeral htail hrest, dropWhile_numeral htail hrest, hvalue]

theorem items_of_next {s s' : Scanner} {item : Except LexicalError Lexeme}
    (h : s.next = (some item, s')) : s.items = item :: s'.items := by
  rw [items]
  split
  · simp_all
  · simp_all

theorem items_of_none {s s' : Scanner} (h : s.next = (none, s')) : s.items = [] := by
  rw [items]
  split
  · rfl
  · simp_all

theorem items_blank (h : isBlank c = true) :
    items ⟨c :: rest, pos, false⟩ = items ⟨rest, pos + 1, false⟩ := by
  rw [items, items, next_blank h]

/-- Lexemes with these tokens come first, wherever the text stands. -/
def Yields (cs : List Char) (ts : List Token) (rest : List Char) : Prop :=
  ∀ pos, ∃ (ls : List Lexeme) (pos' : Nat), ls.map Lexeme.token = ts ∧
    items ⟨cs, pos, false⟩ = ls.map Except.ok ++ items ⟨rest, pos', false⟩

namespace Yields

theorem refl (cs : List Char) : Yields cs [] cs := fun pos => ⟨[], pos, rfl, rfl⟩

theorem trans (h : Yields cs ts mid) (h' : Yields mid us rest) : Yields cs (ts ++ us) rest := by
  intro pos
  obtain ⟨ls, pos', rfl, hitems⟩ := h pos
  obtain ⟨ls', pos'', rfl, hitems'⟩ := h' pos'
  exact ⟨ls ++ ls', pos'', by simp, by rw [hitems, hitems']; simp⟩

theorem blank (hc : isBlank c = true) (h : Yields cs ts rest) : Yields (c :: cs) ts rest := by
  intro pos
  obtain ⟨ls, pos', hls, hitems⟩ := h (pos + 1)
  exact ⟨ls, pos', hls, (items_blank hc).trans hitems⟩

theorem symbol (hc : Token.ofChar? c = some token) (h : Yields cs ts rest) :
    Yields (c :: cs) (token :: ts) rest := by
  intro pos
  obtain ⟨ls, pos', rfl, hitems⟩ := h (pos + 1)
  refine ⟨⟨token, pos⟩ :: ls, pos', rfl, ?_⟩
  rw [items_of_next (next_symbol hc), hitems]
  rfl

theorem literal {literal : List Char} (hne : literal ≠ [])
    (hall : ∀ c ∈ literal, isNumeral c = true) (hrest : Bounds rest)
    (hvalue : literalValue? literal = some value) :
    Yields (literal ++ rest) [.number value] rest := by
  intro pos
  refine ⟨[⟨.number value, pos⟩], pos + literal.length, rfl, ?_⟩
  rw [items_of_next (next_literal hne hall hrest hvalue)]
  rfl

end Yields

theorem pointed_ne_nil (hne : whole ≠ []) : pointed whole places ≠ [] := by
  unfold pointed
  split
  · exact hne
  · exact List.append_ne_nil_of_left_ne_nil hne _

theorem isWellFormed_pointed (hne : pointed whole places ≠ [])
    (hdigits : ∀ c ∈ whole ++ places, c.isDigit = true) :
    isWellFormed (pointed whole places) = true := by
  have hpoint : ∀ c ∈ whole, (c != '.') = true := by
    intro c hc
    rw [bne_iff_ne]
    rintro rfl
    exact absurd (hdigits _ (List.mem_append_left _ hc)) (by decide)
  by_cases hnil : places = []
  · subst hnil
    have hdrop : (whole ++ []).dropWhile (· != '.') = [] := List.dropWhile_append_of_pos hpoint
    rw [List.append_nil] at hdrop
    rw [pointed_nil] at hne ⊢
    simp [isWellFormed, hdrop, hne]
  · rw [List.forall_mem_append] at hdigits
    rw [pointed_of_ne_nil hnil]
    simpa [isWellFormed, List.takeWhile_append_of_pos hpoint, List.dropWhile_append_of_pos hpoint,
      hnil] using ⟨hdigits.2, hdigits.1⟩

theorem normalized_pointed (hdigits : ∀ c ∈ whole ++ places, c.isDigit = true) :
    normalized (pointed whole places) =
      pointed (if whole = [] ∧ places ≠ [] then ['0'] else whole) places := by
  by_cases hnil : whole = []
  · subst hnil
    by_cases hplaces : places = []
    · subst hplaces
      rfl
    · rw [if_pos ⟨rfl, hplaces⟩, pointed_of_ne_nil hplaces, pointed_of_ne_nil hplaces]
      rfl
  · obtain ⟨c, tail, rfl⟩ := List.exists_cons_of_ne_nil hnil
    rw [if_neg fun h => hnil h.1, normalized]
    intro rest hpoint
    have hc : c = '.' := by
      unfold pointed at hpoint
      split at hpoint <;> exact (List.cons.inj hpoint).1
    exact absurd (hdigits c List.mem_cons_self) (by simp [hc])

/-- Digits and a point are the nearest number to what they mean, and the reader of numbers does not
refuse them. -/
theorem literalValue?_pointed (hne : pointed whole places ≠ [])
    (hdigits : ∀ c ∈ whole ++ places, c.isDigit = true) :
    literalValue? (pointed whole places) =
      some (Binary64.ofDecimal (digitsValue (whole ++ places)) places.length) := by
  rw [literalValue?, if_pos (isWellFormed_pointed hne hdigits), normalized_pointed hdigits]
  split
  · rename_i hfront
    obtain ⟨rfl, hplaces⟩ := hfront
    have hzero : digitsValue (['0'] ++ places) = digitsValue places := digitsValue_zeros_append 1 _
    rw [List.nil_append, ← hzero]
    refine Decimal.read?_pointed (pointed_ne_nil (List.cons_ne_nil _ _)) ?_
    exact List.forall_mem_cons.mpr ⟨rfl, hdigits⟩
  · exact Decimal.read?_pointed hne hdigits

theorem isNumeral_of_mem_pointed (hdigits : ∀ c ∈ whole ++ places, c.isDigit = true)
    (hc : c ∈ pointed whole places) : isNumeral c = true := by
  rcases Decimal.isDigit_or_point_of_mem hdigits hc with hdigit | rfl
  · simp [isNumeral, hdigit]
  · rfl

/-- The text of a finite number is read as its sign and its magnitude. -/
theorem yields_write {x : Binary64} (h : x.isFinite = true) (hrest : Bounds rest) :
    Yields (Layout.plain.write x ++ rest)
      (if x.negative then [.operator .minus, .number x.abs] else [.number x.abs]) rest := by
  obtain ⟨whole, places, hwrite, hne, hdigits, hvalue⟩ := Layout.write_spec h
  have hpointed : pointed whole places ≠ [] := pointed_ne_nil hne
  have hliteral : Yields (pointed whole places ++ rest) [.number x.abs] rest :=
    Yields.literal hpointed (fun _ hc => isNumeral_of_mem_pointed hdigits hc) hrest
      ((literalValue?_pointed hpointed hdigits).trans (congrArg some hvalue))
  rw [hwrite]
  cases x.negative with
  | false => exact hliteral
  | true => exact hliteral.symbol rfl

end Scanner

theorem mapM_id_map_ok {ε α : Type} (as : List α) :
    (as.map (Except.ok : α → Except ε α)).mapM id = .ok as := by
  induction as with
  | nil => rfl
  | cons a as ih =>
    rw [List.map_cons, List.mapM_cons, ih]
    rfl

theorem lexemes_of_yields {cs : List Char} {ts : List Token} (h : Scanner.Yields cs ts []) :
    ∃ ls, lexemes (String.ofList cs) = .ok ls ∧ ls.map Lexeme.token = ts := by
  obtain ⟨ls, pos, hls, hitems⟩ := h 0
  rw [Scanner.items_of_none Scanner.next_nil, List.append_nil] at hitems
  refine ⟨ls, ?_, hls⟩
  rw [lexemes, Scanner.ofText, String.toList_ofList, hitems]
  exact mapM_id_map_ok ls

end Reckoner
