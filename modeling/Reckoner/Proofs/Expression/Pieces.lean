import Mathlib.Data.List.Basic
import Reckoner.Proofs.Expression.Rereading

/-!
The pieces of a text and what the scanner tells of each: a maximal run of digits and points is
a number or a malformed one, any other character that is not blank stands by itself.
-/
namespace Reckoner
namespace Scanner

open Text (digitsValue)

variable {c : Char} {cs piece blanks rest xs : List Char} {pos : Nat}

/-- A row of digits and points. -/
def IsRun (cs : List Char) : Prop := cs ≠ [] ∧ ∀ c ∈ cs, isNumeral c = true

/-- Digits, or digits with a point before the last of them. -/
def IsNumber (cs : List Char) : Prop :=
  ∃ whole places, (∀ c ∈ whole ++ places, c.isDigit = true) ∧
    ((cs = whole ∧ whole ≠ []) ∨ (cs = whole ++ '.' :: places ∧ places ≠ []))

/-- The character is no blank and cannot be part of a lexeme. -/
structure IsForeign (c : Char) : Prop where
  isBlank_eq : isBlank c = false
  isNumeral_eq : isNumeral c = false
  token_eq : Token.ofChar? c = none

/-- What is told of a piece that stands at a position. -/
inductive Told : List Char → Nat → Except LexicalError Lexeme → Prop
  | symbol {c : Char} {token : Token} (pos : Nat) (h : Token.ofChar? c = some token) :
    Told [c] pos (.ok ⟨token, pos⟩)
  | foreign {c : Char} (pos : Nat) (h : IsForeign c) :
    Told [c] pos (.error (.invalidCharacter c pos))
  | number {run : List Char} {value : Binary64} (pos : Nat) (hrun : IsRun run)
    (h : literalValue? run = some value) : Told run pos (.ok ⟨.number value, pos⟩)
  | malformed {run : List Char} (pos : Nat) (hrun : IsRun run) (h : literalValue? run = none) :
    Told run pos (.error (.malformedNumber (String.ofList run) pos))

theorem isDigit_of_isNumeral (h : isNumeral c = true) (hpoint : c ≠ '.') : c.isDigit = true := by
  simpa [isNumeral, hpoint] using h

theorem IsNumber.exists_pointed (h : IsNumber cs) :
    ∃ whole places, cs = pointed whole places ∧ pointed whole places ≠ [] ∧
      ∀ c ∈ whole ++ places, c.isDigit = true := by
  obtain ⟨whole, places, hdigits, ⟨rfl, hne⟩ | ⟨rfl, hne⟩⟩ := h
  · refine ⟨cs, [], rfl, hne, fun c hc => hdigits c ?_⟩
    rw [List.append_nil] at hc
    exact List.mem_append_left _ hc
  · refine ⟨whole, places, (pointed_of_ne_nil hne).symm, ?_, hdigits⟩
    rw [pointed_of_ne_nil hne]
    exact List.append_ne_nil_of_right_ne_nil _ (List.cons_ne_nil _ _)

/-- Of a row of digits and points no more than the check is needed to be a number. -/
theorem isWellFormed_iff (hrun : IsRun cs) : isWellFormed cs = true ↔ IsNumber cs := by
  obtain ⟨hcs, hall⟩ := hrun
  constructor
  · intro h
    have hsplit := List.takeWhile_append_dropWhile (p := (· != '.')) (l := cs)
    have hwhole : ∀ c ∈ cs.takeWhile (· != '.'), c.isDigit = true := by
      intro c hc
      have hpoint : (c != '.') = true := List.all_eq_true.mp List.all_takeWhile c hc
      exact isDigit_of_isNumeral (hall c ((List.takeWhile_sublist _).subset hc))
        (bne_iff_ne.mp hpoint)
    unfold isWellFormed at h
    dsimp only at h
    split at h
    · rename_i hdrop
      rw [hdrop, List.append_nil] at hsplit
      rw [hsplit] at hwhole
      exact ⟨cs, [], by simpa using hwhole, .inl ⟨rfl, hcs⟩⟩
    · rename_i point places hdrop
      have hhead : (point != '.') = false := by
        have := List.head?_dropWhile_not (· != '.') cs
        rw [hdrop] at this
        simpa using this
      obtain rfl : point = '.' := by simpa using hhead
      simp only [Bool.and_eq_true, Bool.not_eq_true', List.isEmpty_eq_false_iff,
        List.all_eq_true] at h
      obtain ⟨⟨hne, hplaces⟩, -⟩ := h
      exact ⟨_, places, List.forall_mem_append.mpr ⟨hwhole, hplaces⟩,
        .inr ⟨(hdrop ▸ hsplit).symm, hne⟩⟩
  · intro h
    obtain ⟨whole, places, rfl, hne, hdigits⟩ := h.exists_pointed
    exact isWellFormed_pointed hne hdigits

/-- The literals that have a value are the well-formed ones. -/
theorem isSome_literalValue?_iff (hrun : IsRun cs) :
    (literalValue? cs).isSome = true ↔ IsNumber cs := by
  constructor
  · intro h
    rw [← isWellFormed_iff hrun]
    unfold literalValue? at h
    split at h
    · assumption
    · contradiction
  · intro h
    obtain ⟨whole, places, rfl, hne, hdigits⟩ := h.exists_pointed
    rw [literalValue?_pointed hne hdigits]
    rfl

/-! One piece. -/

theorem next_malformed (hrun : IsRun piece) (hrest : Bounds rest)
    (hvalue : literalValue? piece = none) :
    next ⟨piece ++ rest, pos, false⟩ =
      (some (.error (.malformedNumber (String.ofList piece) pos)),
        ⟨rest, pos + piece.length, true⟩) := by
  obtain ⟨hne, hall⟩ := hrun
  obtain ⟨c, tail, rfl⟩ := List.exists_cons_of_ne_nil hne
  have hc := hall c List.mem_cons_self
  have htail : ∀ c ∈ tail, isNumeral c = true := fun d hd => hall d (List.mem_cons_of_mem _ hd)
  have hblank := isBlank_of_isNumeral hc
  simp [next, hblank, hc, takeWhile_numeral htail hrest, dropWhile_numeral htail hrest, hvalue]

/-- Blanks are passed, then the piece behind them is told. -/
theorem next_told {item : Except LexicalError Lexeme} (hblanks : ∀ c ∈ blanks, isBlank c = true)
    (h : Told piece (pos + blanks.length) item) (hrest : IsRun piece → Bounds rest) :
    next ⟨blanks ++ (piece ++ rest), pos, false⟩ =
      (some item, ⟨rest, pos + blanks.length + piece.length, !item.isOk⟩) := by
  induction blanks generalizing pos with
  | nil =>
    rw [List.length_nil, Nat.add_zero] at h
    cases h with
    | symbol _ htoken => exact next_symbol htoken
    | foreign _ hc => exact next_invalid hc.isBlank_eq hc.isNumeral_eq hc.token_eq
    | number _ hrun hvalue => exact next_literal hrun.1 hrun.2 (hrest hrun) hvalue
    | malformed _ hrun hvalue => exact next_malformed hrun (hrest hrun) hvalue
  | cons c blanks ih =>
    rw [List.length_cons, Nat.add_comm blanks.length, ← Nat.add_assoc] at h
    rw [List.cons_append, next_blank (hblanks c List.mem_cons_self),
      ih (fun d hd => hblanks d (List.mem_cons_of_mem _ hd)) h, List.length_cons,
      Nat.add_comm blanks.length, ← Nat.add_assoc]

theorem Told.exists_item (piece : List Char) (pos : Nat)
    (h : IsRun piece ∨ ∃ c, piece = [c] ∧ isBlank c = false ∧ isNumeral c = false) :
    ∃ item, Told piece pos item := by
  rcases h with hrun | ⟨c, rfl, hblank, hnumeral⟩
  · cases hvalue : literalValue? piece with
    | none => exact ⟨_, .malformed pos hrun hvalue⟩
    | some value => exact ⟨_, .number pos hrun hvalue⟩
  · cases htoken : Token.ofChar? c with
    | none => exact ⟨_, .foreign pos ⟨hblank, hnumeral, htoken⟩⟩
    | some token => exact ⟨_, .symbol pos htoken⟩

/-- The character at the front of a text that does not begin with a blank belongs to a piece. -/
theorem exists_piece_cons (hblank : isBlank c = false) (tail : List Char) :
    ∃ piece rest, c :: tail = piece ++ rest ∧ (IsRun piece → Bounds rest) ∧
      ∀ pos, ∃ item, Told piece pos item := by
  cases hnumeral : isNumeral c with
  | false =>
    refine ⟨[c], tail, rfl, ?_, fun pos => Told.exists_item _ pos (.inr ⟨c, rfl, hblank, hnumeral⟩)⟩
    rintro ⟨-, hall⟩
    exact absurd (hall c List.mem_cons_self) (by simp [hnumeral])
  | true =>
    have hrun : IsRun (c :: tail.takeWhile isNumeral) := by
      refine ⟨List.cons_ne_nil _ _, ?_⟩
      rw [List.forall_mem_cons]
      exact ⟨hnumeral, List.all_eq_true.mp List.all_takeWhile⟩
    refine ⟨c :: tail.takeWhile isNumeral, tail.dropWhile isNumeral, ?_, fun _ => ?_,
      fun pos => Told.exists_item _ pos (.inl hrun)⟩
    · rw [List.cons_append, List.takeWhile_append_dropWhile]
    · intro d hd
      have hstop := List.head?_dropWhile_not isNumeral tail
      rw [hd] at hstop
      simpa using hstop

/-- A text that is not blank has a first piece. -/
theorem exists_piece (cs : List Char) (h : ¬ ∀ c ∈ cs, isBlank c = true) :
    ∃ blanks piece rest, cs = blanks ++ (piece ++ rest) ∧ (∀ c ∈ blanks, isBlank c = true) ∧
      (IsRun piece → Bounds rest) ∧ ∀ pos, ∃ item, Told piece pos item := by
  induction cs with
  | nil => simp at h
  | cons c tail ih =>
    cases hblank : isBlank c with
    | false =>
      obtain ⟨piece, rest, hsplit, hrest, htold⟩ := exists_piece_cons hblank tail
      exact ⟨[], piece, rest, hsplit, by simp, hrest, htold⟩
    | true =>
      rw [List.forall_mem_cons, not_and] at h
      obtain ⟨blanks, piece, rest, rfl, hblanks, hrest, htold⟩ := ih (h hblank)
      exact ⟨c :: blanks, piece, rest, rfl, List.forall_mem_cons.mpr ⟨hblank, hblanks⟩, hrest,
        htold⟩

theorem items_blanks_append (h : ∀ c ∈ blanks, isBlank c = true) (rest : List Char) :
    items ⟨blanks ++ rest, pos, false⟩ = items ⟨rest, pos + blanks.length, false⟩ := by
  induction blanks generalizing pos with
  | nil => rfl
  | cons c blanks ih =>
    rw [List.forall_mem_cons] at h
    rw [List.cons_append, items_blank h.1, ih h.2, List.length_cons, Nat.add_comm blanks.length,
      ← Nat.add_assoc]

theorem items_of_blank (h : ∀ c ∈ cs, isBlank c = true) : items ⟨cs, pos, false⟩ = [] := by
  rw [← List.append_nil cs, items_blanks_append h, items_of_none next_nil]

theorem items_of_failed : items ⟨cs, pos, true⟩ = [] := items_of_none rfl

/-! All pieces. -/

/-- Behind the piece the scanner goes on unless it has told an error. -/
theorem items_told {item : Except LexicalError Lexeme} (hblanks : ∀ c ∈ blanks, isBlank c = true)
    (h : Told piece (pos + blanks.length) item) (hrest : IsRun piece → Bounds rest) :
    items ⟨blanks ++ (piece ++ rest), pos, false⟩ =
      item :: items ⟨rest, pos + blanks.length + piece.length, !item.isOk⟩ :=
  items_of_next (next_told hblanks h hrest)

/-- The piece stands in the text behind `front`, and it is no part of a longer run. -/
structure Stands (cs front piece back : List Char) : Prop where
  split : cs = front ++ (piece ++ back)
  left : IsRun piece → ∀ c ∈ front.getLast?, isNumeral c = false
  right : IsRun piece → Bounds back

theorem Told.ne_nil {item : Except LexicalError Lexeme} (h : Told piece pos item) :
    piece ≠ [] := by
  cases h with
  | symbol | foreign => exact List.cons_ne_nil _ _
  | number _ hrun | malformed _ hrun => exact hrun.1

/-- A run does not begin right behind another run. -/
theorem Told.getLast?_of_isRun {item : Except LexicalError Lexeme} {next back : List Char}
    (h : Told piece pos item) (hbounds : IsRun piece → Bounds (next ++ back)) (hrun : IsRun next) :
    ∀ c ∈ piece.getLast?, isNumeral c = false := by
  have hno : ¬ IsRun piece := by
    intro hpiece
    obtain ⟨hne, hall⟩ := hrun
    obtain ⟨d, tail, rfl⟩ := List.exists_cons_of_ne_nil hne
    have hfalse := hbounds hpiece d rfl
    rw [hall d List.mem_cons_self] at hfalse
    contradiction
  cases h with
  | symbol _ htoken => simpa using (kind_of_symbol htoken).1
  | foreign _ hc => simpa using hc.isNumeral_eq
  | number _ hpiece | malformed _ hpiece => exact absurd hpiece hno

theorem Bounds.append_of_append {front back : List Char} (h : Bounds (front ++ back))
    (hrest : Bounds rest) : Bounds (front ++ rest) := by
  cases front with
  | nil => exact hrest
  | cons c front => exact h

variable {item : Except LexicalError Lexeme} {items₁ items₂ : List (Except LexicalError Lexeme)}
  {front back : List Char}

/-- The first item is told of the first piece. -/
theorem exists_told_of_items (h : items ⟨cs, pos, false⟩ = item :: items₂) :
    ∃ blanks piece rest, cs = blanks ++ (piece ++ rest) ∧ (∀ c ∈ blanks, isBlank c = true) ∧
      (IsRun piece → Bounds rest) ∧ Told piece (pos + blanks.length) item ∧
      items₂ = items ⟨rest, pos + blanks.length + piece.length, !item.isOk⟩ := by
  by_cases hblank : ∀ c ∈ cs, isBlank c = true
  · rw [items_of_blank hblank] at h
    cases h
  · obtain ⟨blanks, piece, rest, rfl, hblanks, hrest, htold⟩ := exists_piece cs hblank
    obtain ⟨first, hfirst⟩ := htold (pos + blanks.length)
    rw [items_told hblanks hfirst hrest] at h
    obtain ⟨rfl, htail⟩ := List.cons.inj h
    exact ⟨blanks, piece, rest, rfl, hblanks, hrest, hfirst, htail.symm⟩

theorem Stands.first (hblanks : ∀ c ∈ blanks, isBlank c = true)
    (hrest : IsRun piece → Bounds back) :
    Stands (blanks ++ (piece ++ back)) blanks piece back := by
  refine ⟨rfl, ?_, hrest⟩
  intro _ c hc
  exact isNumeral_of_isBlank (hblanks c (List.mem_of_mem_getLast? hc))

/-- A piece stands where it did when other pieces come in front of all. -/
theorem Stands.behind {first : List Char} (h : Stands cs front piece back)
    (hfirst : Told first pos item) (hrest : IsRun first → Bounds cs) :
    Stands (blanks ++ (first ++ cs)) (blanks ++ (first ++ front)) piece back := by
  obtain ⟨rfl, hleft, hright⟩ := h
  refine ⟨by simp, ?_, hright⟩
  intro hrun c hc
  cases front with
  | nil =>
    have hbounds : IsRun first → Bounds (piece ++ back) := hrest
    rw [List.append_nil, List.getLast?_append_of_ne_nil _ hfirst.ne_nil] at hc
    exact hfirst.getLast?_of_isRun hbounds hrun c hc
  | cons d front =>
    rw [← List.append_assoc, List.getLast?_append_of_ne_nil _ (List.cons_ne_nil _ _)] at hc
    exact hleft hrun c hc

/-- Every item is told of a piece that stands in the text at the position of the item, and what is
in front of that piece is read alike before any other text. -/
theorem exists_stands_of_items (h : items ⟨cs, pos, false⟩ = items₁ ++ item :: items₂) :
    ∃ front piece back, Stands cs front piece back ∧ Told piece (pos + front.length) item ∧
      ∀ rest, Bounds rest →
        items ⟨front ++ rest, pos, false⟩ = items₁ ++ items ⟨rest, pos + front.length, false⟩ := by
  induction items₁ generalizing cs pos with
  | nil =>
    obtain ⟨blanks, piece, rest, rfl, hblanks, hrest, htold, -⟩ := exists_told_of_items h
    exact ⟨blanks, piece, rest, .first hblanks hrest, htold,
      fun rest _ => items_blanks_append hblanks rest⟩
  | cons told items₁ ih =>
    obtain ⟨blanks, first, rest, rfl, hblanks, hrest, hfirst, htail⟩ := exists_told_of_items h
    -- Nothing comes behind an error.
    obtain ⟨lexeme, rfl⟩ : ∃ lexeme, told = .ok lexeme := by
      cases told with
      | ok lexeme => exact ⟨lexeme, rfl⟩
      | error error =>
        have hnil := htail.trans items_of_failed
        simp at hnil
    obtain ⟨front, piece, back, hstands, hpiece, hfront⟩ := ih htail.symm
    have hlength : pos + (blanks ++ (first ++ front)).length =
        pos + blanks.length + first.length + front.length := by
      rw [List.length_append, List.length_append]
      omega
    refine ⟨_, piece, back, hstands.behind hfirst hrest, hlength ▸ hpiece, ?_⟩
    intro after hafter
    rw [List.append_assoc, List.append_assoc, hlength,
      items_told hblanks hfirst fun hrun =>
        ((hstands.split ▸ hrest hrun : Bounds (front ++ _))).append_of_append hafter]
    exact congrArg _ (hfront after hafter)

end Scanner
end Reckoner
