import Mathlib.Data.List.Forall2
import Mathlib.Data.List.SplitBy
import Reckoner.Proofs.Expression.Formula
import Reckoner.Proofs.Expression.Literal

/-!
All answers of the scanner. A text has one split into its longest rows of digits and points and its
other characters one by one. The calls answer with what becomes of the pieces that are not blank,
in order, up to the first that is no token; all calls after that have no answer.
-/
namespace Reckoner.Scanner

/-- The pieces of a text: its longest rows of digits and points, and any other character by
itself. -/
structure Splits (cs : List Char) (pieces : List (List Char)) : Prop where
  whole : pieces.flatten = cs
  piece : ∀ piece ∈ pieces, IsRun piece ∨ ∃ c, piece = [c] ∧ isNumeral c = false
  longest : pieces.IsChain fun left right => ¬ (IsRun left ∧ IsRun right)

/-- The pieces, each with the number of characters in front of it. -/
def placed (pos : Nat) : List (List Char) → List (Nat × List Char)
  | [] => []
  | piece :: pieces => (pos, piece) :: placed (pos + piece.length) pieces

/-- The pieces that are not blank, in their places. -/
def visible (pos : Nat) (pieces : List (List Char)) : List (Nat × List Char) :=
  (placed pos pieces).filter fun place => !place.2.all isBlank

/-- What becomes of a piece that is not blank. -/
inductive Image : Nat × List Char → Except LexicalError Lexeme → Prop
  | number {pos : Nat} {run : List Char} {digits places : Nat} (h : Denotes run digits places) :
      Image (pos, run) (.ok ⟨.number (.ofDecimal digits places), pos⟩)
  | malformed {pos : Nat} {run : List Char} (hrun : IsRun run)
      (h : ∀ digits places, ¬ Denotes run digits places) :
      Image (pos, run) (.error (.malformedNumber (String.ofList run) pos))
  | symbol {pos : Nat} {c : Char} {token : Token} (h : token.char? = some c) :
      Image (pos, [c]) (.ok ⟨token, pos⟩)
  | foreign {pos : Nat} {c : Char} (hblank : isBlank c = false) (hnumeral : isNumeral c = false)
      (h : ∀ token : Token, token.char? ≠ some c) :
      Image (pos, [c]) (.error (.invalidCharacter c pos))

/-- The items up to the first error. -/
def upToError {ε α : Type} : List (Except ε α) → List (Except ε α)
  | [] => []
  | .ok a :: items => .ok a :: upToError items
  | .error error :: _ => [.error error]

/-- What comes when that many calls have been made before. -/
def answer (s : Scanner) : Nat → Option (Except LexicalError Lexeme)
  | 0 => s.next.1
  | calls + 1 => s.next.2.answer calls

variable {c : Char} {cs piece : List Char} {pieces : List (List Char)} {pos : Nat}
  {place : Nat × List Char} {s s' : Scanner} {item item' : Except LexicalError Lexeme}
  {images : List (Except LexicalError Lexeme)}

/-! The split. -/

theorem isRun_or_single_of_isChain (hne : piece ≠ [])
    (h : piece.IsChain fun a b => (isNumeral a && isNumeral b) = true) :
    IsRun piece ∨ ∃ c, piece = [c] ∧ isNumeral c = false := by
  induction piece with
  | nil => contradiction
  | cons a rest ih =>
    cases rest with
    | nil =>
      cases hnumeral : isNumeral a with
      | false => exact .inr ⟨a, rfl, hnumeral⟩
      | true => exact .inl ⟨hne, by simpa using hnumeral⟩
    | cons b rest =>
      rw [List.isChain_cons_cons, Bool.and_eq_true] at h
      obtain ⟨⟨ha, hb⟩, hrest⟩ := h
      rcases ih (List.cons_ne_nil _ _) hrest with hrun | ⟨c, hc, hnumeral⟩
      · exact .inl ⟨hne, List.forall_mem_cons.mpr ⟨ha, hrun.2⟩⟩
      · rw [(List.cons.inj hc).1, hnumeral] at hb
        contradiction

theorem IsRun.isChain (h : IsRun piece) :
    piece.IsChain fun a b => (isNumeral a && isNumeral b) = true := by
  obtain ⟨-, hall⟩ := h
  induction piece with
  | nil => exact List.isChain_nil
  | cons a rest ih =>
    rw [List.forall_mem_cons] at hall
    refine (ih hall.2).cons fun b hb => ?_
    rw [hall.1, hall.2 b (List.mem_of_mem_head? hb)]
    rfl

theorem splits_iff :
    Splits cs pieces ↔ cs.splitBy (fun a b => isNumeral a && isNumeral b) = pieces := by
  rw [List.splitBy_eq_iff]
  constructor
  · rintro ⟨rfl, hpiece, hlongest⟩
    have hne : ∀ piece ∈ pieces, piece ≠ [] := by
      intro piece hmem
      rcases hpiece piece hmem with hrun | ⟨c, rfl, -⟩
      · exact hrun.1
      · exact List.cons_ne_nil _ _
    refine ⟨rfl, fun hnil => hne _ hnil rfl, fun piece hmem => ?_, ?_⟩
    · rcases hpiece piece hmem with hrun | ⟨c, rfl, -⟩
      · exact hrun.isChain
      · exact List.isChain_singleton c
    · refine hlongest.imp_of_mem_imp fun left right hleft hright hno => ?_
      refine ⟨hne left hleft, hne right hright, ?_⟩
      rw [Bool.and_eq_false_iff]
      rcases hpiece left hleft with hl | ⟨a, rfl, ha⟩
      · rcases hpiece right hright with hr | ⟨b, rfl, hb⟩
        · exact absurd ⟨hl, hr⟩ hno
        · exact .inr hb
      · exact .inl ha
  · rintro ⟨rfl, hnil, hchain, hborders⟩
    have hne : ∀ piece ∈ pieces, piece ≠ [] := fun piece hmem heq => hnil (heq ▸ hmem)
    refine ⟨rfl, fun piece hmem => isRun_or_single_of_isChain (hne piece hmem) (hchain piece hmem),
      hborders.imp ?_⟩
    rintro left right ⟨hl, hr, hborder⟩ ⟨hleft, hright⟩
    rw [hleft.2 _ (List.getLast_mem hl), hright.2 _ (List.head_mem hr)] at hborder
    contradiction

theorem Splits.tail (h : Splits cs (piece :: pieces)) : Splits pieces.flatten pieces :=
  ⟨rfl, (List.forall_mem_cons.mp h.piece).2, h.longest.tail⟩

/-- No run goes on in the piece behind it. -/
theorem Splits.bounds (h : Splits cs (piece :: pieces)) (hrun : IsRun piece) :
    Bounds pieces.flatten := by
  cases pieces with
  | nil => simp [Bounds]
  | cons next pieces =>
    have hno : ¬ IsRun next := fun hnext =>
      (List.isChain_cons_cons.mp h.longest).1 ⟨hrun, hnext⟩
    rcases h.piece next (by simp) with hnext | ⟨c, rfl, hc⟩
    · exact absurd hnext hno
    · exact .of_cons hc

/-! What becomes of one piece. -/

theorem image_iff_told : Image (pos, piece) item ↔ Told piece pos item := by
  constructor
  · intro h
    cases h with
    | number h => exact .number pos h.isRun h.literalValue?_eq
    | malformed hrun h =>
      refine .malformed pos hrun (Option.eq_none_iff_forall_ne_some.mpr fun value hvalue => ?_)
      obtain ⟨digits, places, hdenotes, -⟩ := (literalValue?_eq_some_iff hrun).mp hvalue
      exact h digits places hdenotes
    | symbol h => exact .symbol pos (Token.ofChar?_eq_some_iff.mpr h)
    | foreign hblank hnumeral h =>
      refine .foreign pos ⟨hblank, hnumeral, Option.eq_none_iff_forall_ne_some.mpr ?_⟩
      exact fun token htoken => h token (Token.ofChar?_eq_some_iff.mp htoken)
  · intro h
    cases h with
    | symbol _ h => exact .symbol (Token.ofChar?_eq_some_iff.mp h)
    | foreign _ h =>
      refine .foreign h.isBlank_eq h.isNumeral_eq fun token htoken => ?_
      have htold := h.token_eq
      rw [Token.ofChar?_eq_some_iff.mpr htoken] at htold
      contradiction
    | number _ hrun h =>
      obtain ⟨digits, places, hdenotes, rfl⟩ := (literalValue?_eq_some_iff hrun).mp h
      exact .number hdenotes
    | malformed _ hrun h =>
      refine .malformed hrun fun digits places hdenotes => ?_
      rw [hdenotes.literalValue?_eq] at h
      contradiction

theorem Told.unique (h : Told piece pos item) (h' : Told piece pos item') : item = item' := by
  have hnext {item : Except LexicalError Lexeme} (h : Told piece pos item) :
      (next ⟨[] ++ (piece ++ []), pos, false⟩).1 = some item :=
    congrArg Prod.fst (next_told (by simp) h (by simp [Bounds]))
  exact Option.some.inj ((hnext h).symm.trans (hnext h'))

theorem image_rightUnique : Relator.RightUnique Image :=
  fun ⟨_, _⟩ _ _ h h' => (image_iff_told.mp h).unique (image_iff_told.mp h')

/-- Each visible piece of a text has an image. -/
theorem Splits.exists_images (h : Splits cs pieces) (pos : Nat) :
    ∃ images, List.Forall₂ Image (visible pos pieces) images := by
  induction pieces generalizing cs pos with
  | nil => exact ⟨[], .nil⟩
  | cons piece pieces ih =>
    obtain ⟨images, himages⟩ := ih h.tail (pos + piece.length)
    unfold visible placed
    rw [List.filter_cons]
    split
    case isFalse => exact ⟨images, himages⟩
    case isTrue hvisible =>
      have hkind : IsRun piece ∨ ∃ c, piece = [c] ∧ isBlank c = false ∧ isNumeral c = false := by
        rcases h.piece piece List.mem_cons_self with hrun | ⟨c, rfl, hc⟩
        · exact .inl hrun
        · exact .inr ⟨c, rfl, by simpa using hvisible, hc⟩
      obtain ⟨item, hitem⟩ := Told.exists_item piece pos hkind
      exact ⟨item :: images, .cons (image_iff_told.mpr hitem) himages⟩

/-! The items and the answers. -/

theorem items_of_splits (h : Splits cs pieces)
    (himages : List.Forall₂ Image (visible pos pieces) images) :
    items ⟨cs, pos, false⟩ = upToError images := by
  induction pieces generalizing cs pos images with
  | nil =>
    obtain rfl := h.whole
    cases himages
    exact items_of_none next_nil
  | cons piece pieces ih =>
    obtain rfl := h.whole
    unfold visible placed at himages
    rw [List.filter_cons] at himages
    split at himages
    case isFalse hblank =>
      have hblanks : ∀ c ∈ piece, isBlank c = true := by simpa using hblank
      rw [List.flatten_cons, items_blanks_append hblanks]
      exact ih h.tail himages
    case isTrue =>
      cases himages with
      | @cons _ item _ _ hitem hothers =>
        have htold : Told piece pos item := image_iff_told.mp hitem
        have hfirst : items ⟨piece ++ pieces.flatten, pos, false⟩ =
            item :: items ⟨pieces.flatten, pos + piece.length, !item.isOk⟩ :=
          items_told (List.forall_mem_nil _) htold h.bounds
        rw [List.flatten_cons, hfirst]
        cases item with
        | ok lexeme => exact congrArg _ (ih h.tail hothers)
        | error error => exact congrArg _ items_of_failed

/-- Without an answer the scanner stays as it is. -/
theorem next_of_none (h : s.next = (none, s')) : s'.next = (none, s') := by
  unfold next at h
  split at h
  case isTrue hfailed =>
    obtain rfl := (Prod.mk.inj h).2
    exact if_pos hfailed
  case isFalse =>
    dsimp only at h
    split at h
    · obtain rfl := (Prod.mk.inj h).2
      exact next_nil
    · split at h <;> split at h <;> cases h

theorem answer_of_none (h : s.next = (none, s)) (calls : Nat) : s.answer calls = none := by
  induction calls with
  | zero => exact congrArg Prod.fst h
  | succ calls ih => rwa [answer, h]

/-- The calls answer with the items in order, and then no more. -/
theorem answer_eq_getElem? (s : Scanner) (calls : Nat) : s.answer calls = s.items[calls]? := by
  induction calls generalizing s with
  | zero =>
    rcases hnext : s.next with ⟨_ | item, s'⟩
    · rw [items_of_none hnext]
      exact congrArg Prod.fst hnext
    · rw [items_of_next hnext]
      exact congrArg Prod.fst hnext
  | succ calls ih =>
    rcases hnext : s.next with ⟨_ | item, s'⟩
    · rw [items_of_none hnext, answer, hnext]
      exact answer_of_none (next_of_none hnext) calls
    · rw [items_of_next hnext, answer, hnext]
      exact ih s'

/-- A text has one split, and its visible pieces have one row of images. The calls answer with these
up to the first error, and with nothing after that, however many follow. -/
theorem answer_ofText (text : String) :
    (∃! pieces, Splits text.toList pieces) ∧
    ∀ pieces, Splits text.toList pieces →
      (∃! images, List.Forall₂ Image (visible 0 pieces) images) ∧
      ∀ images, List.Forall₂ Image (visible 0 pieces) images →
        ∀ calls, (ofText text).answer calls = (upToError images)[calls]? := by
  constructor
  · exact ⟨_, splits_iff.mpr rfl, fun _ h => (splits_iff.mp h).symm⟩
  · intro pieces hpieces
    constructor
    · obtain ⟨images, himages⟩ := hpieces.exists_images 0
      exact ⟨images, himages, fun _ h => image_rightUnique.forall₂ h himages⟩
    · intro images himages calls
      rw [answer_eq_getElem?, ofText, items_of_splits hpieces himages]

end Reckoner.Scanner
