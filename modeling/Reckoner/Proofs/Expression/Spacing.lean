import Reckoner.Limits
import Reckoner.Proofs.Expression.Pieces
import Reckoner.Proofs.Expression.Relabeling

/-!
Blanks between lexemes do not matter. A text into which blanks are put, but none within a run of
digits and points, is read as before, and what is told of a position is told of the place to which
its character has gone.
-/
namespace Reckoner

/-! What is told, with other places. -/

def Lexeme.relocate (place : Nat → Nat) (lexeme : Lexeme) : Lexeme :=
  ⟨lexeme.token, place lexeme.pos⟩

def LexicalError.relocate (place : Nat → Nat) : LexicalError → LexicalError
  | invalidCharacter c pos => invalidCharacter c (place pos)
  | malformedNumber literal pos => malformedNumber literal (place pos)
  | tooLong length limit => tooLong length limit

def GrammarError.relocate (place : Nat → Nat) : GrammarError → GrammarError
  | unexpectedToken lexeme => unexpectedToken (lexeme.relocate place)
  | empty => empty
  | unbalancedParentheses => unbalancedParentheses
  | unexpectedEnd => unexpectedEnd
  | tooComplex limit => tooComplex limit

def Rejection.relocate (place : Nat → Nat) : Rejection → Rejection
  | lexical error => lexical (error.relocate place)
  | grammar error => grammar (error.relocate place)
  | arithmetic error => arithmetic error

variable {place : Nat → Nat}

/-- To relocate is to relabel positions only. -/
theorem Lexeme.relocate_eq : Lexeme.relocate place = Relabeling.lexeme ⟨id, place⟩ := by
  funext ⟨token, pos⟩
  cases token <;> rfl

theorem GrammarError.relocate_eq : GrammarError.relocate place = Relabeling.error ⟨id, place⟩ := by
  funext error
  cases error with
  | unexpectedToken lexeme => exact congrArg unexpectedToken (congrFun Lexeme.relocate_eq lexeme)
  | empty | unbalancedParentheses | unexpectedEnd | tooComplex => rfl

theorem Relabeling.tree_id (place : Nat → Nat) (e : Expr) : tree ⟨id, place⟩ e = e := by
  induction e with
  | number x => rfl
  | negate operand ih => rw [tree, ih]
  | binary op left right ihl ihr => rw [tree, ihl, ihr]

theorem ofLexemes_relocate (place : Nat → Nat) (ls : List Lexeme) (limit : Nat) :
    Expr.ofLexemes (ls.map (Lexeme.relocate place)) limit =
      (Expr.ofLexemes ls limit).mapError (GrammarError.relocate place) := by
  rw [Lexeme.relocate_eq, GrammarError.relocate_eq, Relabeling.ofLexemes_map]
  cases Expr.ofLexemes ls limit with
  | ok tree => exact congrArg Except.ok (Relabeling.tree_id place tree)
  | error error => rfl

namespace Scanner

/-! Texts with gaps. -/

/-- The text with a gap in front of each character and behind the last. The gap of a character is
the one for the number of characters before it. -/
def spread (gap : Nat → List Char) : List Char → List Char
  | [] => gap 0
  | c :: cs => gap 0 ++ c :: spread (fun i => gap (i + 1)) cs

/-- Where the character goes that has so many characters before it. -/
def moved (gap : Nat → List Char) : Nat → Nat
  | 0 => (gap 0).length
  | i + 1 => (gap 0).length + 1 + moved (fun i => gap (i + 1)) i

/-- The gaps consist of blanks, and they are empty between two digits or points. -/
structure Loosens (gap : Nat → List Char) (cs : List Char) : Prop where
  blank : ∀ i, ∀ c ∈ gap i, isBlank c = true
  whole : ∀ i c d, cs[i]? = some c → cs[i + 1]? = some d → isNumeral c = true →
    isNumeral d = true → gap (i + 1) = []

/-- What is told of a piece when it stands in another place. -/
def relocate (place : Nat → Nat) : Except LexicalError Lexeme → Except LexicalError Lexeme
  | .ok lexeme => .ok (lexeme.relocate place)
  | .error error => .error (error.relocate place)

variable {gap : Nat → List Char} {cs piece blanks rest : List Char} {c : Char} {pos pos' i : Nat}
  {item : Except LexicalError Lexeme}

/-- The character stands where it is said to go. -/
theorem getElem?_spread (gap : Nat → List Char) (h : i < cs.length) :
    (spread gap cs)[moved gap i]? = cs[i]? := by
  induction cs generalizing gap i with
  | nil => exact absurd h (Nat.not_lt_zero i)
  | cons c cs ih =>
    cases i with
    | zero =>
      rw [spread, moved, List.getElem?_append_right (Nat.le_refl _), Nat.sub_self]
      rfl
    | succ i =>
      have hplace : (gap 0).length + 1 + moved (fun i => gap (i + 1)) i - (gap 0).length =
          moved (fun i => gap (i + 1)) i + 1 := by omega
      rw [spread, moved, List.getElem?_append_right (by omega), hplace, List.getElem?_cons_succ,
        List.getElem?_cons_succ, ih _ (Nat.lt_of_succ_lt_succ h)]

theorem length_le_spread (gap : Nat → List Char) (cs : List Char) :
    cs.length ≤ (spread gap cs).length := by
  induction cs generalizing gap with
  | nil => exact Nat.zero_le _
  | cons c cs ih =>
    have htail := ih fun i => gap (i + 1)
    rw [spread, List.length_append, List.length_cons, List.length_cons]
    omega

/-! A piece stays together. -/

theorem spread_append (hne : piece ≠ []) (hinner : ∀ i, i + 1 < piece.length → gap (i + 1) = [])
    (rest : List Char) :
    spread gap (piece ++ rest) =
      gap 0 ++ (piece ++ spread (fun i => gap (i + piece.length)) rest) := by
  induction piece generalizing gap with
  | nil => contradiction
  | cons c piece ih =>
    rw [List.cons_append, spread]
    by_cases hnil : piece = []
    · subst hnil
      rfl
    · have hfirst : gap 1 = [] := hinner 0 (Nat.succ_lt_succ (List.length_pos_iff.mpr hnil))
      rw [ih hnil fun i hi => hinner (i + 1) (Nat.succ_lt_succ hi), hfirst]
      rfl

theorem moved_length_add (hne : piece ≠ [])
    (hinner : ∀ i, i + 1 < piece.length → gap (i + 1) = []) (i : Nat) :
    moved gap (piece.length + i) =
      (gap 0).length + piece.length + moved (fun i => gap (i + piece.length)) i := by
  induction piece generalizing gap with
  | nil => contradiction
  | cons c piece ih =>
    rw [List.length_cons, Nat.add_right_comm, moved]
    by_cases hnil : piece = []
    · subst hnil
      rw [List.length_nil, Nat.zero_add]
    · have hfirst : gap 1 = [] := hinner 0 (Nat.succ_lt_succ (List.length_pos_iff.mpr hnil))
      rw [ih hnil fun i hi => hinner (i + 1) (Nat.succ_lt_succ hi), hfirst]
      simp only [List.length_nil, Nat.zero_add, Nat.add_assoc, Nat.add_comm 1]

theorem Loosens.behind (h : Loosens gap (piece ++ rest)) :
    Loosens (fun i => gap (i + piece.length)) rest := by
  refine ⟨fun i => h.blank _, fun i c d hc hd => ?_⟩
  have hbehind (j : Nat) : (piece ++ rest)[j + piece.length]? = rest[j]? := by
    rw [List.getElem?_append_right (Nat.le_add_left _ _), Nat.add_sub_cancel]
  rw [Nat.add_right_comm]
  refine h.whole _ c d ((hbehind i).trans hc) ?_
  rw [Nat.add_right_comm]
  exact (hbehind (i + 1)).trans hd

/-- There is no gap within a piece. -/
theorem Told.gap_eq_nil (htold : Told piece pos item) (h : Loosens gap (piece ++ rest)) (i : Nat)
    (hi : i + 1 < piece.length) : gap (i + 1) = [] := by
  have hrun (hrun : IsRun piece) : gap (i + 1) = [] := by
    have hpiece (j : Nat) (hj : j < piece.length) : (piece ++ rest)[j]? = some piece[j] := by
      rw [List.getElem?_append_left hj, List.getElem?_eq_getElem hj]
    exact h.whole i _ _ (hpiece i (Nat.lt_of_succ_lt hi)) (hpiece (i + 1) hi)
      (hrun.2 _ (List.getElem_mem _)) (hrun.2 _ (List.getElem_mem _))
  cases htold with
  | symbol | foreign => exact absurd hi (by simp)
  | number _ h | malformed _ h => exact hrun h

theorem Bounds.blanks_append (hblanks : ∀ c ∈ blanks, isBlank c = true) (h : Bounds rest) :
    Bounds (blanks ++ rest) := by
  cases blanks with
  | nil => exact h
  | cons c blanks => exact .of_cons (isNumeral_of_isBlank (hblanks c List.mem_cons_self))

theorem Bounds.spread (hblank : ∀ c ∈ gap 0, isBlank c = true) (h : Bounds rest) :
    Bounds (spread gap rest) := by
  cases rest with
  | nil =>
    rw [Scanner.spread, ← List.append_nil (gap 0)]
    exact .blanks_append hblank h
  | cons c rest => exact .blanks_append hblank h

/-! What the scanner tells. -/

theorem Told.relocate (place : Nat → Nat) (h : Told piece pos item) :
    Told piece (place pos) (relocate place item) := by
  cases h with
  | symbol _ h => exact .symbol _ h
  | foreign _ h => exact .foreign _ h
  | number _ hrun h => exact .number _ hrun h
  | malformed _ hrun h => exact .malformed _ hrun h

/-- The same items come from the text with gaps, in other places. -/
theorem items_spread (h : Loosens gap cs) (hplace : ∀ i, place (pos + i) = pos' + moved gap i) :
    items ⟨spread gap cs, pos', false⟩ = (items ⟨cs, pos, false⟩).map (relocate place) := by
  -- A step of the scanner takes a blank or a whole piece, hence the induction on the length. A gap
  -- is in front of either, and behind the piece comes what bounds it, as in the text without gaps.
  induction hn : cs.length using Nat.strongRecOn generalizing cs gap pos pos' with
  | ind n ih =>
  subst hn
  match cs with
  | [] => rw [spread, items_of_blank (h.blank 0), items_of_none next_nil, List.map_nil]
  | c :: tail =>
    cases hblank : isBlank c with
    | true =>
      rw [spread, items_blanks_append (h.blank 0), items_blank hblank, items_blank hblank]
      refine ih _ (Nat.lt_succ_self _) (@Loosens.behind gap [c] tail h) (fun i => ?_) rfl
      rw [Nat.add_assoc, Nat.add_comm 1 i, hplace, moved]
      simp only [Nat.add_assoc]
    | false =>
      obtain ⟨piece, rest, hsplit, hrest, htold⟩ := exists_piece_cons hblank tail
      obtain ⟨item, htold⟩ := htold pos
      rw [hsplit] at h ih ⊢
      have hinner := htold.gap_eq_nil h
      have htold' : Told piece (pos' + (gap 0).length) (relocate place item) :=
        (hplace 0 : place pos = _) ▸ htold.relocate place
      have hfirst : items ⟨piece ++ rest, pos, false⟩ =
          item :: items ⟨rest, pos + piece.length, !item.isOk⟩ :=
        items_told (List.forall_mem_nil _) htold hrest
      rw [spread_append htold.ne_nil hinner, hfirst, List.map_cons,
        items_told (h.blank 0) htold' fun hrun => (hrest hrun).spread (h.behind.blank 0)]
      refine congrArg _ ?_
      cases item with
      | error error =>
        show items ⟨_, _, true⟩ = (items ⟨_, _, true⟩).map _
        rw [items_of_failed, items_of_failed, List.map_nil]
      | ok lexeme =>
        refine ih rest.length ?_ h.behind (fun i => ?_) rfl
        · have hpositive := List.length_pos_iff.mpr htold.ne_nil
          rw [List.length_append]
          omega
        · rw [Nat.add_assoc, hplace, moved_length_add htold.ne_nil hinner]
          simp only [Nat.add_assoc]

theorem mapM_id_relocate (place : Nat → Nat) (items : List (Except LexicalError Lexeme)) :
    (items.map (relocate place)).mapM id =
      ((items.mapM id).map (List.map (Lexeme.relocate place))).mapError
        (LexicalError.relocate place) := by
  induction items with
  | nil => rfl
  | cons item items ih =>
    rw [List.map_cons, List.mapM_cons, List.mapM_cons, ih]
    cases item with
    | error error => rfl
    | ok lexeme => cases items.mapM id <;> rfl

theorem lexemes_spread {text : String} (h : Loosens gap text.toList) :
    lexemes (String.ofList (spread gap text.toList)) =
      ((lexemes text).map (List.map (Lexeme.relocate (moved gap)))).mapError
        (LexicalError.relocate (moved gap)) := by
  have hitems : items ⟨spread gap text.toList, 0, false⟩ =
      (items ⟨text.toList, 0, false⟩).map (relocate (moved gap)) :=
    items_spread h fun i => by rw [Nat.zero_add, Nat.zero_add]
  rw [lexemes, ofText, String.toList_ofList, hitems, mapM_id_relocate]
  rfl

end Scanner

namespace Limits

variable {limits : Limits} {text : String} {gap : Nat → List Char}

theorem parse_spread (limits : Limits) (h : Scanner.Loosens gap text.toList) :
    limits.parse (String.ofList (Scanner.spread gap text.toList)) =
      (limits.parse text).mapError (Rejection.relocate (Scanner.moved gap)) := by
  unfold parse
  rw [Scanner.lexemes_spread h]
  cases lexemes text with
  | error error => rfl
  | ok ls =>
    have hread := ofLexemes_relocate (Scanner.moved gap) ls limits.maxDepth.toNat
    show (Expr.ofLexemes _ _).mapError _ = ((Expr.ofLexemes _ _).mapError _).mapError _
    rw [hread]
    cases Expr.ofLexemes ls limits.maxDepth.toNat <;> rfl

/-- A text and the same text with blanks between its lexemes have the same value, or are rejected
for the same reason with the same details, in the place of the same character. -/
theorem evaluate_spread (limits : Limits) (text : String) (gap : Nat → List Char)
    (h : Scanner.Loosens gap text.toList)
    (hlength : (Scanner.spread gap text.toList).length ≤ limits.maxExpressionLength.toNat) :
    limits.evaluate (String.ofList (Scanner.spread gap text.toList)) =
      (limits.evaluate text).mapError (Rejection.relocate (Scanner.moved gap)) ∧
    ∀ i < text.length,
      (Scanner.spread gap text.toList)[Scanner.moved gap i]? = text.toList[i]? := by
  refine ⟨?_, fun i hi => Scanner.getElem?_spread gap (by rwa [String.length_toList])⟩
  have hshorter := Scanner.length_le_spread gap text.toList
  rw [String.length_toList] at hshorter
  unfold evaluate
  rw [if_neg (by rw [String.length_ofList]; omega), if_neg (by omega), parse_spread limits h]
  cases limits.parse text with
  | error error => rfl
  | ok tree =>
    show tree.evaluate.mapError _ = (tree.evaluate.mapError _).mapError _
    cases tree.evaluate <;> rfl

/-- A number behind a number is still told when its position has become another. -/
theorem evaluate_spread_twoNumbers :
    let gap : Nat → List Char
      | 0 => [' ']
      | 2 => ['\n']
      | 6 => ['\t', '\r']
      | _ => []
    let three (pos : Nat) : Lexeme := ⟨.number (.ofDecimal 3 0), pos⟩
    Scanner.Loosens gap ".5*(2 3)".toList ∧
      Scanner.spread gap ".5*(2 3)".toList = " .5\n*(2 \t\r3)".toList ∧
      ({} : Limits).evaluate ".5*(2 3)" = .error (.grammar (.unexpectedToken (three 6))) ∧
      ({} : Limits).evaluate " .5\n*(2 \t\r3)" =
        .error (.grammar (.unexpectedToken (three 10))) ∧
      " .5\n*(2 \t\r3)".toList[Scanner.moved gap 6]? = some '3' := by
  intro gap three
  have hloosens : Scanner.Loosens gap ".5*(2 3)".toList := by
    constructor
    · intro i
      simp only [gap]
      split <;> exact List.all_eq_true.mp rfl
    · intro i c d hc hd hcnum hdnum
      match i with
      | 0 | 2 | 3 | 4 | 6 => rfl
      | 1 =>
        obtain rfl : '*' = d := Option.some.inj hd
        exact absurd hdnum (by decide)
      | 5 =>
        obtain rfl : ' ' = c := Option.some.inj hc
        exact absurd hcnum (by decide)
      | i + 7 => rfl
  have hspread : Scanner.spread gap ".5*(2 3)".toList = " .5\n*(2 \t\r3)".toList := rfl
  have hlexemes : lexemes ".5*(2 3)" = .ok [⟨.number (.ofDecimal 5 1), 0⟩, ⟨.operator .star, 2⟩,
      ⟨.opening, 3⟩, ⟨.number (.ofDecimal 2 0), 4⟩, three 6, ⟨.closing, 7⟩] := by decide +kernel
  have hread : ({} : Limits).evaluate ".5*(2 3)" =
      .error (.grammar (.unexpectedToken (three 6))) := by
    refine evaluate_of_ofLexemes_error (by decide) hlexemes ?_
    rw [Prospect.ofLexemes_eq_error_iff (List.cons_ne_nil _ _)]
    rfl
  obtain ⟨hsame, hplaces⟩ := evaluate_spread {} ".5*(2 3)" gap hloosens (by decide)
  have hplace := hplaces 6 (by decide)
  rw [hspread, hread] at hsame
  rw [hspread] at hplace
  exact ⟨hloosens, hspread, hread, hsame, hplace⟩

end Limits
end Reckoner
