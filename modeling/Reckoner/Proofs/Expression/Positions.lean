import Reckoner.Proofs.Expression.Diagnosis
import Reckoner.Proofs.Expression.Pieces

/-!
Errors and the text they are about. The position of an error is a place in the text as it was sent,
and what is said to be wrong stands there.
-/
namespace Reckoner

namespace Scanner

/-- A longest row of digits and points begins at the position. -/
def RunAt (cs : List Char) (pos : Nat) (run : List Char) : Prop :=
  IsRun run ∧ ∃ front back, front.length = pos ∧ Stands cs front run back

/-- The lexeme is read from what stands at its position. -/
inductive LexemeAt (cs : List Char) : Lexeme → Prop
  | symbol {c : Char} {token : Token} {pos : Nat} (hc : cs[pos]? = some c)
    (h : Token.ofChar? c = some token) : LexemeAt cs ⟨token, pos⟩
  | number {run : List Char} {value : Binary64} {pos : Nat} (hrun : RunAt cs pos run)
    (h : literalValue? run = some value) : LexemeAt cs ⟨.number value, pos⟩

variable {cs front piece back : List Char} {c : Char} {pos : Nat} {lexeme : Lexeme}

theorem Stands.getElem? (h : Stands cs front [c] back) : cs[front.length]? = some c := by
  rw [h.split]
  simp

theorem Stands.take (h : Stands cs front piece back) : cs.take front.length = front := by
  rw [h.split, List.take_left]

theorem Stands.lexemeAt (h : Stands cs front piece back)
    (htold : Told piece front.length (.ok lexeme)) :
    LexemeAt cs lexeme ∧ lexeme.pos = front.length := by
  cases htold with
  | symbol _ htoken => exact ⟨.symbol h.getElem? htoken, rfl⟩
  | number _ hrun hvalue => exact ⟨.number ⟨hrun, front, back, rfl, h⟩ hvalue, rfl⟩

theorem exists_of_mapM_id_eq_error {items : List (Except LexicalError Lexeme)}
    {error : LexicalError} (h : items.mapM id = .error error) :
    ∃ (ls : List Lexeme) (others : List (Except LexicalError Lexeme)),
      items = ls.map Except.ok ++ .error error :: others := by
  induction items with
  | nil => cases h
  | cons item items ih =>
    rw [List.mapM_cons] at h
    rcases bind_eq_error_iff.mp h with hitem | ⟨l, hl, hrest⟩
    · exact ⟨[], items, congrArg (· :: items) hitem⟩
    · rcases bind_eq_error_iff.mp hrest with htail | ⟨_, -, hok⟩
      · obtain ⟨ls, others, hitems⟩ := ih htail
        exact ⟨l :: ls, others, by rw [hitems, show item = .ok l from hl]; rfl⟩
      · cases hok

/-- An error that the text has is told of a piece in it. -/
theorem exists_stands_of_lexemes_error {text : String} {error : LexicalError}
    (h : lexemes text = .error error) :
    ∃ front piece back, Stands text.toList front piece back ∧
      Told piece front.length (.error error) := by
  obtain ⟨ls, others, hitems⟩ := exists_of_mapM_id_eq_error h
  obtain ⟨front, piece, back, hstands, htold, -⟩ := exists_stands_of_items hitems
  rw [Nat.zero_add] at htold
  exact ⟨front, piece, back, hstands, htold⟩

/-- A lexeme of the text is read from what stands at its position, and the lexemes in front of it
are read alike when other text follows them. -/
theorem exists_stands_of_lexemes {text : String} {before after : List Lexeme}
    (h : lexemes text = .ok (before ++ lexeme :: after)) :
    LexemeAt text.toList lexeme ∧ ∀ rest ls, Bounds rest →
      items ⟨rest, lexeme.pos, false⟩ = ls.map Except.ok →
      lexemes (String.ofList (text.toList.take lexeme.pos ++ rest)) = .ok (before ++ ls) := by
  have hitems := mapM_id_eq_ok h
  rw [List.map_append, List.map_cons] at hitems
  obtain ⟨front, piece, back, hstands, htold, hfront⟩ := exists_stands_of_items hitems
  rw [Nat.zero_add] at htold
  obtain ⟨hlexeme, hpos⟩ := hstands.lexemeAt htold
  refine ⟨hlexeme, ?_⟩
  intro rest ls hrest hls
  have hread := hfront rest hrest
  rw [Nat.zero_add, ← hpos, hls, ← List.map_append] at hread
  rw [hpos, hstands.take, lexemes, ofText, String.toList_ofList, hread]
  exact mapM_id_map_ok _

end Scanner

namespace Prospect

variable {limit : Nat} {p q : Prospect} {lexeme : Lexeme} {before lexemes : List Lexeme}

/-- A text for what completes an expression. The blank keeps it apart from what is in front. -/
def completionText (p : Prospect) : List Char :=
  ' ' :: ((if p.due then ['0'] else []) ++ List.replicate p.groups.length ')')

theorem yields_replicate (n : Nat) :
    Scanner.Yields (List.replicate n ')') (List.replicate n .closing) [] := by
  induction n with
  | zero => exact .refl []
  | succ n ih => exact ih.symbol rfl

theorem bounds_replicate (n : Nat) : Scanner.Bounds (List.replicate n ')') := by
  cases n with
  | zero => simp [Scanner.Bounds]
  | succ n => exact .of_cons rfl

theorem yields_completionText (p : Prospect) :
    Scanner.Yields p.completionText p.completion [] := by
  refine Scanner.Yields.blank rfl ?_
  have hclosing := yields_replicate p.groups.length
  unfold completion
  cases p.due with
  | false => exact hclosing
  | true =>
    have hvalue : Scanner.literalValue? ['0'] = some (.zero false) := by decide +kernel
    have hzero : Scanner.Yields ('0' :: List.replicate p.groups.length ')') [.number (.zero false)]
        (List.replicate p.groups.length ')') :=
      .literal (List.cons_ne_nil '0' []) (by simp [Scanner.isNumeral]) (bounds_replicate _) hvalue
    exact hzero.trans hclosing

theorem length_groups_le (groups : List Nat) : groups.length ≤ enclosing groups := by
  induction groups with
  | nil => exact Nat.le_refl 0
  | cons signs groups ih =>
    rw [List.length_cons, enclosing]
    omega

theorem length_completionText_le (p : Prospect) : p.completionText.length ≤ p.depth + 2 := by
  have hgroups := length_groups_le p.groups
  unfold completionText depth
  split <;> simp <;> omega

/-- An unexpected token is the first that cannot follow, and the limit has been kept up to it. -/
theorem exists_of_fault?_unexpectedToken (hd : p.depth ≤ limit)
    (h : p.fault? limit lexemes = some (.unexpectedToken lexeme)) :
    ∃ before after q, lexemes = before ++ lexeme :: after ∧
      p.after? (before.map Lexeme.token) = some q ∧ p.peak (before.map Lexeme.token) ≤ limit ∧
      q.next? lexeme.token = none := by
  obtain ⟨before, after, q, rfl, hq, hstop⟩ := p.exists_split lexemes
  rw [fault?_append hq hd] at h
  split at h
  · rename_i hpeak
    cases after with
    | nil =>
      unfold fault? endError? at h
      split at h
      · cases h
      · split at h <;> cases h
    | cons other after =>
      have hnone := hstop other rfl
      rw [fault?_cons_of_none hnone] at h
      unfold refusal at h
      split at h
      · cases h
      · cases h
        exact ⟨before, after, q, rfl, hq, hpeak, hnone⟩
  · cases h

/-- What keeps a limit is completed to an expression within it. -/
theorem exists_ofLexemes_of_completion {ls : List Lexeme}
    (hq : start.after? (before.map Lexeme.token) = some q)
    (hpeak : start.peak (before.map Lexeme.token) ≤ limit)
    (hls : ls.map Lexeme.token = q.completion) :
    ∃ tree, Expr.ofLexemes (before ++ ls) limit = .ok tree := by
  have hne : before ++ ls ≠ [] := by
    intro hnil
    obtain ⟨rfl, rfl⟩ := List.append_eq_nil_iff.mp hnil
    cases hq
    cases hls
  obtain ⟨⟨r, hr, hend⟩, hcompletion⟩ := closes_completion q
  rw [exists_ofLexemes_eq_ok_iff hne, fault?_eq_none_iff (Nat.zero_le _)]
  refine ⟨r, ?_, hend, ?_⟩
  · rw [List.map_append, hls]
    exact after?_append_eq_some_iff.mpr ⟨q, hq, hr⟩
  · rw [List.map_append, hls, peak_append hq, hcompletion,
      Nat.max_eq_left (depth_le_peak_of_after? hq)]
    exact hpeak

end Prospect

namespace Limits

variable {limits : Limits} {text : String}

theorem lexemes_of_evaluate_error {error : LexicalError}
    (h : limits.evaluate text = .error (.lexical error))
    (hlength : ∀ length limit, error ≠ .tooLong length limit) : lexemes text = .error error := by
  unfold evaluate at h
  split at h
  · cases h
    exact absurd rfl (hlength _ _)
  · rcases bind_eq_error_iff.mp h with hparse | ⟨tree, -, hvalue⟩
    · rcases bind_eq_error_iff.mp hparse with hlexemes | ⟨ls, -, htree⟩
      · obtain ⟨e, he, herror⟩ := mapError_eq_error_iff.mp hlexemes
        cases herror
        exact he
      · obtain ⟨e, -, herror⟩ := mapError_eq_error_iff.mp htree
        cases herror
    · obtain ⟨e, -, herror⟩ := mapError_eq_error_iff.mp hvalue
      cases herror

theorem ofLexemes_of_evaluate_error {error : GrammarError}
    (h : limits.evaluate text = .error (.grammar error)) :
    ∃ ls, lexemes text = .ok ls ∧ Expr.ofLexemes ls limits.maxDepth.toNat = .error error := by
  unfold evaluate at h
  split at h
  · cases h
  · rcases bind_eq_error_iff.mp h with hparse | ⟨tree, -, hvalue⟩
    · rcases bind_eq_error_iff.mp hparse with hlexemes | ⟨ls, hls, htree⟩
      · obtain ⟨e, -, herror⟩ := mapError_eq_error_iff.mp hlexemes
        cases herror
      · obtain ⟨e, he, herror⟩ := mapError_eq_error_iff.mp htree
        cases herror
        exact ⟨ls, mapError_eq_ok_iff.mp hls, he⟩
    · obtain ⟨e, -, herror⟩ := mapError_eq_error_iff.mp hvalue
      cases herror

/-- Lexemes that can follow each other are completed by the same text in every service that permits
their depth. -/
theorem parse_completed {q : Prospect} {before : List Lexeme} {front : List Char} {pos : Nat}
    (hq : Prospect.start.after? (before.map Lexeme.token) = some q)
    (hpeak : Prospect.start.peak (before.map Lexeme.token) ≤ limits.maxDepth.toNat)
    (hread : ∀ rest ls, Scanner.Bounds rest →
      Scanner.items ⟨rest, pos, false⟩ = ls.map Except.ok →
      lexemes (String.ofList (front ++ rest)) = .ok (before ++ ls)) :
    ∃ tree, limits.parse (String.ofList (front ++ q.completionText)) = .ok tree := by
  obtain ⟨more, pos', htokens, hitems⟩ := q.yields_completionText pos
  rw [Scanner.items_of_none Scanner.next_nil, List.append_nil] at hitems
  obtain ⟨tree, htree⟩ := Prospect.exists_ofLexemes_of_completion hq hpeak htokens
  exact ⟨tree, parse_eq_ok_iff.mpr ⟨_, hread _ more (.of_cons rfl) hitems, htree⟩⟩

/-- No expression begins with tokens of which the last cannot follow the others. -/
theorem parse_ne_ok_of_prefix {q : Prospect} {before ls : List Lexeme} {lexeme : Lexeme}
    (hq : Prospect.start.after? (before.map Lexeme.token) = some q)
    (hnone : q.next? lexeme.token = none) (hls : lexemes text = .ok ls)
    (hbegins : (before ++ [lexeme]).map Lexeme.token <+: ls.map Lexeme.token) (tree : Expr) :
    limits.parse text ≠ .ok tree := by
  intro h
  obtain ⟨ls', hls', htree⟩ := parse_eq_ok_iff.mp h
  obtain rfl : ls = ls' := Except.ok.inj (hls.symm.trans hls')
  obtain ⟨nesting, -, hphrase⟩ := exists_phrase_of_ofLexemes htree
  obtain ⟨more, hmore⟩ := hbegins
  obtain ⟨r, hr⟩ := Prospect.viable_iff.mp ⟨more, tree, nesting, hmore.symm ▸ hphrase⟩
  rw [List.map_append, Prospect.after?_append, hq] at hr
  simp [hnone] at hr

/-- What is said to be wrong with a text stands in it at the position that is given: a character
that belongs to no lexeme, a longest row of digits and points that is no number, or a lexeme that
cannot follow what is in front of it. The text in front can be continued to an expression, within
the same depth and with few characters; with the tokens up to that one no expression begins. -/
theorem evaluate_error_position (limits : Limits) (text : String) :
    (∀ c pos, limits.evaluate text = .error (.lexical (.invalidCharacter c pos)) →
      text.toList[pos]? = some c ∧ Scanner.IsForeign c) ∧
    (∀ literal pos, limits.evaluate text = .error (.lexical (.malformedNumber literal pos)) →
      Scanner.RunAt text.toList pos literal.toList ∧ ¬ Scanner.IsNumber literal.toList) ∧
    ∀ lexeme, limits.evaluate text = .error (.grammar (.unexpectedToken lexeme)) →
      Scanner.LexemeAt text.toList lexeme ∧
      ∃ before after, lexemes text = .ok (before ++ lexeme :: after) ∧
        lexemes (String.ofList (text.toList.take lexeme.pos)) = .ok before ∧
        (∃ more : List Char, more.length ≤ limits.maxDepth.toNat + 2 ∧
          ∀ wider : Limits, limits.maxDepth ≤ wider.maxDepth →
            ∃ tree, wider.parse (String.ofList (text.toList.take lexeme.pos ++ more)) = .ok tree) ∧
        ∀ (other : String) (ls : List Lexeme), lexemes other = .ok ls →
          (before ++ [lexeme]).map Lexeme.token <+: ls.map Lexeme.token →
          ∀ (wider : Limits) (tree : Expr), wider.parse other ≠ .ok tree := by
  refine ⟨?_, ?_, ?_⟩
  · intro c pos h
    obtain ⟨front, piece, back, hstands, htold⟩ :=
      Scanner.exists_stands_of_lexemes_error (lexemes_of_evaluate_error h nofun)
    cases htold with
    | foreign _ hc => exact ⟨hstands.getElem?, hc⟩
  · intro literal pos h
    obtain ⟨front, piece, back, hstands, htold⟩ :=
      Scanner.exists_stands_of_lexemes_error (lexemes_of_evaluate_error h nofun)
    cases htold with
    | malformed _ hrun hvalue =>
      rw [String.toList_ofList, ← Scanner.isSome_literalValue?_iff hrun, hvalue]
      exact ⟨⟨hrun, front, back, rfl, hstands⟩, nofun⟩
  · intro lexeme h
    obtain ⟨ls, hls, herror⟩ := ofLexemes_of_evaluate_error h
    have hne : ls ≠ [] := by
      rintro rfl
      cases herror
    rw [Prospect.ofLexemes_eq_error_iff hne] at herror
    obtain ⟨before, after, q, rfl, hq, hpeak, hnone⟩ :=
      Prospect.exists_of_fault?_unexpectedToken (Nat.zero_le _) herror
    obtain ⟨hlexeme, hread⟩ := Scanner.exists_stands_of_lexemes hls
    refine ⟨hlexeme, before, after, hls, ?_, ⟨q.completionText, ?_, ?_⟩, ?_⟩
    · have hnil := hread [] [] (by simp [Scanner.Bounds])
        (Scanner.items_of_none Scanner.next_nil)
      rwa [List.append_nil, List.append_nil] at hnil
    · have hdepth := Prospect.depth_le_peak_of_after? hq
      have hlength := q.length_completionText_le
      omega
    · intro wider hwider
      exact parse_completed hq (Nat.le_trans hpeak (UInt64.le_iff_toNat_le.mp hwider)) hread
    · intro other ls hother hbegins wider tree
      exact parse_ne_ok_of_prefix hq hnone hother hbegins tree

/-- A letter, a number with two points, and a number behind a number. -/
theorem evaluate_error_position_each :
    let two : Lexeme := ⟨.number (.ofDecimal 2 0), 3⟩
    (({} : Limits).evaluate "1+é" = .error (.lexical (.invalidCharacter 'é' 2)) ∧
      "1+é".toList[2]? = some 'é') ∧
    (({} : Limits).evaluate "2 * 1..5" = .error (.lexical (.malformedNumber "1..5" 4)) ∧
      Scanner.RunAt "2 * 1..5".toList 4 "1..5".toList) ∧
    ({} : Limits).evaluate "(1 2)" = .error (.grammar (.unexpectedToken two)) ∧
      Scanner.LexemeAt "(1 2)".toList two ∧
      ∃ more tree, ({} : Limits).parse (String.ofList ("(1 ".toList ++ more)) = .ok tree := by
  intro two
  have hletter : ({} : Limits).evaluate "1+é" = .error (.lexical (.invalidCharacter 'é' 2)) := by
    decide +kernel
  have hpoints : ({} : Limits).evaluate "2 * 1..5" =
      .error (.lexical (.malformedNumber "1..5" 4)) := by
    decide +kernel
  have hnumber : ({} : Limits).evaluate "(1 2)" = .error (.grammar (.unexpectedToken two)) := by
    have hlexemes : lexemes "(1 2)" =
        .ok [⟨.opening, 0⟩, ⟨.number (.ofDecimal 1 0), 1⟩, two, ⟨.closing, 4⟩] := by
      decide +kernel
    refine evaluate_of_ofLexemes_error (by decide) hlexemes ?_
    rw [Prospect.ofLexemes_eq_error_iff (List.cons_ne_nil _ _)]
    rfl
  have hpositions := evaluate_error_position {}
  obtain ⟨hlexeme, -, -, -, -, ⟨more, -, hmore⟩, -⟩ := (hpositions "(1 2)").2.2 two hnumber
  obtain ⟨tree, htree⟩ := hmore {} (UInt64.le_refl _)
  exact ⟨⟨hletter, ((hpositions _).1 _ _ hletter).1⟩,
    ⟨hpoints, ((hpositions _).2.1 _ _ hpoints).1⟩, hnumber, hlexeme, more, tree, htree⟩

end Limits
end Reckoner
