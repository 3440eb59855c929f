import Reckoner.Proofs.Expression.Viability

/-!
Which error is owed to lexemes that are no sentence.

The longest part that could still become a sentence decides it, together with the lexeme behind.
-/
namespace Reckoner

open Prospect

/-- The lexemes in front are all of the longest part that something could complete. -/
structure BreaksAt (lexemes before after : List Lexeme) : Prop where
  split : lexemes = before ++ after
  viable : Viable (before.map Lexeme.token)
  longest : ∀ ls, ls <+: lexemes → Viable (ls.map Lexeme.token) → ls.length ≤ before.length

/-- The error for what could be completed and what stands behind it. -/
inductive Diagnosis (before : List Token) : List Lexeme → GrammarError → Prop where
  | empty (h : before = []) : Diagnosis before [] .empty
  | unclosed (h : before ≠ []) (hopen : before.count .closing < before.count .opening) :
      Diagnosis before [] .unbalancedParentheses
  | unfinished (h : before ≠ []) (hopen : before.count .opening ≤ before.count .closing) :
      Diagnosis before [] .unexpectedEnd
  | unopened {lexeme : Lexeme} {rest : List Lexeme} (hclosing : lexeme.token = .closing)
      (hcount : before.count .opening = before.count .closing) (h : ¬ Sentence before) :
      Diagnosis before (lexeme :: rest) .unbalancedParentheses
  | unexpected {lexeme : Lexeme} {rest : List Lexeme}
      (h : ¬ (lexeme.token = .closing ∧ before.count .opening = before.count .closing ∧
        ¬ Sentence before)) :
      Diagnosis before (lexeme :: rest) (.unexpectedToken lexeme)

/-- No two errors are owed to the same lexemes. -/
theorem Diagnosis.unique {before : List Token} {after : List Lexeme} {error error' : GrammarError}
    (h : Diagnosis before after error) (h' : Diagnosis before after error') : error = error' := by
  cases h with
  | empty hnil => cases h' <;> first | rfl | contradiction
  | unclosed hne hopen =>
    cases h' with
    | empty hnil => contradiction
    | unclosed => rfl
    | unfinished _ hclosed => exact absurd hopen (Nat.not_lt.mpr hclosed)
  | unfinished hne hclosed =>
    cases h' with
    | empty hnil => contradiction
    | unclosed _ hopen => exact absurd hopen (Nat.not_lt.mpr hclosed)
    | unfinished => rfl
  | unopened hclosing hcount hno =>
    cases h' with
    | unopened => rfl
    | unexpected hother => exact absurd ⟨hclosing, hcount, hno⟩ hother
  | unexpected hother =>
    cases h' with
    | unopened hclosing hcount hno => exact absurd ⟨hclosing, hcount, hno⟩ hother
    | unexpected => rfl

variable {limit : Nat} {lexemes before after : List Lexeme}

/-- The lexeme behind the longest part that something could complete cannot follow. -/
theorem BreaksAt.exists_after? (h : BreaksAt lexemes before after) :
    ∃ q, start.after? (before.map Lexeme.token) = some q ∧
      ∀ lexeme ∈ after.head?, q.next? lexeme.token = none := by
  obtain ⟨rfl, hviable, hlongest⟩ := h
  obtain ⟨q, hq⟩ := viable_iff.mp hviable
  refine ⟨q, hq, ?_⟩
  intro lexeme hhead
  obtain ⟨rest, rfl⟩ := List.head?_eq_some_iff.mp hhead
  rw [Option.eq_none_iff_forall_ne_some]
  intro r hr
  have hlonger : Viable ((before ++ [lexeme]).map Lexeme.token) := by
    refine viable_iff.mpr ⟨r, ?_⟩
    rw [List.map_append, after?_append, hq]
    simp [hr]
  have hle := hlongest (before ++ [lexeme]) ⟨rest, by simp⟩ hlonger
  rw [List.length_append] at hle
  exact absurd hle (Nat.not_succ_le_self _)

/-- No longer part can be completed if the next lexeme cannot follow. -/
theorem breaksAt_of_after? {q : Prospect} (hq : start.after? (before.map Lexeme.token) = some q)
    (hstop : ∀ lexeme ∈ after.head?, q.next? lexeme.token = none) :
    BreaksAt (before ++ after) before after := by
  refine ⟨rfl, viable_iff.mpr ⟨q, hq⟩, ?_⟩
  intro ls hbegins hviable
  refine Nat.le_of_not_lt fun hlt => ?_
  have hbefore := List.prefix_of_prefix_length_le (List.prefix_append before after) hbegins
    (Nat.le_of_lt hlt)
  obtain ⟨more, rfl⟩ := hbefore
  obtain ⟨r, hr⟩ := viable_iff.mp hviable
  cases more with
  | nil => simp at hlt
  | cons lexeme more =>
    obtain ⟨rest, rfl⟩ := (List.prefix_append_right_inj before).mp hbegins
    rw [List.map_append, after?_append, hq] at hr
    simp [hstop lexeme rfl] at hr

theorem exists_breaksAt (lexemes : List Lexeme) :
    ∃ before after, BreaksAt lexemes before after := by
  obtain ⟨before, after, q, rfl, hq, hstop⟩ := start.exists_split lexemes
  exact ⟨before, after, breaksAt_of_after? hq hstop⟩

/-- What the prospect finds wrong is the diagnosis. -/
theorem diagnosis_of_fault? {q : Prospect} {error : GrammarError}
    (hq : start.after? (before.map Lexeme.token) = some q)
    (hstop : ∀ lexeme ∈ after.head?, q.next? lexeme.token = none) (hne : before ++ after ≠ [])
    (h : q.fault? limit after = some error) :
    Diagnosis (before.map Lexeme.token) after error := by
  have hcount : (before.map Lexeme.token).count .opening =
      q.groups.length + (before.map Lexeme.token).count .closing := by
    simpa [start] using count_after? hq
  have hsentence : Sentence (before.map Lexeme.token) ↔ q.endError? = none := by
    rw [sentence_iff]
    simp [hq]
  cases after with
  | nil =>
    have hbefore : before.map Lexeme.token ≠ [] := by simpa using hne
    simp only [fault?, endError?] at h
    split at h
    · obtain rfl := Option.some.inj h
      exact .unclosed hbefore (by omega)
    · split at h
      · obtain rfl := Option.some.inj h
        exact .unfinished hbefore (by omega)
      · contradiction
  | cons lexeme rest =>
    rw [fault?_cons_of_none (hstop lexeme rfl)] at h
    obtain rfl := Option.some.inj h
    have hcondition : (lexeme.token = .closing ∧ q.due = true ∧ q.groups = []) ↔
        lexeme.token = .closing ∧
          (before.map Lexeme.token).count .opening = (before.map Lexeme.token).count .closing ∧
          ¬ Sentence (before.map Lexeme.token) := by
      rw [hsentence, hcount]
      obtain ⟨due, signs, groups⟩ := q
      cases due <;> cases groups <;> simp [endError?]
    unfold refusal
    split
    case isTrue hunopened =>
      obtain ⟨hclosing, hequal, hno⟩ := hcondition.mp hunopened
      exact .unopened hclosing hequal hno
    case isFalse hother => exact .unexpected (mt hcondition.mpr hother)

/-- Lexemes that are no sentence are refused for the first of them that cannot follow, or for what
is missing at their end, provided that what stands in front can be completed within the limit. -/
theorem ofLexemes_error_of_not_sentence (lexemes : List Lexeme) (limit : Nat)
    (h : ¬ Sentence (lexemes.map Lexeme.token)) :
    (∃ before after, BreaksAt lexemes before after) ∧
    ∀ before after, BreaksAt lexemes before after →
      (Completes limit (before.map Lexeme.token) →
        ∃ error, Diagnosis (before.map Lexeme.token) after error ∧
          Expr.ofLexemes lexemes limit = .error error) ∧
      (¬ Completes limit (before.map Lexeme.token) →
        Expr.ofLexemes lexemes limit = .error (.tooComplex limit)) := by
  refine ⟨exists_breaksAt lexemes, ?_⟩
  intro before after hbreaks
  obtain ⟨q, hq, hstop⟩ := hbreaks.exists_after?
  obtain rfl := hbreaks.split
  have hcompletes : Completes limit (before.map Lexeme.token) ↔
      start.peak (before.map Lexeme.token) ≤ limit := by
    rw [completes_iff]
    simp [hq]
  have hfault : start.fault? limit (before ++ after) =
      if start.peak (before.map Lexeme.token) ≤ limit then q.fault? limit after
      else some (.tooComplex limit) := fault?_append hq limit.zero_le
  rw [hcompletes]
  by_cases hne : before ++ after = []
  · obtain ⟨rfl, rfl⟩ := List.append_eq_nil_iff.mp hne
    exact ⟨fun _ => ⟨_, .empty rfl, rfl⟩, fun hno => absurd limit.zero_le hno⟩
  · constructor
    · intro hle
      rw [if_pos hle] at hfault
      cases herror : q.fault? limit after with
      | none =>
        obtain ⟨tree, htree⟩ := (exists_ofLexemes_eq_ok_iff hne).mpr (hfault.trans herror)
        obtain ⟨nesting, -, hphrase⟩ := exists_phrase_of_ofLexemes htree
        exact absurd ⟨tree, nesting, hphrase⟩ h
      | some error =>
        refine ⟨error, diagnosis_of_fault? hq hstop hne herror, ?_⟩
        exact (ofLexemes_eq_error_iff hne).mpr (hfault.trans herror)
    · intro hgt
      rw [if_neg hgt] at hfault
      exact (ofLexemes_eq_error_iff hne).mpr hfault

/-- In `(1 + -(2) * )` everything could go on until the outer group is closed, where an operand is
due. Three levels are needed to get there. -/
theorem ofLexemes_missingOperand :
    let before : List Lexeme := [⟨.opening, 0⟩, ⟨.number (.ofDecimal 1 0), 1⟩,
      ⟨.operator .plus, 3⟩, ⟨.operator .minus, 5⟩, ⟨.opening, 6⟩, ⟨.number (.ofDecimal 2 0), 7⟩,
      ⟨.closing, 8⟩, ⟨.operator .star, 10⟩]
    let closing : Lexeme := ⟨.closing, 12⟩
    ¬ Sentence ((before ++ [closing]).map Lexeme.token) ∧
      BreaksAt (before ++ [closing]) before [closing] ∧
      Expr.ofLexemes (before ++ [closing]) 3 = .error (.unexpectedToken closing) ∧
      Expr.ofLexemes (before ++ [closing]) 2 = .error (.tooComplex 2) := by
  intro before closing
  have hafter : start.after? (before.map Lexeme.token) = some ⟨true, 0, [0]⟩ := rfl
  have hpeak : start.peak (before.map Lexeme.token) = 3 := rfl
  have hno : ¬ Sentence ((before ++ [closing]).map Lexeme.token) := by
    rw [sentence_iff, List.map_append, after?_append, hafter]
    rintro ⟨q, hq, -⟩
    cases hq
  have hbreaks : BreaksAt (before ++ [closing]) before [closing] := by
    apply breaksAt_of_after? hafter
    rintro lexeme ⟨⟩
    rfl
  have hcompletes : ∀ limit, Completes limit (before.map Lexeme.token) ↔ 3 ≤ limit := by
    intro limit
    rw [completes_iff, hpeak]
    simp [hafter]
  have herrors := fun limit =>
    (ofLexemes_error_of_not_sentence (before ++ [closing]) limit hno).2 _ _ hbreaks
  refine ⟨hno, hbreaks, ?_, (herrors 2).2 (by simp [hcompletes])⟩
  obtain ⟨error, hdiagnosis, herror⟩ := (herrors 3).1 (by simp [hcompletes])
  cases hdiagnosis with
  | unopened _ hcount =>
    -- One group is still open.
    exact absurd hcount (by decide)
  | unexpected => exact herror

end Reckoner
