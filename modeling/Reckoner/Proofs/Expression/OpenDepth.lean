import Mathlib.Data.List.Infix
import Mathlib.Order.Bounds.Basic
import Reckoner.Proofs.Expression.Diagnosis

/-!
The depth a row of tokens leaves open, counted from the tokens and the grammar alone, and the limit
on it: the least limit that admits the tokens is the greatest depth on the way through them, and no
limit above it makes a difference.
-/
namespace Reckoner

namespace Token

/-- Behind the token an operand is due. -/
def precedesOperand : Token → Bool
  | operator _ | opening => true
  | number _ | closing => false

end Token

/-- The tokens begin with a complete operand of a minus sign. -/
def BeginsOperand (ts : List Token) : Prop :=
  ∃ us, us <+: ts ∧ ∃ tree nesting, Phrase .unary us tree nesting

instance (ts : List Token) : Decidable (Sentence ts) :=
  decidable_of_iff (∃ q ∈ Prospect.start.after? ts, q.endError? = none) (by
    rw [Prospect.sentence_iff]
    rfl)

/-- What begins with a sentence begins with an operand, the first of the sentence. -/
theorem beginsOperand_iff {ts : List Token} : BeginsOperand ts ↔ ∃ us ∈ ts.inits, Sentence us := by
  simp only [List.mem_inits]
  constructor
  · rintro ⟨us, hbegins, tree, nesting, h⟩
    exact ⟨us, hbegins, tree, nesting, h.toTerm.toExpression⟩
  · rintro ⟨us, hbegins, tree, nesting, h⟩
    cases h with
    | expression _ hterm =>
      cases hterm with
      | term _ hfirst =>
        rw [List.append_assoc] at hbegins
        exact ⟨_, (List.prefix_append _ _).trans hbegins, _, _, hfirst⟩

instance (ts : List Token) : Decidable (BeginsOperand ts) :=
  decidable_of_iff _ beginsOperand_iff.symm

/-- The number of unary minus signs whose operand is not complete. -/
def waitingSigns (due : Bool) : List Token → Nat
  | [] => 0
  | token :: ts =>
    (if due = true ∧ token = .operator .minus ∧ ¬ BeginsOperand ts then 1 else 0) +
      waitingSigns token.precedesOperand ts

/-- The number of groups that are not closed and of unary minus signs whose operand is not
complete. -/
def openDepth (ts : List Token) : Nat :=
  ts.count .opening - ts.count .closing + waitingSigns true ts

namespace Prospect

variable {due : Bool} {signs : Nat} {groups outer : List Nat} {p q : Prospect} {ts us : List Token}

/-- The operands of a chain that are not the first come behind an operator, where no sign waits. -/
theorem after?_allTokens {links : List Link} (h : ∀ link ∈ links, ∀ signs groups,
      after? ⟨true, signs, groups⟩ link.tokens = some ⟨false, 0, groups⟩) (groups : List Nat) :
    after? ⟨false, 0, groups⟩ (Link.allTokens links) = some ⟨false, 0, groups⟩ := by
  induction links with
  | nil => rfl
  | cons link links ih =>
    obtain ⟨hfirst, hothers⟩ := List.forall_mem_cons.mp h
    rw [Link.allTokens_cons, after?_cons, next?_operator, Option.bind_some, after?_append, hfirst,
      Option.bind_some, ih hothers]

/-- A phrase takes the place of the operand that was due. -/
theorem after?_of_phrase {level : Phrase.Level} {tree : Expr} {nesting : Nat}
    (h : Phrase level ts tree nesting) (signs : Nat) (groups : List Nat) :
    after? ⟨true, signs, groups⟩ ts = some ⟨false, 0, groups⟩ := by
  induction h generalizing signs groups with
  | number value => rfl
  | negation _ ih => exact ih (signs + 1) groups
  | group _ ih =>
    rw [after?_cons, next?_opening, Option.bind_some, after?_append, ih]
    rfl
  | term _ _ _ _ hfirst hothers | expression _ _ _ _ hfirst hothers =>
    rw [after?_append, hfirst, Option.bind_some]
    exact after?_allTokens hothers groups

/-- The same with more groups around it. -/
def within (outer : List Nat) (p : Prospect) : Prospect := ⟨p.due, p.signs, p.groups ++ outer⟩

/-- A token that closes none of the outer groups does the same without them. -/
theorem next?_within {token : Token}
    (h : ¬ (token = .closing ∧ p.due = false ∧ p.groups = [])) :
    (p.within outer).next? token = (p.next? token).map (within outer) := by
  obtain ⟨due, signs, groups⟩ := p
  cases due with
  | true =>
    cases token with
    | operator op => cases op <;> rfl
    | number | opening | closing => rfl
  | false =>
    cases token with
    | operator op => simp [within]
    | number | opening => rfl
    | closing =>
      cases groups with
      | nil => exact absurd ⟨rfl, rfl, rfl⟩ h
      | cons => rfl

/-- What can follow without outer groups can follow inside them. -/
theorem within_after? (h : p.after? ts = some q) (outer : List Nat) :
    (p.within outer).after? ts = some (q.within outer) := by
  induction ts generalizing p with
  | nil =>
    obtain rfl := Option.some.inj h
    rfl
  | cons token ts ih =>
    obtain ⟨r, hr, hq⟩ := after?_cons_eq_some_iff.mp h
    have hinside : ¬ (token = .closing ∧ p.due = false ∧ p.groups = []) := by
      obtain ⟨due, signs, groups⟩ := p
      rintro ⟨rfl, rfl, rfl⟩
      contradiction
    rw [after?_cons, next?_within hinside, hr]
    exact ih hq

/-- Outer groups do not matter until one of them is closed, and then everything inside it has been
complete. -/
theorem after?_within (h : (p.within outer).after? ts = some q) :
    (∃ r, p.after? ts = some r ∧ q = r.within outer) ∨
      ∃ inside rest, ts = inside ++ .closing :: rest ∧
        ∃ r, p.after? inside = some r ∧ r.endError? = none := by
  induction ts generalizing p with
  | nil =>
    obtain rfl := Option.some.inj h
    exact .inl ⟨p, rfl, rfl⟩
  | cons token ts ih =>
    by_cases hcloses : token = .closing ∧ p.due = false ∧ p.groups = []
    · obtain ⟨rfl, hdue, hgroups⟩ := hcloses
      exact .inr ⟨[], ts, rfl, p, rfl, by simp [endError?, hdue, hgroups]⟩
    · obtain ⟨r, hr, hq⟩ := after?_cons_eq_some_iff.mp h
      rw [next?_within hcloses] at hr
      obtain ⟨s, hs, rfl⟩ := Option.map_eq_some_iff.mp hr
      rcases ih hq with ⟨last, hlast, rfl⟩ | ⟨inside, rest, rfl, last, hlast, hend⟩
      · exact .inl ⟨last, after?_cons_eq_some_iff.mpr ⟨s, hs, hlast⟩, rfl⟩
      · exact .inr ⟨token :: inside, rest, rfl, last,
          after?_cons_eq_some_iff.mpr ⟨s, hs, hlast⟩, hend⟩

theorem enclosing_append (groups outer : List Nat) :
    enclosing (groups ++ outer) = enclosing groups + enclosing outer := by
  induction groups with
  | nil => exact (Nat.zero_add _).symm
  | cons signs groups ih =>
    rw [List.cons_append, enclosing, enclosing, ih]
    exact (Nat.add_assoc _ _ _).symm

theorem length_le_enclosing (groups : List Nat) : groups.length ≤ enclosing groups := by
  induction groups with
  | nil => exact Nat.le_refl 0
  | cons signs groups ih =>
    rw [List.length_cons, enclosing]
    omega

/-- A group that is closed is an operand. -/
theorem beginsOperand_group {inside rest : List Token} (hq : start.after? inside = some q)
    (hend : q.endError? = none) : BeginsOperand (.opening :: (inside ++ .closing :: rest)) := by
  obtain ⟨tree, nesting, h⟩ := sentence_iff.mpr ⟨q, hq, hend⟩
  exact ⟨.opening :: (inside ++ [.closing]), ⟨rest, by simp⟩, tree, _, h.group⟩

/-- One more sign makes no difference where an operand follows, and waits where none does. -/
theorem after?_succ (h : after? ⟨true, signs + 1, groups⟩ ts = some q) :
    ∃ p, after? ⟨true, signs, groups⟩ ts = some p ∧
      q.depth = (if BeginsOperand ts then 0 else 1) + p.depth := by
  by_cases hoperand : BeginsOperand ts
  · rw [if_pos hoperand]
    obtain ⟨us, ⟨rest, rfl⟩, tree, nesting, hphrase⟩ := hoperand
    rw [after?_append, after?_of_phrase hphrase] at h
    refine ⟨q, ?_, (Nat.zero_add _).symm⟩
    rw [after?_append, after?_of_phrase hphrase]
    exact h
  · rw [if_neg hoperand]
    -- Only more signs can stand in front of the group that stays open.
    induction ts generalizing signs with
    | nil =>
      obtain rfl := Option.some.inj h
      exact ⟨_, rfl, by simp only [depth]; omega⟩
    | cons token ts ih =>
      cases token with
      | number value => exact absurd ⟨[_], ⟨ts, rfl⟩, _, _, .number value⟩ hoperand
      | closing => contradiction
      | operator op =>
        cases op with
        | plus | star | slash => contradiction
        | minus =>
          have hrest : ¬ BeginsOperand ts := by
            rintro ⟨us, ⟨rest, rfl⟩, tree, nesting, hphrase⟩
            exact hoperand ⟨_ :: us, ⟨rest, rfl⟩, _, _, hphrase.negation⟩
          exact ih h hrest
      | opening =>
        have hinside : (start.within ((signs + 1) :: groups)).after? ts = some q := h
        rcases after?_within hinside with ⟨r, hr, rfl⟩ | ⟨inside, rest, rfl, r, hr, hend⟩
        · refine ⟨r.within (signs :: groups), within_after? hr (signs :: groups), ?_⟩
          simp only [depth, within, enclosing_append, enclosing]
          omega
        · exact absurd (beginsOperand_group hr hend) hoperand

/-- The depth behind the tokens, if no signs wait in front of them. -/
theorem depth_add_count (hgroups : enclosing groups = groups.length)
    (h : after? ⟨due, 0, groups⟩ ts = some q) :
    q.depth + ts.count .closing = groups.length + ts.count .opening + waitingSigns due ts := by
  induction ts generalizing due groups q with
  | nil =>
    obtain rfl := Option.some.inj h
    simpa [depth, waitingSigns] using hgroups
  | cons token ts ih =>
    rw [after?_cons] at h
    rw [waitingSigns]
    cases due with
    | true =>
      cases token with
      | number value => simpa [Token.precedesOperand] using ih hgroups h
      | opening =>
        have hinside : enclosing (0 :: groups) = (0 :: groups).length := by
          rw [enclosing, hgroups, List.length_cons, Nat.zero_add, Nat.add_comm]
        have hdepth := ih hinside h
        rw [List.length_cons] at hdepth
        simp only [Token.precedesOperand, ne_eq, reduceCtorEq, not_false_eq_true,
          List.count_cons_of_ne, List.count_cons_self, false_and, and_false, ↓reduceIte]
        omega
      | closing => contradiction
      | operator op =>
        cases op with
        | plus | star | slash => contradiction
        | minus =>
          obtain ⟨p, hp, hsign⟩ := after?_succ h
          have hdepth := ih hgroups hp
          simp only [Token.precedesOperand, ne_eq, reduceCtorEq, not_false_eq_true,
            List.count_cons_of_ne, true_and]
          split at hsign
          case isTrue hoperand =>
            rw [if_neg (not_not.mpr hoperand)]
            omega
          case isFalse hoperand =>
            rw [if_pos hoperand]
            omega
    | false =>
      cases token with
      | number | opening => contradiction
      | operator op =>
        rw [next?_operator] at h
        simpa [Token.precedesOperand] using ih hgroups h
      | closing =>
        cases groups with
        | nil => contradiction
        | cons outer groups =>
          have hinner := length_le_enclosing groups
          rw [enclosing, List.length_cons] at hgroups
          have hdepth := ih (by omega) h
          simp only [Token.precedesOperand, ne_eq, reduceCtorEq, not_false_eq_true,
            List.count_cons_of_ne, List.count_cons_self, Bool.false_eq_true, false_and, ↓reduceIte,
            List.length_cons]
          omega

/-- The depth the tokens leave open is the one at which the prospect arrives. -/
theorem depth_of_after? (h : start.after? ts = some q) : q.depth = openDepth ts := by
  have hcount : ts.count .opening = q.groups.length + ts.count .closing := by
    simpa [start] using count_after? h
  have hdepth := depth_add_count rfl h
  rw [List.length_nil] at hdepth
  rw [openDepth]
  omega

/-- A sign waits for the whole group behind it, and for nothing behind its operand. -/
example (value : Binary64) :
    openDepth [.operator .minus, .opening, .operator .minus, .number value, .operator .plus] = 2 := by
  rfl

/-- The peak is the greatest of the depths on the way. -/
theorem isGreatest_peak (h : p.after? ts = some q) :
    IsGreatest {n | ∃ us r, us <+: ts ∧ p.after? us = some r ∧ r.depth = n} (p.peak ts) := by
  constructor
  · induction ts generalizing p with
    | nil => exact ⟨[], p, List.prefix_refl _, rfl, rfl⟩
    | cons token ts ih =>
      obtain ⟨r, hr, hq⟩ := after?_cons_eq_some_iff.mp h
      rw [peak_cons hr]
      rcases Nat.le_total (r.peak ts) p.depth with hle | hle
      · exact ⟨[], p, List.nil_prefix, rfl, (Nat.max_eq_left hle).symm⟩
      · obtain ⟨us, last, hbegins, hlast, hdepth⟩ := ih hq
        refine ⟨token :: us, last, List.cons_prefix_cons.mpr ⟨rfl, hbegins⟩,
          after?_cons_eq_some_iff.mpr ⟨r, hr, hlast⟩, ?_⟩
        rw [hdepth, Nat.max_eq_right hle]
  · rintro _ ⟨us, r, ⟨rest, rfl⟩, hr, rfl⟩
    rw [peak_append hr]
    exact Nat.le_trans (depth_le_peak r rest) (Nat.le_max_right _ _)

/-- The peak counted from the tokens. -/
theorem isGreatest_openDepth (h : start.after? ts = some q) :
    IsGreatest (openDepth '' {us | us <+: ts}) (start.peak ts) := by
  convert isGreatest_peak h using 1
  ext n
  constructor
  · rintro ⟨us, ⟨rest, rfl⟩, rfl⟩
    obtain ⟨r, hr, -⟩ := after?_append_eq_some_iff.mp h
    exact ⟨us, r, List.prefix_append us rest, hr, depth_of_after? hr⟩
  · rintro ⟨us, r, hbegins, hr, rfl⟩
    exact ⟨us, hbegins, (depth_of_after? hr).symm⟩

/-- Where a single number can stand, any phrase can, and it leaves no more open. -/
theorem openDepth_phrase {level : Phrase.Level} {operand before after : List Token} {tree : Expr}
    {nesting : Nat} (value : Binary64) (h : Phrase level operand tree nesting)
    (hviable : Viable (before ++ .number value :: after)) :
    Viable (before ++ (operand ++ after)) ∧
      openDepth (before ++ (operand ++ after)) = openDepth (before ++ .number value :: after) := by
  obtain ⟨q, hq⟩ := viable_iff.mp hviable
  obtain ⟨⟨due, signs, groups⟩, hbefore, hrest⟩ := after?_append_eq_some_iff.mp hq
  cases due with
  | false => contradiction
  | true =>
    have hsame : start.after? (before ++ (operand ++ after)) = some q := by
      rw [after?_append, hbefore, Option.bind_some, after?_append, after?_of_phrase h]
      exact hrest
    exact ⟨viable_iff.mpr ⟨q, hsame⟩, (depth_of_after? hsame).symm.trans (depth_of_after? hq)⟩

theorem endError?_ne_tooComplex (p : Prospect) (bound : Nat) :
    p.endError? ≠ some (.tooComplex bound) := by
  unfold endError?
  split
  · simp
  · split <;> simp

theorem refusal_ne_tooComplex (p : Prospect) (lexeme : Lexeme) (bound : Nat) :
    p.refusal lexeme ≠ .tooComplex bound := by
  unfold refusal
  split <;> simp

variable {before after : List Lexeme}

/-- Whatever the limit, the descent comes to the same result unless the depth goes beyond it. -/
theorem exists_result (hq : start.after? (before.map Lexeme.token) = some q)
    (hstop : ∀ lexeme ∈ after.head?, q.next? lexeme.token = none) :
    ∃ result, (∀ bound, result ≠ .error (.tooComplex bound)) ∧ ∀ limit,
      Expr.ofLexemes (before ++ after) limit =
        if start.peak (before.map Lexeme.token) ≤ limit then result
        else .error (.tooComplex limit) := by
  have hfault (limit : Nat) : start.fault? limit (before ++ after) = _ :=
    fault?_append hq limit.zero_le
  have herror {error : GrammarError} (hne : before ++ after ≠ [])
      (h : ∀ limit, q.fault? limit after = some error) (limit : Nat) :
      Expr.ofLexemes (before ++ after) limit =
        if start.peak (before.map Lexeme.token) ≤ limit then .error error
        else .error (.tooComplex limit) := by
    rw [← apply_ite Except.error, ofLexemes_eq_error_iff hne, hfault, h]
    split <;> rfl
  cases after with
  | cons lexeme rest =>
    have hnone (limit : Nat) : q.fault? limit (lexeme :: rest) = some (q.refusal lexeme) :=
      fault?_cons_of_none (hstop lexeme rfl)
    refine ⟨.error (q.refusal lexeme), fun bound hbound => ?_, herror (by simp) hnone⟩
    exact refusal_ne_tooComplex q lexeme bound (Except.error.inj hbound)
  | nil =>
    cases hend : q.endError? with
    | none =>
      obtain ⟨tree, htree⟩ := exists_phrase_iff.mpr ⟨⟨q, hq, hend⟩, rfl⟩
      refine ⟨.ok tree, nofun, ?_⟩
      rw [List.append_nil]
      exact ofLexemes_of_phrase htree
    | some error =>
      by_cases hne : before ++ [] = []
      · obtain rfl := (List.append_eq_nil_iff.mp hne).1
        exact ⟨.error .empty, nofun, fun limit => (if_pos limit.zero_le).symm⟩
      · refine ⟨.error error, fun bound hbound => ?_, herror hne fun limit => hend⟩
        obtain rfl := Except.error.inj hbound
        exact endError?_ne_tooComplex q bound hend

end Prospect

open Prospect

/-- The limit on the depth is nothing but a cut-off: tokens whose greatest depth on the way, as far
as something could complete them, goes beyond it are too complex, whatever else is wrong with them,
and otherwise the limit does not matter. What an operand needs is free again behind it. -/
theorem ofLexemes_cutOff (lexemes : List Lexeme) :
    (∃ before after greatest result, BreaksAt lexemes before after ∧
      IsGreatest (openDepth '' {ts | ts <+: before.map Lexeme.token}) greatest ∧
      (∀ limit < greatest, Expr.ofLexemes lexemes limit = .error (.tooComplex limit)) ∧
      (∀ limit ≥ greatest, Expr.ofLexemes lexemes limit = result) ∧
      ∀ bound, result ≠ .error (.tooComplex bound)) ∧
    (∀ limit limit', limit ≤ limit' →
      Expr.ofLexemes lexemes limit ≠ .error (.tooComplex limit) →
      Expr.ofLexemes lexemes limit' = Expr.ofLexemes lexemes limit) ∧
    ∀ level operand tree nesting value before after, Phrase level operand tree nesting →
      Viable (before ++ .number value :: after) →
      Viable (before ++ (operand ++ after)) ∧
        openDepth (before ++ (operand ++ after)) = openDepth (before ++ .number value :: after) := by
  obtain ⟨before, after, hbreaks⟩ := exists_breaksAt lexemes
  obtain ⟨q, hq, hstop⟩ := hbreaks.exists_after?
  obtain ⟨result, hresult, hcut⟩ := exists_result hq hstop
  rw [← hbreaks.split] at hcut
  refine ⟨⟨before, after, _, result, hbreaks, isGreatest_openDepth hq, ?below, ?within, hresult⟩,
    ?raised, fun _ _ _ _ value _ _ h => openDepth_phrase value h⟩
  case below =>
    intro limit hlt
    rw [hcut, if_neg (Nat.not_le.mpr hlt)]
  case within =>
    intro limit hle
    rw [hcut, if_pos hle]
  case raised =>
    intro limit limit' hle hne
    rw [hcut] at hne ⊢
    have hwithin : start.peak (before.map Lexeme.token) ≤ limit := by
      by_contra hgt
      exact hne (if_neg hgt)
    rw [hcut, if_pos hwithin, if_pos (Nat.le_trans hwithin hle)]

end Reckoner
