import Mathlib.Data.List.Forall2
import Reckoner.Proofs.Expression.Following

/-!
Reading is blind to the values of numbers and to positions. Lexemes with other numbers in other
places are read as the same tree with the other numbers, or fail alike.
-/
namespace Reckoner

/-- What takes the place of each number, and of each position. -/
structure Relabeling where
  value : Binary64 → Binary64
  pos : Nat → Nat

namespace Relabeling

/-- All numbers and positions become alike. -/
def leveled : Relabeling := ⟨fun _ => .zero false, fun _ => 0⟩

variable (σ : Relabeling)

def token : Token → Token
  | .number x => .number (σ.value x)
  | .operator op => .operator op
  | .opening => .opening
  | .closing => .closing

def lexeme (l : Lexeme) : Lexeme := ⟨σ.token l.token, σ.pos l.pos⟩

def tree : Expr → Expr
  | .number x => .number (σ.value x)
  | .negate operand => .negate (tree operand)
  | .binary op left right => .binary op (tree left) (tree right)

/-- Only an unexpected token tells a number or a position. -/
def error : GrammarError → GrammarError
  | .unexpectedToken l => .unexpectedToken (σ.lexeme l)
  | .empty => .empty
  | .unbalancedParentheses => .unbalancedParentheses
  | .unexpectedEnd => .unexpectedEnd
  | .tooComplex limit => .tooComplex limit

def outcome : Except GrammarError Expr → Except GrammarError Expr
  | .ok tree => .ok (σ.tree tree)
  | .error error => .error (σ.error error)

def link (l : Link) : Link := ⟨l.op, l.tokens.map σ.token, σ.tree l.tree, l.nesting⟩

variable {nesting : Nat} {level : Phrase.Level} {ts : List Token} {tree : Expr}
  {p : Prospect}

@[simp] theorem token_lexeme (l : Lexeme) : (σ.lexeme l).token = σ.token l.token := rfl

theorem map_token (ls : List Lexeme) :
    (ls.map σ.lexeme).map Lexeme.token = (ls.map Lexeme.token).map σ.token := by
  simp [Function.comp_def]

/-! Trees. -/

theorem allTokens_map (links : List Link) :
    Link.allTokens (links.map σ.link) = (Link.allTokens links).map σ.token := by
  induction links with
  | nil => rfl
  | cons l links ih => simp [ih, link, token]

theorem fold_map (first : Expr) (links : List Link) :
    Link.fold (σ.tree first) (links.map σ.link) = σ.tree (Link.fold first links) := by
  induction links generalizing first with
  | nil => rfl
  | cons l links ih => exact ih (.binary l.op first l.tree)

theorem greatest_map (first : Nat) (links : List Link) :
    Link.greatest first (links.map σ.link) = Link.greatest first links := by
  induction links generalizing first with
  | nil => rfl
  | cons l links ih => exact ih (max first l.nesting)

/-- A phrase stays one, with the same nesting. -/
theorem phrase (h : Phrase level ts tree nesting) :
    Phrase level (ts.map σ.token) (σ.tree tree) nesting := by
  induction h with
  | number x => exact .number (σ.value x)
  | negation _ ih => exact ih.negation
  | group _ ih =>
    rw [List.map_cons, List.map_append]
    exact ih.group
  | term links _ operators _ ih ihs =>
    rw [List.map_append, ← allTokens_map, ← fold_map, ← greatest_map σ]
    exact ih.term _ (List.forall_mem_map.mpr operators) (List.forall_mem_map.mpr ihs)
  | expression links _ operators _ ih ihs =>
    rw [List.map_append, ← allTokens_map, ← fold_map, ← greatest_map σ]
    exact ih.expression _ (List.forall_mem_map.mpr operators) (List.forall_mem_map.mpr ihs)

/-! Errors. -/

/-- What a token leaves open does not depend on its number. -/
theorem next?_token (p : Prospect) (token : Token) : p.next? (σ.token token) = p.next? token := by
  obtain ⟨due, signs, groups⟩ := p
  cases token with
  | number x => cases due <;> rfl
  | operator | opening | closing => rfl

theorem refusal_lexeme (p : Prospect) (l : Lexeme) :
    p.refusal (σ.lexeme l) = σ.error (p.refusal l) := by
  have hclosing : σ.token l.token = .closing ↔ l.token = .closing := by
    cases l.token <;> simp [token]
  unfold Prospect.refusal
  simp only [token_lexeme, hclosing]
  split <;> rfl

theorem endError?_map (p : Prospect) : p.endError?.map σ.error = p.endError? := by
  unfold Prospect.endError?
  split
  · rfl
  · split <;> rfl

theorem fault?_map (p : Prospect) (limit : Nat) (ls : List Lexeme) :
    p.fault? limit (ls.map σ.lexeme) = (p.fault? limit ls).map σ.error := by
  induction ls generalizing p with
  | nil => exact (σ.endError?_map p).symm
  | cons l ls ih =>
    rw [List.map_cons]
    unfold Prospect.fault?
    rw [token_lexeme, next?_token]
    cases p.next? l.token with
    | none => exact congrArg some (σ.refusal_lexeme p l)
    | some q =>
      dsimp only
      split
      · rfl
      · exact ih q

/-- What is read from lexemes with other numbers in other places. -/
theorem ofLexemes_map (ls : List Lexeme) (limit : Nat) :
    Expr.ofLexemes (ls.map σ.lexeme) limit = σ.outcome (Expr.ofLexemes ls limit) := by
  cases hread : Expr.ofLexemes ls limit with
  | ok tree =>
    obtain ⟨nesting, hle, hphrase⟩ := exists_phrase_of_ofLexemes hread
    have hmapped := σ.phrase hphrase
    rw [← map_token] at hmapped
    rw [ofLexemes_of_phrase hmapped, if_pos hle]
    rfl
  | error error =>
    cases ls with
    | nil =>
      cases hread
      rfl
    | cons l ls =>
      rw [Prospect.ofLexemes_eq_error_iff (List.cons_ne_nil l ls)] at hread
      have hmapped := σ.fault?_map .start limit (l :: ls)
      rw [hread] at hmapped
      exact (Prospect.ofLexemes_eq_error_iff (List.cons_ne_nil _ _)).mpr hmapped

end Relabeling

/-- The lexemes differ at most in their numbers, if both are numbers, and in their positions. -/
inductive Lexeme.Alike : Lexeme → Lexeme → Prop where
  | number (x y : Binary64) (pos pos' : Nat) : Alike ⟨.number x, pos⟩ ⟨.number y, pos'⟩
  | same (token : Token) (pos pos' : Nat) : Alike ⟨token, pos⟩ ⟨token, pos'⟩

namespace Expr

open Relabeling (leveled)

/-- The reason why there is no tree, if there is none. -/
def verdict? : Except GrammarError Expr → Option String
  | .ok _ => none
  | .error error => some error.code

variable {ls ls' : List Lexeme} {limit : Nat}

theorem verdict?_outcome (σ : Relabeling) (result : Except GrammarError Expr) :
    verdict? (σ.outcome result) = verdict? result := by
  cases result with
  | ok tree => rfl
  | error error => cases error <;> rfl

theorem map_leveled (h : List.Forall₂ Lexeme.Alike ls ls') :
    ls.map leveled.lexeme = ls'.map leveled.lexeme := by
  induction h with
  | nil => rfl
  | cons hfirst _ ih =>
    rw [List.map_cons, List.map_cons, ih]
    cases hfirst <;> rfl

/-- Reading commutes with every change of numbers and positions, so that what is wrong with lexemes
can be told without looking at either. -/
theorem ofLexemes_relabeled (ls : List Lexeme) (limit : Nat) :
    (∀ (value : Binary64 → Binary64) (pos : Nat → Nat),
      ofLexemes (ls.map (Relabeling.lexeme ⟨value, pos⟩)) limit =
        Relabeling.outcome ⟨value, pos⟩ (ofLexemes ls limit)) ∧
    ∀ ls', List.Forall₂ Lexeme.Alike ls ls' →
      verdict? (ofLexemes ls' limit) = verdict? (ofLexemes ls limit) := by
  refine ⟨fun value pos => Relabeling.ofLexemes_map ⟨value, pos⟩ ls limit, fun ls' halike => ?_⟩
  rw [← verdict?_outcome leveled, ← verdict?_outcome leveled (ofLexemes ls limit),
    ← Relabeling.ofLexemes_map, ← Relabeling.ofLexemes_map, map_leveled halike]

/-- A number that follows an operand is refused, also where none of the numbers is one. -/
theorem ofLexemes_relabeled_nan :
    let ls : List Lexeme := [⟨.opening, 0⟩, ⟨.number (.ofDecimal 1 0), 1⟩, ⟨.operator .slash, 2⟩,
      ⟨.number (.zero false), 3⟩, ⟨.number (.zero false), 5⟩]
    let ls' : List Lexeme := [⟨.opening, 9⟩, ⟨.number .nan, 0⟩, ⟨.operator .slash, 0⟩,
      ⟨.number (.infinity true), 0⟩, ⟨.number .nan, 0⟩]
    List.Forall₂ Lexeme.Alike ls ls' ∧
      verdict? (ofLexemes ls' 1) = verdict? (ofLexemes ls 1) ∧
      verdict? (ofLexemes ls 1) = some "PARSE_UNEXPECTED_TOKEN" := by
  intro ls ls'
  have halike : List.Forall₂ Lexeme.Alike ls ls' :=
    .cons (.same _ _ _) (.cons (.number _ _ _ _) (.cons (.same _ _ _)
      (.cons (.number _ _ _ _) (.cons (.number _ _ _ _) .nil))))
  have hread : ofLexemes ls 1 = .error (.unexpectedToken ⟨.number (.zero false), 5⟩) := by
    rw [Prospect.ofLexemes_eq_error_iff (List.cons_ne_nil _ _)]
    rfl
  refine ⟨halike, (ofLexemes_relabeled ls 1).2 ls' halike, ?_⟩
  rw [hread]
  rfl

end Expr
end Reckoner
