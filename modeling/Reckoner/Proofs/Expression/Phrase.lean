import Reckoner.Expression.Grammar

/-!
The phrases of the grammar, with their trees and their nesting:

    expression = term, any number of: "+" or "-", term
    term       = unary, any number of: "*" or "/", unary
    unary      = "-", unary  |  NUMBER  |  "(", expression, ")"

Nothing here looks ahead or counts on the way: a phrase has as many tokens as its rule says, and
its nesting is a property of its derivation.
-/
namespace Reckoner

inductive Phrase.Level where
  | expression | term | unary
  deriving DecidableEq, Repr

namespace Phrase.Level

/-- The level of the chains with additive operators, or with the others. -/
def chain : Bool → Level
  | true => expression
  | false => term

/-- The level of the operands in such chains. -/
def operand : Bool → Level
  | true => term
  | false => unary

end Phrase.Level

/-- An operator and the operand on its right, with the tree and the nesting of the operand. -/
structure Link where
  op : Operator
  tokens : List Token
  tree : Expr
  nesting : Nat
  deriving DecidableEq, Repr

namespace Link

def allTokens (links : List Link) : List Token :=
  links.flatMap fun link => .operator link.op :: link.tokens

/-- The first operand with all others folded onto it from the left. -/
def fold (first : Expr) (links : List Link) : Expr :=
  links.foldl (fun left link => .binary link.op left link.tree) first

/-- The greatest nesting of the first operand and all others. -/
def greatest (first : Nat) (links : List Link) : Nat :=
  links.foldl (fun nesting link => max nesting link.nesting) first

@[simp] theorem allTokens_nil : allTokens [] = [] := rfl

@[simp] theorem allTokens_cons (link : Link) (links : List Link) :
    allTokens (link :: links) = .operator link.op :: (link.tokens ++ allTokens links) := rfl

@[simp] theorem fold_nil (first : Expr) : fold first [] = first := rfl

@[simp] theorem fold_cons (first : Expr) (link : Link) (links : List Link) :
    fold first (link :: links) = fold (.binary link.op first link.tree) links := rfl

@[simp] theorem greatest_nil (first : Nat) : greatest first [] = first := rfl

@[simp] theorem greatest_cons (first : Nat) (link : Link) (links : List Link) :
    greatest first (link :: links) = greatest (max first link.nesting) links := rfl

theorem allTokens_concat (links : List Link) (link : Link) :
    allTokens (links ++ [link]) = allTokens links ++ .operator link.op :: link.tokens := by
  simp [allTokens]

theorem fold_concat (first : Expr) (links : List Link) (link : Link) :
    fold first (links ++ [link]) = .binary link.op (fold first links) link.tree := by
  simp [fold]

theorem greatest_concat (first : Nat) (links : List Link) (link : Link) :
    greatest first (links ++ [link]) = max (greatest first links) link.nesting := by
  simp [greatest]

theorem greatest_le_iff {first bound : Nat} {links : List Link} :
    greatest first links ≤ bound ↔ first ≤ bound ∧ ∀ link ∈ links, link.nesting ≤ bound := by
  induction links generalizing first with
  | nil => simp
  | cons link links ih =>
    rw [greatest_cons, ih, Nat.max_le, List.forall_mem_cons, and_assoc]

end Link

/-- The tokens form a phrase of the level. Parentheses leave no node in its tree. -/
inductive Phrase : Phrase.Level → List Token → Expr → Nat → Prop where
  | number (value : Binary64) : Phrase .unary [.number value] (.number value) 0
  | negation {ts : List Token} {tree : Expr} {nesting : Nat}
      (operand : Phrase .unary ts tree nesting) :
      Phrase .unary (.operator .minus :: ts) (.negate tree) (1 + nesting)
  | group {ts : List Token} {tree : Expr} {nesting : Nat}
      (inner : Phrase .expression ts tree nesting) :
      Phrase .unary (.opening :: (ts ++ [.closing])) tree (1 + nesting)
  | term {ts : List Token} {tree : Expr} {nesting : Nat} (links : List Link)
      (first : Phrase .unary ts tree nesting)
      (operators : ∀ link ∈ links, link.op.isAdditive = false)
      (others : ∀ link ∈ links, Phrase .unary link.tokens link.tree link.nesting) :
      Phrase .term (ts ++ Link.allTokens links) (Link.fold tree links)
        (Link.greatest nesting links)
  | expression {ts : List Token} {tree : Expr} {nesting : Nat} (links : List Link)
      (first : Phrase .term ts tree nesting)
      (operators : ∀ link ∈ links, link.op.isAdditive = true)
      (others : ∀ link ∈ links, Phrase .term link.tokens link.tree link.nesting) :
      Phrase .expression (ts ++ Link.allTokens links) (Link.fold tree links)
        (Link.greatest nesting links)

/-- The tokens are a complete expression. -/
def Sentence (ts : List Token) : Prop := ∃ tree nesting, Phrase .expression ts tree nesting

namespace Phrase

variable {ts us : List Token} {tree left right : Expr} {nesting m n : Nat} {level : Level}

theorem ne_nil (h : Phrase level ts tree nesting) : ts ≠ [] := by
  induction h with
  | number | negation | group => exact List.cons_ne_nil _ _
  | term _ _ _ _ ih | expression _ _ _ _ ih => exact fun h => ih (List.append_eq_nil_iff.mp h).1

/-- The rules for both kinds of chains. -/
theorem chain (additive : Bool) {links : List Link}
    (first : Phrase (.operand additive) ts tree nesting)
    (operators : ∀ link ∈ links, link.op.isAdditive = additive)
    (others : ∀ link ∈ links, Phrase (.operand additive) link.tokens link.tree link.nesting) :
    Phrase (.chain additive) (ts ++ Link.allTokens links) (Link.fold tree links)
      (Link.greatest nesting links) := by
  cases additive with
  | true => exact first.expression links operators others
  | false => exact first.term links operators others

theorem exists_links {additive : Bool} (h : Phrase (.chain additive) ts tree nesting) :
    ∃ us first n links, Phrase (.operand additive) us first n ∧
      (∀ link ∈ links, link.op.isAdditive = additive) ∧
      (∀ link ∈ links, Phrase (.operand additive) link.tokens link.tree link.nesting) ∧
      ts = us ++ Link.allTokens links ∧ tree = Link.fold first links ∧
      nesting = Link.greatest n links := by
  cases additive with
  | true =>
    cases h with
    | expression links first operators others =>
      exact ⟨_, _, _, links, first, operators, others, rfl, rfl, rfl⟩
  | false =>
    cases h with
    | term links first operators others =>
      exact ⟨_, _, _, links, first, operators, others, rfl, rfl, rfl⟩

/-- A chain goes on with an operator of its kind and one more operand. -/
theorem extend (op : Operator) (hl : Phrase (.chain op.isAdditive) ts left m)
    (hr : Phrase (.operand op.isAdditive) us right n) :
    Phrase (.chain op.isAdditive) (ts ++ .operator op :: us) (.binary op left right)
      (max m n) := by
  obtain ⟨ts, first, m, links, hfirst, hops, hothers, rfl, rfl, rfl⟩ := hl.exists_links
  let link : Link := ⟨op, us, right, n⟩
  have hops' : ∀ l ∈ links ++ [link], l.op.isAdditive = op.isAdditive :=
    List.forall_mem_append.mpr ⟨hops, by simp [link]⟩
  have hothers' : ∀ l ∈ links ++ [link], Phrase (.operand op.isAdditive) l.tokens l.tree l.nesting :=
    List.forall_mem_append.mpr ⟨hothers, by simpa [link] using hr⟩
  have hchain := hfirst.chain op.isAdditive hops' hothers'
  rwa [Link.allTokens_concat, Link.fold_concat, Link.greatest_concat, ← List.append_assoc] at hchain

/-- A single operand is a chain without links. -/
theorem toTerm (h : Phrase .unary ts tree nesting) : Phrase .term ts tree nesting := by
  simpa using h.term [] (by simp) (by simp)

theorem toExpression (h : Phrase .term ts tree nesting) : Phrase .expression ts tree nesting := by
  simpa using h.expression [] (by simp) (by simp)

theorem toChain {additive : Bool} (h : Phrase (.operand additive) ts tree nesting) :
    Phrase (.chain additive) ts tree nesting := by
  cases additive with
  | true => exact h.toExpression
  | false => exact h.toTerm

/-- An operator between two operands of the tightest level. -/
theorem binary (op : Operator) (hl : Phrase .unary ts left m) (hr : Phrase .unary us right n) :
    Phrase .expression (ts ++ .operator op :: us) (.binary op left right) (max m n) := by
  cases hop : op.isAdditive with
  | true =>
    simpa using hl.toTerm.expression [⟨op, us, right, n⟩] (by simpa using hop)
      (by simpa using hr.toTerm)
  | false =>
    have h := hl.term [⟨op, us, right, n⟩] (by simpa using hop) (by simpa using hr)
    simpa using h.toExpression

end Phrase
end Reckoner
