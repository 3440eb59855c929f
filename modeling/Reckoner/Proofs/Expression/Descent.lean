import Reckoner.Proofs.Expression.Phrase
import Reckoner.Proofs.Outcome

/-!
One step of each part of the descent, told by the lexeme under the cursor, and the induction over
all parts at once.
-/
namespace Reckoner

/-- The part of the descent for phrases of the level. -/
def Phrase.Level.parse (limit : Nat) : Level → (c : Cursor) → Except GrammarError (Parsed c)
  | expression => Cursor.expression limit
  | term => Cursor.term limit
  | unary => Cursor.unary limit

namespace Cursor

open Phrase (Level)

variable {limit depth openGroups pos : Nat} {rest : List Lexeme} {start : Cursor}

theorem unary_minus_of_le (h : limit ≤ depth) :
    unary limit ⟨⟨.operator .minus, pos⟩ :: rest, depth, openGroups⟩ =
      .error (.tooComplex limit) := by
  rw [unary]
  simp [h]

/-- What becomes of a negation when its operand has been read. -/
def negated (operand : Parsed ⟨rest, depth + 1, openGroups⟩) :
    Parsed ⟨⟨.operator .minus, pos⟩ :: rest, depth, openGroups⟩ :=
  ⟨.negate operand.tree, { operand.cursor with depth := operand.cursor.depth - 1 },
    Nat.lt_succ_of_lt operand.shorter⟩

theorem unary_minus_of_lt (h : depth < limit) :
    unary limit ⟨⟨.operator .minus, pos⟩ :: rest, depth, openGroups⟩ =
      (unary limit ⟨rest, depth + 1, openGroups⟩).map negated := by
  rw [unary]
  simp [Nat.not_le.mpr h]
  rfl

theorem unary_eq_primary {c : Cursor}
    (h : ∀ pos after, c.rest = ⟨.operator .minus, pos⟩ :: after → False) :
    unary limit c = primary limit c := by
  rw [unary]
  split
  case h_1 hrest => exact (h _ _ hrest).elim
  case h_2 => rfl

theorem primary_number (value : Binary64) :
    primary limit ⟨⟨.number value, pos⟩ :: rest, depth, openGroups⟩ =
      .ok ⟨.number value, ⟨rest, depth, openGroups⟩, Nat.lt_succ_self _⟩ := by
  rw [primary]

theorem primary_opening_of_le (h : limit ≤ depth) :
    primary limit ⟨⟨.opening, pos⟩ :: rest, depth, openGroups⟩ = .error (.tooComplex limit) := by
  rw [primary]
  simp [h]

/-- What becomes of a group when its inside has been read. -/
def closeGroup (inner : Parsed ⟨rest, depth + 1, openGroups + 1⟩) :
    Except GrammarError (Parsed ⟨⟨.opening, pos⟩ :: rest, depth, openGroups⟩) :=
  match h : inner.cursor.rest with
  | ⟨.closing, _⟩ :: after =>
    .ok ⟨inner.tree, ⟨after, inner.cursor.depth - 1, inner.cursor.openGroups - 1⟩, by
      have := inner.shorter; simp_all; omega⟩
  | lexeme :: _ => .error (.unexpectedToken lexeme)
  | [] => .error .unbalancedParentheses

theorem primary_opening_of_lt (h : depth < limit) :
    primary limit ⟨⟨.opening, pos⟩ :: rest, depth, openGroups⟩ =
      (expression limit ⟨rest, depth + 1, openGroups + 1⟩).bind closeGroup := by
  rw [primary]
  simp [Nat.not_le.mpr h]
  rfl

theorem closeGroup_closing {tree : Expr} {after : List Lexeme} {pos' d o : Nat} {hs} :
    (closeGroup ⟨tree, ⟨⟨.closing, pos'⟩ :: after, d + 1, o + 1⟩, hs⟩ :
        Except GrammarError (Parsed ⟨⟨.opening, pos⟩ :: rest, depth, openGroups⟩)) =
      .ok ⟨tree, ⟨after, d, o⟩, Nat.lt_succ_of_lt (Nat.lt_of_succ_lt hs)⟩ := rfl

theorem closeGroup_other {tree : Expr} {lexeme : Lexeme} {after : List Lexeme} {d o : Nat} {hs}
    (h : lexeme.token ≠ .closing) :
    (closeGroup ⟨tree, ⟨lexeme :: after, d, o⟩, hs⟩ :
        Except GrammarError (Parsed ⟨⟨.opening, pos⟩ :: rest, depth, openGroups⟩)) =
      .error (.unexpectedToken lexeme) := by
  obtain ⟨token, pos'⟩ := lexeme
  cases token with
  | closing => exact absurd rfl h
  | number | operator | opening => rfl

theorem counters_of_closeGroup {inner : Parsed ⟨rest, depth + 1, openGroups + 1⟩}
    {p : Parsed ⟨⟨.opening, pos⟩ :: rest, depth, openGroups⟩} (h : closeGroup inner = .ok p) :
    p.cursor.depth = inner.cursor.depth - 1 ∧
      p.cursor.openGroups = inner.cursor.openGroups - 1 := by
  unfold closeGroup at h
  split at h
  · obtain rfl := Except.ok.inj h
    exact ⟨rfl, rfl⟩
  · contradiction
  · contradiction

theorem primary_closing :
    primary limit ⟨⟨.closing, pos⟩ :: rest, depth, openGroups⟩ =
      .error (if openGroups = 0 then .unbalancedParentheses
        else .unexpectedToken ⟨.closing, pos⟩) := by
  rw [primary]
  by_cases h : openGroups = 0 <;> simp [h]

theorem primary_operator (op : Operator) :
    primary limit ⟨⟨.operator op, pos⟩ :: rest, depth, openGroups⟩ =
      .error (.unexpectedToken ⟨.operator op, pos⟩) := by
  rw [primary]

theorem primary_nil :
    primary limit ⟨[], depth, openGroups⟩ =
      .error (if 0 < openGroups then .unbalancedParentheses else .unexpectedEnd) := by
  rw [primary]
  rfl

/-- The loop that folds operands onto a tree, for either kind of chain. -/
def loop (limit : Nat) : Bool → Parsed start → Except GrammarError (Parsed start)
  | true => sums limit
  | false => products limit

theorem parse_chain (limit : Nat) (additive : Bool) (c : Cursor) :
    (Level.chain additive).parse limit c =
      ((Level.operand additive).parse limit c).bind (loop limit additive) := by
  cases additive with
  | true => exact Cursor.expression.eq_1 limit c
  | false => exact Cursor.term.eq_1 limit c

/-- The loop goes on at an operator of its kind. -/
theorem loop_operator {left : Expr} {op : Operator} {hs} {additive : Bool}
    (hop : op.isAdditive = additive) :
    loop limit additive
        (⟨left, ⟨⟨.operator op, pos⟩ :: rest, depth, openGroups⟩, hs⟩ : Parsed start) =
      ((Level.operand additive).parse limit ⟨rest, depth, openGroups⟩).bind fun right =>
        loop limit additive ⟨.binary op left right.tree, right.cursor,
          Nat.lt_trans right.shorter (Nat.lt_of_succ_lt hs)⟩ := by
  cases additive with
  | true =>
    rw [loop, sums]
    simp [hop]
    rfl
  | false =>
    rw [loop, products]
    simp [hop]
    rfl

/-- The loop ends where no operator of its kind follows. -/
theorem loop_stop {left : Parsed start} {additive : Bool} (h : ∀ op pos rest,
    left.cursor.rest = ⟨.operator op, pos⟩ :: rest → op.isAdditive ≠ additive) :
    loop limit additive left = .ok left := by
  cases additive with
  | true =>
    rw [loop, sums]
    split
    case h_1 hrest => simp [h _ _ _ hrest]
    case h_2 => rfl
  | false =>
    rw [loop, products]
    split
    case h_1 hrest => simp [h _ _ _ hrest]
    case h_2 => rfl

/-- Induction over the descent: what holds of each step from what holds of the steps below it holds
of the whole. `atLevel` speaks about the three levels and `inLoop` about the loops of both kinds. -/
theorem descent_induct {limit : Nat}
    (atLevel : Level → (c : Cursor) → Except GrammarError (Parsed c) → Prop)
    (inLoop : (additive : Bool) → {start : Cursor} → Parsed start →
      Except GrammarError (Parsed start) → Prop)
    (chain : ∀ additive c,
      atLevel (.operand additive) c ((Level.operand additive).parse limit c) →
      (∀ first : Parsed c, inLoop additive first (loop limit additive first)) →
      atLevel (.chain additive) c
        (((Level.operand additive).parse limit c).bind (loop limit additive)))
    (link : ∀ {start : Cursor} {left : Expr} {op : Operator} {pos depth openGroups : Nat}
      {rest : List Lexeme} {hs} (additive : Bool), op.isAdditive = additive →
      atLevel (.operand additive) ⟨rest, depth, openGroups⟩
        ((Level.operand additive).parse limit ⟨rest, depth, openGroups⟩) →
      (∀ (right : Parsed ⟨rest, depth, openGroups⟩) (hr),
        inLoop additive (⟨.binary op left right.tree, right.cursor, hr⟩ : Parsed start)
          (loop limit additive ⟨.binary op left right.tree, right.cursor, hr⟩)) →
      inLoop additive
        (⟨left, ⟨⟨.operator op, pos⟩ :: rest, depth, openGroups⟩, hs⟩ : Parsed start)
        (((Level.operand additive).parse limit ⟨rest, depth, openGroups⟩).bind fun right =>
          loop limit additive ⟨.binary op left right.tree, right.cursor,
            Nat.lt_trans right.shorter (Nat.lt_of_succ_lt hs)⟩))
    (stop : ∀ (additive : Bool) {start : Cursor} (left : Parsed start),
      (∀ op pos rest, left.cursor.rest = ⟨.operator op, pos⟩ :: rest →
        op.isAdditive ≠ additive) →
      inLoop additive left (.ok left))
    (negation : ∀ {pos depth openGroups : Nat} {rest : List Lexeme}, depth < limit →
      atLevel .unary ⟨rest, depth + 1, openGroups⟩ (unary limit ⟨rest, depth + 1, openGroups⟩) →
      atLevel .unary ⟨⟨.operator .minus, pos⟩ :: rest, depth, openGroups⟩
        ((unary limit ⟨rest, depth + 1, openGroups⟩).map negated))
    (negation_beyond : ∀ {pos depth openGroups : Nat} {rest : List Lexeme}, limit ≤ depth →
      atLevel .unary ⟨⟨.operator .minus, pos⟩ :: rest, depth, openGroups⟩
        (.error (.tooComplex limit)))
    (number : ∀ {value : Binary64} {pos depth openGroups : Nat} {rest : List Lexeme},
      atLevel .unary ⟨⟨.number value, pos⟩ :: rest, depth, openGroups⟩
        (.ok ⟨.number value, ⟨rest, depth, openGroups⟩, Nat.lt_succ_self _⟩))
    (group : ∀ {pos depth openGroups : Nat} {rest : List Lexeme}, depth < limit →
      atLevel .expression ⟨rest, depth + 1, openGroups + 1⟩
        (expression limit ⟨rest, depth + 1, openGroups + 1⟩) →
      atLevel .unary ⟨⟨.opening, pos⟩ :: rest, depth, openGroups⟩
        ((expression limit ⟨rest, depth + 1, openGroups + 1⟩).bind closeGroup))
    (group_beyond : ∀ {pos depth openGroups : Nat} {rest : List Lexeme}, limit ≤ depth →
      atLevel .unary ⟨⟨.opening, pos⟩ :: rest, depth, openGroups⟩ (.error (.tooComplex limit)))
    (closing : ∀ {pos depth openGroups : Nat} {rest : List Lexeme},
      atLevel .unary ⟨⟨.closing, pos⟩ :: rest, depth, openGroups⟩
        (.error (if openGroups = 0 then .unbalancedParentheses
          else .unexpectedToken ⟨.closing, pos⟩)))
    (operator : ∀ {op : Operator} {pos depth openGroups : Nat} {rest : List Lexeme}, op ≠ .minus →
      atLevel .unary ⟨⟨.operator op, pos⟩ :: rest, depth, openGroups⟩
        (.error (.unexpectedToken ⟨.operator op, pos⟩)))
    (nil : ∀ {depth openGroups : Nat}, atLevel .unary ⟨[], depth, openGroups⟩
      (.error (if 0 < openGroups then .unbalancedParentheses else .unexpectedEnd)))
    (level : Level) (c : Cursor) : atLevel level c (level.parse limit c) := by
  -- The loops stop at an operator of the other kind as well as where none follows.
  have hstop (additive : Bool) {start : Cursor} (left : Parsed start)
      (h : ∀ op pos rest, left.cursor.rest = ⟨.operator op, pos⟩ :: rest →
        op.isAdditive ≠ additive) : inLoop additive left (loop limit additive left) := by
    rw [loop_stop h]
    exact stop additive left h
  have hall := expression.mutual_induct limit (fun c => atLevel .expression c (c.expression limit))
    (fun _ left => inLoop true left (sums limit left))
    (fun c => atLevel .term c (c.term limit))
    (fun _ left => inLoop false left (products limit left))
    (fun c => atLevel .unary c (c.unary limit))
    (fun c => (∀ pos after, c.rest = ⟨.operator .minus, pos⟩ :: after → False) →
      atLevel .unary c (c.primary limit))
    ?expression ?sum ?sumsOther ?sumsEnd ?term ?productsOther ?product ?productsEnd
    ?minusBeyond ?minus ?primary ?nil ?number ?openingBeyond ?opening ?closing ?closingInGroup
    ?operator
  · obtain ⟨hexpression, -, hterm, -, hunary, -⟩ := hall
    cases level with
    | expression => exact hexpression c
    | term => exact hterm c
    | unary => exact hunary c
  case expression =>
    intro c hfirst hloop
    have h := chain true c hfirst hloop
    rwa [← parse_chain] at h
  case term =>
    intro c hfirst hloop
    have h := chain false c hfirst hloop
    rwa [← parse_chain] at h
  case sum =>
    rintro start ⟨left, ⟨rest', depth, openGroups⟩, hs⟩ op pos rest hrest hop hterm hloop
    obtain rfl : rest' = ⟨.operator op, pos⟩ :: rest := hrest
    show inLoop true _ (loop limit true _)
    rw [loop_operator hop]
    exact link true hop hterm fun right _ => hloop right
  case product =>
    rintro start ⟨left, ⟨rest', depth, openGroups⟩, hs⟩ op pos rest hrest hop hunary hloop
    obtain rfl : rest' = ⟨.operator op, pos⟩ :: rest := hrest
    have hop : op.isAdditive = false := Bool.eq_false_iff.mpr hop
    show inLoop false _ (loop limit false _)
    rw [loop_operator hop]
    exact link false hop hunary fun right _ => hloop right
  case sumsOther =>
    intro start left op pos rest hrest hop
    refine hstop true left fun op' pos' rest' hrest' => ?_
    cases hrest.symm.trans hrest'
    exact hop
  case productsOther =>
    intro start left op pos rest hrest hop
    refine hstop false left fun op' pos' rest' hrest' => ?_
    cases hrest.symm.trans hrest'
    exact Bool.ne_false_iff.mpr hop
  case sumsEnd =>
    intro start left hrest
    exact hstop true left fun op pos rest h => (hrest op pos rest h).elim
  case productsEnd =>
    intro start left hrest
    exact hstop false left fun op pos rest h => (hrest op pos rest h).elim
  case minusBeyond =>
    rintro ⟨rest', depth, openGroups⟩ pos rest hrest hle
    obtain rfl : rest' = ⟨.operator .minus, pos⟩ :: rest := hrest
    rw [unary_minus_of_le hle]
    exact negation_beyond hle
  case minus =>
    rintro ⟨rest', depth, openGroups⟩ pos rest hrest hlt ih
    obtain rfl : rest' = ⟨.operator .minus, pos⟩ :: rest := hrest
    rw [unary_minus_of_lt (Nat.not_le.mp hlt)]
    exact negation (Nat.not_le.mp hlt) ih
  case primary =>
    intro c hrest ih
    rw [unary_eq_primary hrest]
    exact ih hrest
  case nil =>
    rintro ⟨rest', depth, openGroups⟩ hrest -
    obtain rfl : rest' = [] := hrest
    rw [primary_nil]
    exact nil
  case number =>
    rintro ⟨rest', depth, openGroups⟩ value pos rest hrest -
    obtain rfl : rest' = ⟨.number value, pos⟩ :: rest := hrest
    rw [primary_number]
    exact number
  case openingBeyond =>
    rintro ⟨rest', depth, openGroups⟩ pos rest hrest hle -
    obtain rfl : rest' = ⟨.opening, pos⟩ :: rest := hrest
    rw [primary_opening_of_le hle]
    exact group_beyond hle
  case opening =>
    rintro ⟨rest', depth, openGroups⟩ pos rest hrest hlt ih -
    obtain rfl : rest' = ⟨.opening, pos⟩ :: rest := hrest
    rw [primary_opening_of_lt (Nat.not_le.mp hlt)]
    exact group (Nat.not_le.mp hlt) ih
  case closing | closingInGroup =>
    rintro ⟨rest', depth, openGroups⟩ pos rest hrest _ -
    obtain rfl : rest' = ⟨.closing, pos⟩ :: rest := hrest
    rw [primary_closing]
    exact closing
  case operator =>
    rintro ⟨rest', depth, openGroups⟩ ⟨token, pos⟩ rest hnumber hopening hclosing hrest hminus
    obtain rfl : rest' = ⟨token, pos⟩ :: rest := hrest
    cases token with
    | number value => exact (hnumber value pos rfl).elim
    | opening => exact (hopening pos rfl).elim
    | closing => exact (hclosing pos rfl).elim
    | operator op =>
      rw [primary_operator]
      refine operator ?_
      rintro rfl
      exact hminus pos rest rfl

/-- Both counters are behind a phrase what they were in front of it. -/
theorem counters_of_parse (level : Level) (c : Cursor) {p : Parsed c}
    (h : level.parse limit c = .ok p) :
    p.cursor.depth = c.depth ∧ p.cursor.openGroups = c.openGroups := by
  refine descent_induct
    (fun _ c r => ∀ p, r = .ok p →
      p.cursor.depth = c.depth ∧ p.cursor.openGroups = c.openGroups)
    (fun _ _ left r => ∀ p, r = .ok p →
      p.cursor.depth = left.cursor.depth ∧ p.cursor.openGroups = left.cursor.openGroups)
    ?chain ?link ?stop ?negation ?negationBeyond ?number ?group ?groupBeyond ?closing ?operator
    ?nil level c p h
  case chain =>
    intro additive c hfirst hloop p h
    obtain ⟨first, hf, hp⟩ := bind_eq_ok_iff.mp h
    obtain ⟨hd, ho⟩ := hfirst first hf
    obtain ⟨hd', ho'⟩ := hloop first p hp
    exact ⟨hd'.trans hd, ho'.trans ho⟩
  case link =>
    intro start left op pos depth openGroups rest hs additive hop hoperand hloop p h
    obtain ⟨right, hr, hp⟩ := bind_eq_ok_iff.mp h
    obtain ⟨hd, ho⟩ := hoperand right hr
    obtain ⟨hd', ho'⟩ := hloop right _ p hp
    exact ⟨hd'.trans hd, ho'.trans ho⟩
  case stop =>
    intro additive start left _ p h
    obtain rfl := Except.ok.inj h
    exact ⟨rfl, rfl⟩
  case negation =>
    intro pos depth openGroups rest hlt hoperand p h
    obtain ⟨operand, hop, rfl⟩ := map_eq_ok_iff.mp h
    obtain ⟨hd, ho⟩ := hoperand operand hop
    exact ⟨by simp [negated, hd], ho⟩
  case number =>
    intro value pos depth openGroups rest p h
    obtain rfl := Except.ok.inj h
    exact ⟨rfl, rfl⟩
  case group =>
    intro pos depth openGroups rest hlt hinside p h
    obtain ⟨inner, hinner, hclose⟩ := bind_eq_ok_iff.mp h
    obtain ⟨hd, ho⟩ := hinside inner hinner
    obtain ⟨hd', ho'⟩ := counters_of_closeGroup hclose
    exact ⟨by simp [hd', hd], by simp [ho', ho]⟩
  case negationBeyond | groupBeyond | closing | operator | nil =>
    intros
    contradiction

end Cursor
end Reckoner
