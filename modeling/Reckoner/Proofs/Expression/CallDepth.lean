import Reckoner.Proofs.Counted
import Reckoner.Proofs.Expression.Evaluation
import Reckoner.Proofs.Expression.Reading

/-!
How deep calls nest while a tree is read and while it is evaluated. Both walks are repeated with
a count; they give what the plain ones give, and the count depends on the nesting alone, not on the
number of lexemes or nodes.
-/
namespace Reckoner

/-! Reading. -/

/-- How many calls lead from a phrase of the level to the number or the group in front. -/
def Phrase.Level.descents : Level → Nat
  | expression => 4
  | term => 3
  | unary => 2

namespace Cursor

open Phrase (Level)

mutual

/-- The call that reads a phrase of the level. -/
def parseCounted (limit : Nat) : (level : Level) → (c : Cursor) → Counted GrammarError (Parsed c)
  | .expression, c =>
    .call ((parseCounted limit .term c).bind fun first => loopCounted limit true first)
  | .term, c =>
    .call ((parseCounted limit .unary c).bind fun first => loopCounted limit false first)
  | .unary, ⟨⟨.operator .minus, _⟩ :: rest, depth, openGroups⟩ =>
    .call (if limit ≤ depth then .plain (.error (.tooComplex limit))
      else (parseCounted limit .unary ⟨rest, depth + 1, openGroups⟩).bind fun operand =>
        .plain (.ok (negated operand)))
  | .unary, c => .call (primaryCounted limit c)
termination_by level c => (c.rest.length, level.descents)
decreasing_by
  · exact Prod.Lex.right _ (by decide)
  · exact Prod.Lex.left _ _ first.shorter
  · exact Prod.Lex.right _ (by decide)
  · exact Prod.Lex.left _ _ first.shorter
  · exact Prod.Lex.left _ _ (by simp)
  · exact Prod.Lex.right _ (by decide)

/-- The loop that folds operands onto a tree. It calls for each operand, and not for itself. -/
def loopCounted {start : Cursor} (limit : Nat) (additive : Bool) (left : Parsed start) :
    Counted GrammarError (Parsed start) :=
  match h : left.cursor.rest with
  | ⟨.operator op, _⟩ :: rest =>
    if op.isAdditive = additive then
      (parseCounted limit (.operand additive)
          ⟨rest, left.cursor.depth, left.cursor.openGroups⟩).bind fun right =>
        loopCounted limit additive ⟨.binary op left.tree right.tree, right.cursor, by
          have := left.shorter; have := right.shorter; simp_all; omega⟩
    else .plain (.ok left)
  | _ => .plain (.ok left)
termination_by (left.cursor.rest.length, 0)
decreasing_by
  · exact Prod.Lex.left _ _ (by simp [h])
  · exact Prod.Lex.left _ _ (by have := right.shorter; simp_all; omega)

/-- The call that reads a number or a group. -/
def primaryCounted (limit : Nat) : (c : Cursor) → Counted GrammarError (Parsed c)
  | ⟨⟨.opening, _⟩ :: rest, depth, openGroups⟩ =>
    .call (if limit ≤ depth then .plain (.error (.tooComplex limit))
      else (parseCounted limit .expression ⟨rest, depth + 1, openGroups + 1⟩).bind fun inner =>
        .plain (closeGroup inner))
  | c => .call (.plain (primary limit c))
termination_by c => (c.rest.length, 0)
decreasing_by exact Prod.Lex.left _ _ (by simp)

end


variable {limit depth openGroups pos : Nat} {rest : List Lexeme} {start : Cursor}

theorem parseCounted_chain (additive : Bool) (c : Cursor) :
    parseCounted limit (.chain additive) c =
      .call ((parseCounted limit (.operand additive) c).bind (loopCounted limit additive)) := by
  cases additive with
  | true => exact parseCounted.eq_1 limit c
  | false => exact parseCounted.eq_2 limit c

theorem parseCounted_minus :
    parseCounted limit .unary ⟨⟨.operator .minus, pos⟩ :: rest, depth, openGroups⟩ =
      .call (if limit ≤ depth then .plain (.error (.tooComplex limit))
        else (parseCounted limit .unary ⟨rest, depth + 1, openGroups⟩).bind fun operand =>
          .plain (.ok (negated operand))) := by
  rw [parseCounted]

theorem parseCounted_unary {c : Cursor}
    (h : ∀ pos after, c.rest = ⟨.operator .minus, pos⟩ :: after → False) :
    parseCounted limit .unary c = .call (primaryCounted limit c) := by
  rw [parseCounted]
  rintro pos rest depth openGroups rfl
  exact h pos rest rfl

theorem primaryCounted_opening :
    primaryCounted limit ⟨⟨.opening, pos⟩ :: rest, depth, openGroups⟩ =
      .call (if limit ≤ depth then .plain (.error (.tooComplex limit))
        else (parseCounted limit .expression ⟨rest, depth + 1, openGroups + 1⟩).bind fun inner =>
          .plain (closeGroup inner)) := by
  rw [primaryCounted]

theorem primaryCounted_other {c : Cursor}
    (h : ∀ pos after, c.rest = ⟨.opening, pos⟩ :: after → False) :
    primaryCounted limit c = .call (.plain (primary limit c)) := by
  rw [primaryCounted]
  rintro pos rest depth openGroups rfl
  exact h pos rest rfl

theorem loopCounted_operator {left : Expr} {op : Operator} {hs} {additive : Bool}
    (hop : op.isAdditive = additive) :
    loopCounted limit additive
        (⟨left, ⟨⟨.operator op, pos⟩ :: rest, depth, openGroups⟩, hs⟩ : Parsed start) =
      (parseCounted limit (.operand additive) ⟨rest, depth, openGroups⟩).bind fun right =>
        loopCounted limit additive ⟨.binary op left right.tree, right.cursor,
          Nat.lt_trans right.shorter (Nat.lt_of_succ_lt hs)⟩ := by
  rw [loopCounted]
  simp [hop]

theorem loopCounted_stop {left : Parsed start} {additive : Bool} (h : ∀ op pos rest,
    left.cursor.rest = ⟨.operator op, pos⟩ :: rest → op.isAdditive ≠ additive) :
    loopCounted limit additive left = .plain (.ok left) := by
  rw [loopCounted]
  split
  case h_1 hrest => simp [h _ _ _ hrest]
  case h_2 => rfl

/-- The counted descent gives what the plain one gives. Each group and each sign within the limit
opens at most four more calls. -/
theorem parseCounted_meets (level : Level) (c : Cursor) :
    (parseCounted limit level c).Meets (level.parse limit c)
      (4 * (limit - c.depth) + level.descents) := by
  refine descent_induct
    (fun level c r =>
      (parseCounted limit level c).Meets r (4 * (limit - c.depth) + level.descents))
    (fun additive _ left r => (loopCounted limit additive left).Meets r
      (4 * (limit - left.cursor.depth) + (Level.operand additive).descents))
    ?chain ?link ?stop ?negation ?negationBeyond ?number ?group ?groupBeyond ?closing ?operator
    ?nil level c
  case chain =>
    intro additive c hfirst hloop
    have hbelow : (Level.chain additive).descents = (Level.operand additive).descents + 1 := by
      cases additive <;> rfl
    rw [parseCounted_chain, hbelow, ← Nat.add_assoc]
    refine (hfirst.bind fun first hf => ?_).call
    -- The loop begins as deep as the chain does.
    have hdepth := (counters_of_parse _ c hf).1
    have hmeets := hloop first
    rwa [hdepth] at hmeets
  case link =>
    intro start left op pos depth openGroups rest hs additive hop hoperand hloop
    rw [loopCounted_operator hop]
    refine hoperand.bind fun right hr => ?_
    have hdepth := (counters_of_parse _ _ hr).1
    have hmeets := hloop right (Nat.lt_trans right.shorter (Nat.lt_of_succ_lt hs))
    rwa [hdepth] at hmeets
  case stop =>
    intro additive start left hstop
    rw [loopCounted_stop hstop]
    exact .plain _ _
  case negation =>
    intro pos depth openGroups rest hlt hoperand
    rw [parseCounted_minus, if_neg (Nat.not_le.mpr hlt)]
    refine (hoperand.map negated).call.mono ?_
    simp only [Level.descents]
    omega
  case group =>
    intro pos depth openGroups rest hlt hinside
    rw [parseCounted_unary (by simp), primaryCounted_opening, if_neg (Nat.not_le.mpr hlt)]
    refine (hinside.bind fun inner _ => .plain (closeGroup inner) _).call.call.mono ?_
    simp only [Level.descents]
    omega
  case negationBeyond =>
    intro pos depth openGroups rest hle
    rw [parseCounted_minus, if_pos hle]
    exact (Counted.Meets.plain _ _).call
  case groupBeyond =>
    intro pos depth openGroups rest hle
    rw [parseCounted_unary (by simp), primaryCounted_opening, if_pos hle]
    exact (Counted.Meets.plain _ _).call.call
  case number =>
    intro value pos depth openGroups rest
    rw [parseCounted_unary (by simp), primaryCounted_other (by simp), primary_number]
    exact (Counted.Meets.plain _ _).call.call
  case closing =>
    intro pos depth openGroups rest
    rw [parseCounted_unary (by simp), primaryCounted_other (by simp), primary_closing]
    exact (Counted.Meets.plain _ _).call.call
  case operator =>
    intro op pos depth openGroups rest hop
    rw [parseCounted_unary (by simp [hop]), primaryCounted_other (by simp), primary_operator]
    exact (Counted.Meets.plain _ _).call.call
  case nil =>
    intro depth openGroups
    rw [parseCounted_unary (by simp), primaryCounted_other (by simp), primary_nil]
    exact (Counted.Meets.plain _ _).call.call

end Cursor

namespace Expr

/-- The tree of a complete sequence of lexemes, with the count of the calls that read it. -/
def ofLexemesCounted (lexemes : List Lexeme) (limit : Nat) : Counted GrammarError Expr :=
  match lexemes with
  | [] => .plain (.error .empty)
  | _ => (Cursor.parseCounted limit .expression ⟨lexemes, 0, 0⟩).bind fun parsed =>
      .plain parsed.complete

theorem ofLexemesCounted_meets (lexemes : List Lexeme) (limit : Nat) :
    (ofLexemesCounted lexemes limit).Meets (ofLexemes lexemes limit) (4 * (limit + 1)) := by
  cases lexemes with
  | nil => exact .plain _ _
  | cons lexeme rest =>
    rw [ofLexemes_eq_bind (List.cons_ne_nil lexeme rest)]
    exact (Cursor.parseCounted_meets .expression _).bind fun parsed _ => .plain parsed.complete _

theorem calls_parseCounted_le {lexemes : List Lexeme} {limit : Nat} (h : lexemes ≠ []) :
    (Cursor.parseCounted limit .expression ⟨lexemes, 0, 0⟩).calls ≤
      (ofLexemesCounted lexemes limit).calls := by
  cases lexemes with
  | nil => contradiction
  | cons lexeme rest => exact Counted.calls_le_bind

/-! Evaluating. -/

mutual

/-- The call that evaluates the tree. -/
def evaluateCounted (e : Expr) : Counted ArithmeticError Binary64 := .call (e.spineCounted [])
termination_by (e.weight, 1)
decreasing_by simp [pendingWeight, Prod.Lex.right]

/-- The walk down the left spine. It calls for the operand of the negation at its bottom. -/
def spineCounted (e : Expr) (pending : List (Operator × Expr)) :
    Counted ArithmeticError Binary64 :=
  match e with
  | binary op left right => left.spineCounted ((op, right) :: pending)
  | number value => (Counted.plain value.finite).bind fun x => pendingCounted x pending
  | negate operand => operand.evaluateCounted.bind fun x => pendingCounted x.neg pending
termination_by (e.weight + pendingWeight pending, 0)
decreasing_by all_goals exact Prod.Lex.left _ _ (by simp only [weight, pendingWeight]; omega)

/-- The way back. It calls for each right operand along the spine. -/
def pendingCounted (x : Binary64) (pending : List (Operator × Expr)) :
    Counted ArithmeticError Binary64 :=
  match pending with
  | [] => .plain (.ok x)
  | (op, right) :: rest =>
    right.evaluateCounted.bind fun y => (Counted.plain (op.apply x y)).bind fun z =>
      pendingCounted z rest
termination_by (pendingWeight pending, 0)
decreasing_by all_goals exact Prod.Lex.left _ _ (by simp only [pendingWeight]; omega)

end

/-- The longest chain of calls below the one that walks down the left spine. -/
def spineCalls : Expr → Nat
  | number _ => 0
  | negate operand => operand.spineCalls + 1
  | binary _ left right => max left.spineCalls (right.spineCalls + 1)

/-- The longest chain of calls below the one that applies the operators that wait. -/
def pendingCalls : List (Operator × Expr) → Nat
  | [] => 0
  | (_, right) :: rest => max (right.spineCalls + 1) (pendingCalls rest)

variable {e : Expr}

theorem evaluateCounted_meets (e : Expr) :
    e.evaluateCounted.Meets e.evaluate (e.spineCalls + 1) := by
  refine evaluateCounted.induct
    (fun e => e.evaluateCounted.Meets e.evaluate (e.spineCalls + 1))
    (fun e pending => (e.spineCounted pending).Meets (e.evaluateSpine pending)
      (max e.spineCalls (pendingCalls pending)))
    (fun x pending => (pendingCounted x pending).Meets (evaluatePending x pending)
      (pendingCalls pending))
    ?tree ?binary ?number ?negate ?nil ?cons e
  case tree =>
    intro e hspine
    rw [evaluateCounted]
    exact (hspine.mono (by simp [pendingCalls])).call
  case binary =>
    intro pending op left right hleft
    rw [spineCounted, evaluateSpine_binary]
    exact hleft.mono (by simp only [spineCalls, pendingCalls]; omega)
  case number =>
    intro pending value hpending
    rw [spineCounted, evaluateSpine_number]
    exact (Counted.Meets.plain _ _).bind fun x _ =>
      (hpending x).mono (by simp only [spineCalls]; omega)
  case negate =>
    intro pending operand hoperand hpending
    rw [spineCounted, evaluateSpine_negate]
    exact (hoperand.mono (by simp only [spineCalls]; omega)).bind fun x _ =>
      (hpending x).mono (by omega)
  case nil =>
    intro x
    rw [pendingCounted, evaluatePending_nil]
    exact .plain _ _
  case cons =>
    intro x op right rest hright hrest
    rw [pendingCounted, evaluatePending_cons]
    exact (hright.mono (by simp only [pendingCalls]; omega)).bind fun y _ =>
      (Counted.Meets.plain _ _).bind fun z _ =>
        (hrest z).mono (by simp only [pendingCalls]; omega)

end Expr

/-! Both together: the nesting of a phrase bounds the calls that evaluate its tree. -/

/-- How many chains of operators may stand between a phrase of the level and the next group or
sign. -/
def Phrase.Level.chains : Level → Nat
  | expression => 2
  | term => 1
  | unary => 0

theorem Link.spineCalls_fold_le {first n : Nat} {tree : Expr} {links : List Link}
    (hfirst : tree.spineCalls ≤ 2 * first + (n + 1))
    (hlinks : ∀ link ∈ links, link.tree.spineCalls ≤ 2 * link.nesting + n) :
    (Link.fold tree links).spineCalls ≤ 2 * Link.greatest first links + (n + 1) := by
  induction links generalizing first tree with
  | nil => exact hfirst
  | cons link links ih =>
    obtain ⟨hlink, hrest⟩ := List.forall_mem_cons.mp hlinks
    refine ih ?_ hrest
    simp only [Expr.spineCalls]
    omega

theorem Phrase.spineCalls_le {level : Level} {ts : List Token} {tree : Expr} {nesting : Nat}
    (h : Phrase level ts tree nesting) : tree.spineCalls ≤ 2 * nesting + level.chains := by
  induction h with
  | number value => exact Nat.le_refl 0
  | negation _ ih =>
    simp only [Expr.spineCalls, Level.chains] at ih ⊢
    omega
  | group _ ih =>
    simp only [Level.chains] at ih ⊢
    omega
  | term links _ _ _ hfirst hothers =>
    exact Link.spineCalls_fold_le (Nat.le_succ_of_le hfirst) hothers
  | expression links _ _ _ hfirst hothers =>
    exact Link.spineCalls_fold_le (Nat.le_succ_of_le hfirst) hothers

/-- Reading never nests more than four calls for each level of nesting that the limit permits and
four for the outermost one, whether it ends with a tree or not. Evaluating a tree that was read
nests at most two calls for each such level and three more. Neither depends on how many lexemes
there are. -/
theorem calls_le_of_limit (lexemes : List Lexeme) (limit : Nat) :
    (Expr.ofLexemesCounted lexemes limit).outcome = Expr.ofLexemes lexemes limit ∧
    (Expr.ofLexemesCounted lexemes limit).calls ≤ 4 * (limit + 1) ∧
    ∀ tree, Expr.ofLexemes lexemes limit = .ok tree →
      tree.evaluateCounted.outcome = tree.evaluate ∧
      tree.evaluateCounted.calls ≤ 2 * limit + 3 := by
  obtain ⟨houtcome, hcalls⟩ := Expr.ofLexemesCounted_meets lexemes limit
  refine ⟨houtcome, hcalls, fun tree htree => ?_⟩
  obtain ⟨nesting, hle, hphrase⟩ := exists_phrase_of_ofLexemes htree
  have hspine : tree.spineCalls ≤ 2 * nesting + 2 := hphrase.spineCalls_le
  exact tree.evaluateCounted_meets.mono (by omega)

/-! No smaller constants would do. -/

theorem Cursor.calls_expression (limit : Nat) (c : Cursor) :
    (parseCounted limit .unary c).calls + 2 ≤ (parseCounted limit .expression c).calls := by
  have hchain (additive : Bool) : (parseCounted limit (.operand additive) c).calls + 1 ≤
      (parseCounted limit (.chain additive) c).calls := by
    rw [parseCounted_chain]
    exact Nat.succ_le_succ Counted.calls_le_bind
  exact Nat.le_trans (Nat.succ_le_succ (hchain false)) (hchain true)

/-- Groups inside each other, none of which is ever closed. -/
theorem Cursor.calls_groups {limit : Nat} (value : Binary64) (n : Nat) {depth openGroups : Nat}
    (h : depth + n ≤ limit) :
    4 * (n + 1) ≤ (parseCounted limit .expression
      ⟨List.replicate n ⟨.opening, 0⟩ ++ [⟨.number value, 0⟩], depth, openGroups⟩).calls := by
  refine Nat.le_trans ?_ (calls_expression limit _)
  induction n generalizing depth openGroups with
  | zero =>
    rw [parseCounted_unary (by simp), primaryCounted_other (by simp)]
    exact Nat.le_refl 4
  | succ n ih =>
    have hdepth : depth + 1 + n ≤ limit := by omega
    rw [List.replicate_succ, List.cons_append, parseCounted_unary (by simp),
      primaryCounted_opening, if_neg (by omega), Counted.calls_call, Counted.calls_call]
    have hinside := Nat.le_trans (ih hdepth) (calls_expression limit ⟨_, depth + 1, openGroups + 1⟩)
    exact Nat.add_le_add_right (Nat.le_trans hinside Counted.calls_le_bind) 4

theorem Expr.calls_binary {x : Binary64} (hx : x.isFinite = true) (op : Operator) (right : Expr) :
    right.evaluateCounted.calls + 1 ≤ (binary op (number x) right).evaluateCounted.calls := by
  have hvalue : (Counted.plain x.finite).outcome = .ok x := Binary64.finite_eq_ok_iff.mpr ⟨rfl, hx⟩
  have hpending : right.evaluateCounted.calls ≤ (pendingCounted x [(op, right)]).calls := by
    rw [pendingCounted]
    exact Counted.calls_le_bind
  rw [evaluateCounted.eq_1 (binary op (number x) right), spineCounted.eq_1, spineCounted.eq_2,
    Counted.calls_call]
  exact Nat.succ_le_succ
    (Nat.le_trans hpending (Counted.calls_le_bind_of_ok (pendingCounted · [(op, right)]) hvalue))

/-- The last factor of the last term is two calls further down than the whole. -/
theorem Phrase.exists_calls_add_two {ts : List Token} {factor : Expr} {n : Nat}
    (h : Phrase .unary ts factor n) :
    ∃ us tree, Phrase .expression us tree n ∧
      factor.evaluateCounted.calls + 2 ≤ tree.evaluateCounted.calls := by
  let zero := Binary64.zero false
  have hproduct := (Phrase.number zero).term [⟨.star, ts, factor, n⟩]
    (by simp [Operator.isAdditive]) (by simpa using h)
  have hsum := (Phrase.number zero).toTerm.expression [⟨.plus, _, _, _⟩]
    (by simp [Operator.isAdditive]) (by simpa using hproduct)
  rw [Link.greatest_cons, Link.greatest_nil, Nat.zero_max] at hsum
  refine ⟨_, _, hsum, ?_⟩
  have hzero : zero.isFinite = true := rfl
  exact Nat.le_trans (Nat.succ_le_succ (Expr.calls_binary hzero .star factor))
    (Expr.calls_binary hzero .plus _)

/-- Groups inside each other, each the last factor of the last term. -/
theorem Phrase.exists_calls (n : Nat) :
    ∃ ts tree, Phrase .expression ts tree n ∧ 2 * n + 3 ≤ tree.evaluateCounted.calls := by
  induction n with
  | zero =>
    obtain ⟨ts, tree, hphrase, hcalls⟩ := (Phrase.number (.zero false)).exists_calls_add_two
    rw [Expr.evaluateCounted.eq_1, Counted.calls_call] at hcalls
    exact ⟨ts, tree, hphrase, by omega⟩
  | succ n ih =>
    obtain ⟨_, inner, hinner, hle⟩ := ih
    obtain ⟨ts, tree, hphrase, hcalls⟩ := hinner.group.exists_calls_add_two
    rw [Nat.add_comm 1 n] at hphrase
    exact ⟨ts, tree, hphrase, by omega⟩

/-- Both bounds are reached, whatever the limit. -/
theorem exists_calls_eq (limit : Nat) :
    (∃ lexemes, (Expr.ofLexemesCounted lexemes limit).calls = 4 * (limit + 1)) ∧
    ∃ lexemes tree, Expr.ofLexemes lexemes limit = .ok tree ∧
      tree.evaluateCounted.calls = 2 * limit + 3 := by
  constructor
  · refine ⟨List.replicate limit ⟨.opening, 0⟩ ++ [⟨.number (.zero false), 0⟩],
      Nat.le_antisymm (Expr.ofLexemesCounted_meets _ limit).2 ?_⟩
    exact Nat.le_trans (Cursor.calls_groups (.zero false) limit (Nat.le_of_eq limit.zero_add))
      (Expr.calls_parseCounted_le (by simp))
  · obtain ⟨ts, tree, hphrase, hcalls⟩ := Phrase.exists_calls limit
    rw [← map_token_unplaced ts] at hphrase
    refine ⟨unplaced ts, tree, ?_, Nat.le_antisymm ?_ hcalls⟩
    · rw [ofLexemes_of_phrase hphrase, if_pos (Nat.le_refl limit)]
    · have hspine : tree.spineCalls ≤ 2 * limit + 2 := hphrase.spineCalls_le
      exact Nat.le_trans tree.evaluateCounted_meets.2 (Nat.succ_le_succ hspine)

end Reckoner
