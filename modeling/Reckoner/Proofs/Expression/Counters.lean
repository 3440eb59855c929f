import Mathlib.Logic.Relation
import Reckoner.Proofs.Expression.Descent
import Reckoner.Proofs.Expression.Reading

/-!
The two counters of the descent at every moment of it. For this the calls of the descent are taken
apart into the steps of a machine, whose stack holds the calls that wait for another one. The
machine counts down only what is above zero, and it ends as reading does.
-/
namespace Reckoner.Descent

open Phrase (Level)

/-- A call that waits for another one. -/
inductive Frame where
  /-- For the next operand of a chain, with the tree and the operator in front of it. -/
  | chain (additive : Bool) (front : Option (Expr × Operator))
  /-- For the operand of the sign that it has read. -/
  | negation
  /-- For the number or the group that is its operand as a whole. -/
  | operand
  /-- For the inside of the group that it has opened. -/
  | group
  deriving DecidableEq, Repr

namespace Frame

def isNegation : Frame → Bool
  | negation => true
  | _ => false

def isGroup : Frame → Bool
  | group => true
  | _ => false

end Frame

/-- The operand as the right one of what stands in front of it. -/
def attach (front : Option (Expr × Operator)) (operand : Expr) : Expr :=
  match front with
  | none => operand
  | some (left, op) => .binary op left operand

/-- What the machine is about to do. -/
inductive Control where
  | calls (level : Level)
  | callsPrimary
  | returns (tree : Expr)
  | ends (outcome : Except GrammarError Expr)
  /-- A counter would go below zero. -/
  | underflows

structure State where
  control : Control
  cursor : Cursor
  stack : List Frame

/-- Counts one level more and goes on from there, unless that is too deep. -/
def descend (limit : Nat) (c : Cursor) (stack : List Frame) (onward : Cursor → State) : State :=
  if limit < c.depth + 1 then
    ⟨.ends (.error (.tooComplex limit)), { c with depth := c.depth + 1 }, stack⟩
  else onward { c with depth := c.depth + 1 }

def callUnary (limit : Nat) (c : Cursor) (stack : List Frame) : State :=
  match c.rest with
  | ⟨.operator .minus, _⟩ :: rest =>
    descend limit { c with rest } stack fun c => ⟨.calls .unary, c, .negation :: stack⟩
  | _ => ⟨.callsPrimary, c, .operand :: stack⟩

def callPrimary (limit : Nat) (c : Cursor) (stack : List Frame) : State :=
  match c.rest with
  | [] => ⟨.ends (.error c.endError), c, stack⟩
  | ⟨.number value, _⟩ :: rest => ⟨.returns (.number value), { c with rest }, stack⟩
  | ⟨.opening, _⟩ :: rest =>
    descend limit { c with rest } stack fun c =>
      ⟨.calls .expression, { c with openGroups := c.openGroups + 1 }, .group :: stack⟩
  | ⟨.closing, pos⟩ :: _ =>
    if c.openGroups = 0 then ⟨.ends (.error .unbalancedParentheses), c, stack⟩
    else ⟨.ends (.error (.unexpectedToken ⟨.closing, pos⟩)), c, stack⟩
  | lexeme :: _ => ⟨.ends (.error (.unexpectedToken lexeme)), c, stack⟩

/-- The call that waited goes on with the tree that has come back. -/
def resume (tree : Expr) (c : Cursor) : List Frame → State
  | [] =>
    match c.rest with
    | [] => ⟨.ends (.ok tree), c, []⟩
    | lexeme :: _ => ⟨.ends (.error (.unexpectedToken lexeme)), c, []⟩
  | .chain additive front :: stack =>
    match c.rest with
    | ⟨.operator op, _⟩ :: rest =>
      if op.isAdditive = additive then
        ⟨.calls (.operand additive), { c with rest },
          .chain additive (some (attach front tree, op)) :: stack⟩
      else ⟨.returns (attach front tree), c, stack⟩
    | _ => ⟨.returns (attach front tree), c, stack⟩
  | .negation :: stack =>
    match c.depth with
    | 0 => ⟨.underflows, c, .negation :: stack⟩
    | depth + 1 => ⟨.returns (.negate tree), { c with depth }, stack⟩
  | .operand :: stack => ⟨.returns tree, c, stack⟩
  | .group :: stack =>
    match c with
    | ⟨⟨.closing, _⟩ :: rest, depth + 1, openGroups + 1⟩ =>
      ⟨.returns tree, ⟨rest, depth, openGroups⟩, stack⟩
    | ⟨⟨.closing, _⟩ :: _, _, _⟩ => ⟨.underflows, c, .group :: stack⟩
    | ⟨lexeme :: _, _, _⟩ => ⟨.ends (.error (.unexpectedToken lexeme)), c, .group :: stack⟩
    | ⟨[], _, _⟩ => ⟨.ends (.error .unbalancedParentheses), c, .group :: stack⟩

def step (limit : Nat) (s : State) : Option State :=
  match s.control with
  | .calls .expression => some ⟨.calls .term, s.cursor, .chain true none :: s.stack⟩
  | .calls .term => some ⟨.calls .unary, s.cursor, .chain false none :: s.stack⟩
  | .calls .unary => some (callUnary limit s.cursor s.stack)
  | .callsPrimary => some (callPrimary limit s.cursor s.stack)
  | .returns tree => some (resume tree s.cursor s.stack)
  | .ends _ => none
  | .underflows => none

/-- Some steps, or none at all, lead from one state to the other. -/
def Runs (limit : Nat) : State → State → Prop :=
  Relation.ReflTransGen fun s t => step limit s = some t

/-- The state in front of all lexemes. -/
def start (lexemes : List Lexeme) : State :=
  ⟨if lexemes = [] then .ends (.error .empty) else .calls .expression, ⟨lexemes, 0, 0⟩, []⟩

variable {limit depth openGroups pos : Nat} {rest : List Lexeme} {a b c : Cursor} {s t : State}
  {stack : List Frame}

/-! The machine does what the calls do. -/

/-- From the state, the machine gets back to the stack with what was read, or it ends with the
error. -/
def Answers (limit : Nat) (s : State) (stack : List Frame) :
    Except GrammarError (Parsed a) → Prop
  | .ok p => Runs limit s ⟨.returns p.tree, p.cursor, stack⟩
  | .error error => ∃ t, Runs limit s t ∧ t.control = .ends (.error error)

theorem Runs.head (h : step limit s = some t) {u : State} (hu : Runs limit t u) :
    Runs limit s u := Relation.ReflTransGen.head h hu

namespace Answers

variable {r : Except GrammarError (Parsed a)}

theorem head (h : step limit s = some t) (ht : Answers limit t stack r) :
    Answers limit s stack r := by
  cases r with
  | ok p => exact Runs.head h ht
  | error error =>
    obtain ⟨u, hu, hends⟩ := ht
    exact ⟨u, hu.head h, hends⟩

theorem ends {error : GrammarError} (h : step limit s = some t)
    (ht : t.control = .ends (.error error)) :
    Answers limit s stack (.error error : Except GrammarError (Parsed a)) :=
  ⟨t, .single h, ht⟩

theorem bind {below : List Frame} {f : Parsed a → Except GrammarError (Parsed b)}
    (h : Answers limit s below r)
    (hf : ∀ p, r = .ok p → Answers limit ⟨.returns p.tree, p.cursor, below⟩ stack (f p)) :
    Answers limit s stack (r.bind f) := by
  cases r with
  | error error => exact h
  | ok p =>
    have hp := hf p rfl
    show Answers limit s stack (f p)
    cases hfp : f p with
    | ok q =>
      rw [hfp] at hp
      exact Relation.ReflTransGen.trans h hp
    | error error =>
      rw [hfp] at hp
      obtain ⟨u, hu, hends⟩ := hp
      exact ⟨u, Relation.ReflTransGen.trans h hu, hends⟩

end Answers

theorem descend_of_lt {onward : Cursor → State} (h : depth < limit) :
    descend limit ⟨rest, depth, openGroups⟩ stack onward =
      onward ⟨rest, depth + 1, openGroups⟩ := by
  simp only [descend, Nat.not_lt.mpr (Nat.succ_le_of_lt h), if_false]

theorem descend_of_le {onward : Cursor → State} (h : limit ≤ depth) :
    descend limit ⟨rest, depth, openGroups⟩ stack onward =
      ⟨.ends (.error (.tooComplex limit)), ⟨rest, depth + 1, openGroups⟩, stack⟩ := by
  simp only [descend, Nat.lt_succ_of_le h, if_true]

theorem step_unary (h : ∀ pos after, c.rest = ⟨.operator .minus, pos⟩ :: after → False) :
    step limit ⟨.calls .unary, c, stack⟩ = some ⟨.callsPrimary, c, .operand :: stack⟩ := by
  refine congrArg some ?_
  rw [callUnary]
  split
  case h_1 hrest => exact (h _ _ hrest).elim
  case h_2 => rfl

/-- What is no sign is answered by the call for numbers and groups. -/
theorem Answers.unary {r : Except GrammarError (Parsed c)}
    (h : ∀ pos after, c.rest = ⟨.operator .minus, pos⟩ :: after → False)
    (hprimary : Answers limit ⟨.callsPrimary, c, .operand :: stack⟩ (.operand :: stack) r) :
    Answers limit ⟨.calls .unary, c, stack⟩ stack r := by
  refine .head (step_unary h) ?_
  rw [← bind_ok r]
  exact hprimary.bind fun p _ => Relation.ReflTransGen.single rfl

/-- The calls that wait are in so many groups and signs. -/
structure Matches (limit depth openGroups : Nat) (stack : List Frame) : Prop where
  groups : openGroups = stack.countP Frame.isGroup
  all : depth = openGroups + stack.countP Frame.isNegation
  within : depth ≤ limit

theorem matches_uncounted {frame : Frame} (hgroup : frame.isGroup = false)
    (hsign : frame.isNegation = false) :
    Matches limit depth openGroups (frame :: stack) ↔ Matches limit depth openGroups stack := by
  have hgroups : (frame :: stack).countP Frame.isGroup = stack.countP Frame.isGroup :=
    List.countP_cons_of_neg (by simp [hgroup])
  have hsigns : (frame :: stack).countP Frame.isNegation = stack.countP Frame.isNegation :=
    List.countP_cons_of_neg (by simp [hsign])
  constructor
  · exact fun h => ⟨hgroups ▸ h.groups, hsigns ▸ h.all, h.within⟩
  · exact fun h => ⟨hgroups.symm ▸ h.groups, hsigns.symm ▸ h.all, h.within⟩

theorem matches_negation : Matches limit depth openGroups (.negation :: stack) ↔
    ∃ d, depth = d + 1 ∧ d < limit ∧ Matches limit d openGroups stack := by
  have hsigns : (Frame.negation :: stack).countP Frame.isNegation =
      stack.countP Frame.isNegation + 1 := List.countP_cons_of_pos rfl
  constructor
  · rintro ⟨hgroups, hall, hle⟩
    rw [hsigns, ← Nat.add_assoc] at hall
    exact ⟨_, hall, by omega, hgroups, rfl, by omega⟩
  · rintro ⟨d, rfl, hlt, hgroups, hall, -⟩
    exact ⟨hgroups, by rw [hsigns, hall, Nat.add_assoc], hlt⟩

theorem matches_group : Matches limit depth openGroups (.group :: stack) ↔
    ∃ d o, depth = d + 1 ∧ openGroups = o + 1 ∧ d < limit ∧ Matches limit d o stack := by
  have hopen : (Frame.group :: stack).countP Frame.isGroup =
      stack.countP Frame.isGroup + 1 := List.countP_cons_of_pos rfl
  have hsigns : (Frame.group :: stack).countP Frame.isNegation =
      stack.countP Frame.isNegation := List.countP_cons_of_neg nofun
  constructor
  · rintro ⟨hgroups, hall, hle⟩
    rw [hopen] at hgroups
    rw [hsigns, hgroups, Nat.add_right_comm] at hall
    exact ⟨_, _, hall, hgroups, by omega, rfl, rfl, by omega⟩
  · rintro ⟨d, o, rfl, rfl, hlt, hgroups, hall, -⟩
    exact ⟨by rw [hopen, hgroups], by rw [hsigns, hall, Nat.add_right_comm], hlt⟩

/-- What holds at every moment: the counters match the calls that wait. A sign or a group beyond
the limit is counted before it is refused. -/
inductive Balanced (limit : Nat) : State → Prop where
  | calls {c : Cursor} {stack : List Frame} (level : Level)
    (h : Matches limit c.depth c.openGroups stack) : Balanced limit ⟨.calls level, c, stack⟩
  | callsPrimary {c : Cursor} {stack : List Frame}
    (h : Matches limit c.depth c.openGroups stack) : Balanced limit ⟨.callsPrimary, c, stack⟩
  | returns {c : Cursor} {stack : List Frame} (tree : Expr)
    (h : Matches limit c.depth c.openGroups stack) : Balanced limit ⟨.returns tree, c, stack⟩
  | completes {c : Cursor} (tree : Expr) (h : Matches limit c.depth c.openGroups []) :
    Balanced limit ⟨.ends (.ok tree), c, []⟩
  | fails {c : Cursor} {stack : List Frame} {error : GrammarError}
    (herror : error ≠ .tooComplex limit) (h : Matches limit c.depth c.openGroups stack) :
    Balanced limit ⟨.ends (.error error), c, stack⟩
  | refuses {c : Cursor} {stack : List Frame} (hdepth : c.depth = limit + 1)
    (h : Matches limit limit c.openGroups stack) :
    Balanced limit ⟨.ends (.error (.tooComplex limit)), c, stack⟩

theorem balanced_descend {onward : Cursor → State}
    (h : Matches limit c.depth c.openGroups stack)
    (honward : c.depth < limit → Balanced limit (onward { c with depth := c.depth + 1 })) :
    Balanced limit (descend limit c stack onward) := by
  obtain ⟨rest, depth, openGroups⟩ := c
  rcases Nat.lt_or_ge depth limit with hlt | hle
  · rw [descend_of_lt hlt]
    exact honward hlt
  · obtain rfl : depth = limit := Nat.le_antisymm h.within hle
    rw [descend_of_le hle]
    exact .refuses rfl h

theorem balanced_callUnary (h : Matches limit c.depth c.openGroups stack) :
    Balanced limit (callUnary limit c stack) := by
  unfold callUnary
  split
  · exact balanced_descend h fun hlt => .calls .unary (matches_negation.mpr ⟨_, rfl, hlt, h⟩)
  · exact .callsPrimary ((matches_uncounted rfl rfl).mpr h)

theorem balanced_callPrimary (h : Matches limit c.depth c.openGroups stack) :
    Balanced limit (callPrimary limit c stack) := by
  unfold callPrimary
  split
  case h_1 =>
    refine .fails ?_ h
    unfold Cursor.endError
    split <;> nofun
  case h_2 value _ _ _ => exact .returns (.number value) h
  case h_3 =>
    exact balanced_descend h fun hlt =>
      .calls .expression (matches_group.mpr ⟨_, _, rfl, rfl, hlt, h⟩)
  case h_4 => split <;> exact .fails nofun h
  case h_5 => exact .fails nofun h

theorem balanced_resume (tree : Expr) (h : Matches limit c.depth c.openGroups stack) :
    Balanced limit (resume tree c stack) := by
  obtain ⟨rest, depth, openGroups⟩ := c
  match stack with
  | [] =>
    simp only [resume]
    split
    · exact .completes tree h
    · exact .fails nofun h
  | .chain additive front :: stack =>
    rw [matches_uncounted rfl rfl] at h
    simp only [resume]
    split
    · split
      · exact .calls _ ((matches_uncounted rfl rfl).mpr h)
      · exact .returns _ h
    · exact .returns _ h
  | .negation :: stack =>
    obtain ⟨depth, rfl, -, h⟩ := matches_negation.mp h
    exact .returns _ h
  | .operand :: stack => exact .returns tree ((matches_uncounted rfl rfl).mp h)
  | .group :: stack =>
    have ⟨_, _, hdepth, hopen, _, hout⟩ := matches_group.mp h
    dsimp only at hdepth hopen
    subst hdepth hopen
    match rest with
    | [] => exact .fails nofun h
    | ⟨.closing, _⟩ :: _ => exact .returns tree hout
    | ⟨.number _, _⟩ :: _ | ⟨.operator _, _⟩ :: _ | ⟨.opening, _⟩ :: _ => exact .fails nofun h

/-- A step of the machine keeps the balance. -/
theorem Balanced.step (h : Balanced limit s) (hstep : step limit s = some t) :
    Balanced limit t := by
  cases h with
  | calls level h =>
    cases level <;> obtain rfl := Option.some.inj hstep
    · exact .calls .term ((matches_uncounted rfl rfl).mpr h)
    · exact .calls .unary ((matches_uncounted rfl rfl).mpr h)
    · exact balanced_callUnary h
  | callsPrimary h =>
    obtain rfl := Option.some.inj hstep
    exact balanced_callPrimary h
  | returns tree h =>
    obtain rfl := Option.some.inj hstep
    exact balanced_resume tree h
  | completes | fails | refuses => contradiction

end Reckoner.Descent
