import Reckoner.Expression.Rejection

/-!
What a row of tokens leaves open, read from the front without looking ahead, and the first thing
wrong with it.

Precedence does not matter here: whether a token can follow depends on whether an operand is due
and on the open groups.
-/
namespace Reckoner

/-- Whether an operand is due, how many minus signs wait for it, and for each open group, from the
innermost outwards, how many minus signs wait for that group. -/
structure Prospect where
  due : Bool
  signs : Nat
  groups : List Nat
  deriving DecidableEq, Repr

namespace Prospect

def start : Prospect := ⟨true, 0, []⟩

/-- The operand that was due has been read, with all signs in front of it. -/
def settled (p : Prospect) : Prospect := ⟨false, 0, p.groups⟩

def next? : Prospect → Token → Option Prospect
  | ⟨true, _, groups⟩, .number _ => some ⟨false, 0, groups⟩
  | ⟨true, signs, groups⟩, .operator .minus => some ⟨true, signs + 1, groups⟩
  | ⟨true, signs, groups⟩, .opening => some ⟨true, 0, signs :: groups⟩
  | ⟨false, _, groups⟩, .operator _ => some ⟨true, 0, groups⟩
  | ⟨false, _, _ :: groups⟩, .closing => some ⟨false, 0, groups⟩
  | _, _ => none

def after? (p : Prospect) (ts : List Token) : Option Prospect := ts.foldlM next? p

/-- The number of open groups and of the minus signs that wait for them. -/
def enclosing : List Nat → Nat
  | [] => 0
  | signs :: groups => signs + 1 + enclosing groups

/-- The number of open groups and of all minus signs that wait. -/
def depth (p : Prospect) : Nat := p.signs + enclosing p.groups

/-- The greatest depth on the way through the tokens. -/
def peak (p : Prospect) : List Token → Nat
  | [] => p.depth
  | token :: ts =>
    match p.next? token with
    | none => p.depth
    | some q => max p.depth (q.peak ts)

/-- What is wrong if nothing follows. -/
def endError? (p : Prospect) : Option GrammarError :=
  if 0 < p.groups.length then some .unbalancedParentheses
  else if p.due then some .unexpectedEnd else none

/-- What is wrong if a lexeme follows that cannot. -/
def refusal (p : Prospect) (lexeme : Lexeme) : GrammarError :=
  if lexeme.token = .closing ∧ p.due = true ∧ p.groups = [] then .unbalancedParentheses
  else .unexpectedToken lexeme

/-- The first thing wrong with the lexemes that follow, of which a depth beyond the limit is one. -/
def fault? (limit : Nat) (p : Prospect) : List Lexeme → Option GrammarError
  | [] => p.endError?
  | lexeme :: rest =>
    match p.next? lexeme.token with
    | none => some (p.refusal lexeme)
    | some q => if limit < q.depth then some (.tooComplex limit) else q.fault? limit rest

variable {limit : Nat} {p q : Prospect} {token : Token} {ts us : List Token} {lexeme : Lexeme}
  {ls rest : List Lexeme}

theorem fault?_cons_of_none (h : p.next? lexeme.token = none) :
    p.fault? limit (lexeme :: rest) = some (p.refusal lexeme) := by
  simp [fault?, h]

theorem fault?_cons_of_lt (h : p.next? lexeme.token = some q) (hlt : limit < q.depth) :
    p.fault? limit (lexeme :: rest) = some (.tooComplex limit) := by
  simp [fault?, h, hlt]

theorem fault?_cons_of_le (h : p.next? lexeme.token = some q) (hle : q.depth ≤ limit) :
    p.fault? limit (lexeme :: rest) = q.fault? limit rest := by
  simp [fault?, h, Nat.not_lt.mpr hle]

@[simp] theorem next?_operator (signs : Nat) (groups : List Nat) (op : Operator) :
    next? ⟨false, signs, groups⟩ (.operator op) = some ⟨true, 0, groups⟩ := by cases op <;> rfl

@[simp] theorem next?_minus (signs : Nat) (groups : List Nat) :
    next? ⟨true, signs, groups⟩ (.operator .minus) = some ⟨true, signs + 1, groups⟩ := rfl

@[simp] theorem next?_opening (signs : Nat) (groups : List Nat) :
    next? ⟨true, signs, groups⟩ .opening = some ⟨true, 0, signs :: groups⟩ := rfl

@[simp] theorem next?_number (signs : Nat) (groups : List Nat) (value : Binary64) :
    next? ⟨true, signs, groups⟩ (.number value) = some ⟨false, 0, groups⟩ := rfl

@[simp] theorem next?_closing (signs outer : Nat) (groups : List Nat) :
    next? ⟨false, signs, outer :: groups⟩ .closing = some ⟨false, 0, groups⟩ := rfl

theorem depth_settled_le (p : Prospect) : p.settled.depth ≤ p.depth := by
  simp [settled, depth]

theorem depth_closing_le (due : Bool) (signs outer : Nat) (groups : List Nat) :
    depth ⟨false, 0, groups⟩ ≤ depth ⟨due, signs, outer :: groups⟩ := by
  simp only [depth, enclosing]
  omega

@[simp] theorem after?_nil : p.after? [] = some p := rfl

@[simp] theorem after?_cons : p.after? (token :: ts) = (p.next? token).bind (after? · ts) := rfl

theorem after?_append : p.after? (ts ++ us) = (p.after? ts).bind (after? · us) :=
  List.foldlM_append

theorem after?_cons_eq_some_iff :
    p.after? (token :: ts) = some q ↔ ∃ r, p.next? token = some r ∧ r.after? ts = some q :=
  Option.bind_eq_some_iff

theorem after?_append_eq_some_iff :
    p.after? (ts ++ us) = some q ↔ ∃ r, p.after? ts = some r ∧ r.after? us = some q := by
  rw [after?_append]
  exact Option.bind_eq_some_iff

theorem depth_le_peak (p : Prospect) (ts : List Token) : p.depth ≤ p.peak ts := by
  cases ts with
  | nil => exact Nat.le_refl _
  | cons token ts =>
    rw [peak]
    split
    · exact Nat.le_refl _
    · exact Nat.le_max_left _ _

theorem peak_cons (h : p.next? token = some q) :
    p.peak (token :: ts) = max p.depth (q.peak ts) := by
  rw [peak, h]

theorem peak_append (h : p.after? ts = some q) :
    p.peak (ts ++ us) = max (p.peak ts) (q.peak us) := by
  induction ts generalizing p with
  | nil =>
    obtain rfl := Option.some.inj h
    exact (Nat.max_eq_right (depth_le_peak p us)).symm
  | cons token ts ih =>
    obtain ⟨r, hr, hq⟩ := after?_cons_eq_some_iff.mp h
    rw [List.cons_append, peak_cons hr, peak_cons hr, ih hq, Nat.max_assoc]

theorem depth_le_peak_of_after? (h : p.after? ts = some q) : q.depth ≤ p.peak ts := by
  have happend : p.peak (ts ++ []) = max (p.peak ts) q.depth := peak_append h
  rw [List.append_nil] at happend
  rw [happend]
  exact Nat.le_max_right _ _

/-- As long as the lexemes can follow, only the depth can be wrong with them. -/
theorem fault?_append (h : p.after? (ls.map Lexeme.token) = some q) (hd : p.depth ≤ limit) :
    p.fault? limit (ls ++ rest) =
      if p.peak (ls.map Lexeme.token) ≤ limit then q.fault? limit rest
      else some (.tooComplex limit) := by
  induction ls generalizing p with
  | nil =>
    obtain rfl := Option.some.inj h
    exact (if_pos hd).symm
  | cons lexeme ls ih =>
    obtain ⟨r, hr, hq⟩ := after?_cons_eq_some_iff.mp h
    rw [List.cons_append, List.map_cons, peak_cons hr]
    rcases Nat.lt_or_ge limit r.depth with hlt | hle
    · have hpeak := depth_le_peak r (ls.map Lexeme.token)
      rw [fault?_cons_of_lt hr hlt, if_neg (by omega)]
    · rw [fault?_cons_of_le hr hle, ih hq hle]
      simp only [Nat.max_le, hd, true_and]

theorem fault?_eq_none_iff (hd : p.depth ≤ limit) :
    p.fault? limit ls = none ↔
      ∃ q, p.after? (ls.map Lexeme.token) = some q ∧ q.endError? = none ∧
        p.peak (ls.map Lexeme.token) ≤ limit := by
  induction ls generalizing p with
  | nil => simp [fault?, peak, hd]
  | cons lexeme ls ih =>
    rw [List.map_cons, after?_cons]
    cases hr : p.next? lexeme.token with
    | none => simp [fault?_cons_of_none hr]
    | some r =>
      rw [peak_cons hr]
      rcases Nat.lt_or_ge limit r.depth with hlt | hle
      · have hpeak := depth_le_peak r (ls.map Lexeme.token)
        rw [fault?_cons_of_lt hr hlt]
        simp
        omega
      · rw [fault?_cons_of_le hr hle, ih hle]
        simp only [Option.bind_some, Nat.max_le, hd, true_and]

/-- The lexemes split where the first stands that cannot follow. -/
theorem exists_split (p : Prospect) (lexemes : List Lexeme) :
    ∃ before after q, lexemes = before ++ after ∧ p.after? (before.map Lexeme.token) = some q ∧
      ∀ lexeme ∈ after.head?, q.next? lexeme.token = none := by
  induction lexemes generalizing p with
  | nil => exact ⟨[], [], p, rfl, rfl, by simp⟩
  | cons lexeme rest ih =>
    cases hq : p.next? lexeme.token with
    | none => exact ⟨[], lexeme :: rest, p, rfl, rfl, by simpa using hq⟩
    | some q =>
      obtain ⟨before, after, r, rfl, hr, hstop⟩ := ih q
      exact ⟨lexeme :: before, after, r, rfl, after?_cons_eq_some_iff.mpr ⟨q, hq, hr⟩, hstop⟩

theorem count_next? (h : p.next? token = some q) :
    p.groups.length + [token].count .opening = q.groups.length + [token].count .closing := by
  unfold next? at h
  split at h
  case h_6 => contradiction
  all_goals
    obtain rfl := Option.some.inj h
    simp

/-- Each group that is open has been opened and not been closed. -/
theorem count_after? (h : p.after? ts = some q) :
    p.groups.length + ts.count .opening = q.groups.length + ts.count .closing := by
  induction ts generalizing p with
  | nil =>
    obtain rfl := Option.some.inj h
    rfl
  | cons token ts ih =>
    obtain ⟨r, hr, hq⟩ := after?_cons_eq_some_iff.mp h
    have hfirst := count_next? hr
    have hrest := ih hq
    rw [← List.singleton_append, List.count_append, List.count_append]
    omega

/-- The operand that is due, and what closes all groups. -/
def completion (p : Prospect) : List Token :=
  (if p.due then [.number (.zero false)] else []) ++ List.replicate p.groups.length .closing

/-- The tokens leave nothing open, and the depth is the greatest in front of them. -/
def Closes (p : Prospect) (ts : List Token) : Prop :=
  (∃ q, p.after? ts = some q ∧ q.endError? = none) ∧ p.peak ts = p.depth

theorem Closes.cons (hnext : p.next? token = some q) (hle : q.depth ≤ p.depth)
    (h : q.Closes ts) : p.Closes (token :: ts) := by
  obtain ⟨⟨r, hr, hend⟩, hpeak⟩ := h
  refine ⟨⟨r, after?_cons_eq_some_iff.mpr ⟨q, hnext, hr⟩, hend⟩, ?_⟩
  rw [peak_cons hnext, hpeak]
  exact Nat.max_eq_left hle

theorem closes_replicate (signs : Nat) (groups : List Nat) :
    Closes ⟨false, signs, groups⟩ (List.replicate groups.length .closing) := by
  induction groups generalizing signs with
  | nil => exact ⟨⟨_, rfl, rfl⟩, rfl⟩
  | cons outer groups ih =>
    exact (ih 0).cons (next?_closing signs outer groups) (depth_closing_le false signs outer groups)

theorem closes_completion (p : Prospect) : p.Closes p.completion := by
  obtain ⟨due, signs, groups⟩ := p
  cases due with
  | false => exact closes_replicate signs groups
  | true =>
    exact (closes_replicate 0 groups).cons (next?_number signs groups _)
      (depth_settled_le ⟨true, signs, groups⟩)

end Prospect
end Reckoner
