import Reckoner.Proofs.Expression.Completeness
import Reckoner.Proofs.Expression.Prospect
import Reckoner.Proofs.Expression.Reading

/-!
How the descent follows the prospect of its lexemes.

It stops at the first lexeme that cannot follow, and its error is told by what is open there.
-/
namespace Reckoner.Prospect

open Phrase.Level (EndsAt)

variable {limit depth openGroups signs : Nat} {level operand : Phrase.Level} {p q : Prospect}
  {c origin origin' : Cursor} {lexeme : Lexeme} {rest lexemes : List Lexeme} {groups : List Nat}

/-- The counters of the cursor are those of the prospect, and within the limit. -/
structure Fits (limit : Nat) (p : Prospect) (c : Cursor) : Prop where
  depth : c.depth = p.depth
  openGroups : c.openGroups = p.groups.length
  within : p.depth ≤ limit

/-- The descent from the cursor on finds what is wrong there, or else nothing is wrong up to where
it stops with the operand read and the counters as they were. -/
def Follows (limit : Nat) (level : Phrase.Level) (p : Prospect) (c : Cursor) {origin : Cursor} :
    Except GrammarError (Parsed origin) → Prop
  | .ok parsed =>
    p.fault? limit c.rest = p.settled.fault? limit parsed.cursor.rest ∧
      parsed.cursor.depth = c.depth ∧ parsed.cursor.openGroups = c.openGroups ∧
      level.EndsAt parsed.cursor.rest
  | .error error => p.fault? limit c.rest = some error

theorem Fits.negation (h : Fits limit ⟨true, signs, groups⟩ ⟨lexeme :: rest, depth, openGroups⟩)
    (hlt : depth < limit) :
    Fits limit ⟨true, signs + 1, groups⟩ ⟨rest, depth + 1, openGroups⟩ := by
  obtain ⟨hd, ho, -⟩ := h
  simp only [Prospect.depth] at hd
  refine ⟨?_, ho, ?_⟩ <;> simp only [Prospect.depth] <;> omega

theorem Fits.group (h : Fits limit ⟨true, signs, groups⟩ ⟨lexeme :: rest, depth, openGroups⟩)
    (hlt : depth < limit) :
    Fits limit ⟨true, 0, signs :: groups⟩ ⟨rest, depth + 1, openGroups + 1⟩ := by
  obtain ⟨hd, ho, -⟩ := h
  simp only [Prospect.depth] at hd ho
  refine ⟨?_, by simp [ho], ?_⟩ <;> simp only [Prospect.depth, enclosing] <;> omega

/-- One more group or sign than the limit permits. -/
theorem Fits.lt_of_succ (h : Fits limit p c) (hle : limit ≤ c.depth)
    (hq : q.depth = p.depth + 1) : limit < q.depth := by
  rw [hq, ← h.depth]
  exact Nat.lt_succ_of_le hle

theorem Fits.settle (h : Fits limit p c) (hsigns : p.signs = 0) {d : Cursor}
    (hd : d.depth = c.depth) (ho : d.openGroups = c.openGroups) : Fits limit p.settled d := by
  have hdepth : p.settled.depth = p.depth := by simp [settled, Prospect.depth, hsigns]
  exact ⟨by rw [hd, hdepth, h.depth], by rw [ho, h.openGroups]; rfl, hdepth ▸ h.within⟩

/-- What comes first, and then what comes behind it. -/
theorem Follows.bind {x : Except GrammarError (Parsed origin)}
    {f : Parsed origin → Except GrammarError (Parsed origin')} (h : Follows limit operand p c x)
    (hf : ∀ parsed : Parsed origin, parsed.cursor.depth = c.depth →
      parsed.cursor.openGroups = c.openGroups → operand.EndsAt parsed.cursor.rest →
      Follows limit level p.settled parsed.cursor (f parsed)) :
    Follows limit level p c (x.bind f) := by
  cases x with
  | error error => exact h
  | ok parsed =>
    obtain ⟨hfault, hd, ho, hends⟩ := h
    have hnext := hf parsed hd ho hends
    show Follows limit level p c (f parsed)
    cases hresult : f parsed with
    | error error =>
      rw [hresult] at hnext
      exact hfault.trans hnext
    | ok last =>
      rw [hresult] at hnext
      obtain ⟨hfault', hd', ho', hends'⟩ := hnext
      exact ⟨hfault.trans hfault', hd'.trans hd, ho'.trans ho, hends'⟩

/-- A lexeme that can follow and leaves the groups as they are. -/
theorem Follows.cons {r : Except GrammarError (Parsed origin)}
    (hnext : p.next? lexeme.token = some q) (hle : q.depth ≤ limit) (hgroups : q.groups = p.groups)
    (h : Follows limit level q ⟨rest, depth, openGroups⟩ r) :
    Follows limit level p ⟨lexeme :: rest, depth, openGroups⟩ r := by
  cases r with
  | error error => exact (fault?_cons_of_le hnext hle).trans h
  | ok parsed =>
    obtain ⟨hfault, hcounters⟩ := h
    have hsettled : q.settled = p.settled := by rw [settled, settled, hgroups]
    exact ⟨(fault?_cons_of_le hnext hle).trans (hsettled ▸ hfault), hcounters⟩

theorem Follows.negation {pos : Nat}
    (hfits : Fits limit ⟨true, signs + 1, groups⟩ ⟨rest, depth + 1, openGroups⟩)
    {r : Except GrammarError (Parsed ⟨rest, depth + 1, openGroups⟩)}
    (h : Follows limit .unary ⟨true, signs + 1, groups⟩ ⟨rest, depth + 1, openGroups⟩ r) :
    Follows limit .unary ⟨true, signs, groups⟩
      ⟨⟨.operator .minus, pos⟩ :: rest, depth, openGroups⟩
      (r.map Cursor.negated :
        Except GrammarError (Parsed ⟨⟨.operator .minus, pos⟩ :: rest, depth, openGroups⟩)) := by
  have hcons : Prospect.fault? limit ⟨true, signs, groups⟩ (⟨.operator .minus, pos⟩ :: rest) =
      Prospect.fault? limit ⟨true, signs + 1, groups⟩ rest :=
    fault?_cons_of_le (next?_minus signs groups) hfits.within
  cases r with
  | error error => exact hcons.trans h
  | ok operand =>
    obtain ⟨hfault, hd, ho, hends⟩ := h
    exact ⟨hcons.trans hfault, by simp [Cursor.negated, hd], ho, hends⟩

/-- Behind the inside of a group stands the closing lexeme, or something is wrong. -/
theorem Follows.group {pos : Nat}
    (hfits : Fits limit ⟨true, 0, signs :: groups⟩ ⟨rest, depth + 1, openGroups + 1⟩)
    {x : Except GrammarError (Parsed ⟨rest, depth + 1, openGroups + 1⟩)}
    (h : Follows limit .expression ⟨true, 0, signs :: groups⟩
      ⟨rest, depth + 1, openGroups + 1⟩ x) :
    Follows limit .unary ⟨true, signs, groups⟩ ⟨⟨.opening, pos⟩ :: rest, depth, openGroups⟩
      (x.bind Cursor.closeGroup :
        Except GrammarError (Parsed ⟨⟨.opening, pos⟩ :: rest, depth, openGroups⟩)) := by
  have hcons : Prospect.fault? limit ⟨true, signs, groups⟩ (⟨.opening, pos⟩ :: rest) =
      Prospect.fault? limit ⟨true, 0, signs :: groups⟩ rest :=
    fault?_cons_of_le (next?_opening signs groups) hfits.within
  cases x with
  | error error => exact hcons.trans h
  | ok inner =>
    obtain ⟨hfault, hd, ho, hends⟩ := h
    obtain ⟨tree, ⟨rest', depth', openGroups'⟩, hs⟩ := inner
    obtain rfl : depth' = depth + 1 := hd
    obtain rfl : openGroups' = openGroups + 1 := ho
    show Follows limit .unary _ _ (Cursor.closeGroup _)
    match rest' with
    | [] => exact hcons.trans hfault
    | ⟨.closing, pos'⟩ :: after =>
      have hle : Prospect.depth ⟨false, 0, groups⟩ ≤ limit :=
        Nat.le_trans (depth_closing_le true 0 signs groups) hfits.within
      have hclose : Prospect.fault? limit ⟨false, 0, signs :: groups⟩ (⟨.closing, pos'⟩ :: after) =
          Prospect.fault? limit ⟨false, 0, groups⟩ after :=
        fault?_cons_of_le (next?_closing 0 signs groups) hle
      exact ⟨hcons.trans (hfault.trans hclose), rfl, rfl, EndsAt.unary _⟩
    | ⟨.number value, pos'⟩ :: after => exact hcons.trans hfault
    | ⟨.opening, pos'⟩ :: after => exact hcons.trans hfault
    | ⟨.operator op, pos'⟩ :: after => exact absurd (hends.head rfl) (by simp [Phrase.Level.takes])

/-- The descent follows the prospect. -/
theorem follows_expression (hfits : Fits limit ⟨true, 0, groups⟩ c) :
    Follows limit .expression ⟨true, 0, groups⟩ c (c.expression limit) := by
  -- Signs wait only where a unary phrase begins; each loop begins behind an operand.
  refine Cursor.descent_induct
    (fun level c r => ∀ signs groups, (level = .unary ∨ signs = 0) →
      Fits limit ⟨true, signs, groups⟩ c → Follows limit level ⟨true, signs, groups⟩ c r)
    (fun additive _ l r => ∀ groups, Fits limit ⟨false, 0, groups⟩ l.cursor →
      (Phrase.Level.operand additive).EndsAt l.cursor.rest →
      Follows limit (.chain additive) ⟨false, 0, groups⟩ l.cursor r)
    ?chain ?link ?stop ?negation ?negationBeyond ?number ?group ?groupBeyond ?closing ?operator
    ?nil .expression c 0 groups (.inr rfl) hfits
  case chain =>
    intro additive c hfirst hloop signs groups hsigns hfits
    obtain rfl : signs = 0 := hsigns.resolve_left (by cases additive <;> nofun)
    refine (hfirst 0 groups (.inr rfl) hfits).bind fun parsed hd ho hends => ?_
    exact hloop parsed groups (hfits.settle rfl hd ho) hends
  case link =>
    intro start left op pos depth openGroups rest hs additive hop hoperand hloop groups hfits hends
    have hfits' : Fits limit ⟨true, 0, groups⟩ ⟨rest, depth, openGroups⟩ :=
      ⟨hfits.depth, hfits.openGroups, hfits.within⟩
    refine ((hoperand 0 groups (.inr rfl) hfits').bind fun parsed hd ho hends => ?_).cons
      (next?_operator _ _ _) hfits'.within rfl
    exact hloop parsed _ groups (hfits'.settle rfl hd ho) hends
  case stop =>
    intro additive start left hstop groups hfits hends
    exact ⟨rfl, rfl, rfl, hends.chain hstop⟩
  case negation =>
    intro pos depth openGroups rest hlt hoperand signs groups _ hfits
    have hfits' := hfits.negation hlt
    exact (hoperand (signs + 1) groups (.inl rfl) hfits').negation hfits'
  case negationBeyond =>
    intro pos depth openGroups rest hle signs groups _ hfits
    have hdepth : Prospect.depth ⟨true, signs + 1, groups⟩ =
        Prospect.depth ⟨true, signs, groups⟩ + 1 := Nat.add_right_comm _ _ _
    exact fault?_cons_of_lt (next?_minus signs groups) (hfits.lt_of_succ hle hdepth)
  case number =>
    intro value pos depth openGroups rest signs groups _ hfits
    have hle : Prospect.depth ⟨false, 0, groups⟩ ≤ limit :=
      Nat.le_trans (depth_settled_le ⟨true, signs, groups⟩) hfits.within
    exact ⟨fault?_cons_of_le (next?_number signs groups value) hle, rfl, rfl, EndsAt.unary _⟩
  case group =>
    intro pos depth openGroups rest hlt hinside signs groups _ hfits
    have hfits' := hfits.group hlt
    exact (hinside 0 (signs :: groups) (.inr rfl) hfits').group hfits'
  case groupBeyond =>
    intro pos depth openGroups rest hle signs groups _ hfits
    have hdepth : Prospect.depth ⟨true, 0, signs :: groups⟩ =
        Prospect.depth ⟨true, signs, groups⟩ + 1 := by
      simp only [Prospect.depth, enclosing]
      omega
    exact fault?_cons_of_lt (next?_opening signs groups) (hfits.lt_of_succ hle hdepth)
  case closing =>
    intro pos depth openGroups rest signs groups _ hfits
    obtain rfl : openGroups = groups.length := hfits.openGroups
    refine (fault?_cons_of_none rfl).trans (congrArg some ?_)
    simp [refusal]
  case operator =>
    intro op pos depth openGroups rest hop signs groups _ hfits
    cases op with
    | minus => contradiction
    | plus | star | slash => rfl
  case nil =>
    intro depth openGroups signs groups _ hfits
    obtain rfl : openGroups = groups.length := hfits.openGroups
    show (if 0 < groups.length then _ else _) = some _
    split <;> rfl

/-- The descent fails with what the prospect finds wrong. -/
theorem ofLexemes_eq_error_iff {error : GrammarError} (hne : lexemes ≠ []) :
    Expr.ofLexemes lexemes limit = .error error ↔ start.fault? limit lexemes = some error := by
  have hfits : Fits limit ⟨true, 0, []⟩ ⟨lexemes, 0, 0⟩ := ⟨rfl, rfl, limit.zero_le⟩
  have hfollows := follows_expression hfits
  rw [ofLexemes_eq_bind hne]
  cases hresult : Cursor.expression limit ⟨lexemes, 0, 0⟩ with
  | error found =>
    rw [hresult] at hfollows
    have hfault : start.fault? limit lexemes = some found := hfollows
    simp [hfault, Except.bind]
  | ok parsed =>
    rw [hresult] at hfollows
    obtain ⟨hfault, -, -, hends⟩ := hfollows
    have hfault : start.fault? limit lexemes = fault? limit ⟨false, 0, []⟩ parsed.cursor.rest :=
      hfault
    rw [hfault]
    show parsed.complete = .error error ↔ _
    unfold Parsed.complete
    split
    case h_1 hrest => simp [hrest, fault?, endError?]
    case h_2 lexeme rest hrest =>
      have htakes := hends.head hrest
      have hstop : next? ⟨false, 0, []⟩ lexeme.token = none := by
        cases htoken : lexeme.token with
        | operator op => simp [htoken, Phrase.Level.takes] at htakes
        | number | opening | closing => rfl
      simp [hrest, fault?_cons_of_none hstop, refusal]

theorem exists_ofLexemes_eq_ok_iff (hne : lexemes ≠ []) :
    (∃ tree, Expr.ofLexemes lexemes limit = .ok tree) ↔ start.fault? limit lexemes = none := by
  constructor
  · rintro ⟨tree, htree⟩
    rw [Option.eq_none_iff_forall_ne_some]
    intro error herror
    rw [(ofLexemes_eq_error_iff hne).mpr herror] at htree
    contradiction
  · intro hnone
    cases hresult : Expr.ofLexemes lexemes limit with
    | ok tree => exact ⟨tree, rfl⟩
    | error error =>
      rw [(ofLexemes_eq_error_iff hne).mp hresult] at hnone
      contradiction

end Reckoner.Prospect
