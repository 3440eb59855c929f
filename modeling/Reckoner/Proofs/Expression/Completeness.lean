import Reckoner.Proofs.Expression.Descent

/-!
The descent reads every phrase of the grammar.

A phrase is read wherever it stands, provided that no operator follows which would carry it on. The
depth of the cursor and the nesting of the derivation add up.
-/
namespace Reckoner
namespace Phrase.Level

/-- Whether the token carries a phrase of the level on. -/
def takes : Level → Token → Bool
  | expression, .operator _ => true
  | term, .operator op => !op.isAdditive
  | _, _ => false

def EndsAt (level : Level) (rest : List Lexeme) : Prop :=
  ∀ lexeme ∈ rest.head?, level.takes lexeme.token = false

variable {level : Level} {lexeme : Lexeme} {rest after : List Lexeme} {additive : Bool}
  {op : Operator}

theorem EndsAt.head (h : level.EndsAt rest) (hrest : rest = lexeme :: after) :
    level.takes lexeme.token = false := h lexeme (by rw [hrest]; exact rfl)

theorem EndsAt.of_cons (h : level.takes lexeme.token = false) : level.EndsAt (lexeme :: rest) := by
  simpa [EndsAt] using h

theorem EndsAt.unary (rest : List Lexeme) : Level.unary.EndsAt rest := fun _ _ => rfl

theorem takes_chain (hop : op.isAdditive = additive) :
    (chain additive).takes (.operator op) = true := by
  cases additive with
  | true => rfl
  | false => simp [chain, takes, hop]

theorem takes_operand (hop : op.isAdditive = additive) :
    (operand additive).takes (.operator op) = false := by
  cases additive with
  | true => simp [operand, takes, hop]
  | false => rfl

/-- The chain takes what carries an operand on, and besides the operators of its own kind. -/
theorem takes_chain_of_ne (hop : op.isAdditive ≠ additive) :
    (chain additive).takes (.operator op) = (operand additive).takes (.operator op) := by
  cases additive with
  | true => simp [chain, operand, takes, hop]
  | false => simp [chain, operand, takes, hop]

/-- Where a chain ends so does its last operand. -/
theorem EndsAt.operand (h : (chain additive).EndsAt rest) : (operand additive).EndsAt rest := by
  cases additive with
  | false => exact EndsAt.unary rest
  | true =>
    intro lexeme hl
    have hends := h lexeme hl
    cases htoken : lexeme.token with
    | operator op => simp [Level.chain, takes, htoken] at hends
    | number | opening | closing => rfl

/-- Where an operand ends and no operator of the kind follows, the chain ends too. -/
theorem EndsAt.chain (h : (Level.operand additive).EndsAt rest)
    (hstop : ∀ op pos after, rest = ⟨.operator op, pos⟩ :: after → op.isAdditive ≠ additive) :
    (chain additive).EndsAt rest := by
  intro lexeme hl
  obtain ⟨after, hrest⟩ := List.head?_eq_some_iff.mp hl
  obtain ⟨token, pos⟩ := lexeme
  have hends := h.head hrest
  cases token with
  | operator op => rwa [takes_chain_of_ne (hstop op pos after hrest)]
  | number | opening | closing => cases additive <;> rfl

/-- Wherever the tokens stand with nothing behind them that carries them on, the descent gives
their tree and stops behind them if there is room for their nesting, and otherwise complains. -/
def Reads (limit : Nat) (level : Level) (ts : List Token) (tree : Expr) (nesting : Nat) : Prop :=
  ∀ (ls rest : List Lexeme) (depth openGroups : Nat),
    ls.map Lexeme.token = ts → level.EndsAt rest → depth ≤ limit →
      (depth + nesting ≤ limit → ∃ hs, level.parse limit ⟨ls ++ rest, depth, openGroups⟩ =
        .ok ⟨tree, ⟨rest, depth, openGroups⟩, hs⟩) ∧
      (limit < depth + nesting →
        level.parse limit ⟨ls ++ rest, depth, openGroups⟩ = .error (.tooComplex limit))

end Phrase.Level

namespace Phrase

open Level

variable {limit depth openGroups nesting : Nat} {ts : List Token} {tree : Expr}
  {links : List Link} {rest : List Lexeme}

theorem reads_number (value : Binary64) : Reads limit .unary [.number value] (.number value) 0 := by
  intro ls rest depth openGroups hls _ hd
  obtain ⟨⟨token, pos⟩, rfl, rfl⟩ := List.map_eq_singleton_iff.mp hls
  rw [parse, Cursor.unary_eq_primary (by simp)]
  exact ⟨fun _ => ⟨_, Cursor.primary_number value⟩, fun h => absurd hd (Nat.not_le.mpr h)⟩

theorem reads_negation (ih : Reads limit .unary ts tree nesting) :
    Reads limit .unary (.operator .minus :: ts) (.negate tree) (1 + nesting) := by
  intro ls rest depth openGroups hls hrest hd
  obtain ⟨⟨token, pos⟩, operand, rfl, rfl, hoperand⟩ := List.map_eq_cons_iff.mp hls
  rcases Nat.lt_or_ge depth limit with hlt | hge
  · obtain ⟨hok, herror⟩ := ih operand rest (depth + 1) openGroups hoperand hrest hlt
    constructor
    · intro h
      obtain ⟨hs, hp⟩ := hok (by omega)
      refine ⟨Nat.lt_succ_of_lt hs, ?_⟩
      exact (Cursor.unary_minus_of_lt hlt).trans (congrArg (Except.map _) hp)
    · intro h
      exact (Cursor.unary_minus_of_lt hlt).trans (congrArg (Except.map _) (herror (by omega)))
  · exact ⟨fun h => by omega, fun _ => Cursor.unary_minus_of_le hge⟩

theorem reads_group (ih : Reads limit .expression ts tree nesting) :
    Reads limit .unary (.opening :: (ts ++ [.closing])) tree (1 + nesting) := by
  intro ls rest depth openGroups hls hrest hd
  obtain ⟨⟨token, pos⟩, body, rfl, rfl, hbody⟩ := List.map_eq_cons_iff.mp hls
  obtain ⟨inner, close, rfl, hinner, hclose⟩ := List.map_eq_append_iff.mp hbody
  obtain ⟨⟨token', pos'⟩, rfl, rfl⟩ := List.map_eq_singleton_iff.mp hclose
  rw [List.cons_append, List.append_assoc, List.singleton_append]
  rw [parse, Cursor.unary_eq_primary (by simp)]
  rcases Nat.lt_or_ge depth limit with hlt | hge
  · obtain ⟨hok, herror⟩ := ih inner (⟨.closing, pos'⟩ :: rest) (depth + 1) (openGroups + 1) hinner
      (EndsAt.of_cons rfl) hlt
    rw [Cursor.primary_opening_of_lt hlt]
    constructor
    · intro h
      obtain ⟨hs, hp⟩ := hok (by omega)
      exact ⟨_, (congrArg (Except.bind · Cursor.closeGroup) hp).trans Cursor.closeGroup_closing⟩
    · intro h
      exact congrArg (Except.bind · Cursor.closeGroup) (herror (by omega))
  · exact ⟨fun h => by omega, fun _ => Cursor.primary_opening_of_le hge⟩

theorem loop_of_endsAt {start : Cursor} {left : Parsed start} {additive : Bool}
    (h : (Level.chain additive).EndsAt left.cursor.rest) :
    Cursor.loop limit additive left = .ok left := by
  refine Cursor.loop_stop fun op pos rest hrest hop => ?_
  have htakes := h.head hrest
  rw [takes_chain hop] at htakes
  contradiction

theorem endsAt_allTokens {additive : Bool} (hop : ∀ link ∈ links, link.op.isAdditive = additive)
    {ls : List Lexeme} (hls : ls.map Lexeme.token = Link.allTokens links)
    (hrest : (Level.chain additive).EndsAt rest) :
    (Level.operand additive).EndsAt (ls ++ rest) := by
  cases links with
  | nil =>
    obtain rfl := List.map_eq_nil_iff.mp hls
    exact hrest.operand
  | cons link links =>
    obtain ⟨⟨token, pos⟩, tail, rfl, rfl, -⟩ := List.map_eq_cons_iff.mp hls
    exact EndsAt.of_cons (takes_operand (hop link List.mem_cons_self))

/-- The loop takes all links in turn and folds their trees onto the tree on their left. -/
theorem fold_links {additive : Bool} (hd : depth ≤ limit)
    (hop : ∀ link ∈ links, link.op.isAdditive = additive)
    (hreads : ∀ link ∈ links, Reads limit (.operand additive) link.tokens link.tree link.nesting)
    {ls all : List Lexeme} (hls : ls.map Lexeme.token = Link.allTokens links)
    (hall : all = ls ++ rest) (hrest : (Level.chain additive).EndsAt rest) (left : Expr)
    (hs : all.length < start.rest.length) :
    ((∀ link ∈ links, depth + link.nesting ≤ limit) →
      ∃ hs', Cursor.loop limit additive (⟨left, ⟨all, depth, openGroups⟩, hs⟩ : Parsed start) =
        .ok ⟨Link.fold left links, ⟨rest, depth, openGroups⟩, hs'⟩) ∧
    ((∃ link ∈ links, limit < depth + link.nesting) →
      Cursor.loop limit additive (⟨left, ⟨all, depth, openGroups⟩, hs⟩ : Parsed start) =
        .error (.tooComplex limit)) := by
  induction links generalizing left ls all with
  | nil =>
    obtain rfl := List.map_eq_nil_iff.mp hls
    obtain rfl : all = rest := hall
    exact ⟨fun _ => ⟨hs, loop_of_endsAt hrest⟩, fun ⟨_, hmem, _⟩ => absurd hmem List.not_mem_nil⟩
  | cons link links ih =>
    obtain ⟨⟨token, pos⟩, tail, rfl, rfl, htail⟩ := List.map_eq_cons_iff.mp hls
    obtain ⟨ls₁, ls₂, rfl, hls₁, hls₂⟩ := List.map_eq_append_iff.mp htail
    obtain rfl : all = ⟨.operator link.op, pos⟩ :: (ls₁ ++ (ls₂ ++ rest)) := by simp [hall]
    obtain ⟨hhead, htailop⟩ := List.forall_mem_cons.mp hop
    obtain ⟨hfirst, hothers⟩ := List.forall_mem_cons.mp hreads
    obtain ⟨hok, herror⟩ := hfirst ls₁ (ls₂ ++ rest) depth openGroups hls₁
      (endsAt_allTokens htailop hls₂ hrest) hd
    rw [Cursor.loop_operator hhead]
    rcases Nat.lt_or_ge limit (depth + link.nesting) with hgt | hle
    · rw [herror hgt]
      exact ⟨fun h => absurd (h link List.mem_cons_self) (Nat.not_le.mpr hgt), fun _ => rfl⟩
    · obtain ⟨hs₁, hp⟩ := hok hle
      rw [hp]
      obtain ⟨hok', herror'⟩ := ih htailop hothers hls₂ rfl (.binary link.op left link.tree)
        (Nat.lt_trans hs₁ (Nat.lt_of_succ_lt hs))
      constructor
      · intro h
        exact hok' fun other hmem => h other (List.mem_cons_of_mem _ hmem)
      · rintro ⟨other, hmem, hgt⟩
        rcases List.mem_cons.mp hmem with rfl | hmem
        · omega
        · exact herror' ⟨other, hmem, hgt⟩

/-- A chain is read as its first operand and then by the loop. -/
theorem reads_chain {additive : Bool} (hfirst : Reads limit (.operand additive) ts tree nesting)
    (hop : ∀ link ∈ links, link.op.isAdditive = additive)
    (hreads : ∀ link ∈ links,
      Reads limit (.operand additive) link.tokens link.tree link.nesting) :
    Reads limit (.chain additive) (ts ++ Link.allTokens links) (Link.fold tree links)
      (Link.greatest nesting links) := by
  intro ls rest depth openGroups hls hrest hd
  obtain ⟨ls₁, ls₂, rfl, hls₁, hls₂⟩ := List.map_eq_append_iff.mp hls
  obtain ⟨hok, herror⟩ := hfirst ls₁ (ls₂ ++ rest) depth openGroups hls₁
    (endsAt_allTokens hop hls₂ hrest) hd
  have hgreatest : depth + Link.greatest nesting links ≤ limit ↔
      depth + nesting ≤ limit ∧ ∀ link ∈ links, depth + link.nesting ≤ limit := by
    have h : Link.greatest nesting links ≤ limit - depth ↔ _ := Link.greatest_le_iff
    simpa only [Nat.le_sub_iff_add_le' hd] using h
  rw [Cursor.parse_chain, List.append_assoc]
  rcases Nat.lt_or_ge limit (depth + nesting) with hgt | hle
  · rw [herror hgt]
    exact ⟨fun h => absurd (hgreatest.mp h).1 (Nat.not_le.mpr hgt), fun _ => rfl⟩
  · obtain ⟨hs, hp⟩ := hok hle
    rw [hp]
    obtain ⟨hok', herror'⟩ := fold_links hd hop hreads hls₂ rfl hrest tree hs
    constructor
    · intro h
      exact hok' (hgreatest.mp h).2
    · intro h
      have hnot := mt hgreatest.mpr (Nat.not_le.mpr h)
      refine herror' ?_
      simpa [hle] using hnot

theorem reads (h : Phrase level ts tree nesting) : Reads limit level ts tree nesting := by
  induction h with
  | number value => exact reads_number value
  | negation _ ih => exact reads_negation ih
  | group _ ih => exact reads_group ih
  | term _ _ hop _ ihfirst ihothers => exact reads_chain ihfirst hop ihothers
  | expression _ _ hop _ ihfirst ihothers => exact reads_chain ihfirst hop ihothers

end Phrase
end Reckoner
