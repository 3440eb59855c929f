import Reckoner.Proofs.Expression.Descent
import Reckoner.Proofs.Outcome

/-!
What the descent reads without an error is a phrase of the grammar.

The counters of the cursor are the same behind a phrase as in front of it.
-/
namespace Reckoner
namespace Cursor

open Phrase (Level)

/-- From one cursor to the other stands a phrase within the limit, and the counters agree. -/
def Spans (limit : Nat) (level : Level) (c d : Cursor) (tree : Expr) : Prop :=
  ∃ ls nesting, c.rest = ls ++ d.rest ∧ Phrase level (ls.map Lexeme.token) tree nesting ∧
    c.depth + nesting ≤ limit ∧ d.depth = c.depth ∧ d.openGroups = c.openGroups

/-- From one cursor to the other stand links within the limit, which lead from the tree on their
left to another one, and the counters agree. -/
def SpansLinks (limit : Nat) (additive : Bool) (c d : Cursor) (left tree : Expr) : Prop :=
  ∃ ls links, c.rest = ls ++ d.rest ∧ ls.map Lexeme.token = Link.allTokens links ∧
    tree = Link.fold left links ∧ (∀ link ∈ links, link.op.isAdditive = additive) ∧
    (∀ link ∈ links, Phrase (.operand additive) link.tokens link.tree link.nesting) ∧
    (∀ link ∈ links, c.depth + link.nesting ≤ limit) ∧
    d.depth = c.depth ∧ d.openGroups = c.openGroups

variable {limit : Nat} {level : Level} {additive : Bool} {c d m : Cursor}
  {left right tree : Expr}

theorem Spans.depth_le (h : Spans limit level c d tree) (hd : c.depth ≤ limit) :
    d.depth ≤ limit := by
  obtain ⟨-, -, -, -, -, hdepth, -⟩ := h
  rwa [hdepth]

theorem SpansLinks.refl : SpansLinks limit additive c c tree tree :=
  ⟨[], [], by simp⟩

/-- An operator and an operand in front of further links are one link more. -/
theorem SpansLinks.step {op : Operator} {pos depth openGroups : Nat} {rest : List Lexeme}
    (hop : op.isAdditive = additive)
    (hspans : Spans limit (.operand additive) ⟨rest, depth, openGroups⟩ m right)
    (hlinks : SpansLinks limit additive m d (.binary op left right) tree) :
    SpansLinks limit additive ⟨⟨.operator op, pos⟩ :: rest, depth, openGroups⟩ d left
      tree := by
  obtain ⟨ls, nesting, hrest, hphrase, hnesting, hd, ho⟩ := hspans
  obtain ⟨ls', links, hrest', htokens, htree, hops, hphrases, hwithin, hd', ho'⟩ := hlinks
  refine ⟨⟨.operator op, pos⟩ :: (ls ++ ls'), ⟨op, ls.map Lexeme.token, right, nesting⟩ :: links,
    ?_, ?_, htree, ?_, ?_, ?_, hd'.trans hd, ho'.trans ho⟩
  · change rest = ls ++ m.rest at hrest
    simp [hrest, hrest']
  · simp [htokens]
  · exact List.forall_mem_cons.mpr ⟨hop, hops⟩
  · exact List.forall_mem_cons.mpr ⟨hphrase, hphrases⟩
  · refine List.forall_mem_cons.mpr ⟨hnesting, ?_⟩
    rw [hd] at hwithin
    exact hwithin

/-- A first operand and the links behind it are a chain, whose nesting is the greatest of all. -/
theorem Spans.chain (hfirst : Spans limit (.operand additive) c m left)
    (hlinks : SpansLinks limit additive m d left tree) :
    Spans limit (.chain additive) c d tree := by
  obtain ⟨ls, nesting, hrest, hphrase, hnesting, hd, ho⟩ := hfirst
  obtain ⟨ls', links, hrest', htokens, rfl, hops, hphrases, hwithin, hd', ho'⟩ := hlinks
  refine ⟨ls ++ ls', Link.greatest nesting links, ?_, ?_, ?_, hd'.trans hd, ho'.trans ho⟩
  · rw [hrest, hrest', List.append_assoc]
  · rw [List.map_append, htokens]
    exact hphrase.chain additive hops hphrases
  · rw [hd] at hwithin
    have hgreatest : Link.greatest nesting links ≤ limit - c.depth :=
      Link.greatest_le_iff.mpr ⟨by omega, fun link hmem => by have := hwithin link hmem; omega⟩
    omega

theorem Spans.negation {pos depth openGroups : Nat} {rest : List Lexeme}
    (h : Spans limit .unary ⟨rest, depth + 1, openGroups⟩ d tree) :
    Spans limit .unary ⟨⟨.operator .minus, pos⟩ :: rest, depth, openGroups⟩
      { d with depth := d.depth - 1 } (.negate tree) := by
  obtain ⟨ls, nesting, hrest, hphrase, hnesting, hd, ho⟩ := h
  change rest = ls ++ d.rest at hrest
  change d.depth = depth + 1 at hd
  refine ⟨⟨.operator .minus, pos⟩ :: ls, 1 + nesting, ?_, hphrase.negation, ?_, ?_, ho⟩
  · simp [hrest]
  · rwa [← Nat.add_assoc]
  · simp [hd]

theorem Spans.group {pos depth openGroups : Nat} {rest : List Lexeme}
    {inner : Parsed ⟨rest, depth + 1, openGroups + 1⟩}
    {p : Parsed ⟨⟨.opening, pos⟩ :: rest, depth, openGroups⟩}
    (h : Spans limit .expression ⟨rest, depth + 1, openGroups + 1⟩ inner.cursor inner.tree)
    (hclose : closeGroup inner = .ok p) :
    Spans limit .unary ⟨⟨.opening, pos⟩ :: rest, depth, openGroups⟩ p.cursor p.tree := by
  obtain ⟨ls, nesting, hrest, hphrase, hnesting, hd, ho⟩ := h
  obtain ⟨tree, ⟨rest', depth', openGroups'⟩, hs⟩ := inner
  obtain rfl : depth' = depth + 1 := hd
  obtain rfl : openGroups' = openGroups + 1 := ho
  match rest' with
  | [] => exact nomatch hclose
  | lexeme :: after =>
    by_cases hl : lexeme.token = .closing
    · obtain ⟨token, pos'⟩ := lexeme
      obtain rfl : token = .closing := hl
      rw [closeGroup_closing] at hclose
      obtain rfl := Except.ok.inj hclose
      change rest = ls ++ ⟨.closing, pos'⟩ :: after at hrest
      refine ⟨⟨.opening, pos⟩ :: (ls ++ [⟨.closing, pos'⟩]), 1 + nesting, ?_, ?_, ?_, rfl, rfl⟩
      · simp [hrest]
      · simpa using hphrase.group
      · rwa [← Nat.add_assoc]
    · rw [closeGroup_other hl] at hclose
      contradiction

/-- What the descent gives without an error has been read by the rules. -/
theorem spans_of_ok {p : Parsed c} (hd : c.depth ≤ limit) (h : expression limit c = .ok p) :
    Spans limit .expression c p.cursor p.tree := by
  refine descent_induct
    (fun level c r => c.depth ≤ limit → ∀ p, r = .ok p → Spans limit level c p.cursor p.tree)
    (fun additive _ l r => l.cursor.depth ≤ limit →
      ∀ p, r = .ok p → SpansLinks limit additive l.cursor p.cursor l.tree p.tree)
    ?chain ?link ?stop ?negation ?negationBeyond ?number ?group ?groupBeyond ?closing ?operator
    ?nil .expression c hd p h
  case chain =>
    intro additive c hfirst hloop hd p h
    obtain ⟨first, hf, hp⟩ := bind_eq_ok_iff.mp h
    have hspans := hfirst hd first hf
    exact hspans.chain (hloop first (hspans.depth_le hd) p hp)
  case link =>
    intro start left op pos depth openGroups rest hs additive hop hoperand hloop hd p h
    obtain ⟨right, hr, hp⟩ := bind_eq_ok_iff.mp h
    have hspans := hoperand hd right hr
    exact SpansLinks.step hop hspans (hloop right _ (hspans.depth_le hd) p hp)
  case stop =>
    intro additive start left _ hd p h
    obtain rfl := Except.ok.inj h
    exact SpansLinks.refl
  case negation =>
    intro pos depth openGroups rest hlt hoperand hd p h
    obtain ⟨operand, hop, rfl⟩ := map_eq_ok_iff.mp h
    exact (hoperand hlt operand hop).negation
  case number =>
    intro value pos depth openGroups rest hd p h
    obtain rfl := Except.ok.inj h
    exact ⟨[⟨.number value, pos⟩], 0, rfl, .number value, hd, rfl, rfl⟩
  case group =>
    intro pos depth openGroups rest hlt hinside hd p h
    obtain ⟨inner, hinner, hclose⟩ := bind_eq_ok_iff.mp h
    exact (hinside hlt inner hinner).group hclose
  case negationBeyond | groupBeyond | closing | operator | nil =>
    intros
    contradiction

end Cursor
end Reckoner
