import Mathlib.Data.List.MinMax
import Mathlib.Data.List.Nodup
import Mathlib.Logic.Function.Iterate
import Mathlib.Order.Nat
import Reckoner.Expression.Dismantling

/-!
Taking a tree apart with a worklist. The loop takes each node below the root exactly once and then
ends, and no node that it lets go of holds more than leaves.
-/
namespace Reckoner.Expr

/-- The tree at the end of a path, which names the operands to go down to, counted from the left. -/
def at? (e : Expr) : List Nat → Option Expr
  | [] => some e
  | i :: path => e.operands[i]?.bind (·.at? path)

/-- A tree and the path that leads to it from the root of another one. -/
structure Node where
  path : List Nat
  tree : Expr
  deriving DecidableEq, Repr

/-- The operands of a node, from left to right. -/
def Node.operands (n : Node) : List Node :=
  n.tree.operands.mapIdx fun i operand => ⟨n.path ++ [i], operand⟩

/-- All nodes of a tree to which a path leads, the root first. -/
def nodes (path : List Nat) : Expr → List Node
  | number value => [⟨path, number value⟩]
  | negate operand => ⟨path, negate operand⟩ :: operand.nodes (path ++ [0])
  | binary op left right =>
    ⟨path, binary op left right⟩ :: (left.nodes (path ++ [0]) ++ right.nodes (path ++ [1]))

/-- The nodes of all trees in a row. -/
def allNodes (ns : List Node) : List Node := ns.flatMap fun n => n.tree.nodes n.path

variable {e : Expr} {path : List Nat} {n m : Node}

/-- What holds of a tree if it holds of its operands holds of all trees. -/
theorem operands_induct {p : Expr → Prop} (step : ∀ e, (∀ operand ∈ e.operands, p operand) → p e)
    (e : Expr) : p e := by
  induction e with
  | number value => exact step _ nofun
  | negate operand ih => exact step _ (by simpa [operands] using ih)
  | binary op left right ihl ihr => exact step _ (by simpa [operands] using ⟨ihl, ihr⟩)

@[simp] theorem allNodes_nil : allNodes [] = [] := rfl

@[simp] theorem allNodes_cons (n : Node) (ns : List Node) :
    allNodes (n :: ns) = n.tree.nodes n.path ++ allNodes ns := rfl

theorem allNodes_append (ns ms : List Node) :
    allNodes (ns ++ ms) = allNodes ns ++ allNodes ms := List.flatMap_append

/-- The nodes of a tree are its root and those of the operands. -/
theorem nodes_eq_cons (n : Node) : n.tree.nodes n.path = n :: allNodes n.operands := by
  obtain ⟨path, tree⟩ := n
  cases tree <;> simp [nodes, allNodes, Node.operands, operands]

theorem length_nodes (e : Expr) (path : List Nat) : (e.nodes path).length = e.size := by
  induction e generalizing path with
  | number value => rfl
  | negate operand ih => simp [nodes, size, ih]
  | binary op left right ihl ihr => simp [nodes, size, ihl, ihr]

theorem mem_operands_iff :
    m ∈ n.operands ↔ ∃ i, n.tree.operands[i]? = some m.tree ∧ m.path = n.path ++ [i] := by
  obtain ⟨path, tree⟩ := m
  simp only [Node.operands, List.mem_mapIdx, Node.mk.injEq, List.getElem?_eq_some_iff]
  constructor
  · rintro ⟨i, hi, rfl, rfl⟩
    exact ⟨i, ⟨hi, rfl⟩, rfl⟩
  · rintro ⟨i, ⟨hi, rfl⟩, rfl⟩
    exact ⟨i, hi, rfl, rfl⟩

/-- A node is one of the tree if a way leads to it from the root. -/
theorem mem_nodes_iff :
    n ∈ e.nodes path ↔ ∃ way, n.path = path ++ way ∧ e.at? way = some n.tree := by
  induction e using operands_induct generalizing path with
  | step e ih =>
    rw [nodes_eq_cons ⟨path, e⟩, List.mem_cons, allNodes, List.mem_flatMap]
    constructor
    · rintro (rfl | ⟨m, hm, hn⟩)
      · exact ⟨[], (List.append_nil path).symm, rfl⟩
      · obtain ⟨i, hi, hpath⟩ := mem_operands_iff.mp hm
        obtain ⟨way, hway, hat⟩ := (ih m.tree (List.mem_of_getElem? hi)).mp hn
        refine ⟨i :: way, ?_, ?_⟩
        · rw [hway, hpath, List.append_assoc, List.singleton_append]
        · rw [at?, hi]
          exact hat
    · rintro ⟨way, hway, hat⟩
      cases way with
      | nil =>
        rw [List.append_nil] at hway
        obtain rfl := Option.some.inj hat
        exact .inl (by rw [← hway])
      | cons i way =>
        obtain ⟨operand, hi, hat⟩ := Option.bind_eq_some_iff.mp hat
        refine .inr ⟨⟨path ++ [i], operand⟩, mem_operands_iff.mpr ⟨i, hi, rfl⟩, ?_⟩
        refine (ih operand (List.mem_of_getElem? hi)).mpr ⟨way, ?_, hat⟩
        rw [hway, List.append_assoc, List.singleton_append]

theorem prefix_of_mem_nodes {way : List Nat} (h : way ∈ (e.nodes path).map Node.path) :
    path <+: way := by
  obtain ⟨n, hn, rfl⟩ := List.mem_map.mp h
  obtain ⟨way, hway, -⟩ := mem_nodes_iff.mp hn
  exact ⟨way, hway.symm⟩

/-- No two nodes are reached in the same way. -/
theorem nodup_nodes (e : Expr) (path : List Nat) : ((e.nodes path).map Node.path).Nodup := by
  have hroot (path : List Nat) (operand : Expr) (i : Nat) :
      path ∉ (operand.nodes (path ++ [i])).map Node.path := by
    intro h
    have hle := (prefix_of_mem_nodes h).length_le
    rw [List.length_append, List.length_singleton] at hle
    omega
  induction e generalizing path with
  | number value => exact List.nodup_singleton path
  | negate operand ih => exact List.nodup_cons.mpr ⟨hroot path operand 0, ih _⟩
  | binary op left right ihl ihr =>
    rw [nodes, List.map_cons, List.map_append, List.nodup_cons, List.mem_append, not_or,
      List.nodup_append]
    refine ⟨⟨hroot path left 0, hroot path right 1⟩, ihl _, ihr _, ?_⟩
    rintro way hleft _ hright rfl
    have hways := List.prefix_of_prefix_length_le (prefix_of_mem_nodes hleft)
      (prefix_of_mem_nodes hright) (by simp)
    simpa using hways.eq_of_length (by simp)

/-- The nodes below the root. -/
def descendants (e : Expr) : List Node := allNodes (Node.operands ⟨[], e⟩)

theorem nodes_eq_cons_descendants (e : Expr) : e.nodes [] = ⟨[], e⟩ :: e.descendants :=
  nodes_eq_cons ⟨[], e⟩

theorem length_descendants (e : Expr) : e.descendants.length = e.size - 1 := by
  rw [← length_nodes e [], nodes_eq_cons_descendants, List.length_cons, Nat.add_sub_cancel]

theorem nodup_descendants (e : Expr) : (([] : List Nat) :: e.descendants.map Node.path).Nodup := by
  have hnodup := e.nodup_nodes []
  rwa [nodes_eq_cons_descendants, List.map_cons] at hnodup

theorem mem_descendants_iff : n ∈ e.descendants ↔ n.path ≠ [] ∧ e.at? n.path = some n.tree := by
  have hnodes : n ∈ e.nodes [] ↔ e.at? n.path = some n.tree := by
    rw [mem_nodes_iff]
    simp
  rw [← hnodes, nodes_eq_cons_descendants, List.mem_cons]
  have hroot : n ∈ e.descendants → n.path ≠ [] := fun h hpath =>
    (List.nodup_cons.mp e.nodup_descendants).1 (hpath ▸ List.mem_map_of_mem h)
  constructor
  · exact fun h => ⟨hroot h, .inr h⟩
  · rintro ⟨hpath, rfl | h⟩
    · exact absurd rfl hpath
    · exact h

/-! The loop. -/

theorem dismantle_cons (node : Expr) (rest : List Expr) :
    dismantle (node :: rest) = node.cutOff :: dismantle (node.operands.reverse ++ rest) := by
  rw [dismantle]

/-- The nodes that are still to be taken, of which the last one put there comes first, and those
that have been taken. -/
structure Worklist where
  pending : List Node
  taken : List Node
  deriving DecidableEq, Repr

namespace Worklist

/-- What the loop begins with: the operands of the root. -/
def start (e : Expr) : Worklist := ⟨(Node.operands ⟨[], e⟩).reverse, []⟩

/-- Takes a node, if there is one, and puts its operands on the worklist. -/
def step : Worklist → Worklist
  | ⟨[], taken⟩ => ⟨[], taken⟩
  | ⟨n :: rest, taken⟩ => ⟨n.operands.reverse ++ rest, taken ++ [n]⟩

theorem step_nil (taken : List Node) : step ⟨[], taken⟩ = ⟨[], taken⟩ := rfl

theorem step_cons (n : Node) (rest taken : List Node) :
    step ⟨n :: rest, taken⟩ = ⟨n.operands.reverse ++ rest, taken ++ [n]⟩ := rfl

/-- Of the nodes below the root these have been taken, and all others are in the pending trees. What
the loop has let go of and what is still to come is what `dismantle` gives. -/
structure Reached (e : Expr) (w : Worklist) : Prop where
  perm : (w.taken ++ allNodes w.pending).Perm e.descendants
  released : w.taken.map (·.tree.cutOff) ++ dismantle (w.pending.map Node.tree) =
    dismantle e.operands.reverse

theorem map_tree_operands (n : Node) : n.operands.map Node.tree = n.tree.operands := by
  simp [Node.operands, List.mapIdx_eq_zipIdx_map, Function.comp_def]

theorem allNodes_reverse_perm (ns : List Node) : (allNodes ns.reverse).Perm (allNodes ns) :=
  (List.reverse_perm ns).flatMap_right _

theorem reached_start (e : Expr) : Reached e (start e) := by
  refine ⟨allNodes_reverse_perm _, ?_⟩
  rw [start, List.map_reverse, map_tree_operands]
  rfl

/-- A node that is taken makes place for its operands. -/
theorem Reached.step {w : Worklist} (h : Reached e w) : Reached e w.step := by
  obtain ⟨pending, taken⟩ := w
  obtain ⟨hperm, hreleased⟩ := h
  cases pending with
  | nil => exact ⟨hperm, hreleased⟩
  | cons n rest =>
    rw [step_cons]
    refine ⟨List.Perm.trans ?_ hperm, Eq.trans ?_ hreleased⟩
    · rw [allNodes_append, allNodes_cons, nodes_eq_cons, List.append_assoc, List.cons_append]
      exact (((allNodes_reverse_perm n.operands).append_right _).cons n).append_left taken
    · have hpending : (n.operands.reverse ++ rest).map Node.tree =
          n.tree.operands.reverse ++ rest.map Node.tree := by
        rw [List.map_append, List.map_reverse, map_tree_operands]
      rw [hpending, List.map_append, List.append_assoc]
      exact congrArg _ (dismantle_cons n.tree _).symm

theorem reached_iterate (e : Expr) (k : Nat) : Reached e (Worklist.step^[k] (start e)) := by
  induction k with
  | zero => exact reached_start e
  | succ k ih =>
    rw [Function.iterate_succ_apply']
    exact ih.step

theorem Reached.pending_eq_nil_iff {w : Worklist} (h : Reached e w) :
    w.pending = [] ↔ w.taken.length = e.size - 1 := by
  have hlength := h.perm.length_eq
  rw [List.length_append, length_descendants] at hlength
  cases hpending : w.pending with
  | nil => simpa [hpending] using hlength
  | cons n rest =>
    rw [hpending, allNodes_cons, List.length_append, length_nodes] at hlength
    have hpos := n.tree.size_pos
    simp only [reduceCtorEq, false_iff]
    omega

/-- A step takes a node unless all are taken. -/
theorem Reached.length_step {w : Worklist} (h : Reached e w) :
    w.step.taken.length = min (w.taken.length + 1) (e.size - 1) := by
  have hend := h.pending_eq_nil_iff
  have hle := h.perm.length_eq
  rw [List.length_append, length_descendants] at hle
  obtain ⟨pending, taken⟩ := w
  cases pending with
  | nil =>
    have hall : taken.length = e.size - 1 := hend.mp rfl
    rw [step_nil, hall]
    omega
  | cons n rest =>
    have hmore : taken.length ≠ e.size - 1 := fun hall => nomatch hend.mpr hall
    have hle : taken.length + _ = e.size - 1 := hle
    rw [step_cons, List.length_append, List.length_singleton]
    omega

theorem length_taken (e : Expr) (k : Nat) :
    (Worklist.step^[k] (start e)).taken.length = min k (e.size - 1) := by
  induction k with
  | zero => exact (Nat.zero_min _).symm
  | succ k ih =>
    rw [Function.iterate_succ_apply', (reached_iterate e k).length_step, ih]
    omega

end Worklist

/-! What is let go of. -/

/-- There is nothing but leaves below the root. -/
def IsShell (e : Expr) : Prop := ∀ operand ∈ e.operands, ∃ value, operand = number value

theorem isShell_cutOff (e : Expr) : e.cutOff.IsShell := by
  cases e <;> simp [IsShell, cutOff, operands]

theorem size_cutOff_le (e : Expr) : e.cutOff.size ≤ e.size := by
  cases e with
  | number value => exact Nat.le_refl _
  | negate operand =>
    have := operand.size_pos
    simp only [cutOff, size]
    omega
  | binary op left right =>
    have := left.size_pos
    have := right.size_pos
    simp only [cutOff, size]
    omega

/-- Every node that is let go of is one of the trees, cut off. -/
theorem exists_of_mem_dismantle {pending : List Expr} {shell : Expr}
    (h : shell ∈ dismantle pending) :
    ∃ node : Expr, shell = node.cutOff ∧ node.size ≤ totalSize pending := by
  fun_induction dismantle pending with
  | case1 => cases h
  | case2 node rest ih =>
    have hsize : totalSize (node :: rest) = node.size + totalSize rest := rfl
    rcases List.mem_cons.mp h with rfl | h
    · exact ⟨node, rfl, by omega⟩
    · obtain ⟨below, hshell, hle⟩ := ih h
      have hoperands := totalSize_operands node
      rw [totalSize_reverse_append] at hle
      exact ⟨below, hshell, by omega⟩

theorem size_le_totalSize {es : List Expr} (h : e ∈ es) : e.size ≤ totalSize es := by
  induction es with
  | nil => cases h
  | cons first rest ih =>
    rw [totalSize]
    rcases List.mem_cons.mp h with rfl | h
    · exact Nat.le_add_right _ _
    · exact Nat.le_trans (ih h) (Nat.le_add_left _ _)

theorem size_lt_of_mem_dismantle {shell : Expr} (h : shell ∈ dismantle e.operands.reverse) :
    shell.size < e.size := by
  obtain ⟨node, rfl, hle⟩ := exists_of_mem_dismantle h
  have hcut := size_cutOff_le node
  have htotal := totalSize_reverse_append e.operands []
  have hoperands := totalSize_operands e
  rw [List.append_nil, totalSize] at htotal
  omega

theorem size_lt_of_mem_operands_cutOff {leaf : Expr} (h : leaf ∈ e.cutOff.operands) :
    leaf.size < e.size := by
  have hle := size_cutOff_le e
  have hoperands := totalSize_operands e.cutOff
  have hleaf := size_le_totalSize h
  omega

/-- How many releases nest when a tree is released. First it is taken apart, and every node that the
loop takes is released when it has been cut off. Then the leaves are released that stand in the
places of its own operands. -/
def releases (e : Expr) : Nat :=
  ((dismantle e.operands.reverse ++ e.cutOff.operands).attach.map fun part =>
    part.1.releases).foldr max 0 + 1
termination_by e.size
decreasing_by
  rcases List.mem_append.mp part.2 with h | h
  · exact size_lt_of_mem_dismantle h
  · exact size_lt_of_mem_operands_cutOff h

theorem releases_le_of_forall {bound : Nat}
    (h : ∀ part ∈ dismantle e.operands.reverse ++ e.cutOff.operands, part.releases ≤ bound) :
    e.releases ≤ bound + 1 := by
  rw [releases]
  refine Nat.succ_le_succ (List.max_le_of_forall_le _ bound fun n hn => ?_)
  obtain ⟨part, -, rfl⟩ := List.mem_map.mp hn
  exact h part.1 part.2

theorem releases_number (value : Binary64) : (number value).releases ≤ 1 :=
  releases_le_of_forall (by simp [operands, cutOff, dismantle])

/-- Leaves have nothing to be cut off from. -/
theorem dismantle_leaves {leaves : List Expr} (h : ∀ leaf ∈ leaves, ∃ value, leaf = number value) :
    dismantle leaves = leaves := by
  induction leaves with
  | nil => rw [dismantle]
  | cons leaf leaves ih =>
    obtain ⟨⟨value, rfl⟩, hrest⟩ := List.forall_mem_cons.mp h
    rw [dismantle_cons, operands, List.reverse_nil, List.nil_append, ih hrest, cutOff]

/-- Nothing but leaves is released in the release of a node that is cut off. -/
theorem IsShell.releases_le (h : e.IsShell) : e.releases ≤ 2 := by
  refine releases_le_of_forall fun part hpart => ?_
  suffices hleaf : ∃ value, part = number value by
    obtain ⟨value, rfl⟩ := hleaf
    exact releases_number value
  rcases List.mem_append.mp hpart with hpart | hpart
  · rw [dismantle_leaves fun leaf hleaf => h leaf (List.mem_reverse.mp hleaf)] at hpart
    exact h part (List.mem_reverse.mp hpart)
  · exact isShell_cutOff e part hpart

theorem releases_le (e : Expr) : e.releases ≤ 3 := by
  refine releases_le_of_forall fun part hpart => IsShell.releases_le ?_
  rcases List.mem_append.mp hpart with h | h
  · obtain ⟨node, rfl, -⟩ := exists_of_mem_dismantle h
    exact isShell_cutOff node
  · obtain ⟨value, rfl⟩ := isShell_cutOff e part h
    exact nofun

/-- However a tree is built, the loop takes every node below the root once and ends when it has
taken as many as there are. What is let go of is cut off from its operands, so that releases never
nest further than to the leaves in their places. -/
theorem dismantle_complete (e : Expr) :
    (∀ k, (Worklist.step^[k] (.start e)).pending = [] ↔ e.size - 1 ≤ k) ∧
    (∃ taken : List Node, Worklist.step^[e.size - 1] (.start e) = ⟨[], taken⟩ ∧
      taken.length = e.size - 1 ∧
      (taken.map Node.path).Nodup ∧
      (∀ n, n ∈ taken ↔ n.path ≠ [] ∧ e.at? n.path = some n.tree) ∧
      dismantle e.operands.reverse = taken.map (·.tree.cutOff)) ∧
    (∀ shell ∈ e.cutOff :: dismantle e.operands.reverse, shell.IsShell) ∧
    e.releases ≤ 3 := by
  have hend (k : Nat) : (Worklist.step^[k] (.start e)).pending = [] ↔ e.size - 1 ≤ k := by
    rw [(Worklist.reached_iterate e k).pending_eq_nil_iff, Worklist.length_taken]
    omega
  refine ⟨hend, ?_, ?_, e.releases_le⟩
  · have hpending := (hend (e.size - 1)).mpr (Nat.le_refl _)
    have hlength := (Worklist.length_taken e (e.size - 1)).trans (Nat.min_self _)
    have hreached := Worklist.reached_iterate e (e.size - 1)
    generalize Worklist.step^[e.size - 1] (.start e) = w at hpending hlength hreached ⊢
    obtain ⟨pending, taken⟩ := w
    obtain rfl : pending = [] := hpending
    obtain ⟨hperm, hreleased⟩ := hreached
    -- With nothing pending, the invariant is about what was taken alone.
    rw [allNodes_nil, List.append_nil] at hperm
    refine ⟨taken, rfl, hlength, ?_, fun n => hperm.mem_iff.trans mem_descendants_iff, ?_⟩
    · exact (hperm.map Node.path).nodup_iff.mpr (List.nodup_cons.mp e.nodup_descendants).2
    · rw [← hreleased, List.map_nil, dismantle, List.append_nil]
  · intro shell h
    rcases List.mem_cons.mp h with rfl | h
    · exact isShell_cutOff e
    · obtain ⟨node, rfl, -⟩ := exists_of_mem_dismantle h
      exact isShell_cutOff node

end Reckoner.Expr
