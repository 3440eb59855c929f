import Reckoner.Limits
import Reckoner.Proofs.Expression.Evaluation

/-!
Values are finite. Numbers and results of operations are looked at when they arise, and a negation
keeps what has been looked at below it.
-/
namespace Reckoner

theorem Operator.isFinite_of_apply {op : Operator} {x y z : Binary64} (h : op.apply x y = .ok z) :
    z.isFinite = true := by
  have hfinite {w : Binary64} (hw : w.finite = .ok z) : z.isFinite = true := by
    obtain ⟨rfl, hfinite⟩ := Binary64.finite_eq_ok_iff.mp hw
    exact hfinite
  cases op with
  | plus | minus | star => exact hfinite h
  | slash =>
    simp only [apply] at h
    split at h
    · contradiction
    · exact hfinite h

namespace Expr

/-- The tree stands in the other one, or is that tree. -/
inductive Within (sub : Expr) : Expr → Prop where
  | here : Within sub sub
  | operand {e : Expr} : Within sub e → Within sub (negate e)
  | left {op : Operator} {l r : Expr} : Within sub l → Within sub (binary op l r)
  | right {op : Operator} {l r : Expr} : Within sub r → Within sub (binary op l r)

variable {e sub : Expr} {value : Binary64}

theorem isFinite_of_evaluate (h : e.evaluate = .ok value) : value.isFinite = true := by
  induction e generalizing value with
  | number x =>
    rw [evaluate_number] at h
    obtain ⟨rfl, hx⟩ := Binary64.finite_eq_ok_iff.mp h
    exact hx
  | negate operand ih =>
    rw [evaluate_negate] at h
    obtain ⟨x, hx, rfl⟩ := map_eq_ok_iff.mp h
    exact (Binary64.isFinite_neg x).trans (ih hx)
  | binary op left right =>
    rw [evaluate_binary] at h
    obtain ⟨x, -, hx⟩ := bind_eq_ok_iff.mp h
    obtain ⟨y, -, hy⟩ := bind_eq_ok_iff.mp hx
    exact Operator.isFinite_of_apply hy

/-- A tree has no value unless all trees in it have one. -/
theorem exists_value_of_within (hsub : Within sub e) (h : e.evaluate = .ok value) :
    ∃ x, sub.evaluate = .ok x ∧ x.isFinite = true := by
  induction hsub generalizing value with
  | here => exact ⟨value, h, isFinite_of_evaluate h⟩
  | operand _ ih =>
    rw [evaluate_negate] at h
    obtain ⟨x, hx, -⟩ := map_eq_ok_iff.mp h
    exact ih hx
  | left _ ih =>
    rw [evaluate_binary] at h
    obtain ⟨x, hx, -⟩ := bind_eq_ok_iff.mp h
    exact ih hx
  | right _ ih =>
    rw [evaluate_binary] at h
    obtain ⟨x, -, hx⟩ := bind_eq_ok_iff.mp h
    obtain ⟨y, hy, -⟩ := bind_eq_ok_iff.mp hx
    exact ih hy

end Expr

/-- The value of a text is that of a tree. -/
theorem Limits.exists_tree_of_evaluate {limits : Limits} {text : String} {value : Binary64}
    (h : limits.evaluate text = .ok value) : ∃ tree : Expr, tree.evaluate = .ok value := by
  unfold evaluate at h
  split at h
  · cases h
  · obtain ⟨tree, -, htree⟩ := bind_eq_ok_iff.mp h
    exact ⟨tree, mapError_eq_ok_iff.mp htree⟩

theorem Limits.isFinite_of_evaluate {limits : Limits} {text : String} {value : Binary64}
    (h : limits.evaluate text = .ok value) : value.isFinite = true := by
  obtain ⟨tree, htree⟩ := exists_tree_of_evaluate h
  exact Expr.isFinite_of_evaluate htree

end Reckoner
