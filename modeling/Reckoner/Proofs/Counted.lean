import Reckoner.Proofs.Outcome

/-!
Computations that know how deep their calls nest.
-/
namespace Reckoner

/-- An outcome, and the length of the longest chain of nested calls on the way to it. -/
structure Counted (ε α : Type) where
  outcome : Except ε α
  calls : Nat

namespace Counted

variable {ε α β : Type} {x : Counted ε α} {f : α → Counted ε β} {m n : Nat}

/-- An outcome that takes no calls. -/
def plain (outcome : Except ε α) : Counted ε α := ⟨outcome, 0⟩

/-- One after the other: no call of the second nests in one of the first. -/
def bind (x : Counted ε α) (f : α → Counted ε β) : Counted ε β :=
  match x.outcome with
  | .ok a => ⟨(f a).outcome, max x.calls (f a).calls⟩
  | .error error => ⟨.error error, x.calls⟩

/-- A call that does all of this. -/
def call (x : Counted ε α) : Counted ε α := ⟨x.outcome, x.calls + 1⟩

@[simp] theorem calls_call (x : Counted ε α) : x.call.calls = x.calls + 1 := rfl

theorem calls_le_bind : x.calls ≤ (x.bind f).calls := by
  unfold bind
  split
  · exact Nat.le_max_left _ _
  · exact Nat.le_refl _

theorem calls_le_bind_of_ok {a : α} (f : α → Counted ε β) (h : x.outcome = .ok a) :
    (f a).calls ≤ (x.bind f).calls := by
  simp only [bind, h]
  exact Nat.le_max_right _ _

/-- The computation ends with this outcome, and no chain of calls in it is longer than `n`. -/
def Meets (x : Counted ε α) (outcome : Except ε α) (n : Nat) : Prop :=
  x.outcome = outcome ∧ x.calls ≤ n

namespace Meets

variable {outcome : Except ε α} {g : α → Except ε β}

theorem plain (outcome : Except ε α) (n : Nat) : (Counted.plain outcome).Meets outcome n :=
  ⟨rfl, n.zero_le⟩

theorem mono (h : x.Meets outcome m) (hle : m ≤ n) : x.Meets outcome n :=
  ⟨h.1, Nat.le_trans h.2 hle⟩

theorem call (h : x.Meets outcome n) : x.call.Meets outcome (n + 1) :=
  ⟨h.1, Nat.succ_le_succ h.2⟩

theorem bind (h : x.Meets outcome n) (hf : ∀ a, outcome = .ok a → (f a).Meets (g a) n) :
    (x.bind f).Meets (outcome.bind g) n := by
  obtain ⟨rfl, hx⟩ := h
  unfold Counted.bind
  cases houtcome : x.outcome with
  | error error => exact ⟨rfl, hx⟩
  | ok a =>
    obtain ⟨hvalue, hcalls⟩ := hf a houtcome
    exact ⟨hvalue, Nat.max_le.mpr ⟨hx, hcalls⟩⟩

theorem map (h : x.Meets outcome n) (f : α → β) :
    (x.bind fun a => .plain (.ok (f a))).Meets (outcome.map f) n := by
  have hbind := h.bind fun a _ => Meets.plain (.ok (f a)) n
  cases outcome <;> exact hbind

end Meets
end Counted
end Reckoner
