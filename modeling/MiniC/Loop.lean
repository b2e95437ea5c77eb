/-!
# Loops that end

A loop takes one turn after another. A turn ends the loop with a result, or goes on with another
state; each turn that goes on makes the state smaller, so there are at most as many of them as the
size of the first state (`endsWithin_size`).
-/

namespace MiniC

structure Loop (σ α : Type) where
  /-- A turn ends the loop with a result, or goes on. -/
  turn : σ → α ⊕ σ
  size : σ → Nat
  size_lt : ∀ {s s' : σ}, turn s = .inr s' → size s' < size s

namespace Loop

variable {σ α : Type}

/-- The result of turn after turn. -/
def run (l : Loop σ α) (s : σ) : α :=
  match _ : l.turn s with
  | .inl a => a
  | .inr s' => l.run s'
termination_by l.size s
decreasing_by exact l.size_lt ‹_›

/-- From `s`, the turns end with `a` after `n` that go on. -/
inductive Ends (turn : σ → α ⊕ σ) : Nat → σ → α → Prop
  | now {s : σ} {a : α} : turn s = .inl a → Ends turn 0 s a
  | later {n : Nat} {s s' : σ} {a : α} :
      turn s = .inr s' → Ends turn n s' a → Ends turn (n + 1) s a

/-- The turns end, and no more than `bound` of them go on. -/
def EndsWithin (turn : σ → α ⊕ σ) (bound : Nat) (s : σ) (a : α) : Prop :=
  ∃ n, n ≤ bound ∧ Ends turn n s a

variable (l : Loop σ α) {s s' : σ} {a : α}

theorem run_of_inl (h : l.turn s = .inl a) : l.run s = a := by
  rw [run]
  split <;> simp_all

theorem run_of_inr (h : l.turn s = .inr s') : l.run s = l.run s' := by
  rw [run]
  split <;> simp_all

/-- **A loop ends** after no more turns than the size of its state. -/
theorem endsWithin_size (s : σ) : EndsWithin l.turn (l.size s) s (l.run s) := by
  fun_induction run l s with
  | case1 s a h => exact ⟨0, Nat.zero_le _, .now h⟩
  | case2 s s' h ih =>
    obtain ⟨n, hn, hends⟩ := ih
    exact ⟨n + 1, Nat.lt_of_le_of_lt hn (l.size_lt h), .later h hends⟩

end Loop

end MiniC
