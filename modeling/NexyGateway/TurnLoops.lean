import Mathlib.Data.List.Basic

/-!
# Loops with a bounded number of turns

A loop that takes one outcome of its environment in every turn, and a measure that each
turn makes smaller. The environment may look at the state in which it is asked.
-/
namespace TurnLoops

variable {S O : Type}

structure Loop (S O : Type) where
  goesOn : S → Bool
  turn : S → O → S
  left : S → Nat
  left_lt : ∀ s o, goesOn s = true → left (turn s o) < left s

/-- The number of the next turn and the state in which the loop has ended. -/
def Loop.run (l : Loop S O) (env : Nat → S → O) (k : Nat) (s : S) : Nat × S :=
  if h : l.goesOn s = true then l.run env (k + 1) (l.turn s (env k s)) else (k, s)
termination_by l.left s
decreasing_by exact l.left_lt _ _ h

section Run

variable {l : Loop S O} {env : Nat → S → O} {k : Nat} {s : S}

theorem run_on (h : l.goesOn s = true) :
    l.run env k s = l.run env (k + 1) (l.turn s (env k s)) := by
  rw [Loop.run, dif_pos h]

theorem run_done (h : l.goesOn s = false) : l.run env k s = (k, s) := by
  rw [Loop.run, dif_neg (by simp [h])]

/-- What every turn keeps holds when the loop has ended, and then the loop does not go on. -/
theorem run_invariant {I : Nat → S → Prop}
    (hturn : ∀ k s, l.goesOn s = true → I k s → I (k + 1) (l.turn s (env k s))) (h : I k s) :
    I (l.run env k s).1 (l.run env k s).2 ∧ l.goesOn (l.run env k s).2 = false := by
  induction hm : l.left s using Nat.strongRecOn generalizing k s with
  | ind m ih =>
    cases hgoes : l.goesOn s with
    | true =>
      rw [run_on hgoes]
      exact ih _ (hm ▸ l.left_lt s (env k s) hgoes) (hturn k s hgoes h) rfl
    | false =>
      rw [run_done hgoes]
      exact ⟨h, hgoes⟩

/-- Each turn takes something of what is left. -/
theorem run_turns : (l.run env k s).1 + l.left (l.run env k s).2 ≤ k + l.left s := by
  have hbound : ∀ k' s', l.goesOn s' = true → k' + l.left s' ≤ k + l.left s →
      k' + 1 + l.left (l.turn s' (env k' s')) ≤ k + l.left s := by
    intro k' s' hgoes hle
    have := l.left_lt s' (env k' s') hgoes
    omega
  exact (run_invariant (I := fun k' s' => k' + l.left s' ≤ k + l.left s) hbound (Nat.le_refl _)).1

/-- The state after so many turns. -/
def Loop.after (l : Loop S O) (env : Nat → S → O) (k : Nat) (s : S) : Nat → S
  | 0 => s
  | m + 1 => l.turn (l.after env k s m) (env (k + m) (l.after env k s m))

theorem after_succ (m : Nat) : l.after env k s (m + 1) =
    l.after env (k + 1) (l.turn s (env k s)) m := by
  induction m with
  | zero => rfl
  | succ m ih =>
    rw [Loop.after, ih, show k + (m + 1) = k + 1 + m by omega]
    rfl

/-- A run that is known turn by turn. -/
theorem run_eq_after {m : Nat} (hon : ∀ j < m, l.goesOn (l.after env k s j) = true)
    (hoff : l.goesOn (l.after env k s m) = false) :
    l.run env k s = (k + m, l.after env k s m) := by
  induction m generalizing k s with
  | zero => exact run_done hoff
  | succ m ih =>
    have hgoes : l.goesOn s = true := hon 0 (by omega)
    rw [after_succ] at hoff ⊢
    rw [run_on hgoes, ih _ hoff, show k + 1 + m = k + (m + 1) by omega]
    intro j hj
    rw [← after_succ]
    exact hon (j + 1) (by omega)

end Run

end TurnLoops
