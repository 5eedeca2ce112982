import Mathlib.Algebra.Order.Archimedean.Basic

/-!
# Progress of a step relation

`Leads R P Q`: every endless run of steps in `R` from a state in `P` passes through a state in `Q`.
The rule `Leads.rank` takes a quantity that every step lowers by a fixed amount as long as the run
stays in `P`; the other rules put such phases together.
-/

namespace Marengo

variable {α : Type} {R : α → α → Prop} {P P' Q S : α → Prop}

/-- Every run of steps from `P` reaches `Q`. -/
def Leads (R : α → α → Prop) (P Q : α → Prop) : Prop :=
  ∀ x : ℕ → α, (∀ n, R (x n) (x (n + 1))) → P (x 0) → ∃ n, Q (x n)

namespace Leads

theorem of_imp (h : ∀ s, P s → Q s) : Leads R P Q :=
  fun _ _ hP => ⟨0, h _ hP⟩

/-- One step reaches `Q`. -/
theorem next (h : ∀ s s', P s → R s s' → Q s') : Leads R P Q :=
  fun _ hx hP => ⟨1, h _ _ hP (hx 0)⟩

theorem trans (hPQ : Leads R P Q) (hQS : Leads R Q S) : Leads R P S := by
  intro x hx hP
  obtain ⟨n, hn⟩ := hPQ x hx hP
  obtain ⟨m, hm⟩ := hQS (fun k => x (n + k)) (fun k => hx (n + k)) hn
  exact ⟨n + m, hm⟩

theorem or (h : Leads R P Q) (h' : Leads R P' Q) : Leads R (fun s => P s ∨ P' s) Q := by
  intro x hx hP
  rcases hP with hP | hP
  · exact h x hx hP
  · exact h' x hx hP

/-- A phase ends if each of its steps leaves for `Q` or lowers a bounded quantity by `ε`. -/
theorem rank {K : Type} [Field K] [LinearOrder K] [IsStrictOrderedRing K] [Archimedean K] {ε : K}
    (hε : 0 < ε) (m : α → K) (hm : ∀ s, P s → 0 ≤ m s)
    (hstep : ∀ s s', P s → R s s' → Q s' ∨ P s' ∧ m s' ≤ m s - ε) : Leads R P Q := by
  intro x hx hP
  by_contra hnone
  push Not at hnone
  -- as long as `Q` is not reached, the quantity falls by `ε` a step
  have hfall : ∀ n : ℕ, P (x n) ∧ m (x n) ≤ m (x 0) - n * ε := by
    intro n
    induction n with
    | zero => exact ⟨hP, by simp⟩
    | succ n ih =>
      rcases hstep _ _ ih.1 (hx n) with h | ⟨hP', hle⟩
      · exact absurd h (hnone (n + 1))
      · refine ⟨hP', hle.trans ?_⟩
        push_cast
        linarith [ih.2]
  obtain ⟨n, hn⟩ := Archimedean.arch (m (x 0) + 1) hε
  rw [nsmul_eq_mul] at hn
  linarith [(hfall n).2, hm (x n) (hfall n).1]

end Leads

end Marengo
