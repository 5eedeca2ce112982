import Mathlib.Data.List.Basic

/-!
# Histories

A history is a list that only grows, oldest element first. `Follows P log new` says that every
element of `new` satisfies `P` at the moment it is appended to `log`: `P` sees everything that
stands before the element.
-/

namespace History

variable {α : Type} {P Q : List α → α → Prop} {log new more : List α} {a : α}

/-- Each element of `new` satisfies `P` after what stands before it, `log` included. -/
def Follows (P : List α → α → Prop) : List α → List α → Prop
  | _, [] => True
  | log, a :: more => P log a ∧ Follows P (log ++ [a]) more

@[simp] theorem follows_nil : Follows P log [] := trivial

@[simp] theorem follows_cons :
    Follows P log (a :: more) ↔ P log a ∧ Follows P (log ++ [a]) more := Iff.rfl

/-- One history after the other. -/
theorem follows_append :
    Follows P log (new ++ more) ↔ Follows P log new ∧ Follows P (log ++ new) more := by
  induction new generalizing log with
  | nil => simp
  | cons b rest ih => simp [ih, and_assoc]

/-- A place in a history with one more element is that element's, or a place before it. -/
theorem concat_eq_split {before after : List α} {b : α} (h : log ++ [a] = before ++ b :: after) :
    (before = log ∧ b = a ∧ after = []) ∨
      ∃ rest, after = rest ++ [a] ∧ log = before ++ b :: rest := by
  rcases List.eq_nil_or_concat after with rfl | ⟨rest, last, rfl⟩
  · obtain ⟨hbefore, hlast⟩ := List.append_inj' h rfl
    cases hlast
    exact .inl ⟨hbefore.symm, rfl, rfl⟩
  · rw [List.concat_eq_append, ← List.cons_append, ← List.append_assoc] at h
    obtain ⟨hrest, hlast⟩ := List.append_inj' h rfl
    cases hlast
    exact .inr ⟨rest, List.concat_eq_append, hrest⟩

end History
