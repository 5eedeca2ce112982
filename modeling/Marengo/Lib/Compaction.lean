import Mathlib.Data.List.Basic

/-!
# Compaction of parallel arrays

A loop over two arrays swaps each pair that stays to the end of those kept so far, and truncates both
arrays at the end. This filters the pairs (`zip_compact`): a pair that the loop has not come to yet is
still where it was.
-/

namespace Compaction

variable {α β : Type} {p : α → Bool} {xs : Array α} {ys : Array β}

/-- One turn of the loop, with `s.1` pairs kept so far. -/
def compactAt (p : α → Bool) (s : ℕ × Array α × Array β) (index : ℕ) : ℕ × Array α × Array β :=
  if s.2.1[index]?.any p then
    (s.1 + 1, s.2.1.swapIfInBounds s.1 index, s.2.2.swapIfInBounds s.1 index)
  else s

def compact (p : α → Bool) (xs : Array α) (ys : Array β) : Array α × Array β :=
  let (keep, xs, ys) := (List.range (min xs.size ys.size)).foldl (compactAt p) (0, xs, ys)
  (xs.take keep, ys.take keep)

/-- The arrays after `n` turns. -/
structure Compacted (p : α → Bool) (xs : Array α) (ys : Array β) (n : ℕ)
    (s : ℕ × Array α × Array β) : Prop where
  le : s.1 ≤ n
  sizes : s.2.1.size = xs.size ∧ s.2.2.size = ys.size
  kept : (s.2.1.zip s.2.2).toList.take s.1 = ((xs.zip ys).toList.take n).filter fun x => p x.1
  ahead : (s.2.1.zip s.2.2).toList.drop n = (xs.zip ys).toList.drop n

theorem zip_swap {i j : ℕ} (hi : i < xs.size) (hj : j < xs.size) (hi' : i < ys.size)
    (hj' : j < ys.size) : ((xs.swap i j).zip (ys.swap i j)).toList =
      ((xs.zip ys).toList.set i (xs[j], ys[j])).set j (xs[i], ys[i]) := by
  have hzip : (xs.swap i j).zip (ys.swap i j) =
      (xs.zip ys).swap i j (by simp; omega) (by simp; omega) := by
    apply Array.ext
    · simp
    · intro k _ _
      simp only [Array.getElem_zip, Array.getElem_swap]
      split
      · rfl
      · split <;> rfl
  rw [hzip, Array.toList_swap, Array.getElem_zip, Array.getElem_zip]

theorem Compacted.step {n : ℕ} {s : ℕ × Array α × Array β} (h : Compacted p xs ys n s)
    (hn : n < min xs.size ys.size) : Compacted p xs ys (n + 1) (compactAt p s n) := by
  obtain ⟨keep, as, bs⟩ := s
  obtain ⟨hle, ⟨has, hbs⟩, hkept, hahead⟩ := h
  simp only at hle has hbs hkept hahead
  have hlt : n < as.size := by omega
  have hlt' : n < bs.size := by omega
  rw [List.drop_eq_getElem_cons (i := n) (by simp; omega),
    List.drop_eq_getElem_cons (i := n) (by simpa using hn)] at hahead
  obtain ⟨hlook, hahead⟩ := List.cons.inj hahead
  have htake : ((xs.zip ys).toList.take (n + 1)).filter (fun x => p x.1) =
      (as.zip bs).toList.take keep ++ [(as[n], bs[n])].filter fun x => p x.1 := by
    rw [List.take_succ_eq_append_getElem (by simpa using hn), List.filter_append, hkept, ← hlook,
      Array.getElem_toList, Array.getElem_zip]
  simp only [compactAt, Array.getElem?_eq_getElem hlt, Option.any_some]
  split
  · rename_i hstays
    have hkeep : keep < as.size := by omega
    have hkeep' : keep < bs.size := by omega
    have hset := zip_swap hkeep hlt hkeep' hlt'
    simp only [Array.swapIfInBounds, hkeep, hlt, hkeep', hlt', dif_pos]
    refine ⟨Nat.succ_le_succ hle, by simp [has, hbs], ?_, ?_⟩
    · rw [htake, List.filter_cons_of_pos (by simpa using hstays), List.filter_nil, hset,
        List.take_succ_eq_append_getElem (by simp; omega), List.take_set_of_le hle,
        List.take_set_of_le (Nat.le_refl keep), List.getElem_set]
      split
      · subst keep
        rfl
      · rw [List.getElem_set_self]
    · rw [hset, List.drop_set_of_lt (by omega), List.drop_set_of_lt (by omega), hahead]
  · rename_i hgoes
    refine ⟨Nat.le_succ_of_le hle, ⟨has, hbs⟩, ?_, hahead⟩
    rw [htake, List.filter_cons_of_neg (by simpa using hgoes), List.filter_nil, List.append_nil]

theorem zip_compact (p : α → Bool) (xs : Array α) (ys : Array β) :
    (compact p xs ys).1.size = (compact p xs ys).2.size ∧
      (compact p xs ys).1.toList.zip (compact p xs ys).2.toList =
        (xs.toList.zip ys.toList).filter fun x => p x.1 := by
  have hrun : ∀ n ≤ min xs.size ys.size,
      Compacted p xs ys n ((List.range n).foldl (compactAt p) (0, xs, ys)) := by
    intro n hn
    induction n with
    | zero => exact ⟨Nat.le_refl _, ⟨rfl, rfl⟩, rfl, rfl⟩
    | succ n ih =>
      rw [List.range_succ, List.foldl_append]
      exact (ih (by omega)).step (by omega)
  have hdone := hrun _ (Nat.le_refl _)
  unfold compact
  generalize (List.range (min xs.size ys.size)).foldl (compactAt p) (0, xs, ys) = s at hdone ⊢
  obtain ⟨keep, as, bs⟩ := s
  obtain ⟨hle, ⟨has, hbs⟩, hkept, -⟩ := hdone
  simp only at hle has hbs hkept ⊢
  rw [List.take_of_length_le (l := (xs.zip ys).toList) (by simp), Array.toList_zip,
    Array.toList_zip] at hkept
  refine ⟨by simp; omega, ?_⟩
  rw [← hkept]
  simp [List.zip, List.take_zipWith]

end Compaction
