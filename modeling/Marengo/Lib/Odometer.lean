import Mathlib.Algebra.BigOperators.Group.List.Basic
import Mathlib.Algebra.Order.BigOperators.Group.List
import Mathlib.Data.List.Forall2
import Mathlib.Data.List.Nodup
import Mathlib.Tactic.Ring

/-!
# Mixed-radix counters

The digits of a number in a system with one radix per place, least significant first. The numbers
below the product of the radices have pairwise different digits, and every choice of a digit below
each radix is the digits of one of them: counting up visits every combination exactly once.
-/

namespace Odometer

variable {sizes counter : List ℕ} {k m : ℕ}

/-- The digits of `k`, least significant first. -/
def digits : List ℕ → ℕ → List ℕ
  | [], _ => []
  | size :: sizes, k => k % size :: digits sizes (k / size)

/-- The number with the given digits. -/
def rank : List ℕ → List ℕ → ℕ
  | size :: sizes, digit :: counter => digit + size * rank sizes counter
  | _, _ => 0

/-- The counter is one of the combinations: a digit below the radix in every place. -/
def Below (counter sizes : List ℕ) : Prop := List.Forall₂ (· < ·) counter sizes

theorem length_digits (sizes : List ℕ) (k : ℕ) : (digits sizes k).length = sizes.length := by
  induction sizes generalizing k with
  | nil => rfl
  | cons size sizes ih => simp [digits, ih]

theorem digits_zero (sizes : List ℕ) : digits sizes 0 = List.replicate sizes.length 0 := by
  induction sizes with
  | nil => rfl
  | cons size sizes ih => simp [digits, ih, List.replicate_succ]

theorem below_digits (hpos : ∀ size ∈ sizes, 0 < size) (k : ℕ) : Below (digits sizes k) sizes := by
  induction sizes generalizing k with
  | nil => exact .nil
  | cons size sizes ih =>
    exact .cons (Nat.mod_lt _ (hpos size (.head _))) (ih (fun s hs => hpos s (.tail _ hs)) _)

theorem rank_lt (h : Below counter sizes) : rank sizes counter < sizes.prod := by
  induction h with
  | nil => simp [rank]
  | @cons digit size counter sizes hdigit _ ih =>
    rw [rank, List.prod_cons]
    calc digit + size * rank sizes counter < size + size * rank sizes counter := by omega
      _ = size * (rank sizes counter + 1) := by ring
      _ ≤ size * sizes.prod := Nat.mul_le_mul_left _ ih

theorem digits_rank (h : Below counter sizes) : digits sizes (rank sizes counter) = counter := by
  induction h with
  | nil => rfl
  | @cons digit size counter sizes hdigit _ ih =>
    have hpos : 0 < size := by omega
    rw [rank, digits, Nat.add_mul_mod_self_left, Nat.mod_eq_of_lt hdigit,
      Nat.add_mul_div_left _ _ hpos, Nat.div_eq_of_lt hdigit, Nat.zero_add, ih]

/-- A number below the product is the rank of its digits. -/
theorem rank_digits (hk : k < sizes.prod) : rank sizes (digits sizes k) = k := by
  induction sizes generalizing k with
  | nil =>
    rw [List.prod_nil] at hk
    simp only [rank]
    omega
  | cons size sizes ih =>
    rw [List.prod_cons] at hk
    rw [digits, rank, ih (Nat.div_lt_of_lt_mul hk), Nat.mod_add_div]

/-- Every combination, in the order of its rank. -/
def grid (sizes : List ℕ) : List (List ℕ) := (List.range sizes.prod).map (digits sizes)

theorem mem_grid (hpos : ∀ size ∈ sizes, 0 < size) : counter ∈ grid sizes ↔ Below counter sizes := by
  rw [grid, List.mem_map]
  constructor
  · rintro ⟨k, -, rfl⟩
    exact below_digits hpos k
  · intro h
    exact ⟨rank sizes counter, List.mem_range.mpr (rank_lt h), digits_rank h⟩

theorem length_of_mem_grid (h : counter ∈ grid sizes) : counter.length = sizes.length := by
  obtain ⟨k, -, rfl⟩ := List.mem_map.mp h
  exact length_digits sizes k

theorem grid_ne_nil (hpos : ∀ size ∈ sizes, 0 < size) : grid sizes ≠ [] :=
  List.ne_nil_of_mem ((mem_grid hpos).mpr (below_digits hpos 0))

theorem nodup_grid (sizes : List ℕ) : (grid sizes).Nodup := by
  refine List.Nodup.map_on (fun k hk m hm heq => ?_) List.nodup_range
  rw [List.mem_range] at hk hm
  rw [← rank_digits hk, heq, rank_digits hm]

end Odometer
