import Mathlib.Algebra.Order.Floor.Semiring
import Mathlib.Data.List.Induction
import Mathlib.Tactic.Linarith
import Mathlib.Tactic.Ring

/-!
# Credit for progress

A watcher of a measure credits a level, and counts the observations since it last credited one: an
observation renews the count only if it is above the credited level by more than a threshold. In an
interval of bounded width only so many levels can be credited, so the count reaches any number
within a bounded number of observations (`exists_credit_since`).
-/

namespace Marengo

/-- The credited level, and the observations since. -/
structure Credit (K : Type) where
  level : K
  since : ℕ

section
variable {K : Type} [Field K] [LinearOrder K]

def Credit.observe (threshold : K) (self : Credit K) (measure : K) : Credit K :=
  if threshold < measure - self.level then ⟨measure, 0⟩ else ⟨self.level, self.since + 1⟩

/-- The credit after the next observation. The first one is credited, and counts as one without
progress. -/
def creditNext (threshold : K) : Option (Credit K) → K → Credit K
  | none, measure => ⟨measure, 1⟩
  | some credit, measure => credit.observe threshold measure

def creditRun (threshold : K) (measures : List K) : Option (Credit K) :=
  measures.foldl (fun credit measure => some (creditNext threshold credit measure)) none

variable {threshold low W : K} {N : ℕ}

theorem creditRun_concat (threshold : K) (measures : List K) (measure : K) :
    creditRun threshold (measures ++ [measure]) =
      some (creditNext threshold (creditRun threshold measures) measure) := by
  rw [creditRun, List.foldl_append]
  rfl

/-- After `t` observations in an interval from `low` on: each renewal took at most `N` of them, and
lifted the level by a threshold. -/
def Credit.Paced (threshold low : K) (N t : ℕ) (self : Credit K) : Prop :=
  ∃ renewals : ℕ, t ≤ renewals * N + self.since ∧ low + renewals * threshold ≤ self.level

variable [IsStrictOrderedRing K]

omit [IsStrictOrderedRing K] in
theorem Credit.Paced.first {measure : K} (h : low ≤ measure) :
    Credit.Paced threshold low N 1 ⟨measure, 1⟩ :=
  ⟨0, by simp, by simpa using h⟩

theorem Credit.Paced.observe {t : ℕ} {credit : Credit K} (h : credit.Paced threshold low N t)
    (hsince : credit.since < N) (measure : K) :
    (credit.observe threshold measure).Paced threshold low N (t + 1) := by
  obtain ⟨renewals, htime, hlevel⟩ := h
  unfold Credit.observe
  split
  · rename_i hbest
    refine ⟨renewals + 1, ?_, ?_⟩
    · rw [Nat.succ_mul]
      simp only
      omega
    · push_cast
      linarith
  · exact ⟨renewals, by simp only; omega, hlevel⟩

theorem Credit.Paced.lt [FloorSemiring K] {t : ℕ} {credit : Credit K}
    (h : credit.Paced threshold low N t) (hpos : 0 < threshold) (hsince : credit.since < N)
    (hlevel : credit.level ≤ low + W) : t < (⌊W / threshold⌋₊ + 1) * N := by
  obtain ⟨renewals, htime, hlift⟩ := h
  have hrenewals : renewals ≤ ⌊W / threshold⌋₊ := by
    apply Nat.le_floor
    rw [le_div_iff₀ hpos]
    linarith
  have hmul : renewals * N ≤ ⌊W / threshold⌋₊ * N := Nat.mul_le_mul_right N hrenewals
  rw [Nat.succ_mul]
  omega

omit [IsStrictOrderedRing K] in
/-- The credited level is one of the observations. -/
theorem creditRun_level {measures : List K} {credit : Credit K}
    (h : creditRun threshold measures = some credit) : credit.level ∈ measures := by
  induction measures using List.reverseRecOn generalizing credit with
  | nil => cases h
  | append_singleton measures measure ih =>
    rw [creditRun_concat] at h
    obtain rfl := Option.some.inj h
    cases hrun : creditRun threshold measures with
    | none => simp [creditNext]
    | some credit =>
      have hlevel := ih hrun
      simp only [creditNext, Credit.observe]
      split
      · simp
      · exact List.mem_append_left _ hlevel

/-- As long as the count stays below `N`, the observations are paced. -/
theorem creditRun_paced {measures : List K} (hlow : ∀ m ∈ measures, low ≤ m)
    (hsince : ∀ k, k < measures.length → ∀ credit ∈ creditRun threshold (measures.take k),
      credit.since < N) {credit : Credit K} (h : creditRun threshold measures = some credit) :
    credit.Paced threshold low N measures.length := by
  induction measures using List.reverseRecOn generalizing credit with
  | nil => cases h
  | append_singleton measures measure ih =>
    rw [creditRun_concat] at h
    obtain rfl := Option.some.inj h
    have hbefore : ∀ k, k < measures.length → ∀ credit ∈ creditRun threshold (measures.take k),
        credit.since < N := by
      intro k hk credit hcredit
      refine hsince k (by rw [List.length_append]; omega) credit ?_
      rwa [List.take_append_of_le_length hk.le]
    rw [List.length_append, List.length_singleton]
    cases hrun : creditRun threshold measures with
    | none =>
      have hnil : measures = [] := by
        cases measures using List.reverseRecOn with
        | nil => rfl
        | append_singleton measures measure => rw [creditRun_concat] at hrun; cases hrun
      subst hnil
      exact .first (hlow measure (by simp))
    | some credit =>
      refine (ih (fun m hm => hlow m (List.mem_append_left _ hm)) hbefore hrun).observe ?_ measure
      refine hsince measures.length (by simp) credit ?_
      rwa [List.take_left]

/-- In an interval of width `W`, the count reaches `N` within `⌊W / threshold⌋ + 1` times `N`
observations. -/
theorem exists_credit_since [FloorSemiring K] {measures : List K} (hpos : 0 < threshold) (hN : 0 < N)
    (hmeasures : ∀ m ∈ measures, low ≤ m ∧ m ≤ low + W)
    (hlength : measures.length = (⌊W / threshold⌋₊ + 1) * N) :
    ∃ k, k ≤ measures.length ∧
      ∃ credit ∈ creditRun threshold (measures.take k), N ≤ credit.since := by
  by_contra hnever
  push Not at hnever
  have hne : measures ≠ [] := by
    rintro rfl
    have : 0 < (⌊W / threshold⌋₊ + 1) * N := by positivity
    simp only [List.length_nil] at hlength
    omega
  obtain ⟨credit, hrun⟩ : ∃ credit, creditRun threshold measures = some credit := by
    obtain ⟨measures, measure, rfl⟩ := (List.eq_nil_or_concat measures).resolve_left hne
    rw [List.concat_eq_append]
    exact ⟨_, creditRun_concat ..⟩
  have hpaced := creditRun_paced (fun m hm => (hmeasures m hm).1)
    (fun k hk credit hcredit => hnever k hk.le credit hcredit) hrun
  have hlast : credit.since < N := hnever measures.length le_rfl credit (by rwa [List.take_length])
  have := hpaced.lt hpos hlast (hmeasures _ (creditRun_level hrun)).2
  omega

end

end Marengo
