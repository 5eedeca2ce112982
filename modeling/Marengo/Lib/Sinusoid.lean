import Mathlib

/-!
# Sinusoids

The functions `t ↦ c + a * sin t + b * cos t` of one angle are closed under sums and multiples, so
a quantity that is affine in the entries of one rotation is such a function of its angle. A central
difference of one is an exact multiple of its derivative (`central_hasDerivAt`), and has no constant
part: its values at a right angle and at zero are its two coefficients (`central_harmonic`).
-/

open Real

/-- The functions `t ↦ c + a * sin t + b * cos t`. -/
def sinusoids : Submodule ℝ (ℝ → ℝ) := Submodule.span ℝ {fun _ => 1, Real.sin, Real.cos}

namespace Sinusoid

variable {f g : ℝ → ℝ}

theorem mem_iff : f ∈ sinusoids ↔ ∃ c a b : ℝ, ∀ t, f t = c + a * sin t + b * cos t := by
  rw [sinusoids, Submodule.mem_span_triple]
  constructor
  · rintro ⟨c, a, b, rfl⟩
    exact ⟨c, a, b, fun t => by simp⟩
  · rintro ⟨c, a, b, h⟩
    refine ⟨c, a, b, funext fun t => ?_⟩
    rw [h t]
    simp

theorem const_mem (c : ℝ) : (fun _ => c) ∈ sinusoids :=
  mem_iff.mpr ⟨c, 0, 0, fun t => by simp⟩

theorem add_mem (hf : f ∈ sinusoids) (hg : g ∈ sinusoids) : (fun t => f t + g t) ∈ sinusoids :=
  sinusoids.add_mem hf hg

theorem const_mul_mem (c : ℝ) (hf : f ∈ sinusoids) : (fun t => c * f t) ∈ sinusoids :=
  sinusoids.smul_mem c hf

theorem mul_const_mem (c : ℝ) (hf : f ∈ sinusoids) : (fun t => f t * c) ∈ sinusoids := by
  simpa only [mul_comm] using const_mul_mem c hf

theorem sum_mem {ι : Type} {s : Finset ι} {f : ι → ℝ → ℝ} (hf : ∀ i ∈ s, f i ∈ sinusoids) :
    (fun t => ∑ i ∈ s, f i t) ∈ sinusoids := by
  have h := sinusoids.sum_mem hf
  rwa [Finset.sum_fn] at h

theorem listSum_mem {ι : Type} {s : List ι} {f : ι → ℝ → ℝ} (hf : ∀ i ∈ s, f i ∈ sinusoids) :
    (fun t => (s.map fun i => f i t).sum) ∈ sinusoids := by
  induction s with
  | nil => exact const_mem 0
  | cons i rest ih =>
    simp only [List.map_cons, List.sum_cons]
    exact add_mem (hf i (.head _)) (ih fun j hj => hf j (.tail _ hj))

/-- The difference quotient of a sinusoid, from its coefficients. -/
theorem central_eq {c a b : ℝ} (h : ∀ t, f t = c + a * sin t + b * cos t) (e t : ℝ) :
    (f (t + e) - f (t - e)) / (2 * e) = sin e / e * (a * cos t - b * sin t) := by
  have hdiff : f (t + e) - f (t - e) = 2 * (sin e * (a * cos t - b * sin t)) := by
    rw [h, h, sin_add, cos_add, sin_sub, cos_sub]
    ring
  rw [hdiff, mul_div_mul_left _ _ two_ne_zero]
  ring

/-- The difference quotient of a sinusoid is `sin e / e` times its derivative. -/
theorem central_hasDerivAt (hf : f ∈ sinusoids) (e t : ℝ) :
    ∃ d, HasDerivAt f d t ∧ (f (t + e) - f (t - e)) / (2 * e) = sin e / e * d := by
  obtain ⟨c, a, b, h⟩ := mem_iff.mp hf
  refine ⟨a * cos t - b * sin t, ?_, central_eq h e t⟩
  have hderiv : HasDerivAt (fun t => c + a * sin t + b * cos t) (a * cos t + b * -sin t) t :=
    (((hasDerivAt_sin t).const_mul a).const_add c).add ((hasDerivAt_cos t).const_mul b)
  rw [funext h]
  exact hderiv.congr_deriv (by ring)

/-- The difference quotient of a sinusoid has no constant part. -/
theorem central_harmonic (hf : f ∈ sinusoids) (e t : ℝ) :
    (f (t + e) - f (t - e)) / (2 * e) =
      (f (π / 2 + e) - f (π / 2 - e)) / (2 * e) * sin t +
        (f (0 + e) - f (0 - e)) / (2 * e) * cos t := by
  obtain ⟨c, a, b, h⟩ := mem_iff.mp hf
  rw [central_eq h, central_eq h, central_eq h, cos_pi_div_two, sin_pi_div_two, cos_zero, sin_zero]
  ring

end Sinusoid
