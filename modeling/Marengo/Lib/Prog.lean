import Mathlib.Data.List.Forall2
import Mathlib.Order.Basic
import Mathlib.Logic.Function.Basic

/-!
# Fallible programs over a state

`Prog σ ε α` is the type of programs that read and write a state of type `σ` and return an `α` or
fail with an `ε`. A program that fails keeps the state it has reached, as a function does whose
`?` returns early: nothing is rolled back. `Prog.wp` is the weakest precondition of such a program,
over its outcome and final state at once, and the lemmas below push it through the program
constructors, so that a specification is proved by walking the program text.
-/

/-- A sequence of outcomes is a value exactly if both parts are. -/
theorem Except.bind_eq_ok {ε α β : Type} {x : Except ε α} {f : α → Except ε β} {b : β} :
    (x >>= f) = .ok b ↔ ∃ a, x = .ok a ∧ f a = .ok b := by
  cases x <;> simp [Bind.bind, Except.bind]

/-- A loop of checks passes exactly if each of them does. -/
theorem Except.forM_eq_ok {ε α : Type} {f : α → Except ε Unit} {xs : List α} :
    xs.forM f = .ok () ↔ ∀ x ∈ xs, f x = .ok () := by
  induction xs with
  | nil => simp [pure, Except.pure]
  | cons x rest ih =>
    show (f x >>= fun _ => rest.forM f) = .ok () ↔ _
    rw [Except.bind_eq_ok, List.forall_mem_cons]
    simp only [ih]
    exact ⟨fun ⟨_, hx, hrest⟩ => ⟨hx, hrest⟩, fun ⟨hx, hrest⟩ => ⟨_, hx, hrest⟩⟩

/-- An outcome that evaluates to a value with a property. -/
theorem Except.exists_of_any {ε α : Type} {x : Except ε α} {p : α → Bool}
    (h : x.toOption.any p = true) : ∃ a, x = .ok a ∧ p a = true := by
  cases x with
  | ok a => exact ⟨a, rfl, h⟩
  | error e => cases h

/-- The outcome is a value exactly if `good` holds, and the value satisfies `post`. -/
def Except.Meets {ε α : Type} (good : Prop) (post : α → Prop) : Except ε α → Prop
  | .ok a => good ∧ post a
  | .error _ => ¬good

namespace Except.Meets

variable {ε α β σ : Type} {good : Prop} {post : α → Prop} {x : Except ε α}

theorem exists_iff (h : x.Meets good post) : (∃ a, x = .ok a) ↔ good := by
  cases x with
  | ok a => exact ⟨fun _ => h.1, fun _ => ⟨a, rfl⟩⟩
  | error e => exact ⟨fun ⟨_, ha⟩ => (nomatch ha), fun hgood => absurd hgood h⟩

theorem map {post' : β → Prop} {f : α → β} (h : x.Meets good post) (hf : ∀ a, post a → post' (f a)) :
    (x >>= fun a => pure (f a)).Meets good post' := by
  cases x with
  | ok a => exact ⟨h.1, hf a h.2⟩
  | error e => exact h

/-- A loop ends well exactly if each of its turns does. -/
theorem foldlM {f : σ → α → Except ε σ} {Inv : List α → σ → Prop} {Good : α → Prop} {xs : List α}
    {start : σ} (hstart : Inv [] start)
    (hstep : ∀ done x s, x ∈ xs → Inv done s → (f s x).Meets (Good x) (Inv (done ++ [x]))) :
    (xs.foldlM f start).Meets (∀ x ∈ xs, Good x) (Inv xs) := by
  suffices hfrom : ∀ (done rest : List α) (s : σ), (∀ x ∈ rest, x ∈ xs) → Inv done s →
      (rest.foldlM f s).Meets (∀ x ∈ rest, Good x) (Inv (done ++ rest)) from
    hfrom [] xs start (fun _ hx => hx) hstart
  intro done rest
  induction rest generalizing done with
  | nil => exact fun s _ hinv => ⟨fun _ hx => absurd hx List.not_mem_nil, by simpa using hinv⟩
  | cons x rest ih =>
    intro s hmem hinv
    have hx := hstep done x s (hmem x (.head _)) hinv
    rw [List.forall_mem_cons, List.foldlM_cons]
    cases hturn : f s x with
    | error e =>
      rw [hturn] at hx
      exact fun hgood => hx hgood.1
    | ok s' =>
      rw [hturn] at hx
      have hrest := ih (done ++ [x]) s' (fun y hy => hmem y (.tail _ hy)) hx.2
      rw [List.append_assoc, List.singleton_append] at hrest
      simp only [hx.1, true_and]
      exact hrest

end Except.Meets

/-- Programs over the state `σ` that return an `α` or fail with an `ε`. -/
def Prog (σ ε α : Type) : Type := σ → Except ε α × σ

namespace Prog

variable {σ ε ε' α β : Type}

instance : Monad (Prog σ ε) where
  pure a := fun s => (.ok a, s)
  bind x f := fun s => match x s with
    | (.ok a, s') => f a s'
    | (.error e, s') => (.error e, s')

/-- Fail with `e`. -/
def fail (e : ε) : Prog σ ε α := fun s => (.error e, s)

def read : Prog σ ε σ := fun s => (.ok s, s)

def reads (f : σ → α) : Prog σ ε α := fun s => (.ok (f s), s)

/-- Replace the state by its image under `f`. -/
def update (f : σ → σ) : Prog σ ε Unit := fun s => (.ok (), f s)

/-- Run `x` and return its outcome instead of failing with it. -/
def attempt (x : Prog σ ε α) : Prog σ ε' (Except ε α) := fun s => (.ok (x s).1, (x s).2)

/-- Return the value of an outcome, or fail with its error. -/
def lift (r : Except ε α) : Prog σ ε α := fun s => (r, s)

/-- Run `x`, mapping its failure. -/
def mapError (f : ε → ε') (x : Prog σ ε α) : Prog σ ε' α := fun s =>
  match x s with
  | (.ok a, s') => (.ok a, s')
  | (.error e, s') => (.error (f e), s')

/-- Run `x` on a part of the state. -/
def zoom {τ : Type} (get : σ → τ) (set : τ → σ → σ) (x : Prog τ ε α) : Prog σ ε α := fun s =>
  let r := x (get s)
  (r.1, set r.2 s)

/-- Fail with `e` unless `c` holds. -/
def ensure (c : Prop) [Decidable c] (e : ε) : Prog σ ε Unit := if c then pure () else fail e

/-- Run `x` only if `c` holds. -/
def when (c : Prop) [Decidable c] (x : Prog σ ε Unit) : Prog σ ε Unit :=
  if c then x else pure ()

/-- Run `f` on each element, in order, stopping at the first failure. -/
def each (xs : List α) (f : α → Prog σ ε Unit) : Prog σ ε Unit :=
  match xs with
  | [] => pure ()
  | x :: xs => do f x; each xs f

/-- Fold `f` over the elements, in order, stopping at the first failure. -/
def foldl (f : β → α → Prog σ ε β) (b : β) (xs : List α) : Prog σ ε β :=
  match xs with
  | [] => pure b
  | x :: xs => do foldl f (← f b x) xs

/-- Run `f` on each element, in order, and return the results. -/
def traverse (f : α → Prog σ ε β) : List α → Prog σ ε (List β)
  | [] => pure []
  | x :: xs => do
    let y ← f x
    let ys ← traverse f xs
    pure (y :: ys)

/-! ## Weakest preconditions -/

/-- `x` run from `s` ends in an outcome and a state that satisfy `Q`. -/
def wp (x : Prog σ ε α) (Q : Except ε α → σ → Prop) (s : σ) : Prop := Q (x s).1 (x s).2

/-- The postcondition of `x` in `x >>= f`: what follows a return, or a failure that passes
through. -/
def andThen (f : α → Prog σ ε β) (Q : Except ε β → σ → Prop) : Except ε α → σ → Prop
  | .ok a, s => wp (f a) Q s
  | .error e, s => Q (.error e) s

variable {Q Q' : Except ε α → σ → Prop} {s : σ}

@[simp] theorem wp_bind {x : Prog σ ε α} {f : α → Prog σ ε β} {Q : Except ε β → σ → Prop} :
    wp (x >>= f) Q s ↔ wp x (andThen f Q) s := by
  simp only [wp, Bind.bind]
  rcases x s with ⟨_ | _, _⟩ <;> rfl

theorem wp_ite {c : Prop} [Decidable c] {x y : Prog σ ε α} :
    wp (if c then x else y) Q s ↔ (c → wp x Q s) ∧ (¬c → wp y Q s) := by
  split <;> simp_all

@[simp] theorem wp_ensure {c : Prop} [Decidable c] {e : ε} {Q : Except ε Unit → σ → Prop} :
    wp (ensure c e) Q s ↔ (c → Q (.ok ()) s) ∧ (¬c → Q (.error e) s) := wp_ite

@[simp] theorem wp_when {c : Prop} [Decidable c] {x : Prog σ ε Unit}
    {Q : Except ε Unit → σ → Prop} :
    wp (when c x) Q s ↔ (c → wp x Q s) ∧ (¬c → Q (.ok ()) s) := wp_ite

/-- A postcondition may be weakened. -/
theorem wp_mono {x : Prog σ ε α} (h : wp x Q s) (hQ : ∀ r s', Q r s' → Q' r s') : wp x Q' s :=
  hQ _ _ h

/-- The rule for a sequence whose first part has a specification. -/
theorem wp_bind_of {x : Prog σ ε α} {f : α → Prog σ ε β} {Q' : Except ε β → σ → Prop}
    (h : wp x Q s) (hok : ∀ a s', Q (.ok a) s' → wp (f a) Q' s')
    (herr : ∀ e s', Q (.error e) s' → Q' (.error e) s') : wp (x >>= f) Q' s := by
  rw [wp_bind]
  refine wp_mono h fun r s' hr => ?_
  cases r with
  | ok a => exact hok a s' hr
  | error e => exact herr e s' hr

/-! ## Runs that return -/

section Returning

variable {f : α → Prog σ ε β} {x : Prog σ ε α} {s' : σ}

/-- A sequence returns exactly if both parts do. -/
theorem bind_eq_ok {b : β} :
    (x >>= f) s = (.ok b, s') ↔ ∃ a t, x s = (.ok a, t) ∧ f a t = (.ok b, s') := by
  simp only [Bind.bind]
  rcases x s with ⟨_ | a, t⟩
  · simp
  · constructor
    · intro h
      exact ⟨a, t, rfl, h⟩
    · rintro ⟨_, _, h, hf⟩
      cases h
      exact hf

theorem pure_eq_ok {a b : α} : (pure a : Prog σ ε α) s = (.ok b, s') ↔ a = b ∧ s = s' := by
  simp [Pure.pure]

theorem read_eq_ok {t : σ} : (read : Prog σ ε σ) s = (.ok t, s') ↔ s = t ∧ s = s' := by
  simp [read]

theorem update_eq_ok {g : σ → σ} {u : Unit} :
    (update g : Prog σ ε Unit) s = (.ok u, s') ↔ g s = s' := by
  simp [update]

theorem fail_eq_ok {e : ε} {a : α} : (fail e : Prog σ ε α) s = (.ok a, s') ↔ False := by
  simp [fail]

theorem ensure_eq_ok {c : Prop} [Decidable c] {e : ε} {u : Unit} :
    (ensure c e : Prog σ ε Unit) s = (.ok u, s') ↔ c ∧ s = s' := by
  unfold ensure
  split <;> simp_all [Pure.pure, fail]

theorem ensure_neg {c : Prop} [Decidable c] {e : ε} (h : ¬c) :
    (ensure c e : Prog σ ε Unit) = fail e := if_neg h

end Returning

end Prog
