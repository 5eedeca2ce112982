import Marengo.Lib.Prog
import Mathlib.Logic.Relation
import Mathlib.Order.Defs.Unbundled

/-!
# Effects of programs

`Keeps T R x` says that the program `x` moves the state along the relation `R`, whatever it returns,
and that it does return if `T` holds. For a reflexive and transitive `R` it is closed under the
program constructors, and as a class the closure is found by instance search: a program keeps `R`
because the programs it is made of do. A program that cannot fail keeps `R` for every `T`.

`Along R x Q s` adds a postcondition and fixes the state that the program starts from.

The relations of interest are runs of a labelled transition system. `Within step E` relates two
states when steps with labels of `E` lead from one to the other, and a program is specified by the
labels it needs, over every `E` that allows them.
-/

namespace Prog

variable {σ ε ε' α β L : Type}

/-- Whatever `x` returns, it moves the state along `R`; if `T` holds, it does not fail. -/
class Keeps (T : Prop) (R : σ → σ → Prop) (x : Prog σ ε α) : Prop where
  keeps : ∀ s, R s (x s).2
  returns : T → ∀ s, ∃ a, (x s).1 = .ok a

namespace Keeps

variable {T : Prop}

/-- A step of the state that goes along `R`. -/
theorem update {R : σ → σ → Prop} {f : σ → σ} (h : ∀ s, R s (f s)) :
    Keeps T R (Prog.update f : Prog σ ε Unit) := ⟨h, fun _ _ => ⟨(), rfl⟩⟩

section
variable {R : σ → σ → Prop} [Std.Refl R]

instance instPure (a : α) : Keeps T R (pure a : Prog σ ε α) :=
  ⟨fun s => Std.Refl.refl s, fun _ _ => ⟨a, rfl⟩⟩

instance (e : ε) : Keeps False R (fail e : Prog σ ε α) :=
  ⟨fun s => Std.Refl.refl s, False.elim⟩

instance : Keeps T R (read : Prog σ ε σ) :=
  ⟨fun s => Std.Refl.refl s, fun _ s => ⟨s, rfl⟩⟩

instance (f : σ → α) : Keeps T R (reads f : Prog σ ε α) :=
  ⟨fun s => Std.Refl.refl s, fun _ s => ⟨f s, rfl⟩⟩

instance (r : Except ε α) : Keeps False R (lift r : Prog σ ε α) :=
  ⟨fun s => Std.Refl.refl s, False.elim⟩

end

section
variable {R : σ → σ → Prop}

theorem ite {c : Prop} [Decidable c] {x y : Prog σ ε α} (hx : Keeps T R x) (hy : Keeps T R y) :
    Keeps T R (if c then x else y) := by
  split <;> assumption

instance {c : Prop} [Decidable c] {x y : Prog σ ε α} [hx : Keeps T R x]
    [hy : Keeps T R y] : Keeps T R (if c then x else y) := .ite hx hy

instance {x : Prog σ ε α} [hx : Keeps False R x] :
    Keeps T R (attempt x : Prog σ ε' (Except ε α)) := ⟨hx.keeps, fun _ s => ⟨(x s).1, rfl⟩⟩

instance {f : ε → ε'} {x : Prog σ ε α} [hx : Keeps False R x] :
    Keeps False R (mapError f x) := ⟨fun s => by
  have h := hx.keeps s
  simp only [mapError]
  rcases hs : x s with ⟨_ | _, s'⟩ <;> simpa [hs] using h, False.elim⟩

end

section
variable {R : σ → σ → Prop} [IsTrans σ R]

/-- Two programs one after the other. -/
theorem andThen {x : Prog σ ε α} {f : α → Prog σ ε β} (hx : Keeps T R x)
    (hf : ∀ a, Keeps T R (f a)) : Keeps T R (x >>= f) where
  keeps s := by
    have h := hx.keeps s
    simp only [Bind.bind]
    rcases hs : x s with ⟨e | a, s'⟩ <;> rw [hs] at h
    · exact h
    · exact trans_of R h ((hf a).keeps s')
  returns hT s := by
    obtain ⟨a, ha⟩ := hx.returns hT s
    simp only [Bind.bind]
    rcases hs : x s with ⟨e | b, s'⟩
    · simp [hs] at ha
    · exact (hf b).returns hT s'

/-- `andThen`, where the first program is known. -/
theorem bind {x : Prog σ ε α} {f : α → Prog σ ε β} [hx : Keeps T R x] (hf : ∀ a, Keeps T R (f a)) :
    Keeps T R (x >>= f) := andThen hx hf

instance {x : Prog σ ε α} {f : α → Prog σ ε β} [hx : Keeps T R x]
    [hf : ∀ a, Keeps T R (f a)] : Keeps T R (x >>= f) := andThen hx hf

end

instance {R : σ → σ → Prop} {f : α → β} {x : Prog σ ε α} [hx : Keeps T R x] :
    Keeps T R (f <$> x) where
  keeps s := by
    have h := hx.keeps s
    simp only [Functor.map]
    rcases hs : x s with ⟨_ | _, s'⟩ <;> rw [hs] at h <;> exact h
  returns hT s := by
    obtain ⟨a, ha⟩ := hx.returns hT s
    simp only [Functor.map]
    rcases hs : x s with ⟨e | b, s'⟩
    · simp [hs] at ha
    · exact ⟨f b, rfl⟩

section
variable {R : σ → σ → Prop} [Std.Refl R] [IsTrans σ R]

omit [IsTrans σ R] in
/-- A conditional program. -/
theorem when {c : Prop} [Decidable c] {x : Prog σ ε Unit} (hx : Keeps T R x) :
    Keeps T R (Prog.when c x) := by
  unfold Prog.when
  infer_instance

instance {c : Prop} [Decidable c] {x : Prog σ ε Unit} [hx : Keeps T R x] :
    Keeps T R (Prog.when c x) := .when hx

instance {c : Prop} [Decidable c] {e : ε} : Keeps False R (ensure c e : Prog σ ε Unit) := by
  unfold ensure
  infer_instance

variable {xs : List α}

/-- A loop over a list whose body keeps `R` at the elements of the list. -/
theorem each_mem {f : α → Prog σ ε Unit} (hf : ∀ a ∈ xs, Keeps T R (f a)) :
    Keeps T R (Prog.each xs f) := by
  induction xs with
  | nil => exact instPure ()
  | cons x xs ih =>
    exact andThen (hf x (.head _)) fun _ => ih fun a ha => hf a (.tail _ ha)

/-- A loop over a list. -/
theorem each {f : α → Prog σ ε Unit} (hf : ∀ a, Keeps T R (f a)) :
    Keeps T R (Prog.each xs f) := .each_mem fun a _ => hf a

instance {xs : List α} {f : α → Prog σ ε Unit} [hf : ∀ a, Keeps T R (f a)] :
    Keeps T R (Prog.each xs f) := .each hf

/-- A loop with an accumulator. -/
theorem foldl {f : β → α → Prog σ ε β} {b : β} (hf : ∀ b a, Keeps T R (f b a)) :
    Keeps T R (Prog.foldl f b xs) := by
  induction xs generalizing b with
  | nil => exact instPure b
  | cons x xs ih => exact andThen (hf b x) fun _ => ih

instance {xs : List α} {f : β → α → Prog σ ε β} {b : β}
    [hf : ∀ b a, Keeps T R (f b a)] : Keeps T R (Prog.foldl f b xs) := .foldl hf

/-- A loop that collects results. -/
theorem traverse {f : α → Prog σ ε β} (hf : ∀ a, Keeps T R (f a)) :
    Keeps T R (Prog.traverse f xs) := by
  induction xs with
  | nil => exact instPure []
  | cons x xs ih => exact andThen (hf x) fun _ => andThen ih fun _ => instPure _

instance {xs : List α} {f : α → Prog σ ε β} [hf : ∀ a, Keeps T R (f a)] :
    Keeps T R (Prog.traverse f xs) := .traverse hf

end

/-- A program on a part of the state. -/
theorem zoom {τ : Type} {get : σ → τ} {set : τ → σ → σ} {R : τ → τ → Prop} {S : σ → σ → Prop}
    {x : Prog τ ε α} (h : Keeps T R x) (hRS : ∀ s t, R (get s) t → S s (set t s)) :
    Keeps T S (Prog.zoom get set x) :=
  ⟨fun s => hRS s _ (h.keeps (get s)), fun hT s => h.returns hT (get s)⟩

/-- A program that cannot fail has a run. -/
theorem run {R : σ → σ → Prop} {x : Prog σ ε α} (h : Keeps True R x) (s : σ) :
    ∃ a s', x s = (.ok a, s') ∧ R s s' := by
  obtain ⟨a, ha⟩ := h.returns trivial s
  exact ⟨a, (x s).2, Prod.ext ha rfl, h.keeps s⟩

/-- A weaker relation is kept too. -/
theorem mono {R S : σ → σ → Prop} {x : Prog σ ε α} (h : Keeps T R x)
    (hRS : ∀ s s', R s s' → S s s') : Keeps T S x := ⟨fun s => hRS _ _ (h.keeps s), h.returns⟩

end Keeps

/-! ## Specifications along a relation -/

/-- The postcondition `P` of a return and `X` of a failure. -/
def Ends (P : α → σ → Prop) (X : ε → σ → Prop) : Except ε α → σ → Prop
  | .ok a, s => P a s
  | .error e, s => X e s

/-- The program returns, with postcondition `P`. -/
abbrev Returns (P : α → σ → Prop) : Except ε α → σ → Prop := Ends P fun _ _ => False

/-- From `s`, the program moves the state along `R` and ends with `Q`. -/
def Along (R : σ → σ → Prop) (x : Prog σ ε α) (Q : Except ε α → σ → Prop) (s : σ) : Prop :=
  R s (x s).2 ∧ Q (x s).1 (x s).2

/-- From `s`, the program moves the state along `R` and returns. -/
abbrev Goes (R : σ → σ → Prop) (x : Prog σ ε α) (s : σ) : Prop :=
  Along R x (Returns fun _ _ => True) s

/-- A program that returns from every state. -/
theorem Keeps.ofAlong {T : Prop} {R : σ → σ → Prop} {x : Prog σ ε α} {P : σ → α → σ → Prop}
    (h : ∀ s, Along R x (Returns (P s)) s) : Keeps T R x where
  keeps s := (h s).1
  returns _ s := by
    have hr := (h s).2
    rcases hs : (x s).1 with e | a
    · rw [hs] at hr
      exact False.elim hr
    · exact ⟨a, rfl⟩

/-- A program that starts with a look at the state, and returns. -/
theorem Keeps.ofRead {T : Prop} {R : σ → σ → Prop} {f : σ → Prog σ ε α}
    (h : ∀ s, Goes R (f s) s) : Keeps T R (read >>= f) :=
  .ofAlong (x := read >>= f) h

namespace Along

variable {R : σ → σ → Prop} {Q Q' : Except ε α → σ → Prop} {s : σ}

variable {x : Prog σ ε α}

/-- A program that keeps `R`, if its outcome does not matter. -/
theorem ofKeeps (h : Keeps False R x) : Along R x (fun _ _ => True) s :=
  ⟨h.keeps s, trivial⟩

/-- A program that keeps `R` and returns. -/
theorem goes (h : Keeps True R x) : Goes R x s := by
  refine ⟨h.keeps s, ?_⟩
  obtain ⟨a, ha⟩ := h.returns trivial s
  rw [ha]
  trivial

/-- `goes`, where the program is known. -/
theorem total [h : Keeps True R x] : Goes R x s := goes h

/-- A postcondition may be weakened. -/
theorem mono (h : Along R x Q s) (hQ : ∀ r s', R s s' → Q r s' → Q' r s') :
    Along R x Q' s := ⟨h.1, hQ _ _ h.1 h.2⟩

/-- A program that moves along a stronger relation. -/
theorem of {S : σ → σ → Prop} (h : Along S x Q s)
    (hSR : ∀ s s', S s s' → R s s') : Along R x (fun r s' => S s s' ∧ Q r s') s :=
  ⟨hSR _ _ h.1, h⟩

/-- The postcondition of a program that returns. -/
theorem weaken {P P' : α → σ → Prop} (h : Along R x (Returns P) s)
    (hP : ∀ a s', R s s' → P a s' → P' a s') : Along R x (Returns P') s :=
  h.mono fun r s' hr hQ => by
    cases r with
    | ok a => exact hP a s' hr hQ
    | error e => exact hQ

/-- The postcondition of a program that moves along a stronger relation and returns. -/
theorem via {S : σ → σ → Prop} {P P' : α → σ → Prop}
    (h : Along S x (Returns P) s) (hSR : ∀ s s', S s s' → R s s')
    (hP : ∀ a s', S s s' → P a s' → P' a s') : Along R x (Returns P') s :=
  ⟨hSR _ _ h.1, (h.weaken hP).2⟩

/-- A program that returns, where its failure would be an outcome too. -/
theorem ofReturns {P : α → σ → Prop} (h : Along R x (Returns P) s)
    (hP : ∀ a s', R s s' → P a s' → Q (.ok a) s') : Along R x Q s :=
  h.mono fun r s' hr hQ => by
    cases r with
    | ok a => exact hP a s' hr hQ
    | error e => exact hQ.elim

theorem pure [Std.Refl R] {a : α} (h : Q (.ok a) s) : Along R (Pure.pure a) Q s :=
  ⟨Std.Refl.refl s, h⟩

theorem fail [Std.Refl R] {e : ε} (h : Q (.error e) s) : Along R (Prog.fail e) Q s :=
  ⟨Std.Refl.refl s, h⟩

theorem lifted [Std.Refl R] {r : Except ε α} (h : Q r s) : Along R (Prog.lift r) Q s :=
  ⟨Std.Refl.refl s, h⟩

/-- A change of the state at the end of a program. -/
theorem set {g : σ → σ} {Q : Except ε Unit → σ → Prop} (hg : R s (g s)) (h : Q (.ok ()) (g s)) :
    Along R (Prog.update g) Q s := ⟨hg, h⟩

theorem ite {c : Prop} [Decidable c] {x y : Prog σ ε α} (hx : c → Along R x Q s)
    (hy : ¬c → Along R y Q s) : Along R (if c then x else y) Q s := by
  split
  · exact hx ‹_›
  · exact hy ‹_›

/-- A guard at the end of a program. -/
theorem guard {c : Prop} [Decidable c] {e : ε} {Q : Except ε Unit → σ → Prop} [Std.Refl R]
    (hok : c → Q (.ok ()) s) (herr : ¬c → Q (.error e) s) : Along R (Prog.ensure c e) Q s :=
  .ite (fun h => .pure (hok h)) fun h => .fail (herr h)

theorem when {c : Prop} [Decidable c] {x : Prog σ ε Unit} {Q : Except ε Unit → σ → Prop}
    [Std.Refl R] (hx : c → Along R x Q s) (h : ¬c → Q (.ok ()) s) : Along R (Prog.when c x) Q s :=
  .ite hx fun hc => .pure (h hc)

section
variable [IsTrans σ R] {x : Prog σ ε α} {f : α → Prog σ ε β} {P : α → σ → Prop}
  {Q' : Except ε β → σ → Prop}

omit [IsTrans σ R] in
/-- A program whose first part has a known run. -/
theorem ofRun {a : α} {s' : σ} (hx : x s = (.ok a, s')) (hR : R s (f a s').2)
    (hQ : Q' (f a s').1 (f a s').2) : Along R (x >>= f) Q' s := by
  simp only [Along, Bind.bind, hx]
  exact ⟨hR, hQ⟩

/-- One program after the other. -/
theorem bind (hx : Along R x Q s) (hok : ∀ a s', R s s' → Q (.ok a) s' → Along R (f a) Q' s')
    (herr : ∀ e s', R s s' → Q (.error e) s' → Q' (.error e) s') : Along R (x >>= f) Q' s := by
  obtain ⟨hR, hQ⟩ := hx
  simp only [Along, Bind.bind]
  rcases hs : x s with ⟨e | a, s'⟩ <;> rw [hs] at hR hQ
  · exact ⟨hR, herr e s' hR hQ⟩
  · exact ⟨trans_of R hR (hok a s' hR hQ).1, (hok a s' hR hQ).2⟩

/-- A program that returns, then another. -/
theorem next (hx : Along R x (Returns P) s)
    (hok : ∀ a s', R s s' → P a s' → Along R (f a) Q' s') : Along R (x >>= f) Q' s :=
  bind hx hok fun _ _ _ h => h.elim

/-- A program that keeps `R` and returns, then another. -/
theorem step [Keeps True R x] (hok : ∀ a s', R s s' → Along R (f a) Q' s') :
    Along R (x >>= f) Q' s := next total fun a s' h _ => hok a s' h

variable {S : σ → σ → Prop}

/-- A program that moves along a stronger relation and returns, then another. -/
theorem nextVia (hSR : ∀ s s', S s s' → R s s') (hx : Along S x (Returns P) s)
    (hok : ∀ a s', S s s' → P a s' → Along R (f a) Q' s') : Along R (x >>= f) Q' s :=
  bind (hx.of hSR) (fun a s' _ h => hok a s' h.1 h.2) fun _ _ _ h => h.2.elim

/-- A program that keeps a stronger relation and returns, then another. -/
theorem stepVia (hSR : ∀ s s', S s s' → R s s') [Keeps True S x]
    (hok : ∀ a s', S s s' → Along R (f a) Q' s') : Along R (x >>= f) Q' s :=
  nextVia hSR total fun a s' h _ => hok a s' h

/-- A program that moves along a stronger relation, then another. -/
theorem bindVia (hSR : ∀ s s', S s s' → R s s') (hx : Along S x Q s)
    (hok : ∀ a s', S s s' → Q (.ok a) s' → Along R (f a) Q' s')
    (herr : ∀ e s', S s s' → Q (.error e) s' → Q' (.error e) s') : Along R (x >>= f) Q' s :=
  bind (hx.of hSR) (fun a s' _ h => hok a s' h.1 h.2) fun e s' _ h => herr e s' h.1 h.2

/-- A program that keeps a stronger relation and may fail, then another. -/
theorem andThenVia (hSR : ∀ s s', S s s' → R s s') [hx : Keeps False S x]
    (hok : ∀ a s', S s s' → Along R (f a) Q' s') (herr : ∀ e s', S s s' → Q' (.error e) s') :
    Along R (x >>= f) Q' s :=
  bindVia hSR (ofKeeps hx) (fun a s' h _ => hok a s' h) fun e s' h _ => herr e s' h

end

section
variable {Q' : Except ε β → σ → Prop}

/-- A look at the state. -/
theorem read {f : σ → Prog σ ε β} (h : Along R (f s) Q' s) : Along R (Prog.read >>= f) Q' s := h

/-- A look at a part of the state. -/
theorem reads {g : σ → α} {f : α → Prog σ ε β} (h : Along R (f (g s)) Q' s) :
    Along R (Prog.reads g >>= f) Q' s := h

/-- A conditional program, then another. -/
theorem whenThen {c : Prop} [Decidable c] {x : Prog σ ε Unit} {f : Unit → Prog σ ε β}
    (hc : c → Along R (x >>= f) Q' s) (hn : ¬c → Along R (f ()) Q' s) :
    Along R (Prog.when c x >>= f) Q' s := by
  unfold Prog.when
  split
  · exact hc ‹_›
  · exact hn ‹_›

/-- A change of the state. -/
theorem update [IsTrans σ R] {g : σ → σ} {f : Unit → Prog σ ε β} (hg : R s (g s))
    (h : Along R (f ()) Q' (g s)) : Along R (Prog.update g >>= f) Q' s :=
  ⟨trans_of R hg h.1, h.2⟩

/-- A change of the state along a stronger relation. -/
theorem updateVia [IsTrans σ R] {S : σ → σ → Prop} {g : σ → σ} {f : Unit → Prog σ ε β}
    (hSR : ∀ s s', S s s' → R s s') (hg : S s (g s))
    (h : ∀ s', s' = g s → S s s' → Along R (f ()) Q' s') : Along R (Prog.update g >>= f) Q' s :=
  update (hSR _ _ hg) (h _ rfl hg)

variable [Std.Refl R]

theorem lift {r : Except ε α} {f : α → Prog σ ε β} (hok : ∀ a, r = .ok a → Along R (f a) Q' s)
    (herr : ∀ e, r = .error e → Q' (.error e) s) : Along R (Prog.lift r >>= f) Q' s := by
  cases r with
  | ok a => exact hok a rfl
  | error e => exact ⟨Std.Refl.refl s, herr e rfl⟩

theorem ensure {c : Prop} [Decidable c] {e : ε} {f : Unit → Prog σ ε β}
    (hok : c → Along R (f ()) Q' s) (herr : ¬c → Q' (.error e) s) :
    Along R (Prog.ensure c e >>= f) Q' s := by
  by_cases h : c
  · rw [Prog.ensure, if_pos h]
    exact hok h
  · rw [Prog.ensure, if_neg h]
    exact ⟨Std.Refl.refl s, herr h⟩

end

/-- A program whose failure is an outcome. -/
theorem attempt {Q' : Except ε' (Except ε α) → σ → Prop}
    (h : Along R x (fun r s' => Q' (.ok r) s') s) : Along R (Prog.attempt x) Q' s := h

/-- A program whose failure is mapped. -/
theorem mapError {g : ε → ε'} {Q' : Except ε' α → σ → Prop}
    (h : Along R x (fun r s' => Q' (r.mapError g) s') s) : Along R (Prog.mapError g x) Q' s := by
  simp only [Along, Prog.mapError] at h ⊢
  rcases hs : x s with ⟨_ | _, s'⟩ <;> rw [hs] at h <;> exact h

section
variable [Std.Refl R] [IsTrans σ R] {I : σ → Prop}

/-- A loop over a list with an invariant. The body establishes `D` of its element and keeps it of
the others. -/
theorem each_done {D : α → σ → Prop} {X : ε → σ → Prop} {xs : List α} {f : α → Prog σ ε Unit}
    (hs : I s) (hf : ∀ a ∈ xs, ∀ s', R s s' → I s' →
      Along R (f a) (Ends (fun _ t => I t ∧ D a t ∧ ∀ b, D b s' → D b t) X) s') :
    Along R (Prog.each xs f) (Ends (fun _ t => I t ∧ (∀ a ∈ xs, D a t) ∧ ∀ b, D b s → D b t) X)
      s := by
  induction xs generalizing s with
  | nil => exact .pure ⟨hs, fun _ h => absurd h List.not_mem_nil, fun _ h => h⟩
  | cons x xs ih =>
    refine .bind (hf x (.head _) s (Std.Refl.refl s) hs) (fun _ s' hr hI => ?_) fun _ _ _ h => h
    refine (ih hI.1 fun a ha s'' hr' => hf a (.tail _ ha) s'' (trans_of R hr hr')).mono
      fun r t _ h => ?_
    cases r with
    | ok => exact ⟨h.1, List.forall_mem_cons.mpr ⟨h.2.2 x hI.2.1, h.2.1⟩,
        fun b hb => h.2.2 b (hI.2.2 b hb)⟩
    | error => exact h

/-- A loop over a list with an invariant. -/
theorem each {X : ε → σ → Prop} {xs : List α} {f : α → Prog σ ε Unit} (hs : I s)
    (hf : ∀ a ∈ xs, ∀ s', R s s' → I s' → Along R (f a) (Ends (fun _ => I) X) s') :
    Along R (Prog.each xs f) (Ends (fun _ => I) X) s := by
  refine (each_done (D := fun _ _ => True) (X := X) hs fun a ha s' hr hI =>
    (hf a ha s' hr hI).mono fun r t _ h => ?_).mono fun r t _ h => ?_
  · cases r with
    | ok => exact ⟨h, trivial, fun _ => id⟩
    | error => exact h
  · cases r with
    | ok => exact h.1
    | error => exact h

/-- A loop with an accumulator and an invariant. -/
theorem foldl {I : β → σ → Prop} {X : ε → σ → Prop} {xs : List α} {f : β → α → Prog σ ε β} {b : β}
    (hs : I b s) (hf : ∀ b, ∀ a ∈ xs, ∀ s', R s s' → I b s' → Along R (f b a) (Ends I X) s') :
    Along R (Prog.foldl f b xs) (Ends I X) s := by
  induction xs generalizing s b with
  | nil => exact .pure hs
  | cons x xs ih =>
    refine .bind (hf b x (.head _) s (Std.Refl.refl s) hs) (fun _ s' hr hI => ih hI ?_)
      fun _ _ _ h => h
    exact fun b a ha s'' hr' => hf b a (.tail _ ha) s'' (trans_of R hr hr')

end

end Along

/-! ## Any states -/

/-- The relation of any two states. A program along it is specified by its postcondition alone. -/
def Anyhow (_ _ : σ) : Prop := True

instance : Std.Refl (Anyhow (σ := σ)) := ⟨fun _ => trivial⟩

instance : IsTrans σ Anyhow := ⟨fun _ _ _ _ _ => trivial⟩

/-- A program whose final state is related to the first, and that returns. -/
theorem Keeps.ofPost {T : Prop} {R : σ → σ → Prop} {x : Prog σ ε α}
    (h : ∀ s, Along Anyhow x (Returns fun _ s' => R s s') s) : Keeps T R x :=
  .ofAlong (P := fun _ _ _ => True) fun s => by
    obtain ⟨-, hs⟩ := h s
    refine ⟨?_, ?_⟩
    · rcases hr : (x s).1 with e | a <;> rw [hr] at hs
      · exact hs.elim
      · exact hs
    · rcases hr : (x s).1 with e | a <;> rw [hr] at hs
      · exact hs
      · trivial

/-- A program whose final state is related to the first. -/
theorem Keeps.ofOutcome {R : σ → σ → Prop} {x : Prog σ ε α}
    (h : ∀ s, Along Anyhow x (fun _ s' => R s s') s) : Keeps False R x :=
  ⟨fun s => (h s).2, False.elim⟩

/-! ## Relations under an invariant -/

/-- `R`, from states that satisfy `P` and to such states. -/
def Under (P : σ → Prop) (R : σ → σ → Prop) (s s' : σ) : Prop := P s → R s s' ∧ P s'

section
variable {P : σ → Prop} {R : σ → σ → Prop}

instance [Std.Refl R] : Std.Refl (Under P R) := ⟨fun s h => ⟨Std.Refl.refl s, h⟩⟩

instance [IsTrans σ R] : IsTrans σ (Under P R) := ⟨fun _ _ _ h h' hP =>
  ⟨trans_of R (h hP).1 (h' (h hP).2).1, (h' (h hP).2).2⟩⟩

end

section
variable {P : σ → Prop} {R : σ → σ → Prop} {s : σ}

/-- A program that moves along `R` under `P` and returns, from a state that satisfies `P`. -/
theorem Goes.under {x : Prog σ ε α} (h : Goes (Under P R) x s) (hs : P s) :
    Along (Under P R) x (Returns fun _ s' => P s') s :=
  h.weaken fun _ _ hr _ => (hr hs).2

end

/-! ## Labelled steps -/

/-- Runs of the transition system `step` whose labels are in `E`. -/
def Within (step : L → σ → σ → Prop) (E : L → Prop) : σ → σ → Prop :=
  Relation.ReflTransGen fun s s' => ∃ l, E l ∧ step l s s'

/-- The label `l` is in `E`. -/
class Allows (E : L → Prop) (l : L) : Prop where
  allowed : E l

section
variable {step : L → σ → σ → Prop} {E : L → Prop} {s s' : σ}

instance : Std.Refl (Within step E) := ⟨fun _ => .refl⟩

instance : IsTrans σ (Within step E) := ⟨fun _ _ _ => .trans⟩

theorem Within.single {l : L} [h : Allows E l] (hs : step l s s') : Within step E s s' :=
  Relation.ReflTransGen.single (show ∃ l, E l ∧ step l s s' from ⟨l, h.allowed, hs⟩)

/-- A run within fewer labels is one within more. -/
theorem Within.mono {E' : L → Prop} (hE : ∀ l, E l → E' l) (h : Within step E s s') :
    Within step E' s s' :=
  Relation.ReflTransGen.mono (fun _ _ ⟨l, hl, hs⟩ => ⟨l, hE l hl, hs⟩) _ _ h

/-- A relation that every step goes along is one that every run goes along. -/
theorem Within.along {R : σ → σ → Prop} [Std.Refl R] [IsTrans σ R]
    (hR : ∀ l s s', E l → step l s s' → R s s') (h : Within step E s s') : R s s' := by
  induction h with
  | refl => exact Std.Refl.refl _
  | tail _ hs ih =>
    obtain ⟨l, hl, hs⟩ := hs
    exact trans_of R ih (hR _ _ _ hl hs)

/-- What every step preserves, every run preserves. -/
theorem Within.invariant {P : σ → Prop} (hP : ∀ l s s', E l → step l s s' → P s → P s')
    (h : Within step E s s') (hs : P s) : P s' := by
  induction h with
  | refl => exact hs
  | tail _ hs ih =>
    obtain ⟨l, hl, hs⟩ := hs
    exact hP _ _ _ hl hs ih

/-- A part of the state that no step changes, no run changes. -/
theorem Within.same {f : σ → α} (hf : ∀ l s s', E l → step l s s' → f s' = f s)
    (h : Within step E s s') : f s' = f s :=
  h.invariant (P := fun t => f t = f s) (fun l _ _ hl hs => (hf l _ _ hl hs).trans) rfl

/-- A part of the state that every step moves along `r`, every run does. -/
theorem Within.grows {r : α → α → Prop} [Std.Refl r] [IsTrans α r] {f : σ → α}
    (hf : ∀ l s s', E l → step l s s' → r (f s) (f s')) (h : Within step E s s') :
    r (f s) (f s') :=
  h.invariant (P := fun t => r (f s) (f t)) (fun l _ _ hl hs hr => trans_of r hr (hf l _ _ hl hs))
    (Std.Refl.refl _)

/-- An update of the state that is a step. -/
theorem Keeps.ofStep {T : Prop} {f : σ → σ} (l : L) [Allows E l] (h : ∀ s, step l s (f s)) :
    Keeps T (Within step E) (Prog.update f : Prog σ ε Unit) := .update fun s => .single (h s)

end

end Prog
