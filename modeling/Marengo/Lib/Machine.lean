import Marengo.Lib.History

/-!
# Machines that answer

A machine takes inputs one after the other; each gives an answer and a next state. `turns` is the
record of a run. A fact about one turn, under an invariant of the states, holds of every turn
(`forall_turns`). A queue in which each turn puts at the back what it takes in, and takes from the
front what it lets go, lets go of everything once and in order (`conserved`).
-/

namespace Machine

variable {σ ι ω β : Type}

/-- One turn: the states around it, what came in, and the answer. -/
structure Turn (σ ι ω : Type) where
  before : σ
  input : ι
  output : ω
  after : σ

def turn (step : σ → ι → ω × σ) (s : σ) (i : ι) : Turn σ ι ω := ⟨s, i, (step s i).1, (step s i).2⟩

/-- The turns of a run, oldest first. -/
def turns (step : σ → ι → ω × σ) : σ → List ι → List (Turn σ ι ω)
  | _, [] => []
  | s, i :: is => turn step s i :: turns step (step s i).2 is

def final (step : σ → ι → ω × σ) (s : σ) (is : List ι) : σ := is.foldl (fun s i => (step s i).2) s

variable {step : σ → ι → ω × σ} {s : σ} {I : σ → Prop}

theorem forall_turns {P : Turn σ ι ω → Prop} (hstep : ∀ s i, I s → I (step s i).2)
    (hturn : ∀ s i, I s → P (turn step s i)) (hs : I s) (is : List ι) :
    ∀ t ∈ turns step s is, P t := by
  induction is generalizing s with
  | nil => exact fun t ht => absurd ht List.not_mem_nil
  | cons i is ih => exact List.forall_mem_cons.2 ⟨hturn s i hs, ih (hstep s i hs)⟩

/-- First in, first out. -/
theorem conserved (held : σ → List β) (put got : Turn σ ι ω → List β)
    (hstep : ∀ s i, held s ++ put (turn step s i) = got (turn step s i) ++ held (step s i).2)
    (s : σ) (is : List ι) :
    held s ++ (turns step s is).flatMap put =
      (turns step s is).flatMap got ++ held (final step s is) := by
  induction is generalizing s with
  | nil => rw [turns, List.flatMap_nil, List.flatMap_nil, List.append_nil]; rfl
  | cons i is ih =>
    rw [turns, List.flatMap_cons, List.flatMap_cons, ← List.append_assoc, hstep, List.append_assoc,
      ih, List.append_assoc]
    rfl

/-- Nothing that was put in is lost, and the order is kept, where the turns may let go of more. -/
theorem conserved_sublist (held : σ → List β) (put got : Turn σ ι ω → List β)
    (hstep : ∀ s i, List.Sublist (held s ++ put (turn step s i))
      (got (turn step s i) ++ held (step s i).2)) (s : σ) (is : List ι) :
    List.Sublist (held s ++ (turns step s is).flatMap put)
      ((turns step s is).flatMap got ++ held (final step s is)) := by
  induction is generalizing s with
  | nil => rw [turns, List.flatMap_nil, List.flatMap_nil, List.append_nil]; exact List.Sublist.refl _
  | cons i is ih =>
    rw [turns, List.flatMap_cons, List.flatMap_cons, ← List.append_assoc, List.append_assoc (got _)]
    refine ((hstep s i).append_right _).trans ?_
    rw [List.append_assoc]
    exact (ih _).append_left _

/-- A property of each turn and of those before it, under an invariant of the state and the turns. -/
theorem follows {J : List (Turn σ ι ω) → σ → Prop} {P : List (Turn σ ι ω) → Turn σ ι ω → Prop}
    (hstep : ∀ ts s i, J ts s → P ts (turn step s i) ∧ J (ts ++ [turn step s i]) (step s i).2)
    {ts : List (Turn σ ι ω)} (hs : J ts s) (is : List ι) :
    History.Follows P ts (turns step s is) ∧ J (ts ++ turns step s is) (final step s is) := by
  induction is generalizing s ts with
  | nil => exact ⟨trivial, (List.append_nil ts).symm ▸ hs⟩
  | cons i is ih =>
    obtain ⟨hturn, hnext⟩ := hstep ts s i hs
    obtain ⟨hrest, hend⟩ := ih hnext
    rw [List.append_assoc] at hend
    exact ⟨⟨hturn, hrest⟩, hend⟩

end Machine
