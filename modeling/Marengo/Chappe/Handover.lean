import Marengo.Lib.Machine
import Marengo.Scalar

/-!
# Handover of the listener's peer

A new connection of `IpcListener` replaces the last one under the delivery lock, while the reader of
the old one may still have frames to deliver and its end to report. Both compare their generation with
the active one first. A turn is one section under the lock, or a start or an end of a reader;
connections are numbered in the order of their installation. The generation saturates, so that it
tells connections apart only while their numbers fit it (`peer_handover`).

The stream of the peer is left out: a reader may end at any time.
-/

namespace Marengo

open Machine

structure IpcConnection where
  number : ℕ
  generation : ℕ

structure IpcListener where
  /-- The number of the connection that was installed last. -/
  newest : ℕ := 0
  generation : ℕ := 0
  activeGeneration : ℕ := 0
  closed : Bool := false
  /-- The accept thread has left its loop. -/
  stopped : Bool := false
  /-- The connection that waits for the end of the previous reader. -/
  joining : Option IpcConnection := none
  reader : Option IpcConnection := none

inductive IpcInput
  | accept
  | startReader
  | frame
  | endReader (panics : Bool)
  | close

inductive IpcOutput
  | nothing
  | connectionChange (connection : IpcConnection) (connected : Bool)
  | delivered (connection : IpcConnection)

def IpcOutput.change : IpcOutput → Option Bool
  | connectionChange _ connected => some connected
  | _ => none

namespace IpcListener

def step (s : IpcListener) : IpcInput → IpcOutput × IpcListener
  | .accept =>
    if s.stopped || s.joining.isSome then (.nothing, s)
    else if s.closed then (.nothing, { s with stopped := true })
    else
      let connection := ⟨s.newest + 1, min (s.generation + 1) maxU64⟩
      (.connectionChange connection true, { s with
        newest := connection.number
        generation := connection.generation
        activeGeneration := connection.generation
        joining := some connection })
  | .startReader =>
    match s.joining, s.reader with
    | some connection, none => (.nothing, { s with joining := none, reader := some connection })
    | _, _ => (.nothing, s)
  | .frame =>
    match s.reader with
    | some connection =>
      if s.activeGeneration = connection.generation then (.delivered connection, s) else (.nothing, s)
    | none => (.nothing, s)
  | .endReader panics =>
    match s.reader with
    | some connection =>
      -- a handler that panics takes the reader down before it reaches the lock
      if panics || s.activeGeneration ≠ connection.generation then (.nothing, { s with reader := none })
      else (.connectionChange connection false, { s with activeGeneration := 0, reader := none })
    | none => (.nothing, s)
  | .close => (.nothing, { s with closed := true })

abbrev IpcTurn := Turn IpcListener IpcInput IpcOutput

/-- What a turn may do. -/
inductive Moves (s : IpcListener) : IpcOutput → IpcListener → Prop
  | quiet {s' : IpcListener} (hnewest : s'.newest = s.newest) (hgeneration : s'.generation = s.generation)
      (hactive : s'.activeGeneration = s.activeGeneration)
      (hreaders : ∀ c, s'.reader = some c ∨ s'.joining = some c →
        s.reader = some c ∨ s.joining = some c) : Moves s .nothing s'
  | installs {c : IpcConnection} (hnumber : c.number = s.newest + 1)
      (hgeneration : c.generation = min (s.generation + 1) maxU64) :
      Moves s (.connectionChange c true) { s with
        newest := c.number, generation := c.generation, activeGeneration := c.generation
        joining := some c }
  | delivers {c : IpcConnection} (hc : s.reader = some c)
      (hactive : s.activeGeneration = c.generation) : Moves s (.delivered c) s
  | ends {c : IpcConnection} (hc : s.reader = some c) (hactive : s.activeGeneration = c.generation) :
      Moves s (.connectionChange c false) { s with activeGeneration := 0, reader := none }

theorem step_moves (s : IpcListener) (i : IpcInput) : Moves s (step s i).1 (step s i).2 := by
  have hidle : Moves s .nothing s := .quiet rfl rfl rfl fun _ => id
  cases i <;> dsimp only [step]
  case accept =>
    split
    · exact hidle
    split
    · exact .quiet rfl rfl rfl fun _ => id
    · exact .installs rfl rfl
  case startReader =>
    split
    · rename_i connection hjoining hreader
      exact .quiet rfl rfl rfl fun c hc => .inr (hjoining.trans (by simpa using hc))
    · exact hidle
  case frame =>
    split
    · split
      · exact .delivers ‹_› ‹_›
      · exact hidle
    · exact hidle
  case endReader panics =>
    split
    · rename_i connection hreader
      split
      · exact .quiet rfl rfl rfl fun c hc => .inr (by simpa using hc)
      · rename_i hactive
        exact .ends hreader (by simp_all)
    · exact hidle
  case close => exact .quiet rfl rfl rfl fun _ => id

/-- What the connections of a state, and the turns before it, have to do with its generations. -/
structure Known (ts : List IpcTurn) (s : IpcListener) : Prop where
  generation : s.generation = min s.newest maxU64
  readers : ∀ c, s.reader = some c ∨ s.joining = some c →
    c.generation = min c.number maxU64 ∧ 0 < c.number ∧ c.number ≤ s.newest
  active : s.activeGeneration = 0 ∨ s.activeGeneration = s.generation
  installed : ∀ t ∈ ts, ∀ c, t.output = .connectionChange c true → c.number ≤ s.newest
  ended : ∀ t ∈ ts, ∀ c, t.output = .connectionChange c false →
    c.number ≤ s.newest ∧ (c.number = s.newest → s.activeGeneration = 0 ∨ maxU64 < s.newest)
  last : ((ts.filterMap (·.output.change)).getLast?).getD false = decide (s.activeGeneration ≠ 0)

/-- A turn that reports for a connection reports for the newest one, and its end once. -/
def Current (ts : List IpcTurn) (t : IpcTurn) : Prop :=
  t.before.newest ≤ maxU64 → ∀ c, t.output = .delivered c ∨ t.output = .connectionChange c false →
    t.before.activeGeneration = c.generation ∧ c.generation ≠ 0 ∧
    (∀ t' ∈ ts, ∀ c', t'.output = .connectionChange c' true → c'.number ≤ c.number) ∧
    (t.output = .connectionChange c false → ∀ t' ∈ ts, t'.output ≠ .connectionChange c false)

variable {ts : List IpcTurn} {s : IpcListener}

theorem Known.newest_of_active (h : Known ts s) {c : IpcConnection} (hc : s.reader = some c)
    (hactive : s.activeGeneration = c.generation) :
    c.generation ≠ 0 ∧ (s.newest ≤ maxU64 → c.number = s.newest) := by
  obtain ⟨hgeneration, hpos, hle⟩ := h.readers c (.inl hc)
  have hmax : 0 < maxU64 := by decide
  have := h.active
  have := h.generation
  omega

theorem Known.current (h : Known ts s) (i : IpcInput) : Current ts (turn step s i) := by
  intro hnewest c houtput
  obtain ⟨hc, hactive⟩ : s.reader = some c ∧ s.activeGeneration = c.generation := by
    have hmoves := step_moves s i
    generalize (step s i).2 = s' at hmoves
    rcases houtput with houtput | houtput <;> rw [show (step s i).1 = _ from houtput] at hmoves <;>
      cases hmoves <;> exact ⟨‹_›, ‹_›⟩
  obtain ⟨hne, hnumber⟩ := h.newest_of_active hc hactive
  refine ⟨hactive, hne, fun t' ht' c' hc' => ?_, fun hend t' ht' hc' => ?_⟩
  · rw [hnumber hnewest]
    exact h.installed t' ht' c' hc'
  · rcases (h.ended t' ht' c hc').2 (hnumber hnewest) with hzero | hmax
    · exact hne (hactive ▸ hzero)
    · exact absurd hnewest (not_le.2 hmax)

theorem Known.step (h : Known ts s) (i : IpcInput) : Known (ts ++ [turn step s i]) (s.step i).2 := by
  have hlast : ((ts ++ [turn IpcListener.step s i]).filterMap (·.output.change)).getLast?.getD false =
      (s.step i).1.change.getD (decide (s.activeGeneration ≠ 0)) := by
    rw [List.filterMap_append, ← h.last]
    cases hchange : (s.step i).1.change <;> simp [turn, hchange]
  have hmax : 0 < maxU64 := by decide
  have hgeneration := h.generation
  have hactive := h.active
  have hmoves := step_moves s i
  have houtput : (turn IpcListener.step s i).output = (s.step i).1 := rfl
  generalize (s.step i).1 = output, (s.step i).2 = s' at hlast hmoves houtput ⊢
  -- the newest number only grows, and the active generation of the same one is at most given up
  have hmono : s.newest ≤ s'.newest ∧ (s'.newest = s.newest →
      s'.activeGeneration = s.activeGeneration ∨ s'.activeGeneration = 0) := by
    cases hmoves with
    | quiet => omega
    | installs hnumber => dsimp only; omega
    | delivers => exact ⟨le_rfl, fun _ => .inl rfl⟩
    | ends => exact ⟨le_rfl, fun _ => .inr rfl⟩
  have hinstalled : ∀ t ∈ ts ++ [turn IpcListener.step s i], ∀ c,
      t.output = .connectionChange c true → c.number ≤ s'.newest := by
    refine List.forall_mem_append.2 ⟨fun t ht c hc => (h.installed t ht c hc).trans hmono.1, ?_⟩
    cases hmoves <;> simp [houtput]
  have hended : ∀ t ∈ ts ++ [turn IpcListener.step s i], ∀ c,
      t.output = .connectionChange c false → c.number ≤ s'.newest ∧
        (c.number = s'.newest → s'.activeGeneration = 0 ∨ maxU64 < s'.newest) := by
    refine List.forall_mem_append.2 ⟨fun t ht c hc => ?_, ?_⟩
    · have := h.ended t ht c hc
      omega
    · cases hmoves with
      | ends hc => simpa [houtput] using (h.readers _ (.inl hc)).2.2
      | _ => simp [houtput]
  cases hmoves with
  | quiet hnewest hgeneration' hactive' hreaders =>
    refine ⟨by omega, fun c hc => hnewest ▸ h.readers c (hreaders c hc), by omega, hinstalled, hended, ?_⟩
    rw [hlast, hactive']
    rfl
  | installs hnumber hnew =>
    refine ⟨?_, ?_, .inr rfl, hinstalled, hended, hlast.trans ?_⟩
    · dsimp only
      omega
    · rintro c' (hc' | hc')
      · obtain ⟨hgen, hpos, hle⟩ := h.readers c' (.inl hc')
        exact ⟨hgen, hpos, hle.trans hmono.1⟩
      · cases hc'
        exact ⟨by omega, by omega, le_rfl⟩
    · exact (decide_eq_true (by dsimp only; omega)).symm
  | delivers => exact ⟨hgeneration, h.readers, hactive, hinstalled, hended, hlast⟩
  | ends hc =>
    exact ⟨hgeneration, fun c hc => h.readers c (.inr (by simpa using hc)), .inl rfl, hinstalled,
      hended, hlast⟩

/-- **The handover of the peer.** As long as no more than `u64::MAX` connections have been installed,
a frame is delivered, and a disconnect reported, only for the connection whose generation is active,
after no later one was installed, and a disconnect once. The last value of `on_connection_change` is
whether a generation is active. -/
theorem peer_handover (calls : List IpcInput) :
    History.Follows Current [] (turns IpcListener.step {} calls) ∧
      (((turns IpcListener.step {} calls).filterMap (·.output.change)).getLast?).getD false =
        decide ((final IpcListener.step {} calls).activeGeneration ≠ 0) := by
  have hinit : Known [] {} := ⟨(Nat.zero_min _).symm, nofun, .inl rfl, nofun, (fun _ h => nomatch h), rfl⟩
  obtain ⟨hcurrent, hknown⟩ :=
    follows (J := Known) (fun ts s i h => ⟨h.current i, h.step i⟩) hinit calls
  exact ⟨hcurrent, hknown.last⟩

theorem delivers_stale (n k : ℕ) (h : k + n + 1 = maxU64) :
    ∃ calls, ∃ t ∈ turns IpcListener.step { newest := k, generation := k } calls,
      ∃ c, t.output = .delivered c ∧ c.number < t.before.newest := by
  have hmin : min (k + 1) maxU64 = k + 1 := by omega
  induction n generalizing k with
  | zero =>
    have hsaturated : min (k + 1 + 1) maxU64 = k + 1 := by omega
    refine ⟨[.accept, .startReader, .accept, .frame], _, .tail _ (.tail _ (.tail _ (.head _))),
      ⟨k + 1, k + 1⟩, ?_⟩
    simp [turn, step, hmin, hsaturated]
  | succ n ih =>
    obtain ⟨calls, t, ht, hstale⟩ := ih (k + 1) (by omega) (by omega)
    refine ⟨[.accept, .startReader, .endReader false] ++ calls, t, ?_, hstale⟩
    have hstate : (((IpcListener.step { newest := k, generation := k } .accept).2.step
        .startReader).2.step (.endReader false)).2 = { newest := k + 1, generation := k + 1 } := by
      simp [step, hmin]
    exact .tail _ (.tail _ (.tail _ (hstate ▸ ht)))

/-- The connection after the last one that the counter can tell apart gets its generation again. -/
theorem saturated_generation_delivers : ∃ calls, ∃ t ∈ turns IpcListener.step {} calls,
    ∃ c, t.output = .delivered c ∧ c.number < t.before.newest :=
  delivers_stale (maxU64 - 1) 0 (by decide)

end IpcListener

end Marengo
