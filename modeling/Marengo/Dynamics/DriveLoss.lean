import Marengo.Dynamics.UrdfGravity
import Marengo.Lib.Odometer

/-!
# Drive-loss grid

When a drive is lost, the joints below it hang freely and the others hold. The model is sampled on a
grid: every shed joint over its range, every holding joint over its own, with the rest pose. Two
nested loops count through the combinations, and keep for every holding joint its largest torque and
the largest spread of its torque over the shed joints.
-/

namespace Marengo

variable {F : Type}

/-- A gravity model; the torques are one for every joint. -/
structure DynamicsModel (F : Type) where
  jointNames : List String
  gravityTorques : List F → Except (DynamicsError F) (List F)
  length_eq : ∀ {q tau}, gravityTorques q = .ok tau → tau.length = jointNames.length

/-- The model that is read from a robot description. -/
def UrdfGravityModel.dynamicsModel [Analytic F] (model : UrdfGravityModel F) : DynamicsModel F where
  jointNames := model.jointNames
  gravityTorques := model.gravityTorques
  length_eq {q tau} h := by
    obtain ⟨qMap, hqMap, h⟩ := Except.bind_eq_ok.mp h
    have hq : q.length = model.jointNames.length := by
      by_contra hne
      rw [UrdfGravityModel.qMap, if_pos hne] at hqMap
      cases hqMap
    unfold UrdfGravityModel.finiteTorques at h
    split at h
    · cases h
    · cases h
      rw [List.length_mapIdx, hq]

def shedGridSteps : ℕ := 7

def holdingGridSteps : ℕ := 4

def maxLossGridEvaluations : ℕ := 50000

/-- The worst case over the grid for one joint that keeps holding. -/
structure HoldingTorqueBound (F : Type) where
  index : ℕ
  joint : String
  maxAbsNm : F
  maxDeltaNm : F

/-! ## Counting -/

/-- Advance a mixed-radix counter; false once it has wrapped. The zip ends with the shorter list. -/
def nextCombination : List ℕ → List ℕ → List ℕ × Bool
  | digit :: counter, size :: sizes =>
    if digit + 1 < size then ((digit + 1) :: counter, true)
    else
      let next := nextCombination counter sizes
      (0 :: next.1, next.2)
  | counter, _ => (counter, false)

/-- A bound on the steps until the counter wraps. -/
def remaining : List ℕ → List ℕ → ℕ
  | digit :: counter, size :: sizes => size - 1 - digit + max size 1 * remaining counter sizes
  | _, _ => 0

theorem remaining_lt {counter sizes counter' : List ℕ}
    (h : nextCombination counter sizes = (counter', true)) :
    remaining counter' sizes < remaining counter sizes := by
  induction counter generalizing sizes counter' with
  | nil => simp [nextCombination] at h
  | cons digit counter ih =>
    cases sizes with
    | nil => simp [nextCombination] at h
    | cons size sizes =>
      rw [nextCombination] at h
      split at h
      · obtain ⟨rfl, -⟩ := Prod.mk.inj h
        simp only [remaining]
        omega
      · obtain ⟨rfl, hnext⟩ := Prod.mk.inj h
        have hrest : remaining (nextCombination counter sizes).1 sizes < remaining counter sizes :=
          ih (Prod.ext rfl hnext)
        have hmul := Nat.mul_le_mul_left (max size 1) (Nat.succ_le_of_lt hrest)
        rw [Nat.mul_succ] at hmul
        simp only [remaining]
        omega

/-- `loop { body; if !next_combination(counter, sizes) { break } }`. -/
def sweep {ε σ : Type} (sizes : List ℕ) (body : List ℕ → σ → Except ε σ) (counter : List ℕ)
    (state : σ) : Except ε σ :=
  match body counter state with
  | .error e => .error e
  | .ok state =>
    match _h : nextCombination counter sizes with
    | (next, true) => sweep sizes body next state
    | (_, false) => .ok state
termination_by remaining counter sizes
decreasing_by exact remaining_lt _h

section
variable [Scalar F]

/-! ## The grid -/

def grid (lower upper : F) (steps : ℕ) (rest : Bool) : List F :=
  let steps := max steps 2
  let points := (List.range steps).map fun i =>
    lower + (upper - lower) * lit i / lit ((steps - 1 : ℕ) : ℚ)
  if rest && blt lower (lit 0) && blt (lit 0) upper then
    points ++ [lit 0]
  else points

/-- The joints of one loop, and the points of each. -/
structure GridAxes (F : Type) where
  joints : List ℕ
  points : List (List F)

def GridAxes.sizes (axes : GridAxes F) : List ℕ := axes.points.map (·.length)

/-- `for (slot, &index) in joints { q[index] = points[slot][counter[slot]] }`. -/
def GridAxes.place (axes : GridAxes F) (counter : List ℕ) (q : List F) : List F :=
  ((axes.joints.zip axes.points).zip counter).foldl
    (fun q slot => q.set slot.1.1 (slot.1.2.getD slot.2 (lit 0))) q

/-- The axes of the joints in `joints`. -/
def gridAxes (ranges : List (F × F)) (steps : ℕ) (rest : Bool) (joints : List ℕ) : GridAxes F where
  joints := joints
  points := joints.map fun index =>
    let range := ranges.getD index (lit 0, lit 0)
    grid range.1 range.2 steps rest

/-- `try_fold(1, checked_mul)` on 64 bits. -/
def checkedProduct (sizes : List ℕ) : Option ℕ :=
  sizes.foldlM (fun total size => if total * size ≤ maxU64 then some (total * size) else none) 1

/-- The checks: the axes of the shed and of the holding joints. -/
def lossGrid (names : List String) (shed : List ℕ) (ranges : List (F × F)) :
    Except (DynamicsError F) (GridAxes F × GridAxes F) :=
  let n := names.length
  if ranges.length ≠ n then .error (.jointCount n ranges.length)
  else match shed.find? (n ≤ ·) with
    | some index => .error (.jointCount n (index + 1))
    | none =>
      if ranges.any fun (lower, upper) =>
          !isFinite lower || !isFinite upper || blt upper lower then
        .error (.nonFiniteInput "drive-loss grid range")
      else
        let holding := (List.range n).filter fun index => !shed.contains index
        let shedAxes := gridAxes ranges shedGridSteps false shed
        let holdingAxes := gridAxes ranges holdingGridSteps true holding
        let evaluations := (checkedProduct (shedAxes.sizes ++ holdingAxes.sizes)).getD maxU64
        if maxLossGridEvaluations < evaluations then
          .error (.lossGridTooLarge evaluations maxLossGridEvaluations)
        else .ok (shedAxes, holdingAxes)

/-! ## The sweep -/

/-- A holding joint in the inner loop: its bound, and its least and largest torque so far. Before
the first sample these are the infinities. -/
abbrev HoldingSlot (F : Type) := HoldingTorqueBound F × Option (F × F)

def HoldingSlot.observe (tau : List F) (slot : HoldingSlot F) :
    Except (DynamicsError F) (HoldingSlot F) :=
  let value := tau.getD slot.1.index (lit 0)
  if !isFinite value then .error (.nonFiniteTorque slot.1.joint)
  else .ok ({ slot.1 with maxAbsNm := Scalar.max slot.1.maxAbsNm (Scalar.abs value) },
    match slot.2 with
    | none => some (value, value)
    | some (low, high) => some (Scalar.min low value, Scalar.max high value))

/-- The spread of a holding joint after the inner loop. -/
def HoldingSlot.close (slot : HoldingSlot F) : HoldingTorqueBound F :=
  match slot.2 with
  | none => slot.1
  | some (low, high) => { slot.1 with maxDeltaNm := Scalar.max slot.1.maxDeltaNm (high - low) }

/-- The body of the inner loop: one pose. -/
def shedStep (model : DynamicsModel F) (shed : GridAxes F) (counter : List ℕ)
    (state : List F × List (HoldingSlot F)) :
    Except (DynamicsError F) (List F × List (HoldingSlot F)) := do
  let q := shed.place counter state.1
  let tau ← model.gravityTorques q
  let slots ← state.2.mapM (HoldingSlot.observe tau)
  pure (q, slots)

/-- The body of the outer loop: one pose of the holding joints. -/
def holdingStep (model : DynamicsModel F) (shed holding : GridAxes F) (counter : List ℕ)
    (state : List F × List (HoldingTorqueBound F)) :
    Except (DynamicsError F) (List F × List (HoldingTorqueBound F)) := do
  let q := holding.place counter state.1
  let state ← sweep shed.sizes (shedStep model shed) (List.replicate shed.joints.length 0)
    (q, state.2.map fun bound => (bound, none))
  pure (state.1, state.2.map HoldingSlot.close)

/-- Largest torque and spread of every joint outside `shed`. -/
def subtreeLossTorqueBounds (model : DynamicsModel F) (shed : List ℕ) (ranges : List (F × F)) :
    Except (DynamicsError F) (List (HoldingTorqueBound F)) := do
  let names := model.jointNames
  let (shedAxes, holdingAxes) ← lossGrid names shed ranges
  let bounds := holdingAxes.joints.map fun index =>
    ⟨index, names.getD index "", lit 0, lit 0⟩
  let q := List.replicate names.length (lit 0)
  let state ← sweep holdingAxes.sizes (holdingStep model shedAxes holdingAxes)
    (List.replicate holdingAxes.joints.length 0) (q, bounds)
  pure state.2

end

end Marengo
