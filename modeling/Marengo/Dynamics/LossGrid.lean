import Marengo.Dynamics.DriveLoss
import Mathlib.Order.Bounds.Basic

/-!
# The drive-loss grid is swept completely

The counter of a loop runs through the numbers below the product of the grid sizes, so a loop is a
fold over all combinations (`sweep_eq`). Every turn writes every joint, so the pose of a turn does
not depend on the turns before it (`place_agree`), and the bounds are the greatest values over all
combinations.
-/

namespace Marengo

open Odometer

/-! ## Counting -/

/-- One step of the counter counts by one. -/
theorem nextCombination_digits {sizes : List ℕ} (hpos : ∀ size ∈ sizes, 0 < size) {k : ℕ}
    (hk : k < sizes.prod) :
    nextCombination (digits sizes k) sizes =
      (digits sizes (k + 1), decide (k + 1 < sizes.prod)) := by
  induction sizes generalizing k with
  | nil =>
    rw [List.prod_nil] at hk
    obtain rfl : k = 0 := by omega
    rfl
  | cons size sizes ih =>
    have hsize := hpos size (.head _)
    have hdiv : k / size < sizes.prod := Nat.div_lt_of_lt_mul (by simpa using hk)
    have hmod := Nat.mod_lt k hsize
    have hsplit : k % size + size * (k / size) = k := Nat.mod_add_div k size
    have hnext := ih (fun s hs => hpos s (.tail _ hs)) hdiv
    rw [List.prod_cons, digits, digits, nextCombination]
    generalize k % size = low, k / size = high at *
    subst hsplit
    split
    · rename_i hroom
      have hlt : low + size * high + 1 < size * sizes.prod := by
        have := Nat.mul_le_mul_left size (Nat.succ_le_of_lt hdiv)
        rw [Nat.mul_succ] at this
        omega
      rw [Nat.add_right_comm, Nat.add_mul_mod_self_left, Nat.mod_eq_of_lt hroom,
        Nat.add_mul_div_left _ _ hsize, Nat.div_eq_of_lt hroom, Nat.zero_add]
      rw [Nat.add_right_comm] at hlt
      simp [hlt]
    · -- the place is full: it wraps and the rest of the counter counts
      have hcarry : low + size * high + 1 = size * (high + 1) := by
        rw [Nat.mul_succ]
        omega
      have hdecide : decide (size * (high + 1) < size * sizes.prod) =
          decide (high + 1 < sizes.prod) := by
        rw [decide_eq_decide]
        exact Nat.mul_lt_mul_left hsize
      rw [hcarry, Nat.mul_mod_right, Nat.mul_div_cancel_left _ hsize, hdecide, hnext]

theorem sweep_step {ε σ : Type} (sizes : List ℕ) (body : List ℕ → σ → Except ε σ) (counter : List ℕ)
    (state : σ) : sweep sizes body counter state = body counter state >>= fun state =>
      if (nextCombination counter sizes).2 then sweep sizes body (nextCombination counter sizes).1 state
      else .ok state := by
  rw [sweep]
  cases body counter state with
  | error e => rfl
  | ok state =>
    dsimp only
    split <;> rename_i hnext <;> simp [hnext, bind, Except.bind]

/-- A loop from the `k`-th combination on. -/
theorem sweep_digits {ε σ : Type} {sizes : List ℕ} (hpos : ∀ size ∈ sizes, 0 < size)
    (body : List ℕ → σ → Except ε σ) {k : ℕ} (hk : k < sizes.prod) (state : σ) :
    sweep sizes body (digits sizes k) state =
      ((List.range' k (sizes.prod - k)).map (digits sizes)).foldlM
        (fun state counter => body counter state) state := by
  obtain ⟨room, hroom⟩ : ∃ room, sizes.prod - k = room + 1 := ⟨sizes.prod - k - 1, by omega⟩
  induction room generalizing k state with
  | zero =>
    have hlast : ¬k + 1 < sizes.prod := by omega
    rw [sweep_step, nextCombination_digits hpos hk, hroom]
    simp only [hlast, decide_false, Bool.false_eq_true, if_false]
    rfl
  | succ room ih =>
    have hmore : k + 1 < sizes.prod := by omega
    rw [sweep_step, nextCombination_digits hpos hk, hroom, List.range'_succ, List.map_cons,
      List.foldlM_cons]
    refine congrArg _ (funext fun state' => ?_)
    have hrest := ih hmore state' (by omega)
    rw [show sizes.prod - (k + 1) = room + 1 by omega] at hrest
    simpa only [hmore, decide_true, if_true] using hrest

/-- A loop is a fold over all combinations. -/
theorem sweep_eq {ε σ : Type} {sizes : List ℕ} (hpos : ∀ size ∈ sizes, 0 < size)
    (body : List ℕ → σ → Except ε σ) (state : σ) :
    sweep sizes body (List.replicate sizes.length 0) state =
      (Odometer.grid sizes).foldlM (fun state counter => body counter state) state := by
  have hprod : 0 < sizes.prod := List.prod_pos hpos
  rw [← digits_zero, sweep_digits hpos body hprod, Nat.sub_zero, ← List.range_eq_range']
  rfl

/-! ## Poses -/

section
variable {F : Type} [Scalar F]

omit [Scalar F] in
/-- Two poses that differ at most where the loop writes are the same after it. -/
theorem foldl_set_agree {slots : List ((ℕ × List F) × ℕ)} {value : (ℕ × List F) × ℕ → F}
    {D : ℕ → Prop} {q q' : List F} (hlength : q.length = q'.length)
    (hagree : ∀ i, D i → i ∉ slots.map (·.1.1) → q[i]? = q'[i]?) :
    ∀ i, D i → (slots.foldl (fun q slot => q.set slot.1.1 (value slot)) q)[i]? =
      (slots.foldl (fun q slot => q.set slot.1.1 (value slot)) q')[i]? := by
  induction slots generalizing q q' with
  | nil => exact fun i hi => hagree i hi List.not_mem_nil
  | cons slot rest ih =>
    refine ih (by simpa using hlength) fun i hi hrest => ?_
    rw [List.getElem?_set, List.getElem?_set, hlength]
    split
    · rfl
    · rename_i hne
      refine hagree i hi fun hmem => ?_
      rcases List.mem_cons.mp hmem with heq | hmem
      · exact hne heq.symm
      · exact hrest hmem

theorem length_place (axes : GridAxes F) (counter : List ℕ) (q : List F) :
    (axes.place counter q).length = q.length := by
  unfold GridAxes.place
  generalize (axes.joints.zip axes.points).zip counter = slots
  induction slots generalizing q with
  | nil => rfl
  | cons slot rest ih =>
    rw [List.foldl_cons, ih, List.length_set]

variable {axes : GridAxes F} {counter : List ℕ}

omit [Scalar F] in
/-- A loop writes its joints, one after the other. -/
theorem slots_joints (haxes : axes.points.length = axes.joints.length)
    (hcounter : counter.length = axes.joints.length) :
    ((axes.joints.zip axes.points).zip counter).map (·.1.1) = axes.joints := by
  have hfst : ((axes.joints.zip axes.points).zip counter).map Prod.fst =
      axes.joints.zip axes.points := List.map_fst_zip (by simp [haxes, hcounter])
  have hjoints : (axes.joints.zip axes.points).map Prod.fst = axes.joints :=
    List.map_fst_zip haxes.ge
  calc ((axes.joints.zip axes.points).zip counter).map (·.1.1)
      = (((axes.joints.zip axes.points).zip counter).map Prod.fst).map Prod.fst := by
        rw [List.map_map]
        rfl
    _ = axes.joints := by rw [hfst, hjoints]

theorem place_agree (haxes : axes.points.length = axes.joints.length)
    (hcounter : counter.length = axes.joints.length) {D : ℕ → Prop} {q q' : List F}
    (hlength : q.length = q'.length) (hagree : ∀ i, D i → i ∉ axes.joints → q[i]? = q'[i]?) :
    ∀ i, D i → (axes.place counter q)[i]? = (axes.place counter q')[i]? :=
  foldl_set_agree hlength fun i hi hmem => hagree i hi (slots_joints haxes hcounter ▸ hmem)

omit [Scalar F] in
theorem foldl_set_other {slots : List ((ℕ × List F) × ℕ)} {value : (ℕ × List F) × ℕ → F}
    {q : List F} {i : ℕ} (hslots : ∀ slot ∈ slots, slot.1.1 ≠ i) :
    (slots.foldl (fun q slot => q.set slot.1.1 (value slot)) q)[i]? = q[i]? := by
  induction slots generalizing q with
  | nil => rfl
  | cons slot rest ih =>
    rw [List.foldl_cons, ih fun slot' h => hslots slot' (.tail _ h),
      List.getElem?_set_ne (hslots slot (.head _))]

/-- The loop leaves the other joints alone. -/
theorem place_other (axes : GridAxes F) (counter : List ℕ) (q : List F) {i : ℕ}
    (hi : i ∉ axes.joints) : (axes.place counter q)[i]? = q[i]? := by
  refine foldl_set_other fun slot hslot heq => hi ?_
  exact heq ▸ (List.of_mem_zip (List.of_mem_zip hslot).1).1

/-- The axes of a grid: every joint has points, and the two loops write every joint. -/
structure Covers (n : ℕ) (shed holding : GridAxes F) : Prop where
  shed_points : shed.points.length = shed.joints.length
  holding_points : holding.points.length = holding.joints.length
  shed_sizes : ∀ size ∈ shed.sizes, 0 < size
  holding_sizes : ∀ size ∈ holding.sizes, 0 < size
  all : ∀ i < n, i ∉ shed.joints → i ∈ holding.joints

section
variable {n : ℕ} {shed holding : GridAxes F}

omit [Scalar F] in
theorem Covers.shed_length (hcovers : Covers n shed holding) :
    shed.joints.length = shed.sizes.length := by
  rw [GridAxes.sizes, List.length_map, hcovers.shed_points]

omit [Scalar F] in
theorem Covers.holding_length (hcovers : Covers n shed holding) :
    holding.joints.length = holding.sizes.length := by
  rw [GridAxes.sizes, List.length_map, hcovers.holding_points]

/-- The grid of a joint has its endpoints at least. -/
theorem grid_ne_nil (lower upper : F) (steps : ℕ) (rest : Bool) : grid lower upper steps rest ≠ [] := by
  intro h
  have hlength := congrArg List.length h
  unfold grid at hlength
  split at hlength <;> simp at hlength

variable {joints : List ℕ} {ranges : List (F × F)}

theorem sizes_gridAxes {steps : ℕ} {rest : Bool} :
    ∀ size ∈ (gridAxes ranges steps rest joints).sizes, 0 < size := by
  intro size hsize
  obtain ⟨points, hpoints, rfl⟩ := List.mem_map.mp hsize
  obtain ⟨index, -, rfl⟩ := List.mem_map.mp hpoints
  exact List.length_pos_of_ne_nil (grid_ne_nil _ _ _ _)

/-- What the checks establish. -/
theorem lossGrid_ok {names : List String} (h : lossGrid names joints ranges = .ok (shed, holding)) :
    ranges.length = names.length ∧ (∀ i ∈ joints, i < names.length) ∧
      shed = gridAxes ranges shedGridSteps false joints ∧
      holding = gridAxes ranges holdingGridSteps true
        ((List.range names.length).filter fun i => !joints.contains i) := by
  unfold lossGrid at h
  dsimp only at h
  split at h
  · cases h
  · rename_i hranges
    split at h
    · cases h
    · rename_i hshed
      split at h
      · cases h
      · split at h
        · cases h
        · obtain ⟨rfl, rfl⟩ := Prod.mk.inj (Except.ok.inj h)
          refine ⟨not_not.mp hranges, fun i hi => ?_, rfl, rfl⟩
          simpa using List.find?_eq_none.mp hshed i hi

theorem mem_holding {n i : ℕ} :
    i ∈ (List.range n).filter (fun i => !joints.contains i) ↔ i < n ∧ i ∉ joints := by
  simp

/-- The checks give axes that cover the joints. -/
theorem Covers.ofChecks {names : List String}
    (h : lossGrid names joints ranges = .ok (shed, holding)) :
    Covers names.length shed holding := by
  obtain ⟨-, -, rfl, rfl⟩ := lossGrid_ok h
  refine ⟨?_, ?_, sizes_gridAxes, sizes_gridAxes, fun i hi hshed => mem_holding.mpr ⟨hi, hshed⟩⟩
  · simp [gridAxes]
  · simp [gridAxes]

end

variable {slot : (ℕ × List F) × ℕ}

/-- If the joints are distinct, every one gets its own point. -/
theorem place_at (hnodup : axes.joints.Nodup) (haxes : axes.points.length = axes.joints.length)
    (hcounter : counter.length = axes.joints.length) {q : List F}
    (hslot : slot ∈ (axes.joints.zip axes.points).zip counter) (hlength : slot.1.1 < q.length) :
    (axes.place counter q)[slot.1.1]? = some (slot.1.2.getD slot.2 (lit 0)) := by
  have hslots : (((axes.joints.zip axes.points).zip counter).map (·.1.1)).Nodup := by
    rwa [slots_joints haxes hcounter]
  unfold GridAxes.place
  generalize (axes.joints.zip axes.points).zip counter = slots at hslot hslots
  induction slots generalizing q with
  | nil => cases hslot
  | cons first rest ih =>
    rw [List.map_cons, List.nodup_cons] at hslots
    rw [List.foldl_cons]
    rcases List.mem_cons.mp hslot with rfl | hrest
    · -- the writes that follow are to other joints
      have hkept : ∀ {q : List F}, (rest.foldl (fun q slot' => q.set slot'.1.1
          (slot'.1.2.getD slot'.2 (lit 0))) q)[slot.1.1]? = q[slot.1.1]? := by
        intro q
        exact foldl_set_other fun slot' hslot' heq => hslots.1 (heq ▸ List.mem_map_of_mem hslot')
      rw [hkept, List.getElem?_set_self hlength]
    · exact ih (by simpa using hlength) hrest hslots.2

/-- A digit of a combination names one of the points. -/
theorem getElem?_of_below (hcounter : Odometer.Below counter axes.sizes)
    (hslot : slot ∈ (axes.joints.zip axes.points).zip counter) :
    slot.1.2[slot.2]? = some (slot.1.2.getD slot.2 (lit 0)) := by
  obtain ⟨k, hk, rfl⟩ := List.mem_iff_getElem.mp hslot
  have hk' : k < axes.points.length ∧ k < counter.length := by
    simp only [List.length_zip] at hk
    omega
  have hdigit : counter[k] < (axes.sizes.get ⟨k, by simpa [GridAxes.sizes] using hk'.1⟩) :=
    List.Forall₂.get hcounter hk'.2 _
  simp only [GridAxes.sizes, List.get_eq_getElem, List.getElem_map] at hdigit
  simp only [List.getElem_zip]
  rw [List.getElem?_eq_getElem hdigit, List.getD_eq_getElem _ _ hdigit]

/-- The pose of one combination of the holding and one of the shed joints. -/
def lossPose (n : ℕ) (shed holding : GridAxes F) (h s : List ℕ) : List F :=
  shed.place s (holding.place h (List.replicate n (lit 0)))

theorem length_lossPose (n : ℕ) (shed holding : GridAxes F) (h s : List ℕ) :
    (lossPose n shed holding h s).length = n := by
  rw [lossPose, length_place, length_place, List.length_replicate]

/-- Every joint is at the point of its own digit. -/
theorem lossPose_at {n : ℕ} {shed holding : GridAxes F} (hcovers : Covers n shed holding)
    (hshed : shed.joints.Nodup) (hholding : holding.joints.Nodup)
    (hdisjoint : ∀ i ∈ holding.joints, i < n ∧ i ∉ shed.joints) (hrange : ∀ i ∈ shed.joints, i < n)
    {h s : List ℕ} (hh : Odometer.Below h holding.sizes) (hs : Odometer.Below s shed.sizes)
    (hslot : slot ∈ (shed.joints.zip shed.points).zip s ++ (holding.joints.zip holding.points).zip h) :
    (lossPose n shed holding h s)[slot.1.1]? = slot.1.2[slot.2]? := by
  have hs' : s.length = shed.joints.length := by
    rw [hcovers.shed_length]
    exact hs.length_eq
  have hh' : h.length = holding.joints.length := by
    rw [hcovers.holding_length]
    exact hh.length_eq
  rcases List.mem_append.mp hslot with hslot | hslot
  · have hmem := (List.of_mem_zip (List.of_mem_zip hslot).1).1
    have hlength : slot.1.1 < (holding.place h (List.replicate n (lit 0 : F))).length := by
      rw [length_place, List.length_replicate]
      exact hrange _ hmem
    rw [lossPose, place_at hshed hcovers.shed_points hs' hslot hlength]
    exact (getElem?_of_below hs hslot).symm
  · have hmem := (List.of_mem_zip (List.of_mem_zip hslot).1).1
    obtain ⟨hn, hother⟩ := hdisjoint _ hmem
    rw [lossPose, place_other _ _ _ hother, place_at hholding hcovers.holding_points hh' hslot
      (by simpa using hn)]
    exact (getElem?_of_below hh hslot).symm

/-- The torque of joint `i` at a pose that the model evaluates. -/
def torqueAt (model : DynamicsModel F) (q : List F) (i : ℕ) : F :=
  match model.gravityTorques q with
  | .ok tau => tau.getD i (lit 0)
  | .error _ => lit 0

end

/-! ## Bounds -/

section
variable {K : Type} [Field K] [LinearOrder K]

attribute [local instance] Scalar.ofField

/-- What the inner loop knows of a holding joint, over the torques it has seen. -/
structure SlotInv (value : List ℕ → ℕ → K) (done : List (List ℕ)) (bound : HoldingTorqueBound K)
    (slot : HoldingSlot K) : Prop where
  index : slot.1.index = bound.index
  joint : slot.1.joint = bound.joint
  delta : slot.1.maxDeltaNm = bound.maxDeltaNm
  abs : IsGreatest (insert bound.maxAbsNm ((fun s => |value s bound.index|) '' {s | s ∈ done}))
    slot.1.maxAbsNm
  spread : match slot.2 with
    | none => done = []
    | some (low, high) => IsLeast ((fun s => value s bound.index) '' {s | s ∈ done}) low ∧
      IsGreatest ((fun s => value s bound.index) '' {s | s ∈ done}) high

theorem SlotInv.start (value : List ℕ → ℕ → K) (bound : HoldingTorqueBound K) :
    SlotInv value [] bound (bound, none) := by
  refine ⟨rfl, rfl, rfl, ?_, rfl⟩
  simp

theorem setOf_mem_append {α : Type} (done : List α) (x : α) :
    {y | y ∈ done ++ [x]} = insert x {y | y ∈ done} := by
  ext y
  simp [or_comm]

/-- A holding joint after one more torque. -/
def HoldingSlot.observed (tau : List K) (slot : HoldingSlot K) : HoldingSlot K :=
  let value := tau.getD slot.1.index (lit 0)
  ({ slot.1 with maxAbsNm := max slot.1.maxAbsNm |value| }, match slot.2 with
    | none => some (value, value)
    | some (low, high) => some (min low value, max high value))

/-- In exact arithmetic every torque is taken. -/
theorem observe_eq (tau : List K) :
    HoldingSlot.observe tau = fun slot => pure (slot.observed tau) := rfl

/-- One more torque. -/
theorem SlotInv.observe {value : List ℕ → ℕ → K} {done : List (List ℕ)}
    {bound : HoldingTorqueBound K} {slot : HoldingSlot K} (hslot : SlotInv value done bound slot)
    {s : List ℕ} {tau : List K} (hvalue : ∀ i, value s i = tau.getD i (lit 0)) :
    SlotInv value (done ++ [s]) bound (slot.observed tau) := by
  obtain ⟨b, spread⟩ := slot
  obtain ⟨hindex, hjoint, hdelta, habs, hspread⟩ := hslot
  dsimp only at hindex hjoint hdelta habs
  simp only [HoldingSlot.observed, hindex, ← hvalue]
  refine ⟨rfl, hjoint, hdelta, ?_, ?_⟩
  · rw [setOf_mem_append, Set.image_insert_eq, Set.insert_comm, max_comm]
    exact habs.insert _
  · rw [setOf_mem_append, Set.image_insert_eq]
    cases spread with
    | none =>
      obtain rfl : done = [] := hspread
      simp
    | some spread =>
      obtain ⟨low, high⟩ := spread
      obtain ⟨hlow, hhigh⟩ : IsLeast _ low ∧ IsGreatest _ high := hspread
      show IsLeast _ (min low _) ∧ IsGreatest _ (max high _)
      rw [min_comm, max_comm]
      exact ⟨hlow.insert _, hhigh.insert _⟩

omit [Field K] [LinearOrder K] in
/-- Two relations between lists, one after the other. -/
theorem forall₂_step {α β γ : Type} {R : α → β → Prop} {S : β → γ → Prop} {T : α → γ → Prop}
    {xs : List α} {ys : List β} {zs : List γ} (hR : List.Forall₂ R xs ys)
    (hS : List.Forall₂ S ys zs) (h : ∀ x y z, R x y → S y z → T x z) : List.Forall₂ T xs zs := by
  induction hR generalizing zs with
  | nil =>
    cases hS
    exact .nil
  | cons hxy _ ih =>
    cases hS with
    | cons hyz hrest => exact .cons (h _ _ _ hxy hyz) (ih hrest)

omit [Field K] [LinearOrder K] in
theorem exists_of_forall₂ {α β : Type} {R : α → β → Prop} {xs : List α} {ys : List β}
    (h : List.Forall₂ R xs ys) {y : β} (hy : y ∈ ys) : ∃ x, R x y := by
  induction h with
  | nil => cases hy
  | cons hxy _ ih =>
    rcases List.mem_cons.mp hy with rfl | hrest
    · exact ⟨_, hxy⟩
    · exact ih hrest

section
variable {model : DynamicsModel K} {shed holding : GridAxes K} {n : ℕ} {h : List ℕ}
  {bounds : List (HoldingTorqueBound K)}

/-- What the inner loop knows at a pose `h` of the holding joints. -/
structure ShedInv (model : DynamicsModel K) (n : ℕ) (shed holding : GridAxes K) (h : List ℕ)
    (bounds : List (HoldingTorqueBound K)) (done : List (List ℕ))
    (state : List K × List (HoldingSlot K)) : Prop where
  length : state.1.length = n
  /-- The holding joints are where the outer loop has put them. -/
  pose : ∀ i, i ∉ shed.joints →
    state.1[i]? = (holding.place h (List.replicate n (lit 0)))[i]?
  slots : List.Forall₂ (SlotInv (fun s => torqueAt model (lossPose n shed holding h s)) done)
    bounds state.2

/-- The state in which the inner loop starts. -/
theorem ShedInv.start (hcovers : Covers n shed holding) {q : List K} (hq : q.length = n)
    {h : List ℕ} (hh : h.length = holding.joints.length) (bounds : List (HoldingTorqueBound K)) :
    ShedInv model n shed holding h bounds []
      (holding.place h q, bounds.map fun bound => (bound, none)) := by
  refine ⟨?_, ?_, ?_⟩
  · rw [length_place, hq]
  · refine place_agree (D := (· ∉ shed.joints)) hcovers.holding_points hh (by simp [hq]) ?_
    -- a joint in neither loop is out of range
    intro i hshed hholding
    have hi : n ≤ i := by
      by_contra hlt
      exact hholding (hcovers.all i (by omega) hshed)
    rw [List.getElem?_eq_none (by omega), List.getElem?_eq_none (by simpa using hi)]
  · rw [List.forall₂_map_right_iff, List.forall₂_same]
    exact fun bound _ => SlotInv.start _ bound

variable {done : List (List ℕ)}

/-- The pose that a turn of the inner loop evaluates. -/
theorem ShedInv.place (hcovers : Covers n shed holding)
    {state : List K × List (HoldingSlot K)} (hinv : ShedInv model n shed holding h bounds done state)
    {s : List ℕ} (hs : s.length = shed.joints.length) :
    shed.place s state.1 = lossPose n shed holding h s := by
  have hlength : state.1.length =
      (holding.place h (List.replicate n (lit 0 : K))).length := by
    rw [hinv.length, length_place, List.length_replicate]
  refine List.ext_getElem? fun i => ?_
  exact place_agree (D := fun _ => True) hcovers.shed_points hs hlength
    (fun i _ hi => hinv.pose i hi) i trivial

/-- The model evaluates the pose of a combination. -/
def Evaluates (model : DynamicsModel K) (n : ℕ) (shed holding : GridAxes K) (h s : List ℕ) : Prop :=
  ∃ tau, model.gravityTorques (lossPose n shed holding h s) = .ok tau

/-- One turn of the inner loop. -/
theorem ShedInv.step (hcovers : Covers n shed holding) {state : List K × List (HoldingSlot K)}
    (hinv : ShedInv model n shed holding h bounds done state) {s : List ℕ}
    (hs : s.length = shed.joints.length) : (shedStep model shed s state).Meets
      (Evaluates model n shed holding h s) (ShedInv model n shed holding h bounds (done ++ [s])) := by
  have hplace := hinv.place hcovers hs
  unfold shedStep
  dsimp only
  rw [hplace]
  cases htau : model.gravityTorques (lossPose n shed holding h s) with
  | error e => exact fun ⟨tau, hok⟩ => nomatch htau.symm.trans hok
  | ok tau =>
    have hvalue : ∀ i, torqueAt model (lossPose n shed holding h s) i =
        tau.getD i (lit 0) := by
      intro i
      rw [torqueAt, htau]
    show Except.Meets _ _ (state.2.mapM (HoldingSlot.observe tau) >>= fun slots =>
      pure (lossPose n shed holding h s, slots))
    rw [observe_eq, List.mapM_pure]
    refine ⟨⟨tau, htau⟩, ?_, fun i hi => ?_, ?_⟩
    · exact length_lossPose ..
    · rw [← hplace, place_other _ _ _ hi, hinv.pose i hi]
    · rw [List.forall₂_map_right_iff]
      exact hinv.slots.imp fun _ _ hslot => hslot.observe hvalue

end

variable [IsStrictOrderedRing K]

/-- The least and the greatest value differ the most. -/
theorem isGreatest_spread {S : Set K} {low high : K} (hlow : IsLeast S low)
    (hhigh : IsGreatest S high) :
    IsGreatest {t | ∃ x ∈ S, ∃ y ∈ S, t = |x - y|} (high - low) := by
  have hle : low ≤ high := hlow.2 hhigh.1
  constructor
  · exact ⟨high, hhigh.1, low, hlow.1, (abs_of_nonneg (sub_nonneg.mpr hle)).symm⟩
  · rintro t ⟨x, hx, y, hy, rfl⟩
    rw [abs_sub_le_iff]
    exact ⟨sub_le_sub (hhigh.2 hx) (hlow.2 hy), sub_le_sub (hhigh.2 hy) (hlow.2 hx)⟩

omit [IsStrictOrderedRing K] in
/-- Values that are not negative attain a maximum that was started at zero. -/
theorem isGreatest_of_insert_zero {S : Set K} {m : K} (h : IsGreatest (insert 0 S) m)
    (hne : S.Nonempty) (hpos : ∀ x ∈ S, 0 ≤ x) : IsGreatest S m := by
  refine ⟨?_, fun x hx => h.2 (.inr hx)⟩
  rcases h.1 with hzero | hmem
  · obtain ⟨x, hx⟩ := hne
    have hx0 : x = m := le_antisymm (h.2 (.inr hx)) (hzero ▸ hpos x hx)
    exact hx0 ▸ hx
  · exact hmem

omit [Field K] [IsStrictOrderedRing K] in
/-- A maximum that was started at the maximum of another set. -/
theorem isGreatest_union_of_insert {S T : Set K} {m m' : K} (hS : IsGreatest S m)
    (hT : IsGreatest (insert m T) m') : IsGreatest (S ∪ T) m' := by
  have hle : m ≤ m' := hT.2 (.inl rfl)
  constructor
  · rcases hT.1 with rfl | hmem
    · exact .inl hS.1
    · exact .inr hmem
  · rintro x (hx | hx)
    · exact (hS.2 hx).trans hle
    · exact hT.2 (.inr hx)

/-- The absolute torques of a holding joint over a list of poses of the holding joints. -/
def absTorques (value : List ℕ → List ℕ → K) (hs ss : List (List ℕ)) : Set K :=
  {t | ∃ h ∈ hs, ∃ s ∈ ss, t = |value h s|}

/-- The changes of its torque when only the shed joints move. -/
def torqueChanges (value : List ℕ → List ℕ → K) (hs ss : List (List ℕ)) : Set K :=
  {t | ∃ h ∈ hs, ∃ s ∈ ss, ∃ s' ∈ ss, t = |value h s - value h s'|}

omit [IsStrictOrderedRing K] in
theorem absTorques_append (value : List ℕ → List ℕ → K) (hs ss : List (List ℕ)) (h : List ℕ) :
    absTorques value (hs ++ [h]) ss =
      absTorques value hs ss ∪ (fun s => |value h s|) '' {s | s ∈ ss} := by
  ext t
  simp only [absTorques, List.mem_append, List.mem_singleton, or_and_right, exists_or, Set.mem_union,
    Set.mem_ofPred_eq, exists_eq_left, Set.mem_image, eq_comm (a := t)]

omit [IsStrictOrderedRing K] in
theorem torqueChanges_append (value : List ℕ → List ℕ → K) (hs ss : List (List ℕ)) (h : List ℕ) :
    torqueChanges value (hs ++ [h]) ss = torqueChanges value hs ss ∪
      {t | ∃ x ∈ value h '' {s | s ∈ ss}, ∃ y ∈ value h '' {s | s ∈ ss}, t = |x - y|} := by
  ext t
  simp only [torqueChanges, List.mem_append, List.mem_singleton, or_and_right, exists_or,
    Set.mem_union, Set.mem_ofPred_eq, exists_eq_left, Set.exists_mem_image]

/-- What the outer loop knows of a holding joint. -/
structure BoundInv (value : List ℕ → List ℕ → ℕ → K) (hs ss : List (List ℕ))
    (start bound : HoldingTorqueBound K) : Prop where
  index : bound.index = start.index
  joint : bound.joint = start.joint
  abs : IsGreatest (insert 0 (absTorques (fun h s => value h s bound.index) hs ss)) bound.maxAbsNm
  delta : IsGreatest (insert 0 (torqueChanges (fun h s => value h s bound.index) hs ss))
    bound.maxDeltaNm

variable {value : List ℕ → List ℕ → ℕ → K}

/-- One turn of the outer loop on a holding joint. -/
theorem BoundInv.step {hs ss : List (List ℕ)}
    {start bound : HoldingTorqueBound K} (hbound : BoundInv value hs ss start bound) {h : List ℕ}
    {slot : HoldingSlot K} (hslot : SlotInv (value h) ss bound slot) (hss : ss ≠ []) :
    BoundInv value (hs ++ [h]) ss start slot.close := by
  obtain ⟨b, spread⟩ := slot
  obtain ⟨hindex, hjoint, hdelta, habs, hspread⟩ := hslot
  cases spread with
  | none => exact absurd hspread hss
  | some spread =>
    obtain ⟨low, high⟩ := spread
    obtain ⟨hlow, hhigh⟩ : IsLeast _ low ∧ IsGreatest _ high := hspread
    dsimp only at hindex hjoint hdelta habs
    refine ⟨hindex.trans hbound.index, hjoint.trans hbound.joint, ?_, ?_⟩
    · show IsGreatest (insert 0 (absTorques (fun h s => value h s b.index) _ _)) b.maxAbsNm
      rw [hindex, absTorques_append, ← Set.insert_union]
      have hold := hbound.abs
      exact isGreatest_union_of_insert hold habs
    · show IsGreatest (insert 0 (torqueChanges (fun h s => value h s b.index) _ _))
        (max b.maxDeltaNm (high - low))
      rw [hindex, hdelta, torqueChanges_append, ← Set.insert_union]
      exact hbound.delta.union (isGreatest_spread hlow hhigh)

section
variable {model : DynamicsModel K} {shed holding : GridAxes K} {n : ℕ}
  {starts : List (HoldingTorqueBound K)}

/-- What the outer loop knows after the poses `done` of the holding joints. -/
structure HoldingInv (model : DynamicsModel K) (n : ℕ) (shed holding : GridAxes K)
    (starts : List (HoldingTorqueBound K)) (done : List (List ℕ))
    (state : List K × List (HoldingTorqueBound K)) : Prop where
  length : state.1.length = n
  bounds : List.Forall₂ (BoundInv (fun h s => torqueAt model (lossPose n shed holding h s)) done
    (Odometer.grid shed.sizes)) starts state.2

/-- One turn of the outer loop. -/
theorem HoldingInv.step (hcovers : Covers n shed holding) {done : List (List ℕ)}
    {state : List K × List (HoldingTorqueBound K)}
    (hinv : HoldingInv model n shed holding starts done state) {h : List ℕ}
    (hh : h.length = holding.joints.length) : (holdingStep model shed holding h state).Meets
      (∀ s ∈ Odometer.grid shed.sizes, Evaluates model n shed holding h s)
      (HoldingInv model n shed holding starts (done ++ [h])) := by
  have hstart : ShedInv model n shed holding h _ _ _ := .start hcovers hinv.length hh state.2
  have hinner := Except.Meets.foldlM hstart fun done s inner hs hdone => hdone.step hcovers
    ((length_of_mem_grid hs).trans hcovers.shed_length.symm)
  rw [← sweep_eq hcovers.shed_sizes, ← hcovers.shed_length] at hinner
  refine hinner.map fun inner hdone => ⟨hdone.length, ?_⟩
  rw [List.forall₂_map_right_iff]
  exact forall₂_step hinv.bounds hdone.slots fun _ _ _ hbound hslot =>
    hbound.step hslot (Odometer.grid_ne_nil hcovers.shed_sizes)

end

/-! ## The bounds are exact -/

/-- The loop over `axes` visits every combination of their points exactly once, and ends. -/
def GridAxes.SweptOnce (axes : GridAxes K) : Prop :=
  ∃ visits : List (List ℕ), visits.Nodup ∧ (∀ c, c ∈ visits ↔ Odometer.Below c axes.sizes) ∧
    ∀ (ε σ : Type) (body : List ℕ → σ → Except ε σ) (state : σ),
      sweep axes.sizes body (List.replicate axes.joints.length 0) state =
        visits.foldlM (fun state c => body c state) state

section
variable {model : DynamicsModel K} {shed : List ℕ} {ranges : List (K × K)}
  {shedAxes holdingAxes : GridAxes K}

def initialBounds (names : List String) (holding : List ℕ) : List (HoldingTorqueBound K) :=
  holding.map fun index => ⟨index, names.getD index "", lit 0, lit 0⟩

omit [IsStrictOrderedRing K] in
theorem HoldingInv.start (model : DynamicsModel K) (n : ℕ) (shed holding : GridAxes K) :
    HoldingInv model n shed holding (initialBounds model.jointNames holding.joints) []
      (List.replicate n (lit 0), initialBounds model.jointNames holding.joints) := by
  refine ⟨List.length_replicate, ?_⟩
  rw [List.forall₂_same]
  intro bound hbound
  obtain ⟨index, -, rfl⟩ := List.mem_map.mp hbound
  refine ⟨rfl, rfl, ?_, ?_⟩
  · simp [absTorques, lit_zero]
  · simp [torqueChanges, lit_zero]

/-- What the loops establish after the checks. -/
theorem subtreeLossTorqueBounds_meets
    (hchecks : lossGrid model.jointNames shed ranges = .ok (shedAxes, holdingAxes)) :
    let n := model.jointNames.length
    (subtreeLossTorqueBounds model shed ranges).Meets
      (∀ h ∈ Odometer.grid holdingAxes.sizes, ∀ s ∈ Odometer.grid shedAxes.sizes,
        Evaluates model n shedAxes holdingAxes h s)
      (List.Forall₂ (BoundInv (fun h s => torqueAt model (lossPose n shedAxes holdingAxes h s))
        (Odometer.grid holdingAxes.sizes) (Odometer.grid shedAxes.sizes))
        (initialBounds model.jointNames holdingAxes.joints)) := by
  intro n
  have hcovers := Covers.ofChecks hchecks
  have houter := Except.Meets.foldlM (HoldingInv.start model n shedAxes holdingAxes)
    fun done h state hh hdone => hdone.step hcovers
      ((length_of_mem_grid hh).trans hcovers.holding_length.symm)
  rw [← sweep_eq hcovers.holding_sizes, ← hcovers.holding_length] at houter
  unfold subtreeLossTorqueBounds
  dsimp only
  rw [hchecks]
  exact houter.map fun state hdone => hdone.bounds

omit [Field K] [LinearOrder K] [IsStrictOrderedRing K] in
/-- Each loop is over all combinations. -/
theorem Covers.sweptOnce {n : ℕ} (hcovers : Covers n shedAxes holdingAxes) :
    shedAxes.SweptOnce ∧ holdingAxes.SweptOnce := by
  refine ⟨⟨Odometer.grid shedAxes.sizes, nodup_grid _,
      fun c => mem_grid hcovers.shed_sizes, fun ε σ body state => ?_⟩,
    ⟨Odometer.grid holdingAxes.sizes, nodup_grid _,
      fun c => mem_grid hcovers.holding_sizes, fun ε σ body state => ?_⟩⟩
  · rw [hcovers.shed_length, sweep_eq hcovers.shed_sizes]
  · rw [hcovers.holding_length, sweep_eq hcovers.holding_sizes]

end

/-- The bounds of a joint are exact, from what the outer loop knows of it at the end. -/
theorem BoundInv.exact {holding shed : List ℕ} (hholding : ∀ size ∈ holding, 0 < size)
    (hshed : ∀ size ∈ shed, 0 < size) {start bound : HoldingTorqueBound K}
    (h : BoundInv value (Odometer.grid holding) (Odometer.grid shed) start bound) :
    IsGreatest {t | ∃ h s, Odometer.Below h holding ∧ Odometer.Below s shed ∧
      t = |value h s bound.index|} bound.maxAbsNm ∧
    IsGreatest {t | ∃ h s s', Odometer.Below h holding ∧ Odometer.Below s shed ∧
      Odometer.Below s' shed ∧ t = |value h s bound.index - value h s' bound.index|}
      bound.maxDeltaNm := by
  have habs : absTorques (fun h s => value h s bound.index) (Odometer.grid holding)
      (Odometer.grid shed) = {t | ∃ h s, Odometer.Below h holding ∧ Odometer.Below s shed ∧
        t = |value h s bound.index|} := by
    ext t
    simp [absTorques, mem_grid hholding, mem_grid hshed]
  have hdelta : torqueChanges (fun h s => value h s bound.index) (Odometer.grid holding)
      (Odometer.grid shed) = {t | ∃ h s s', Odometer.Below h holding ∧ Odometer.Below s shed ∧
        Odometer.Below s' shed ∧ t = |value h s bound.index - value h s' bound.index|} := by
    ext t
    simp [torqueChanges, mem_grid hholding, mem_grid hshed]
  have hh := below_digits hholding 0
  have hs := below_digits hshed 0
  constructor
  · rw [← habs]
    refine isGreatest_of_insert_zero h.abs ?_ ?_
    · rw [habs]
      exact ⟨_, _, _, hh, hs, rfl⟩
    · rintro t ⟨_, _, _, _, rfl⟩
      exact abs_nonneg _
  · rw [← hdelta]
    refine isGreatest_of_insert_zero h.delta ?_ ?_
    · rw [hdelta]
      exact ⟨_, _, _, _, hh, hs, hs, rfl⟩
    · rintro t ⟨_, _, _, _, _, _, rfl⟩
      exact abs_nonneg _

omit [IsStrictOrderedRing K] in
/-- The bounds are those of the holding joints, in the order of the model. -/
theorem bounds_names {hs ss : List (List ℕ)} {names : List String} {holding : List ℕ}
    {bounds : List (HoldingTorqueBound K)} (hholding : ∀ i ∈ holding, i < names.length)
    (h : List.Forall₂ (BoundInv value hs ss) (initialBounds names holding) bounds) :
    (bounds.map fun bound => (bound.index, some bound.joint)) =
      holding.map fun i => (i, names[i]?) := by
  rw [initialBounds, List.forall₂_map_left_iff] at h
  induction h with
  | nil => rfl
  | @cons i bound holding bounds hbound _ ih =>
    have hi := hholding i (.head _)
    rw [List.map_cons, List.map_cons, ih fun j hj => hholding j (.tail _ hj), hbound.index,
      hbound.joint, List.getElem?_eq_getElem hi, List.getD_eq_getElem _ _ hi]

/-- The loops visit every combination of the grids of the shed joints and of the holding joints
exactly once, each with the pose of that combination, and the bounds are the greatest absolute
torque and the greatest change of the torque over all of them. -/
theorem loss_grid_exact (model : DynamicsModel K) (shed : List ℕ) (ranges : List (K × K))
    {shedAxes holdingAxes : GridAxes K}
    (hchecks : lossGrid model.jointNames shed ranges = .ok (shedAxes, holdingAxes)) :
    let n := model.jointNames.length
    let torque := fun h s i => torqueAt model (lossPose n shedAxes holdingAxes h s) i
    (shedAxes.SweptOnce ∧ holdingAxes.SweptOnce) ∧
    (shed.Nodup → ∀ h s, Odometer.Below h holdingAxes.sizes → Odometer.Below s shedAxes.sizes →
      ∀ slot ∈ (shedAxes.joints.zip shedAxes.points).zip s ++
          (holdingAxes.joints.zip holdingAxes.points).zip h,
        (lossPose n shedAxes holdingAxes h s)[slot.1.1]? = slot.1.2[slot.2]?) ∧
    ((∃ bounds, subtreeLossTorqueBounds model shed ranges = .ok bounds) ↔
      ∀ h s, Odometer.Below h holdingAxes.sizes → Odometer.Below s shedAxes.sizes →
        ∃ tau, model.gravityTorques (lossPose n shedAxes holdingAxes h s) = .ok tau) ∧
    ∀ bounds, subtreeLossTorqueBounds model shed ranges = .ok bounds →
      (bounds.map fun bound => (bound.index, some bound.joint)) =
        (((List.range n).filter fun i => !shed.contains i).map fun i => (i, model.jointNames[i]?)) ∧
      ∀ bound ∈ bounds,
        IsGreatest {t | ∃ h s, Odometer.Below h holdingAxes.sizes ∧ Odometer.Below s shedAxes.sizes ∧
          t = |torque h s bound.index|} bound.maxAbsNm ∧
        IsGreatest {t | ∃ h s s', Odometer.Below h holdingAxes.sizes ∧
          Odometer.Below s shedAxes.sizes ∧ Odometer.Below s' shedAxes.sizes ∧
          t = |torque h s bound.index - torque h s' bound.index|} bound.maxDeltaNm := by
  intro n torque
  have hcovers := Covers.ofChecks hchecks
  have hmeets := subtreeLossTorqueBounds_meets hchecks
  obtain ⟨-, hrange, hshedAxes, hholdingAxes⟩ := lossGrid_ok hchecks
  have hholding : ∀ i ∈ holdingAxes.joints, i < n ∧ i ∉ shedAxes.joints := by
    intro i hi
    rw [hholdingAxes] at hi
    rw [hshedAxes]
    exact mem_holding.mp hi
  refine ⟨hcovers.sweptOnce, ?_, ?_, fun bounds hbounds => ?_⟩
  · intro hnodup h s hh hs slot hslot
    refine lossPose_at hcovers ?_ ?_ hholding ?_ hh hs hslot
    · rwa [hshedAxes]
    · rw [hholdingAxes]
      exact List.nodup_range.filter _
    · rwa [hshedAxes]
  · rw [hmeets.exists_iff]
    simp only [mem_grid hcovers.holding_sizes, mem_grid hcovers.shed_sizes]
    exact ⟨fun heval h s hh hs => heval h hh s hs, fun heval h hh s hs => heval h s hh hs⟩
  · rw [hbounds] at hmeets
    refine ⟨?_, fun bound hbound => ?_⟩
    · rw [bounds_names (fun i hi => (hholding i hi).1) hmeets.2, hholdingAxes]
      rfl
    · obtain ⟨start, hstart⟩ := exists_of_forall₂ hmeets.2 hbound
      exact hstart.exact hcovers.holding_sizes hcovers.shed_sizes

end

/-- A holding joint that carries both loads and a shed joint below it. -/
def twoJointModel : DynamicsModel ℚ where
  jointNames := ["shoulder", "elbow"]
  gravityTorques q := match q with
    | [shoulder, elbow] => .ok [2 * shoulder + elbow, elbow]
    | _ => .error (.jointCount 2 q.length)
  length_eq {q tau} h := by
    split at h
    · cases h
      rfl
    · cases h

def twoJointRanges : List (ℚ × ℚ) := [(-1, 1), (0, 3)]

theorem lossGrid_twoJoints : lossGrid twoJointModel.jointNames [1] twoJointRanges =
    .ok (gridAxes twoJointRanges shedGridSteps false [1],
      gridAxes twoJointRanges holdingGridSteps true [0]) := rfl

/-- The elbow is lost: there is a bound for the shoulder, over 5 times 7 poses. -/
theorem loss_grid_exact_two_joints :
    ∃ bounds, subtreeLossTorqueBounds twoJointModel [1] twoJointRanges = .ok bounds ∧
      (bounds.map fun bound => (bound.index, some bound.joint)) = [(0, some "shoulder")] := by
  obtain ⟨-, -, hreturns, hexact⟩ :=
    loss_grid_exact twoJointModel [1] twoJointRanges lossGrid_twoJoints
  have hevaluates : ∀ h s, ∃ tau, twoJointModel.gravityTorques (lossPose 2
      (gridAxes twoJointRanges shedGridSteps false [1])
      (gridAxes twoJointRanges holdingGridSteps true [0]) h s) = .ok tau := by
    intro h s
    obtain ⟨shoulder, elbow, hpose⟩ := List.length_eq_two.mp (length_lossPose 2
      (gridAxes twoJointRanges shedGridSteps false [1])
      (gridAxes twoJointRanges holdingGridSteps true [0]) h s)
    rw [hpose]
    exact ⟨_, rfl⟩
  obtain ⟨bounds, hbounds⟩ := hreturns.mpr fun h s _ _ => hevaluates h s
  exact ⟨bounds, hbounds, (hexact bounds hbounds).1⟩

end Marengo
