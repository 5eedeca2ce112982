import Marengo.Davout.Send
import Marengo.Lib.Compaction

/-!
# Compaction of a shed batch

The owner keeps a batch as two vectors, the frames and what each of them advances once sent, and finds
the second by the place of the first. `shed_after_stale_pose` drops the entries of shed drives from both
in place. Here that loop is held against the batch as one list, which `shedAfterStalePose` filters.
-/

namespace Marengo

variable {F : Type}

/-- What one admitted command advances. -/
structure StagedMitState (F : Type) where
  /-- Index of the command's configured motor. -/
  motor : ℕ
  tauFfNm : F
  wrongSign : Option WrongSignState
  totalTorque : Option (TotalTorqueClamp F)
  envelopeClamped : Bool

structure MitBatchScratch (F : Type) where
  staged : Array (StagedMitState F)
  wires : Array (AddressedMitCommand F)

namespace MitBatchScratch

/-- The loop and the two `truncate`s of `shed_after_stale_pose`. -/
def compact (driveLoss : DriveLossState F) (self : MitBatchScratch F) : MitBatchScratch F :=
  let kept := Compaction.compact (fun wire => !driveLoss.isShed wire.address) self.wires self.staged
  ⟨kept.2, kept.1⟩

/-- Each frame with what it advances. -/
def entries (self : MitBatchScratch F) : List (AddressedMitCommand F × StagedMitState F) :=
  self.wires.toList.zip self.staged.toList

/-- The address of a staged command. -/
def addressOf (motors : List (MotorEntry F)) (stage : StagedMitState F) : Option MotorAddress :=
  motors[stage.motor]?.map (·.address)

/-- An entry of the vectors stands for a command of the batch. -/
def Stands (motors : List (MotorEntry F)) (stage : StagedMit F)
    (entry : AddressedMitCommand F × StagedMitState F) : Prop :=
  entry.1 = stage.wire ∧ motors[entry.2.motor]?.map (·.joint) = some stage.joint ∧
    entry.2.tauFfNm = stage.tauFfNm ∧ entry.2.wrongSign = stage.wrongSign ∧
    entry.2.totalTorque = stage.totalTorque ∧ entry.2.envelopeClamped = stage.envelopeClamped

theorem entries_compact (driveLoss : DriveLossState F) (self : MitBatchScratch F) :
    (self.compact driveLoss).entries =
      self.entries.filter fun entry => !driveLoss.isShed entry.1.address :=
  (Compaction.zip_compact ..).2

/-- The vectors after the loop stand for what `shedAfterStalePose` keeps of the batch. -/
theorem compact_stands {motors : List (MotorEntry F)} {batch : List (StagedMit F)}
    {self : MitBatchScratch F} (driveLoss : DriveLossState F)
    (h : List.Forall₂ (Stands motors) batch self.entries) :
    List.Forall₂ (Stands motors) (batch.filter fun stage => !driveLoss.isShed stage.wire.address)
      (self.compact driveLoss).entries := by
  rw [entries_compact]
  refine List.rel_filter (fun stage entry hstands => ?_) h
  simp only [hstands.1]

/-- **Compaction keeps the pairing.** Both vectors hold the entries whose address is not shed, in their
order, and each frame stays with what it advances. -/
theorem shed_compaction (driveLoss : DriveLossState F) (scratch : MitBatchScratch F) :
    let kept := scratch.compact driveLoss
    kept.wires.size = kept.staged.size ∧
    kept.entries = scratch.entries.filter (fun entry => !driveLoss.isShed entry.1.address) ∧
    (scratch.wires.size = scratch.staged.size →
      kept.wires.toList = scratch.wires.toList.filter (fun wire => !driveLoss.isShed wire.address) ∧
      ∀ motors, (∀ entry ∈ scratch.entries, addressOf motors entry.2 = some entry.1.address) →
        kept.staged.toList = scratch.staged.toList.filter
          (fun stage => !(addressOf motors stage).any driveLoss.isShed) ∧
        ∀ entry ∈ kept.entries, addressOf motors entry.2 = some entry.1.address) := by
  intro kept
  have hsize : kept.wires.size = kept.staged.size := (Compaction.zip_compact ..).1
  have hentries : kept.entries = _ := entries_compact driveLoss scratch
  have hfst : ∀ {s : MitBatchScratch F}, s.wires.size = s.staged.size →
      s.entries.map (·.1) = s.wires.toList := fun h => List.map_fst_zip (by simp [h])
  have hsnd : ∀ {s : MitBatchScratch F}, s.wires.size = s.staged.size →
      s.entries.map (·.2) = s.staged.toList := fun h => List.map_snd_zip (by simp [h])
  refine ⟨hsize, hentries, fun hlength => ⟨?_, fun motors hpaired => ⟨?_, fun entry hentry => ?_⟩⟩⟩
  · rw [← hfst hsize, ← hfst hlength, hentries, List.filter_map]
    rfl
  · rw [← hsnd hsize, ← hsnd hlength, hentries, List.filter_map]
    refine congrArg _ (List.filter_congr fun entry hentry => ?_)
    rw [Function.comp_apply, hpaired entry hentry, Option.any_some]
  · rw [hentries] at hentry
    exact hpaired entry (List.mem_filter.1 hentry).1

end MitBatchScratch

end Marengo
