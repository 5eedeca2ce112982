import Marengo.Davout.Operations

/-!
# The bench as an outside world

An outside world for the bench: every consultation takes a millisecond, the bus takes every write,
nothing is received, and the functions of the other crates have fixed answers. The concrete runs of
the development are runs of owners of this bench, in this world or in one that differs from it as
the run says.
-/

namespace Marengo

namespace Bench

@[reducible] def world : World ℚ where
  toScalar := inferInstance
  elapsed _ := millis 1
  sendError _ := none
  report _ := .empty
  workerSteps _ := []
  rounds := 2
  echoes := false
  virtualNow _ := 0
  virtualMatches _ := true
  virtualProofs _ := []
  virtualEpoch _ := some 1
  validateControl _ _ := .ok ()
  validateHoming _ _ _ := .ok ()
  policyText _ _ _ := .ok "policy"
  encodePolicy _ := .ok "policy"
  modelFits _ := .ok ()
  expandUrdfJointHard urdf _ _ _ := .ok urdf
  jointLimits _ _ := .ok ⟨-2, 2, 10, none⟩
  durationOfSecs x := some (seconds x.floor.toNat)
  floatOfBytes _ := 0
  showNum _ := ""
  showBounds _ := ""
  showCanId _ := ""
  showQuoted s := s
  showUid _ := ""
  showSend _ := ""
  showError _ := ""
  showReference _ := ""
  showCommit _ := ""
  showCause _ := ""
  showCommitState _ _ _ := ""
  processId := 1

/-- The world of the bench, for exact arithmetic. -/
@[reducible] def exact : ExactWorld ℚ := ⟨world⟩

def installed : InstalledMotors ℚ where
  entries := motors.motors
  joints_nodup := by decide
  addresses_nodup := by decide

/-- The bench, loaded and validated in a world with its functions. -/
def installation (w : World ℚ) (validated : validateSafetyConfig motors control homing = .ok ())
    (derived : (buildLimits ["elbow"] 60 motors control "bench").isOk = true) :
    Installation ℚ where
  robotJoints := ["elbow"]
  maxJointTorqueNm := 60
  urdf := "bench"
  motors := installed
  control := control
  homing := homing
  limits := ((buildLimits ["elbow"] 60 motors control "bench").toOption).getD fun _ => none
  validated := validated
  derived := by
    change buildLimits ["elbow"] 60 motors control "bench" = _
    cases h : buildLimits ["elbow"] 60 motors control "bench" with
    | error e => rw [h] at derived; cases derived
    | ok limits => rfl

theorem world_validates : @validateSafetyConfig ℚ world motors control homing = .ok () := by
  decide

theorem world_derives : (@buildLimits ℚ world ["elbow"] 60 motors control "bench").isOk = true := by
  decide

end Bench

end Marengo
