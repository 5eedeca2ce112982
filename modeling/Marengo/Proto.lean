import Mathlib.Data.Nat.Notation

/-!
# Messages between the runtime and the gateway

The audit events of the actuator commands. An event carries the status of a configuration write as a
number, as the wire does.
-/

namespace Marengo

/-- Where the write of a change stands. -/
inductive PersistStatus
  | unspecified | pending | durable | failed | notApplicable
deriving DecidableEq

/-- `status as i32`. -/
def PersistStatus.number : PersistStatus → Int
  | .unspecified => 0
  | .pending => 1
  | .durable => 2
  | .failed => 3
  | .notApplicable => 4

/-- `PersistStatus::try_from`. -/
def PersistStatus.tryFrom (n : Int) : Option PersistStatus :=
  if n = 0 then some .unspecified
  else if n = 1 then some .pending
  else if n = 2 then some .durable
  else if n = 3 then some .failed
  else if n = 4 then some .notApplicable
  else none

@[simp] theorem PersistStatus.tryFrom_number (status : PersistStatus) :
    PersistStatus.tryFrom status.number = some status := by
  cases status <;> rfl

structure ActionEvent where
  timestampMs : ℕ
  sessionId : String
  operatorId : String
  joint : String
  action : String
  revision : ℕ
  accepted : Bool
  rejectReason : String
  persistStatus : Int
  /-- Revision of the profile after the change. -/
  configRevision : String
deriving DecidableEq

end Marengo
