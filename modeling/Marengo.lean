import Marengo.Berthier.EpisodeProtocol
import Marengo.Berthier.Feedforward
import Marengo.Berthier.GainRamp
import Marengo.Berthier.Lead
import Marengo.Berthier.StallFuse
import Marengo.Berthier.Wave
import Marengo.Chappe.Handover
import Marengo.Chappe.Outbox
import Marengo.Davout.Compaction
import Marengo.Davout.MotorFrame
import Marengo.Davout.ReportingTurns
import Marengo.Dynamics.Inertia
import Marengo.Dynamics.LossGrid
import Marengo.Dynamics.Lumped
import Marengo.Gateway.LostUpdates
import Marengo.Gateway.PersistGate
import Marengo.Gateway.RateLimit
import Marengo.Journal.Canonical
import Marengo.Journal.Completions
import Marengo.Limits.Construction
import Marengo.Limits.DangerZone
import Marengo.Limits.WrongSign
import Marengo.Pi.EnableGate
import Marengo.Pi.ReferenceQueue
import Marengo.Pi.Sweep
import Marengo.Safety.Begin
import Marengo.Safety.Coverage
import Marengo.Safety.FaultLog
import Marengo.Store.Budget
import Marengo.Store.Fingerprint
import Marengo.Store.Migrations
import Marengo.Txn.Rollback
