import Klink.WriteFailures
import Klink.HealthHistory
import Klink.MutualDependency
import Klink.CycleSearch
import Klink.PatchGuards
import Klink.ManualOverride
import Klink.SuspensionBound
import Klink.WatchMapping
import Klink.GateVerdicts
import Klink.CycleAdmission
import Klink.ConditionHistory
import Klink.GateScope
import Klink.CronJobRoundTrip
import Klink.EntryWindows
import Klink.RequeueTimers
import Klink.InstantIdempotence
import Klink.CountingLedger
import Klink.SuspensionGauge
import Klink.CertRotation
import Klink.ReadyThreshold
import Klink.LevelTriggered
import Klink.ControllerLoop
import Klink.IndependentReconciles
import Klink.TendedObjects
import Klink.ReactionTime
import Klink.NotificationDelivery
import Klink.AdmissionServer
import Klink.ValidatedStore
import Klink.GatedScaling
import Klink.NamespaceScope
import Klink.CascadingOutage
