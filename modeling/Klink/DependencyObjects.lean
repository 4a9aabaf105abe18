import Mathlib.Algebra.Group.Int.Defs
import Mathlib.Data.List.Basic
import Mathlib.Logic.Basic

/-! # The objects klink reads and writes

The WorkloadDependency resource and the four workload kinds, restricted to the fields the
operator looks at. Names, namespaces and reference kinds are free text, as in the API types.
Replica counts have the width of the source. Times and durations count nanoseconds.
-/
namespace Klink

def second : Int := 1000000000

/-- Stored timestamps are written as RFC 3339 text, which drops the fraction of a second. -/
def truncateTime (t : Int) : Int := t - t % second

def maxDuration : Int := 2 ^ 63 - 1
def minDuration : Int := -2 ^ 63

/-- `time.Since`, which saturates at the ends of the duration range. -/
def timeSince (now t : Int) : Int := max minDuration (min maxDuration (now - t))

def wrapDuration (x : Int) : Int := (x + 2 ^ 63) % 2 ^ 64 - 2 ^ 63

theorem truncateTime_le (t : Int) : truncateTime t ≤ t := by
  unfold truncateTime second
  omega

theorem lt_truncateTime_add (t : Int) : t < truncateTime t + second := by
  unfold truncateTime second
  omega

@[simp] theorem truncateTime_idem (t : Int) : truncateTime (truncateTime t) = truncateTime t := by
  unfold truncateTime second
  omega

/-- Saturation never makes a positive waiting time look longer than it was. -/
theorem le_sub_of_le_timeSince {now t : Int} {d : Int} (hd : 0 < d)
    (h : d ≤ timeSince now t) : d ≤ now - t := by
  unfold timeSince minDuration maxDuration at h
  omega

theorem le_timeSince {now t d : Int} (h : t + d ≤ now) (hd : d ≤ maxDuration) :
    d ≤ timeSince now t := by
  unfold timeSince
  omega

structure NamespacedName where
  ns : String
  name : String
  deriving DecidableEq, Repr

inductive DependencyPhase where
  | unset
  | healthy
  | degraded
  | suspended
  | released
  | paused
  | observed
  | unknown
  deriving DecidableEq, Repr

inductive EnforcementMode where
  | strict
  | soft
  | gate
  | observe
  deriving DecidableEq, Repr

structure HealthCondition where
  minReadyPercent : Int32
  window : Int
  recoveryWindow : Int
  deriving DecidableEq, Repr

structure DependsOnEntry where
  kind : String
  name : String
  ns : String
  condition : HealthCondition
  deriving DecidableEq, Repr

structure WorkloadRef where
  kind : String
  name : String
  ns : String
  deriving DecidableEq, Repr

structure OnDegradedSpec where
  maxSuspendDuration : Int
  deriving DecidableEq, Repr

structure SecretKeyRef where
  name : String
  key : String
  deriving DecidableEq, Repr

structure NotifySpec where
  webhook : String
  webhookSecretRef : Option SecretKeyRef
  onPhases : List DependencyPhase
  deriving DecidableEq, Repr

structure WorkloadDependencySpec where
  dependent : WorkloadRef
  dependsOn : List DependsOnEntry
  onDegraded : OnDegradedSpec
  mode : EnforcementMode
  notify : Option NotifySpec
  deriving DecidableEq, Repr

inductive ConditionStatus where
  | isTrue
  | isFalse
  | isUnknown
  deriving DecidableEq, Repr

structure Condition where
  type : String
  status : ConditionStatus
  reason : String
  message : String
  lastTransitionTime : Int
  observedGeneration : Int
  deriving DecidableEq, Repr

structure WorkloadDependencyStatus where
  phase : DependencyPhase
  savedReplicas : Option Int32
  degradedSince : Option Int
  suspendedAt : Option Int
  healthySince : Option Int
  message : String
  conditions : List Condition
  deriving DecidableEq, Repr

def WorkloadDependencyStatus.empty : WorkloadDependencyStatus :=
  ⟨.unset, none, none, none, none, "", []⟩

def WorkloadDependencyStatus.persisted (st : WorkloadDependencyStatus) :
    WorkloadDependencyStatus :=
  { st with
    degradedSince := st.degradedSince.map truncateTime
    suspendedAt := st.suspendedAt.map truncateTime
    healthySince := st.healthySince.map truncateTime
    conditions := st.conditions.map
      (fun c => { c with lastTransitionTime := truncateTime c.lastTransitionTime }) }

/-- The pause annotation is the only annotation the operator looks at. -/
structure WorkloadDependency where
  name : String
  ns : String
  generation : Int
  deletionTimestamp : Option Int
  finalizers : List String
  annotationPaused : Option String
  spec : WorkloadDependencySpec
  status : WorkloadDependencyStatus
  deriving DecidableEq, Repr

def finalizerName : String := "klink.dev/finalizer"

namespace WorkloadDependency

def key (wd : WorkloadDependency) : NamespacedName := ⟨wd.ns, wd.name⟩

def containsFinalizer (wd : WorkloadDependency) : Bool := wd.finalizers.contains finalizerName

def addFinalizer (wd : WorkloadDependency) : WorkloadDependency :=
  if wd.containsFinalizer then wd else { wd with finalizers := wd.finalizers ++ [finalizerName] }

def removeFinalizer (wd : WorkloadDependency) : WorkloadDependency :=
  { wd with finalizers := wd.finalizers.filter (fun f => decide (f ≠ finalizerName)) }

def isPaused (wd : WorkloadDependency) : Bool := decide (wd.annotationPaused = some "true")

def dependentNs (wd : WorkloadDependency) : String :=
  if wd.spec.dependent.ns = "" then wd.ns else wd.spec.dependent.ns

def dependsOnNs (wd : WorkloadDependency) (dep : DependsOnEntry) : String :=
  if dep.ns = "" then wd.ns else dep.ns

end WorkloadDependency

def degradedWindow (wd : WorkloadDependency) : Int :=
  match wd.spec.dependsOn.find? (fun dep => decide (0 < dep.condition.window)) with
  | some dep => dep.condition.window
  | none => 30 * second

def recoveryWindow (wd : WorkloadDependency) : Int :=
  match wd.spec.dependsOn.find? (fun dep => decide (0 < dep.condition.recoveryWindow)) with
  | some dep => dep.condition.recoveryWindow
  | none => 60 * second

theorem degradedWindow_pos (wd : WorkloadDependency) : 0 < degradedWindow wd := by
  unfold degradedWindow
  split
  · next h => simpa using List.find?_some h
  · decide

theorem recoveryWindow_pos (wd : WorkloadDependency) : 0 < recoveryWindow wd := by
  unfold recoveryWindow
  split
  · next h => simpa using List.find?_some h
  · decide

inductive WorkloadKind where
  | deployment
  | statefulSet
  | cronJob
  | rollout
  deriving DecidableEq, Repr

def WorkloadKind.name : WorkloadKind → String
  | .deployment => "Deployment"
  | .statefulSet => "StatefulSet"
  | .cronJob => "CronJob"
  | .rollout => "Rollout"

/-- The `switch kind` of `getWorkload`: any other text is read as a Deployment. -/
def WorkloadKind.ofString (kind : String) : WorkloadKind :=
  if kind = "StatefulSet" then .statefulSet
  else if kind = "CronJob" then .cronJob
  else if kind = "Rollout" then .rollout
  else .deployment

inductive RolloutPhase where
  | healthy
  | degraded
  | progressing
  | paused
  | other (text : String)
  deriving DecidableEq, Repr

structure ReplicaWorkload where
  replicas : Option Int32
  readyReplicas : Int32
  deriving DecidableEq, Repr

structure CronJob where
  suspend : Option Bool
  deriving DecidableEq, Repr

/-- `replicas` is `none` when `spec.replicas` is absent or not an integer. -/
structure Rollout where
  replicas : Option Int64
  phase : RolloutPhase
  deriving DecidableEq, Repr

inductive WorkloadObject where
  | deployment (obj : ReplicaWorkload)
  | statefulSet (obj : ReplicaWorkload)
  | cronJob (obj : CronJob)
  | rollout (obj : Rollout)
  deriving DecidableEq, Repr

namespace WorkloadObject

def kind : WorkloadObject → WorkloadKind
  | .deployment _ => .deployment
  | .statefulSet _ => .statefulSet
  | .cronJob _ => .cronJob
  | .rollout _ => .rollout

def getReplicas : WorkloadObject → Int32
  | .deployment obj => obj.replicas.getD 1
  | .statefulSet obj => obj.replicas.getD 1
  | .cronJob _ => -1
  | .rollout obj => (obj.replicas.map Int64.toInt32).getD 1

def setReplicas (n : Int32) : WorkloadObject → WorkloadObject
  | .deployment obj => .deployment { obj with replicas := some n }
  | .statefulSet obj => .statefulSet { obj with replicas := some n }
  | .cronJob obj => .cronJob obj
  | .rollout obj => .rollout { obj with replicas := some n.toInt64 }

def isSuspended : WorkloadObject → Bool
  | .cronJob obj => obj.suspend.getD false
  | _ => false

def setSuspend (v : Bool) : WorkloadObject → WorkloadObject
  | .cronJob obj => .cronJob { obj with suspend := some v }
  | w => w

def isProgressing : WorkloadObject → Bool
  | .rollout obj => decide (obj.phase = .progressing)
  | _ => false

def isCronJob : WorkloadObject → Bool
  | .cronJob _ => true
  | _ => false

theorem getReplicas_setReplicas {w : WorkloadObject} (h : w.isCronJob = false) (n : Int32) :
    (w.setReplicas n).getReplicas = n := by
  cases w with
  | deployment => rfl
  | statefulSet => rfl
  | cronJob => cases h
  | rollout => simp [setReplicas, getReplicas]

end WorkloadObject

structure WorkloadAccessor where
  key : NamespacedName
  obj : WorkloadObject
  deriving DecidableEq, Repr

end Klink
