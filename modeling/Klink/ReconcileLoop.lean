import Klink.DependencyHealth
import Klink.StatusUpdate

/-! # Reconcile and its handlers

One clock reading serves a whole Reconcile. The in-memory object a handler edits is passed
along explicitly: what is not written back is lost when the function returns.
-/
namespace Klink

structure Action where
  wd : WorkloadDependency
  effects : List Effect
  err : Option ApiError

def Action.skip (wd : WorkloadDependency) : Action := ⟨wd, [], none⟩

def Action.andThen (a : Action) (k : WorkloadDependency → Outcome) : Outcome :=
  match a.err with
  | some e => ⟨a.effects, .error e⟩
  | none => ⟨a.effects ++ (k a.wd).effects, (k a.wd).result⟩

def Outcome.prepend (es : List Effect) (o : Outcome) : Outcome := ⟨es ++ o.effects, o.result⟩

def patchWorkload (api : Api) (wd : WorkloadDependency) (w : WorkloadAccessor)
    (after : WorkloadObject) (done : List Effect) : Action :=
  match api.patch with
  | .ok => ⟨wd, .patch w.key w.obj after .ok :: done, none⟩
  | r => ⟨wd, [.patch w.key w.obj after r], some r.toError⟩

def WorkloadDependency.withSaved (wd : WorkloadDependency) (n : Option Int32) :
    WorkloadDependency :=
  { wd with status := { wd.status with savedReplicas := n } }

/-- The replica branches of `suspendWorkload`, which differ only in the texts they report. -/
def scaleToZero (api : Api) (wd : WorkloadDependency) (w : WorkloadAccessor) (msg : String)
    (eventKind metricKind : String) : Action :=
  if w.obj.getReplicas = 0 then .skip wd
  else
    patchWorkload api (wd.withSaved (some w.obj.getReplicas)) w (w.obj.setReplicas 0)
      [.event (.scaledToZero eventKind w.key.name w.obj.getReplicas msg),
        .recordScaleToZero wd.ns metricKind w.key.name]

def suspendWorkload (api : Api) (wd : WorkloadDependency) (w : WorkloadAccessor)
    (msg : String) : Action :=
  match w.obj with
  | .cronJob _ =>
    if w.obj.isSuspended then .skip wd
    else
      patchWorkload api wd w (w.obj.setSuspend true)
        [.event (.cronJobSuspended w.key.name msg),
          .recordScaleToZero wd.ns "CronJob" w.key.name]
  | .deployment _ => scaleToZero api wd w msg wd.spec.dependent.kind "Deployment"
  | .statefulSet _ => scaleToZero api wd w msg wd.spec.dependent.kind "StatefulSet"
  | .rollout _ => scaleToZero api wd w msg "Rollout" "Rollout"

def restoreReplicas (api : Api) (wd : WorkloadDependency) (w : WorkloadAccessor)
    (eventKind metricKind : String) : Action :=
  match wd.status.savedReplicas with
  | none => .skip wd
  | some n =>
    if n = 0 then .skip wd
    else
      patchWorkload api wd w (w.obj.setReplicas n)
        [.event (.replicasRestored eventKind w.key.name n),
          .recordReplicasRestored wd.ns metricKind w.key.name]

def restoreWorkload (api : Api) (wd : WorkloadDependency) (w : WorkloadAccessor) : Action :=
  match w.obj with
  | .cronJob _ =>
    if w.obj.isSuspended then
      patchWorkload api wd w (w.obj.setSuspend false)
        [.event (.cronJobResumed w.key.name),
          .recordReplicasRestored wd.ns "CronJob" w.key.name]
    else .skip wd
  | .deployment _ => restoreReplicas api wd w wd.spec.dependent.kind "Deployment"
  | .statefulSet _ => restoreReplicas api wd w wd.spec.dependent.kind "StatefulSet"
  | .rollout _ => restoreReplicas api wd w "Rollout" "Rollout"

def handleDegraded (api : Api) (now : Int) (wd : WorkloadDependency) (w : WorkloadAccessor)
    (msg : String) : Outcome :=
  match wd.status.degradedSince with
  | none =>
    setStatus api now
      { wd with status := { wd.status with degradedSince := some now, healthySince := none } }
      .degraded msg (some (.after (degradedWindow wd)))
  | some since =>
    if timeSince now since < degradedWindow wd then
      .wait (wrapDuration (wrapDuration (degradedWindow wd - timeSince now since) + second))
    else
      (suspendWorkload api wd w msg).andThen
        (fun wd => setStatus api now wd .suspended msg (some (.after (15 * second))))

def needsEnforce (w : WorkloadObject) : Bool :=
  match w with
  | .cronJob _ => !w.isSuspended
  | _ => decide (0 < w.getReplicas)

def handleSuspended (api : Api) (now : Int) (wd : WorkloadDependency) (w : WorkloadAccessor)
    (msg : String) : Outcome :=
  let keep := fun wd => setStatus api now wd .suspended msg (some (.after (15 * second)))
  if wd.spec.mode = .strict then
    -- `Reconcile` has deferred already, so that this is never reached
    if w.obj.isProgressing then keep wd
    else if needsEnforce w.obj then
      (suspendWorkload api wd w msg).andThen
        (fun wd => (keep wd).prepend [.event (.strictEnforced wd.spec.dependent.kind w.key.name)])
    else keep wd
  else keep wd

def WorkloadDependency.clearDegraded (wd : WorkloadDependency) : WorkloadDependency :=
  { wd with status := { wd.status with degradedSince := none } }

def handleHealthy (api : Api) (now : Int) (wd : WorkloadDependency) (w : WorkloadAccessor) :
    Outcome :=
  let wd := wd.clearDegraded
  if wd.status.phase ≠ .suspended then
    setStatus api now { wd with status := { wd.status with healthySince := none } }
      .healthy "all dependencies healthy" none
  else
    match wd.status.healthySince with
    | none =>
      setStatus api now { wd with status := { wd.status with healthySince := some now } }
        .suspended "dependencies recovered, waiting recovery window"
        (some (.after (recoveryWindow wd)))
    | some since =>
      if timeSince now since < recoveryWindow wd then
        .wait (wrapDuration (wrapDuration (recoveryWindow wd - timeSince now since) + second))
      else
        (restoreWorkload api wd w).andThen
          (fun wd => setStatus api now
            { wd with status := { wd.status with savedReplicas := none, healthySince := none } }
            .healthy "all dependencies healthy" none)

def releasedMsg : String :=
  "force-restored after maxSuspendDuration; waiting for dependency to recover"

/-- The branch of `Reconcile` for an unhealthy dependency of a suspended dependent. -/
def enforceMaxSuspend (api : Api) (now : Int) (wd : WorkloadDependency) (w : WorkloadAccessor)
    (msg : String) : Outcome :=
  let maxDur := wd.spec.onDegraded.maxSuspendDuration
  match wd.status.suspendedAt with
  | none => handleSuspended api now wd w msg
  | some since =>
    if 0 < maxDur then
      if maxDur ≤ timeSince now since then
        ((restoreWorkload api wd w).andThen
          (fun wd => setStatus api now
            { wd with status := { wd.status with savedReplicas := none, healthySince := none } }
            .released releasedMsg none)).prepend
          [.event (.maxSuspendDurationExceeded wd.spec.dependent.name maxDur)]
      else .wait (wrapDuration (wrapDuration (maxDur - timeSince now since) + second))
    else handleSuspended api now wd w msg

/-- `Reconcile` from the end of the dependency loop on. -/
def dispatch (api : Api) (now : Int) (wd : WorkloadDependency) (w : WorkloadAccessor)
    (ev : Evaluation) : Outcome :=
  if ev.allOk = false ∧ w.obj.isProgressing then
    setStatus api now wd .degraded
      ("dependency unhealthy, action deferred — rollout " ++ w.key.name ++ " is progressing")
      (some (.after (15 * second)))
  else if wd.spec.mode = .observe then
    if ev.allOk then setStatus api now wd .healthy "all dependencies healthy (observe mode)" none
    else
      setStatus api now wd .observed
        ("observe mode: would scale " ++ wd.spec.dependent.kind ++ "/" ++ wd.spec.dependent.name ++
          " to 0 — " ++ ev.unhealthyMsg) none
  else if wd.spec.mode = .gate then
    if ev.allOk then setStatus api now wd .healthy "all dependencies healthy" none
    else setStatus api now wd .degraded ev.unhealthyMsg none
  else if wd.status.phase = .released then
    if ev.allOk then handleHealthy api now wd w
    else setStatus api now wd .released releasedMsg (some (.after (30 * second)))
  else if ev.allOk = false ∧ wd.status.phase = .suspended then
    enforceMaxSuspend api now wd w ev.unhealthyMsg
  else if ev.allOk then handleHealthy api now wd w
  else handleDegraded api now wd w ev.unhealthyMsg

def removeFinalizerOutcome (api : Api) (wd : WorkloadDependency) : Outcome :=
  match api.update with
  | .ok => ⟨[.update wd.removeFinalizer .ok], .ok .none⟩
  | r => ⟨[.update wd.removeFinalizer r], .error r.toError⟩

def WorkloadDependency.holdsReplicas (wd : WorkloadDependency) : Bool :=
  match wd.status.savedReplicas with
  | some n => decide (wd.status.phase = .suspended ∧ 0 < n)
  | none => false

def handleDeletion (api : Api) (c : Cluster) (wd : WorkloadDependency) : Outcome :=
  if wd.holdsReplicas then
    match getWorkload api.getDependent c wd.spec.dependent.kind wd.spec.dependent.name
        wd.dependentNs with
    | .error .notFound => removeFinalizerOutcome api wd
    -- errors are not returned here, but tried again
    | .error (.api _) => .wait (5 * second)
    | .ok w =>
      let restore := restoreWorkload api wd w
      match restore.err with
      | some _ => ⟨restore.effects, .ok (.after (5 * second))⟩
      | none => (removeFinalizerOutcome api restore.wd).prepend restore.effects
  else removeFinalizerOutcome api wd

/-- The path of a WorkloadDependency that does not carry the finalizer yet. -/
def ensureFinalizer (api : Api) (now : Int) (c : Cluster) (wd : WorkloadDependency) : Outcome :=
  -- a failing List is logged, and the object let in unchecked
  let cycle := if api.listWDs = .ok then detectCycle (c.listNamespace wd.ns) wd else none
  match cycle with
  | some cycle =>
    let msg := "dependency cycle detected: " ++ formatCycle cycle
    (setStatus api now wd .unknown msg (some .none)).prepend [.event (.cycleDetected msg)]
  | none =>
    match api.update with
    | .ok => ⟨[.update wd.addFinalizer .ok], .ok ⟨true, 0⟩⟩
    | r => ⟨[.update wd.addFinalizer r], .error r.toError⟩

def pausedMsg : String := "manually paused via klink.dev/paused annotation"

def reconcileActive (api : Api) (now : Int) (c : Cluster) (wd : WorkloadDependency) : Outcome :=
  match getWorkload api.getDependent c wd.spec.dependent.kind wd.spec.dependent.name
      wd.dependentNs with
  | .error .notFound =>
    setStatus api now wd .unknown
      ("dependent " ++ wd.spec.dependent.kind ++ "/" ++ wd.spec.dependent.name ++ " not found") none
  | .error (.api e) => .fail e
  | .ok w =>
    match evaluateDependencies api c wd with
    | .error e => .fail e
    | .ok ev => dispatch api now wd w ev

def reconcile (api : Api) (now : Int) (c : Cluster) (req : NamespacedName) : Outcome :=
  match api.getWD with
  | .ok =>
    match c.getWD req with
    | none => ⟨[], .ok .none⟩
    | some wd =>
      if wd.deletionTimestamp.isSome then handleDeletion api c wd
      else if wd.containsFinalizer = false then ensureFinalizer api now c wd
      else if wd.isPaused then setStatus api now wd .paused pausedMsg none
      else reconcileActive api now c wd
  | r => .fail r.toError

def Cluster.reconciled (c : Cluster) (api : Api) (now : Int) (req : NamespacedName) : Cluster :=
  c.applyAll (reconcile api now c req).effects

end Klink
