import Klink.KeyedStore
import Klink.DependencyObjects
import Mathlib.Logic.Function.Basic

/-! # The API server's state, and what one Reconcile does to it

Reads see the stored objects; whether a call succeeds is an input of the model. Everything
a Reconcile does is an ordered list of effects, and the next state is their replay.
Events, metrics and notifications are effects that leave the stored objects alone.
-/
namespace Klink

open KeyedStore

structure Cluster where
  wds : Store WorkloadDependency.key
  deployments : NamespacedName → Option ReplicaWorkload
  statefulSets : NamespacedName → Option ReplicaWorkload
  cronJobs : NamespacedName → Option CronJob
  rollouts : NamespacedName → Option Rollout

def Cluster.getWD (c : Cluster) (k : NamespacedName) : Option WorkloadDependency := c.wds.get? k

def Cluster.workload (c : Cluster) (kind : WorkloadKind) (k : NamespacedName) :
    Option WorkloadObject :=
  match kind with
  | .deployment => (c.deployments k).map .deployment
  | .statefulSet => (c.statefulSets k).map .statefulSet
  | .cronJob => (c.cronJobs k).map .cronJob
  | .rollout => (c.rollouts k).map .rollout

def Cluster.putWorkload (c : Cluster) (k : NamespacedName) : WorkloadObject → Cluster
  | .deployment obj => { c with deployments := Function.update c.deployments k (some obj) }
  | .statefulSet obj => { c with statefulSets := Function.update c.statefulSets k (some obj) }
  | .cronJob obj => { c with cronJobs := Function.update c.cronJobs k (some obj) }
  | .rollout obj => { c with rollouts := Function.update c.rollouts k (some obj) }

def WorkloadDependency.withStatusOf (wd w : WorkloadDependency) : WorkloadDependency :=
  { w with status := wd.status.persisted }

def WorkloadDependency.withObjectOf (wd w : WorkloadDependency) : WorkloadDependency :=
  { w with
    finalizers := wd.finalizers
    annotationPaused := wd.annotationPaused
    spec := wd.spec }

/-- A write through the status subresource: metadata and spec keep their stored values. -/
def Cluster.putStatus (c : Cluster) (wd : WorkloadDependency) : Cluster :=
  { c with wds := c.wds.modify wd.key wd.withStatusOf (fun _ => rfl) }

/-- A write of the main resource: the stored status stays. An object that is being deleted
disappears with its last finalizer. -/
def Cluster.putObject (c : Cluster) (wd : WorkloadDependency) : Cluster :=
  if wd.deletionTimestamp.isSome ∧ wd.finalizers = [] then
    { c with wds := c.wds.erase wd.key }
  else
    { c with wds := c.wds.modify wd.key wd.withObjectOf (fun _ => rfl) }

inductive CallResult where
  | ok
  | conflict
  | failed
  deriving DecidableEq, Repr

inductive ApiError where
  | conflict
  | failed
  deriving DecidableEq, Repr

def CallResult.toError : CallResult → ApiError
  | .conflict => .conflict
  | _ => .failed

/-- How the API server answers the calls of one Reconcile. Numbered calls are indexed by the
position of the `dependsOn` entry, or by the attempt of the status write they belong to. -/
structure Api where
  getWD : CallResult
  listWDs : CallResult
  update : CallResult
  getDependent : CallResult
  getDependency : ℕ → CallResult
  listIndex : ℕ → CallResult
  patch : CallResult
  statusUpdate : ℕ → CallResult
  reread : ℕ → Option WorkloadDependency
  getSecret : NamespacedName → Option (List (String × String))

structure Api.AllOk (api : Api) : Prop where
  getWD : api.getWD = .ok
  listWDs : api.listWDs = .ok
  update : api.update = .ok
  getDependent : api.getDependent = .ok
  getDependency : ∀ i, api.getDependency i = .ok
  listIndex : ∀ i, api.listIndex i = .ok
  patch : api.patch = .ok
  statusUpdate : ∀ i, api.statusUpdate i = .ok

def Api.good : Api where
  getWD := .ok
  listWDs := .ok
  update := .ok
  getDependent := .ok
  getDependency _ := .ok
  listIndex _ := .ok
  patch := .ok
  statusUpdate _ := .ok
  reread _ := none
  getSecret _ := none

theorem Api.good_allOk : Api.good.AllOk := by
  constructor <;> intros <;> rfl

inductive Event where
  | cycleDetected (message : String)
  | maxSuspendDurationExceeded (name : String) (maxDur : Int)
  | cronJobSuspended (name message : String)
  | scaledToZero (kind name : String) (saved : Int32) (message : String)
  | strictEnforced (kind name : String)
  | cronJobResumed (name : String)
  | replicasRestored (kind name : String) (replicas : Int32)
  deriving DecidableEq, Repr

structure NotifyPayload where
  workloadDependency : String
  ns : String
  phase : DependencyPhase
  previousPhase : DependencyPhase
  message : String
  dependent : String
  dependentKind : String
  timestamp : Int
  deriving DecidableEq, Repr

inductive Effect where
  | patch (key : NamespacedName) (before after : WorkloadObject) (result : CallResult)
  | statusUpdate (wd : WorkloadDependency) (result : CallResult)
  | update (wd : WorkloadDependency) (result : CallResult)
  | event (e : Event)
  | recordScaleToZero (ns kind name : String)
  | recordReplicasRestored (ns kind name : String)
  | recordPhase (ns name : String) (phase : DependencyPhase)
  | recordReconcileError (ns errorType : String)
  | sendNotification (url : String) (payload : NotifyPayload)
  deriving DecidableEq, Repr

structure Result where
  requeue : Bool
  requeueAfter : Int
  deriving DecidableEq, Repr

def Result.none : Result := ⟨false, 0⟩
def Result.after (d : Int) : Result := ⟨false, d⟩

structure Outcome where
  effects : List Effect
  result : Except ApiError Result

def Outcome.fail (e : ApiError) : Outcome := ⟨[], .error e⟩
def Outcome.wait (d : Int) : Outcome := ⟨[], .ok (.after d)⟩

def Cluster.apply (c : Cluster) : Effect → Cluster
  | .patch k _ after .ok => c.putWorkload k after
  | .statusUpdate wd .ok => c.putStatus wd
  | .update wd .ok => c.putObject wd
  | _ => c

def Cluster.applyAll (c : Cluster) (es : List Effect) : Cluster := es.foldl Cluster.apply c

@[simp] theorem Cluster.applyAll_nil (c : Cluster) : c.applyAll [] = c := rfl

@[simp] theorem Cluster.applyAll_cons (c : Cluster) (e : Effect) (es : List Effect) :
    c.applyAll (e :: es) = (c.apply e).applyAll es := rfl

@[simp] theorem Cluster.applyAll_append (c : Cluster) (es fs : List Effect) :
    c.applyAll (es ++ fs) = (c.applyAll es).applyAll fs := List.foldl_append

theorem Cluster.workload_kind {c : Cluster} {kind : WorkloadKind} {k : NamespacedName}
    {w : WorkloadObject} (h : c.workload kind k = some w) : w.kind = kind := by
  cases kind <;> obtain ⟨_, _, rfl⟩ := Option.map_eq_some_iff.mp h <;> rfl

@[simp] theorem Cluster.getWD_putWorkload (c : Cluster) (k j : NamespacedName)
    (w : WorkloadObject) : (c.putWorkload k w).getWD j = c.getWD j := by
  cases w <;> rfl

@[simp] theorem Cluster.workload_putObject (c : Cluster) (wd : WorkloadDependency)
    (kind : WorkloadKind) (k : NamespacedName) :
    (c.putObject wd).workload kind k = c.workload kind k := by
  unfold putObject
  split <;> rfl

@[simp] theorem Cluster.workload_putWorkload_self (c : Cluster) (k : NamespacedName)
    (w : WorkloadObject) : (c.putWorkload k w).workload w.kind k = some w := by
  cases w <;> simp [putWorkload, workload, WorkloadObject.kind]

theorem Cluster.workload_putWorkload_ne (c : Cluster) {k j : NamespacedName} {w : WorkloadObject}
    {kind : WorkloadKind} (h : kind ≠ w.kind ∨ j ≠ k) :
    (c.putWorkload k w).workload kind j = c.workload kind j := by
  rcases h with h | h
  · cases w <;> cases kind <;> simp [putWorkload, workload, WorkloadObject.kind] at h ⊢
  · cases w <;> cases kind <;> simp [putWorkload, workload, h]

theorem Cluster.getWD_key {c : Cluster} {k : NamespacedName} {wd : WorkloadDependency}
    (h : c.getWD k = some wd) : wd.key = k := c.wds.get?_key h

theorem Cluster.mem_wds {c : Cluster} {k : NamespacedName} {wd : WorkloadDependency}
    (h : c.getWD k = some wd) : wd ∈ c.wds.items := ((c.wds.get?_eq_some_iff k wd).mp h).1

theorem Cluster.getWD_putStatus_self {c : Cluster} {k : NamespacedName}
    {wd w : WorkloadDependency} (h : c.getWD k = some w) (hk : wd.key = k) :
    (c.putStatus wd).getWD k = some (wd.withStatusOf w) := by
  subst hk
  exact (c.wds.get?_modify_self _ wd.withStatusOf (fun _ => rfl)).trans
    (congrArg (Option.map _) h)

theorem Cluster.getWD_putStatus_ne (c : Cluster) {k : NamespacedName} {wd : WorkloadDependency}
    (hk : k ≠ wd.key) : (c.putStatus wd).getWD k = c.getWD k :=
  c.wds.get?_modify_ne wd.withStatusOf (fun _ => rfl) hk

theorem Cluster.getWD_putObject_self {c : Cluster} {k : NamespacedName}
    {wd w : WorkloadDependency} (h : c.getWD k = some w) (hk : wd.key = k)
    (hn : ¬ (wd.deletionTimestamp.isSome ∧ wd.finalizers = [])) :
    (c.putObject wd).getWD k = some (wd.withObjectOf w) := by
  subst hk
  rw [putObject, if_neg hn]
  exact (c.wds.get?_modify_self _ wd.withObjectOf (fun _ => rfl)).trans
    (congrArg (Option.map _) h)

theorem Cluster.getWD_putObject_ne (c : Cluster) {k : NamespacedName} {wd : WorkloadDependency}
    (hk : k ≠ wd.key) : (c.putObject wd).getWD k = c.getWD k := by
  unfold putObject
  split
  · exact Store.get?_erase_ne _ hk
  · exact c.wds.get?_modify_ne wd.withObjectOf (fun _ => rfl) hk

theorem Cluster.getWD_putObject_gone (c : Cluster) {wd : WorkloadDependency}
    (hd : wd.deletionTimestamp.isSome) (hf : wd.finalizers = []) :
    (c.putObject wd).getWD wd.key = none := by
  rw [putObject, if_pos ⟨hd, hf⟩]
  exact Store.get?_erase_self _ _

theorem Cluster.workload_applyAll_cases (c : Cluster) (es : List Effect) (kind : WorkloadKind)
    (k : NamespacedName) :
    (c.applyAll es).workload kind k = c.workload kind k ∨
      ∃ before after, Effect.patch k before after .ok ∈ es ∧ after.kind = kind ∧
        (c.applyAll es).workload kind k = some after := by
  induction es generalizing c with
  | nil => exact Or.inl rfl
  | cons e es ih =>
    rw [Cluster.applyAll_cons]
    rcases ih (c.apply e) with hrest | ⟨before, after, hm, hk, hw⟩
    · rw [hrest]
      cases e with
      | patch key before after call =>
        cases call with
        | ok =>
          by_cases hne : kind ≠ after.kind ∨ k ≠ key
          · exact Or.inl (c.workload_putWorkload_ne hne)
          · obtain ⟨hk, hj⟩ := not_or.mp hne
            obtain rfl := not_not.mp hk
            obtain rfl := not_not.mp hj
            exact Or.inr ⟨before, after, List.mem_cons_self, rfl,
              c.workload_putWorkload_self k after⟩
        | conflict => exact Or.inl rfl
        | failed => exact Or.inl rfl
      | update w call =>
        cases call with
        | ok => exact Or.inl (c.workload_putObject w kind k)
        | conflict => exact Or.inl rfl
        | failed => exact Or.inl rfl
      | statusUpdate w call => cases call <;> exact Or.inl rfl
      | _ => exact Or.inl rfl
    · exact Or.inr ⟨before, after, List.mem_cons_of_mem e hm, hk, hw⟩

end Klink
