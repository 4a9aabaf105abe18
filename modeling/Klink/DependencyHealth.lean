import Klink.BinaryRounding
import Klink.CycleDetection

/-! # Evaluating the dependencies of one WorkloadDependency

`getWorkload`, `depStatus` with its CoSuspended lookup, and the loop of `Reconcile` over
`spec.dependsOn`, which stops at the first missing workload but not at an unhealthy one.
-/
namespace Klink

open BinaryRounding (roundSignificant)

inductive GetError where
  | notFound
  | api (e : ApiError)
  deriving DecidableEq, Repr

def getWorkload (call : CallResult) (c : Cluster) (kind name ns : String) :
    Except GetError WorkloadAccessor :=
  match call with
  | .ok =>
    match c.workload (WorkloadKind.ofString kind) ⟨ns, name⟩ with
    | some obj => .ok ⟨⟨ns, name⟩, obj⟩
    | none => .error .notFound
  | r => .error (.api r.toError)

inductive DepHealthStatus where
  | healthy
  | coSuspended
  | unhealthy
  deriving DecidableEq, Repr

/-- `int32(float64(ready) / float64(replicas) * 100)`: two roundings to 53 significant bits
and a truncation toward zero. Both conversions to floating point are exact. A percentage that does
not fit its type, which Go leaves to the platform, wraps around. -/
def readyPercent (ready replicas : Int32) : Int32 :=
  let quotient := roundSignificant 53 (ready.toInt.natAbs, replicas.toInt.natAbs)
  let percent := roundSignificant 53 (quotient.1 * 100, quotient.2)
  let magnitude : ℤ := ((percent.1 / percent.2 : ℕ) : ℤ)
  Int32.ofInt (ready.toInt.sign * replicas.toInt.sign * magnitude)

/-- The value the field index `.spec.dependent.namespacedName` files an object under. -/
def indexDependentName (wd : WorkloadDependency) : String :=
  wd.dependentNs ++ "/" ++ wd.spec.dependent.name

def isSuspendedByKlink (call : CallResult) (c : Cluster) (name ns : String) :
    Except ApiError Bool :=
  match call with
  | .ok => .ok (c.wds.items.any (fun wd =>
      decide (indexDependentName wd = ns ++ "/" ++ name ∧ wd.status.phase = .suspended)))
  | r => .error r.toError

def downStatus (call : CallResult) (c : Cluster) (name ns : String) :
    Except ApiError DepHealthStatus :=
  match isSuspendedByKlink call c name ns with
  | .error e => .error e
  | .ok true => .ok .coSuspended
  | .ok false => .ok .unhealthy

def Rollout.isHealthyAsDependency (obj : Rollout) : Bool :=
  match obj.phase with
  | .healthy | .progressing | .paused => true
  | _ => false

def replicaStatus (call : CallResult) (c : Cluster) (w : WorkloadAccessor) (ready : Int32)
    (cond : HealthCondition) (ns : String) : Except ApiError DepHealthStatus :=
  if w.obj.getReplicas = 0 then downStatus call c w.key.name ns
  else
    let minPercent := if cond.minReadyPercent = 0 then 100 else cond.minReadyPercent
    if minPercent ≤ readyPercent ready w.obj.getReplicas then .ok .healthy else .ok .unhealthy

def depStatus (call : CallResult) (c : Cluster) (w : WorkloadAccessor) (cond : HealthCondition)
    (ns : String) : Except ApiError DepHealthStatus :=
  match w.obj with
  | .rollout obj =>
    if obj.isHealthyAsDependency then .ok .healthy else downStatus call c w.key.name ns
  | .cronJob _ => if w.obj.isSuspended then downStatus call c w.key.name ns else .ok .healthy
  | .deployment obj => replicaStatus call c w obj.readyReplicas cond ns
  | .statefulSet obj => replicaStatus call c w obj.readyReplicas cond ns

structure Evaluation where
  allOk : Bool
  unhealthyMsg : String
  deriving DecidableEq, Repr

/-- The loop of `Reconcile` over `spec.dependsOn`, from entry `i` on. -/
def evaluateFrom (api : Api) (c : Cluster) (wd : WorkloadDependency) :
    ℕ → List DependsOnEntry → Evaluation → Except ApiError Evaluation
  | _, [], acc => .ok acc
  | i, dep :: rest, acc =>
    let ns := wd.dependsOnNs dep
    match getWorkload (api.getDependency i) c dep.kind dep.name ns with
    | .error .notFound =>
      -- `break`: later entries are not looked at
      .ok ⟨false, "dependency " ++ dep.kind ++ "/" ++ dep.name ++ " not found"⟩
    | .error (.api e) => .error e
    | .ok w =>
      match depStatus (api.listIndex i) c w dep.condition ns with
      | .error e => .error e
      | .ok .unhealthy => evaluateFrom api c wd (i + 1) rest
          ⟨false, "dependency " ++ dep.kind ++ " " ++ dep.name ++ " is not healthy"⟩
      | .ok _ => evaluateFrom api c wd (i + 1) rest acc

def evaluateDependencies (api : Api) (c : Cluster) (wd : WorkloadDependency) :
    Except ApiError Evaluation :=
  evaluateFrom api c wd 0 wd.spec.dependsOn ⟨true, ""⟩

theorem downStatus_ok (c : Cluster) (name ns : String) :
    ∃ st, downStatus .ok c name ns = .ok st := by
  unfold downStatus isSuspendedByKlink
  dsimp only
  split
  · next h => cases h
  · exact ⟨_, rfl⟩
  · exact ⟨_, rfl⟩

theorem replicaStatus_ok (c : Cluster) (w : WorkloadAccessor) (ready : Int32)
    (cond : HealthCondition) (ns : String) :
    ∃ st, replicaStatus .ok c w ready cond ns = .ok st := by
  unfold replicaStatus
  by_cases h0 : w.obj.getReplicas = 0
  · rw [if_pos h0]
    exact downStatus_ok c w.key.name ns
  · rw [if_neg h0]
    dsimp only
    generalize (if cond.minReadyPercent = 0 then (100 : Int32) else cond.minReadyPercent) = least
    by_cases hr : least ≤ readyPercent ready w.obj.getReplicas
    · exact ⟨_, if_pos hr⟩
    · exact ⟨_, if_neg hr⟩

theorem depStatus_ok (c : Cluster) (w : WorkloadAccessor) (cond : HealthCondition) (ns : String) :
    ∃ st, depStatus .ok c w cond ns = .ok st := by
  have hdown := downStatus_ok c w.key.name ns
  unfold depStatus
  split
  · split
    · exact ⟨_, rfl⟩
    · exact hdown
  · split
    · exact hdown
    · exact ⟨_, rfl⟩
  · exact replicaStatus_ok _ _ _ _ _
  · exact replicaStatus_ok _ _ _ _ _

theorem evaluateFrom_ok {api : Api} (h : api.AllOk) (c : Cluster) (wd : WorkloadDependency)
    (i : ℕ) (deps : List DependsOnEntry) (acc : Evaluation) :
    ∃ ev, evaluateFrom api c wd i deps acc = .ok ev := by
  induction deps generalizing i acc with
  | nil => exact ⟨acc, rfl⟩
  | cons dep rest ih =>
    unfold evaluateFrom
    dsimp only
    split
    · exact ⟨_, rfl⟩
    · next hg =>
      rw [h.getDependency i, getWorkload] at hg
      split at hg <;> cases hg
    · next w _ =>
      obtain ⟨st, hst⟩ := depStatus_ok c w dep.condition (wd.dependsOnNs dep)
      rw [h.listIndex i, hst]
      cases st with
      | unhealthy => exact ih _ _
      | healthy => exact ih _ _
      | coSuspended => exact ih _ _

def WorkloadDependency.dependsOnKey (wd : WorkloadDependency) (dep : DependsOnEntry) :
    NamespacedName :=
  ⟨wd.dependsOnNs dep, dep.name⟩

def Cluster.dependency (c : Cluster) (wd : WorkloadDependency) (dep : DependsOnEntry) :
    Option WorkloadObject :=
  c.workload (WorkloadKind.ofString dep.kind) (wd.dependsOnKey dep)

def entryStatus (c : Cluster) (wd : WorkloadDependency) (dep : DependsOnEntry) :
    Option (Except ApiError DepHealthStatus) :=
  (c.dependency wd dep).map
    (fun obj => depStatus .ok c ⟨wd.dependsOnKey dep, obj⟩ dep.condition (wd.dependsOnNs dep))

def EntryFails (c : Cluster) (wd : WorkloadDependency) (dep : DependsOnEntry) : Prop :=
  entryStatus c wd dep = none ∨ entryStatus c wd dep = some (.ok .unhealthy)

instance (c : Cluster) (wd : WorkloadDependency) (dep : DependsOnEntry) :
    Decidable (EntryFails c wd dep) :=
  inferInstanceAs (Decidable (_ ∨ _))

theorem EntryFails.congr {c : Cluster} {wd wd' : WorkloadDependency} {dep : DependsOnEntry}
    (hns : wd'.ns = wd.ns) : EntryFails c wd' dep ↔ EntryFails c wd dep := by
  unfold EntryFails entryStatus Cluster.dependency WorkloadDependency.dependsOnKey
    WorkloadDependency.dependsOnNs
  rw [hns]

theorem downStatus_of_ok {call : CallResult} {c : Cluster} {name ns : String}
    {st : DepHealthStatus} (h : downStatus call c name ns = .ok st) :
    downStatus .ok c name ns = .ok st := by
  cases call with
  | ok => exact h
  | conflict => cases h
  | failed => cases h

theorem replicaStatus_of_ok {call : CallResult} {c : Cluster} {w : WorkloadAccessor}
    {ready : Int32} {cond : HealthCondition} {ns : String} {st : DepHealthStatus}
    (h : replicaStatus call c w ready cond ns = .ok st) :
    replicaStatus .ok c w ready cond ns = .ok st := by
  unfold replicaStatus at h ⊢
  by_cases h0 : w.obj.getReplicas = 0
  · rw [if_pos h0] at h ⊢
    exact downStatus_of_ok h
  · rw [if_neg h0] at h ⊢
    exact h

theorem depStatus_of_ok {call : CallResult} {c : Cluster} {w : WorkloadAccessor}
    {cond : HealthCondition} {ns : String} {st : DepHealthStatus}
    (h : depStatus call c w cond ns = .ok st) : depStatus .ok c w cond ns = .ok st := by
  obtain ⟨key, obj⟩ := w
  cases obj with
  | deployment obj => exact replicaStatus_of_ok h
  | statefulSet obj => exact replicaStatus_of_ok h
  | cronJob obj =>
    unfold depStatus at h ⊢
    dsimp only at h ⊢
    split at h
    · next hs => rw [if_pos hs]; exact downStatus_of_ok h
    · next hs => rw [if_neg hs]; exact h
  | rollout obj =>
    unfold depStatus at h ⊢
    dsimp only at h ⊢
    split at h
    · next hs => rw [if_pos hs]; exact h
    · next hs => rw [if_neg hs]; exact downStatus_of_ok h

theorem getWorkload_entry (call : CallResult) (c : Cluster) (wd : WorkloadDependency)
    (dep : DependsOnEntry) :
    (∃ e, getWorkload call c dep.kind dep.name (wd.dependsOnNs dep) = .error (.api e)) ∨
    (c.dependency wd dep = none ∧
      getWorkload call c dep.kind dep.name (wd.dependsOnNs dep) = .error .notFound) ∨
    ∃ obj, c.dependency wd dep = some obj ∧
      getWorkload call c dep.kind dep.name (wd.dependsOnNs dep) =
        .ok ⟨wd.dependsOnKey dep, obj⟩ := by
  cases call with
  | conflict => exact Or.inl ⟨_, rfl⟩
  | failed => exact Or.inl ⟨_, rfl⟩
  | ok =>
    unfold getWorkload
    cases hd : c.dependency wd dep with
    | none =>
      have hd : c.workload (WorkloadKind.ofString dep.kind) ⟨wd.dependsOnNs dep, dep.name⟩ =
        none := hd
      exact Or.inr (Or.inl ⟨rfl, by simp only [hd]⟩)
    | some obj =>
      have hd : c.workload (WorkloadKind.ofString dep.kind) ⟨wd.dependsOnNs dep, dep.name⟩ =
        some obj := hd
      exact Or.inr (Or.inr ⟨obj, rfl, by simp only [hd]; rfl⟩)

/-- Stopping at the first missing entry does not change the verdict. -/
theorem evaluateFrom_allOk {api : Api} {c : Cluster} {wd : WorkloadDependency} {i : ℕ}
    {deps : List DependsOnEntry} {acc ev : Evaluation}
    (h : evaluateFrom api c wd i deps acc = .ok ev) :
    ev.allOk = true ↔ acc.allOk = true ∧ ∀ dep ∈ deps, ¬ EntryFails c wd dep := by
  induction deps generalizing i acc with
  | nil =>
    obtain rfl := Except.ok.inj h
    simp
  | cons dep rest ih =>
    unfold evaluateFrom at h
    dsimp only at h
    rcases getWorkload_entry (api.getDependency i) c wd dep with
      ⟨e, hg⟩ | ⟨hd, hg⟩ | ⟨obj, hd, hg⟩
    · rw [hg] at h
      cases h
    · rw [hg] at h
      obtain rfl := Except.ok.inj h
      have hfails : EntryFails c wd dep := Or.inl (by simp [entryStatus, hd])
      simp [hfails]
    · rw [hg] at h
      dsimp only at h
      cases hst : depStatus (api.listIndex i) c ⟨wd.dependsOnKey dep, obj⟩ dep.condition
          (wd.dependsOnNs dep) with
      | error e =>
        rw [hst] at h
        cases h
      | ok st =>
        have hentry : entryStatus c wd dep = some (.ok st) := by
          simp [entryStatus, hd, depStatus_of_ok hst]
        rw [hst] at h
        cases st with
        | unhealthy =>
          have hfails : EntryFails c wd dep := Or.inr hentry
          rw [ih h]
          simp [hfails]
        | healthy =>
          have hpass : ¬ EntryFails c wd dep := by simp [EntryFails, hentry]
          rw [ih h]
          simp [hpass]
        | coSuspended =>
          have hpass : ¬ EntryFails c wd dep := by simp [EntryFails, hentry]
          rw [ih h]
          simp [hpass]

theorem evaluateDependencies_allOk {api : Api} {c : Cluster} {wd : WorkloadDependency}
    {ev : Evaluation} (h : evaluateDependencies api c wd = .ok ev) :
    ev.allOk = true ↔ ∀ dep ∈ wd.spec.dependsOn, ¬ EntryFails c wd dep := by
  rw [evaluateFrom_allOk h]
  simp

end Klink
