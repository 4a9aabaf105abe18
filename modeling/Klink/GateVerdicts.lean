import Klink.GateWebhook
import Klink.ReconcileRuns

/-! # What the gate decides

The two routes on which a workload is scaled up, and the gate's view of a dependency compared
with the view of the operator's own evaluation.
-/
namespace Klink

structure ScaleChange where
  kind : String
  resource : String
  name : String
  ns : String
  old : Int32
  new : Int32
  deriving DecidableEq, Repr

def ScaleChange.mainRequest (s : ScaleChange) : AdmissionRequest :=
  ⟨.update, s.kind, s.name, s.ns, s.resource, "", .object ⟨none, some s.new⟩,
    .object ⟨none, some s.old⟩⟩

/-- The same change through the `/scale` subresource: a request of kind Scale. -/
def ScaleChange.scaleRequest (s : ScaleChange) : AdmissionRequest :=
  ⟨.update, "Scale", s.name, s.ns, s.resource, "scale", .object ⟨none, some s.new⟩,
    .object ⟨none, some s.old⟩⟩

def WorkloadDependency.KnownKind (wd : WorkloadDependency) : Prop :=
  wd.spec.dependent.kind ∈ ["Deployment", "StatefulSet", "CronJob", "Rollout"]

section Routes

variable {api : GateApi} {c : Cluster} {s : ScaleChange}

theorem ScaleChange.main_denied_iff (hk : s.kind = "Deployment" ∨ s.kind = "StatefulSet") :
    (validate api c s.mainRequest).allowed = false ↔
      s.old < s.new ∧ api.list = .ok ∧ Blocked api c s.kind s.name s.ns := by
  have hcron : s.kind ≠ "CronJob" := by
    rcases hk with hk | hk <;> simp [hk]
  rw [validate_denies_iff]
  simp [mainRequest, extractReplicas, hcron]

theorem ScaleChange.scale_denied_iff :
    (validate api c s.scaleRequest).allowed = false ↔
      s.old < s.new ∧ api.list = .ok ∧ Blocked api c "Scale" s.name s.ns := by
  rw [validate_denies_iff]
  simp [scaleRequest, extractReplicas]

theorem not_blocked_scale (hknown : ∀ wd ∈ c.wds.items, wd.KnownKind) (name ns : String) :
    ¬ Blocked api c "Scale" name ns := by
  rintro ⟨i, wd, hwd, hg, _⟩
  have hmem : wd ∈ c.wds.items := (List.mem_filter.mp (List.mem_of_getElem? hwd)).1
  have hkind : wd.spec.dependent.kind = "Scale" := by
    simp only [WorkloadDependency.gates, decide_eq_true_eq] at hg
    exact hg.2.1
  have hk := hknown wd hmem
  simp [WorkloadDependency.KnownKind, hkind] at hk

/-- The two routes agree exactly when the gate has no reason to deny the change on either. -/
theorem routes_agree_iff (hk : s.kind = "Deployment" ∨ s.kind = "StatefulSet")
    (hknown : ∀ wd ∈ c.wds.items, wd.KnownKind) :
    (validate api c s.mainRequest).allowed = (validate api c s.scaleRequest).allowed ↔
      s.new ≤ s.old ∨ api.list ≠ .ok ∨ ¬ Blocked api c s.kind s.name s.ns := by
  have hscale : (validate api c s.scaleRequest).allowed = true := by
    by_contra hne
    have hdenied := ScaleChange.scale_denied_iff.mp (by simpa using hne)
    exact not_blocked_scale hknown _ _ hdenied.2.2
  rw [hscale, ← Bool.not_eq_false, ScaleChange.main_denied_iff hk, not_and_or, not_and_or,
    Int32.not_lt]

end Routes

/-! `web` may only be scaled up while the StatefulSet `db` is ready. -/

def gateObject : WorkloadDependency := demoObject "Deployment" .gate 0

def missingCluster : Cluster :=
  Cluster.putWorkload ⟨⟨[gateObject], by simp⟩, fun _ => none, fun _ => none, fun _ => none,
    fun _ => none⟩ webKey (.deployment ⟨some 0, 0⟩)

def gateCluster (db : WorkloadObject) : Cluster := missingCluster.putWorkload dbKey db

def GateApi.good : GateApi := ⟨.ok, fun _ _ => .ok⟩

def webScaleUp : ScaleChange := ⟨"Deployment", "deployments", "web", "default", 0, 3⟩

/-- `kubectl scale` gets through where an edit of the Deployment does not. -/
theorem scale_route_open :
    (validate .good (gateCluster (demoDb 0)) webScaleUp.mainRequest).allowed = false ∧
      (validate .good (gateCluster (demoDb 0)) webScaleUp.scaleRequest).allowed = true := by
  decide

theorem routes_agree_healthy :
    (∀ wd ∈ (gateCluster (demoDb 1)).wds.items, wd.KnownKind) ∧
      ((validate .good (gateCluster (demoDb 1)) webScaleUp.mainRequest).allowed =
          (validate .good (gateCluster (demoDb 1)) webScaleUp.scaleRequest).allowed ↔
        webScaleUp.new ≤ webScaleUp.old ∨ GateApi.good.list ≠ .ok ∨
          ¬ Blocked .good (gateCluster (demoDb 1)) "Deployment" "web" "default") := by
  have hknown : ∀ wd ∈ (gateCluster (demoDb 1)).wds.items, wd.KnownKind := by
    intro wd hwd
    obtain rfl := List.mem_singleton.mp hwd
    exact List.mem_cons_self
  exact ⟨hknown, routes_agree_iff (Or.inl rfl) hknown⟩

def WorkloadObject.countUnset : WorkloadObject → Bool
  | .deployment obj => obj.replicas.isNone
  | .statefulSet obj => obj.replicas.isNone
  | _ => false

/-- The webhook has no CronJobs among the dependencies, no default for a missing count, and does
not know which workloads klink itself holds down. Apart from that the two evaluations look at the
same thing. -/
structure Comparable (c : Cluster) (wd : WorkloadDependency) (dep : DependsOnEntry) : Prop where
  kind : dep.kind ≠ "CronJob"
  counted : ∀ obj, c.dependency wd dep = some obj → obj.countUnset = false
  alone : entryStatus c wd dep ≠ some (.ok .coSuspended)

section Agreement

variable {c : Cluster} {wd : WorkloadDependency} {dep : DependsOnEntry}

theorem downStatus_cases (c : Cluster) (name ns : String) :
    downStatus .ok c name ns = .ok .coSuspended ∨ downStatus .ok c name ns = .ok .unhealthy := by
  unfold downStatus isSuspendedByKlink
  dsimp only
  split
  · next h => cases h
  · exact Or.inl rfl
  · exact Or.inr rfl

theorem checkRolloutHealth_eq (obj : Rollout) :
    (checkRolloutHealth obj).1 = obj.isHealthyAsDependency := by
  unfold checkRolloutHealth Rollout.isHealthyAsDependency
  cases obj.phase <;> rfl

theorem replicaStatus_iff {w : WorkloadAccessor} {ready n : Int32} {cond : HealthCondition}
    {ns name : String} (hn : w.obj.getReplicas = n)
    (ha : replicaStatus .ok c w ready cond ns ≠ .ok .coSuspended) :
    replicaStatus .ok c w ready cond ns = .ok .unhealthy ↔
      (checkReplicaHealth (some n) ready cond name).1 = false := by
  unfold replicaStatus at ha ⊢
  unfold checkReplicaHealth
  rw [hn] at ha ⊢
  dsimp only
  by_cases h0 : n = 0
  · rw [if_pos h0] at ha ⊢
    rw [if_pos h0]
    simp [(downStatus_cases c w.key.name ns).resolve_left ha]
  · rw [if_neg h0, if_neg h0]
    generalize (if cond.minReadyPercent = 0 then (100 : Int32) else cond.minReadyPercent) = least
    by_cases hr : least ≤ readyPercent ready n
    · rw [if_pos hr, if_neg (Int32.not_lt.mpr hr)]
      simp
    · rw [if_neg hr, if_pos (Int32.not_le.mp hr)]
      simp

/-- Both evaluations of an entry as readings of one stored object: agreement on the object is
agreement on the entry. -/
theorem gateFinds_iff_of {α : Type} {o : Option α} {f : α → Bool × String}
    {g : α → WorkloadObject}
    (hgate : isDependencyHealthy .ok c dep.kind dep.name (wd.dependsOnNs dep) dep.condition =
      (gateGet .ok o).map f)
    (hdep : c.dependency wd dep = o.map g)
    (halone : entryStatus c wd dep ≠ some (.ok .coSuspended))
    (hagree : ∀ obj, o = some obj →
      depStatus .ok c ⟨wd.dependsOnKey dep, g obj⟩ dep.condition (wd.dependsOnNs dep) ≠
        .ok .coSuspended →
      (depStatus .ok c ⟨wd.dependsOnKey dep, g obj⟩ dep.condition (wd.dependsOnNs dep) =
        .ok .unhealthy ↔ (f obj).1 = false)) :
    GateFinds .ok c wd dep ↔ entryStatus c wd dep = some (.ok .unhealthy) := by
  unfold entryStatus at halone ⊢
  unfold GateFinds
  rw [hdep] at halone ⊢
  rw [hgate]
  cases o with
  | none => simp [gateGet, Except.map]
  | some obj =>
    have hne := fun hco => halone (congrArg some hco)
    simp only [gateGet, Except.map, Except.ok.injEq, Option.map_some, Option.some.injEq]
    rw [hagree obj rfl hne]
    constructor
    · rintro ⟨msg, hf⟩
      rw [hf]
    · intro hf
      exact ⟨(f obj).2, Prod.ext hf rfl⟩

theorem rolloutStatus_iff {key : NamespacedName} {obj : Rollout} {cond : HealthCondition}
    {ns : String} (ha : depStatus .ok c ⟨key, .rollout obj⟩ cond ns ≠ .ok .coSuspended) :
    depStatus .ok c ⟨key, .rollout obj⟩ cond ns = .ok .unhealthy ↔
      (checkRolloutHealth obj).1 = false := by
  rw [checkRolloutHealth_eq]
  unfold depStatus at ha ⊢
  dsimp only at ha ⊢
  cases hh : obj.isHealthyAsDependency with
  | true => simp
  | false =>
    rw [hh] at ha
    simpa using (downStatus_cases c key.name ns).resolve_left (by simpa using ha)

theorem Comparable.gateFinds_iff (h : Comparable c wd dep) :
    GateFinds .ok c wd dep ↔ entryStatus c wd dep = some (.ok .unhealthy) := by
  obtain ⟨hcron, hcount, halone⟩ := h
  by_cases hroll : dep.kind = "Rollout"
  · have hdep : c.dependency wd dep = (c.rollouts (wd.dependsOnKey dep)).map .rollout := by
      simp [Cluster.dependency, WorkloadKind.ofString, hroll, Cluster.workload]
    exact gateFinds_iff_of (if_pos hroll) hdep halone (fun obj _ => rolloutStatus_iff)
  by_cases hsts : dep.kind = "StatefulSet"
  · have hdep : c.dependency wd dep = (c.statefulSets (wd.dependsOnKey dep)).map .statefulSet := by
      simp [Cluster.dependency, WorkloadKind.ofString, hsts, Cluster.workload]
    refine gateFinds_iff_of ((if_neg hroll).trans (if_pos hsts)) hdep halone ?_
    rintro ⟨replicas, ready⟩ hobj ha
    obtain ⟨n, rfl⟩ : ∃ n, replicas = some n := by
      have hset := hcount (.statefulSet ⟨replicas, ready⟩)
        (hdep.trans (congrArg (Option.map _) hobj))
      exact Option.isSome_iff_exists.mp (by simpa [WorkloadObject.countUnset] using hset)
    exact replicaStatus_iff rfl ha
  · have hdep : c.dependency wd dep = (c.deployments (wd.dependsOnKey dep)).map .deployment := by
      simp [Cluster.dependency, WorkloadKind.ofString, hroll, hsts, hcron, Cluster.workload]
    refine gateFinds_iff_of ((if_neg hroll).trans (if_neg hsts)) hdep halone ?_
    rintro ⟨replicas, ready⟩ hobj ha
    obtain ⟨n, rfl⟩ : ∃ n, replicas = some n := by
      have hset := hcount (.deployment ⟨replicas, ready⟩)
        (hdep.trans (congrArg (Option.map _) hobj))
      exact Option.isSome_iff_exists.mp (by simpa [WorkloadObject.countUnset] using hset)
    exact replicaStatus_iff rfl ha

end Agreement

/-- A request to scale up a workload that exactly one object of the cluster is about, and that
object is in gate mode and lives in the request's namespace. -/
structure Governed (c : Cluster) (req : AdmissionRequest) (wd : WorkloadDependency) : Prop where
  stored : wd ∈ c.wds.items
  gate : wd.spec.mode = .gate
  ns : wd.ns = req.ns
  dependent : resolveKey wd.spec.dependent wd.ns = ⟨req.kind, req.ns, req.name⟩
  only : ∀ wd' ∈ c.wds.items,
    resolveKey wd'.spec.dependent wd'.ns = ⟨req.kind, req.ns, req.name⟩ → wd' = wd
  update : req.operation = .update
  main : req.subResource = ""
  raises : ∃ old new, extractReplicas req.oldObject req.kind = some old ∧
    extractReplicas req.object req.kind = some new ∧ old < new

section Verdicts

variable {api : GateApi} {c : Cluster} {req : AdmissionRequest} {wd : WorkloadDependency}

theorem gates_iff {kind name ns : String} : wd.gates kind name ns = true ↔
    wd.spec.mode = .gate ∧ resolveKey wd.spec.dependent wd.ns = ⟨kind, ns, name⟩ := by
  simp only [WorkloadDependency.gates, decide_eq_true_eq, resolveKey, WorkloadKey.mk.injEq]
  unfold WorkloadDependency.dependentNs
  tauto

theorem Governed.denies_iff (h : Governed c req wd) (hlist : api.list = .ok)
    (hget : ∀ i j, api.get i j = .ok) :
    (validate api c req).allowed = false ↔
      ∃ dep ∈ wd.spec.dependsOn, GateFinds .ok c wd dep := by
  obtain ⟨old, new, hold, hnew, hlt⟩ := h.raises
  have hraise : ∃ n, extractReplicas req.object req.kind = some n ∧
      (extractReplicas req.oldObject req.kind).getD 0 < n := ⟨new, hnew, by rw [hold]; exact hlt⟩
  rw [validate_denies_iff]
  constructor
  · rintro ⟨_, _, _, i, wd', hwd', hg, j, dep, hdep, hf⟩
    have hmem := (List.mem_filter.mp (List.mem_of_getElem? hwd')).1
    obtain rfl := h.only wd' hmem (gates_iff.mp hg).2
    rw [hget] at hf
    exact ⟨dep, List.mem_of_getElem? hdep, hf⟩
  · rintro ⟨dep, hdep, hf⟩
    have hlisted : wd ∈ c.listNamespace req.ns :=
      List.mem_filter.mpr ⟨h.stored, by simpa using h.ns⟩
    obtain ⟨i, hi⟩ := List.mem_iff_getElem?.mp hlisted
    obtain ⟨j, hj⟩ := List.mem_iff_getElem?.mp hdep
    refine ⟨by simp [h.update], hraise, hlist, i, wd, hi, ?_, j, dep, hj, ?_⟩
    · exact gates_iff.mpr ⟨h.gate, h.dependent⟩
    · rw [hget]
      exact hf

/-- Where the entries are comparable, the webhook denies exactly when the operator evaluates some
existing dependency to Unhealthy. If no dependency is missing, that is when the operator finds
not all of them well. -/
theorem gate_agrees_on_found (hlist : api.list = .ok) (hget : ∀ i j, api.get i j = .ok)
    (h : Governed c req wd) (hcmp : ∀ dep ∈ wd.spec.dependsOn, Comparable c wd dep) :
    ((validate api c req).allowed = false ↔
      ∃ dep ∈ wd.spec.dependsOn, entryStatus c wd dep = some (.ok .unhealthy)) ∧
    ((∀ dep ∈ wd.spec.dependsOn, c.dependency wd dep ≠ none) →
      ∀ rapi ev, evaluateDependencies rapi c wd = .ok ev →
        ((validate api c req).allowed = false ↔ ev.allOk = false)) := by
  have hfound : (validate api c req).allowed = false ↔
      ∃ dep ∈ wd.spec.dependsOn, entryStatus c wd dep = some (.ok .unhealthy) := by
    rw [h.denies_iff hlist hget]
    apply exists_congr
    intro dep
    exact and_congr_right (fun hdep => (hcmp dep hdep).gateFinds_iff)
  refine ⟨hfound, ?_⟩
  intro hpresent rapi ev hev
  rw [hfound, ← Bool.not_eq_true, evaluateDependencies_allOk hev]
  push Not
  apply exists_congr
  intro dep
  refine and_congr_right (fun hdep => ?_)
  have hsome : entryStatus c wd dep ≠ none := by
    unfold entryStatus
    simpa using hpresent dep hdep
  simp [EntryFails, hsome]

end Verdicts

theorem governed_web {c : Cluster} (hc : c.wds.items = [gateObject]) :
    Governed c webScaleUp.mainRequest gateObject where
  stored := by rw [hc]; exact List.mem_singleton_self _
  gate := rfl
  ns := rfl
  dependent := rfl
  only wd' hwd' _ := by
    rw [hc] at hwd'
    exact List.mem_singleton.mp hwd'
  update := rfl
  main := rfl
  raises := ⟨0, 3, rfl, rfl, by decide⟩

/-- A dependency that does not exist keeps the object Degraded, but does not close the gate. -/
theorem gate_ignores_missing :
    Governed missingCluster webScaleUp.mainRequest gateObject ∧
      (validate .good missingCluster webScaleUp.mainRequest).allowed = true ∧
      (evaluateDependencies .good missingCluster gateObject).toOption.map (·.allOk) =
        some false :=
  ⟨governed_web rfl, by decide, by decide⟩

theorem gate_agrees_down :
    Governed (gateCluster (demoDb 0)) webScaleUp.mainRequest gateObject ∧
      (∀ dep ∈ gateObject.spec.dependsOn, Comparable (gateCluster (demoDb 0)) gateObject dep) ∧
      ((validate .good (gateCluster (demoDb 0)) webScaleUp.mainRequest).allowed = false ↔
        ∃ dep ∈ gateObject.spec.dependsOn,
          entryStatus (gateCluster (demoDb 0)) gateObject dep = some (.ok .unhealthy)) := by
  have hgov : Governed (gateCluster (demoDb 0)) webScaleUp.mainRequest gateObject :=
    governed_web rfl
  have hcmp : ∀ dep ∈ gateObject.spec.dependsOn,
      Comparable (gateCluster (demoDb 0)) gateObject dep := by
    intro dep hdep
    obtain rfl := List.mem_singleton.mp hdep
    have hdb : (gateCluster (demoDb 0)).dependency gateObject ⟨"StatefulSet", "db", "", ⟨0, 0, 0⟩⟩ =
      some (demoDb 0) := by decide
    have hst : entryStatus (gateCluster (demoDb 0)) gateObject
      ⟨"StatefulSet", "db", "", ⟨0, 0, 0⟩⟩ = some (.ok .unhealthy) := by rfl
    refine ⟨by decide, ?_, ?_⟩
    · intro obj hobj
      obtain rfl := Option.some.inj (hdb.symm.trans hobj)
      rfl
    · rw [hst]
      simp
  exact ⟨hgov, hcmp, (gate_agrees_on_found rfl (fun _ _ => rfl) hgov hcmp).1⟩

end Klink
