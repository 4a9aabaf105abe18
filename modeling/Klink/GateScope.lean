import Klink.GateVerdicts

/-! # Which objects the gate listens to

The two loops of the webhook look for one reason to deny. Whether there is one does not depend on
the order of the objects or of their entries, and an entry that cannot be read hides no other.
It does depend on where an object lives, and not on whether the object is paused.
-/
namespace Klink

open KeyedStore

def RawObject.count (kind : String) : RawObject → Int32
  | .object spec =>
    if kind = "CronJob" then
      if spec.suspend = some true then 0 else 1
    else spec.replicas.getD 1
  | _ => 0

structure AdmissionRequest.Raises (req : AdmissionRequest) : Prop where
  notCreate : req.operation ≠ .create
  parses : req.object ≠ .malformed
  more : req.oldObject.count req.kind < req.object.count req.kind

def HealthCondition.least (cond : HealthCondition) : Int32 :=
  if cond.minReadyPercent = 0 then 100 else cond.minReadyPercent

def ReplicaWorkload.Short (obj : ReplicaWorkload) (cond : HealthCondition) : Prop :=
  obj.replicas = none ∨ obj.replicas = some 0 ∨
    ∃ n, obj.replicas = some n ∧ readyPercent obj.readyReplicas n < cond.least

def Rollout.Failing (obj : Rollout) : Prop :=
  obj.phase ≠ .healthy ∧ obj.phase ≠ .progressing ∧ obj.phase ≠ .paused

def GateUnhealthy (c : Cluster) (wd : WorkloadDependency) (dep : DependsOnEntry) : Prop :=
  if dep.kind = "Rollout" then
    ∃ obj, c.rollouts (wd.dependsOnKey dep) = some obj ∧ obj.Failing
  else if dep.kind = "StatefulSet" then
    ∃ obj, c.statefulSets (wd.dependsOnKey dep) = some obj ∧ obj.Short dep.condition
  else
    ∃ obj, c.deployments (wd.dependsOnKey dep) = some obj ∧ obj.Short dep.condition

structure WorkloadDependency.GatesRequest (wd : WorkloadDependency) (req : AdmissionRequest) :
    Prop where
  mode : wd.spec.mode = .gate
  dependent : resolveKey wd.spec.dependent wd.ns = ⟨req.kind, req.ns, req.name⟩

section Reasons

variable {c : Cluster} {wd : WorkloadDependency} {dep : DependsOnEntry} {req : AdmissionRequest}

theorem extractReplicas_getD (raw : RawObject) (kind : String) :
    (extractReplicas raw kind).getD 0 = raw.count kind := by
  cases raw with
  | absent => rfl
  | malformed => rfl
  | object spec =>
    unfold extractReplicas RawObject.count
    dsimp only
    split
    · split <;> rfl
    · rfl

theorem extractReplicas_isSome (raw : RawObject) (kind : String) :
    (extractReplicas raw kind).isSome = true ↔ raw ≠ .malformed := by
  cases raw with
  | absent => simp [extractReplicas]
  | malformed => simp [extractReplicas]
  | object spec =>
    unfold extractReplicas
    dsimp only
    split
    · split <;> simp
    · simp

theorem AdmissionRequest.raises_iff : req.Raises ↔ req.operation ≠ .create ∧
    ∃ n, extractReplicas req.object req.kind = some n ∧
      (extractReplicas req.oldObject req.kind).getD 0 < n := by
  rw [extractReplicas_getD]
  constructor
  · rintro ⟨hop, hparses, hmore⟩
    have hsome := (extractReplicas_isSome req.object req.kind).mpr hparses
    obtain ⟨n, hn⟩ := Option.isSome_iff_exists.mp hsome
    refine ⟨hop, n, hn, ?_⟩
    rw [← extractReplicas_getD req.object, hn] at hmore
    exact hmore
  · rintro ⟨hop, n, hn, hlt⟩
    refine ⟨hop, ?_, ?_⟩
    · rw [← extractReplicas_isSome req.object req.kind, hn]
      rfl
    · rw [← extractReplicas_getD req.object, hn]
      exact hlt

theorem checkReplicaHealth_iff (obj : ReplicaWorkload) (cond : HealthCondition) (name : String) :
    (checkReplicaHealth obj.replicas obj.readyReplicas cond name).1 = false ↔ obj.Short cond := by
  obtain ⟨replicas, ready⟩ := obj
  cases replicas with
  | none => simp [checkReplicaHealth, ReplicaWorkload.Short]
  | some n =>
    by_cases h0 : n = 0
    · simp [checkReplicaHealth, ReplicaWorkload.Short, h0]
    · by_cases hlow : readyPercent ready n < cond.least
      · have hlow' := hlow
        unfold HealthCondition.least at hlow'
        simp [checkReplicaHealth, ReplicaWorkload.Short, h0, hlow, hlow']
      · have hlow' := hlow
        unfold HealthCondition.least at hlow'
        simp [checkReplicaHealth, ReplicaWorkload.Short, h0, hlow, hlow']

theorem checkRolloutHealth_iff (obj : Rollout) :
    (checkRolloutHealth obj).1 = false ↔ obj.Failing := by
  unfold checkRolloutHealth Rollout.Failing
  cases obj.phase <;> simp

theorem gateGet_finds {α : Type} {call : CallResult} {o : Option α} {f : α → Bool × String}
    {P : α → Prop} (h : ∀ a, (f a).1 = false ↔ P a) :
    (∃ msg, (gateGet call o).map f = .ok (false, msg)) ↔
      call = .ok ∧ ∃ a, o = some a ∧ P a := by
  cases call with
  | conflict => simp [gateGet, Except.map]
  | failed => simp [gateGet, Except.map]
  | ok =>
    cases o with
    | none => simp [gateGet, Except.map]
    | some a =>
      simp only [gateGet, Except.map, Except.ok.injEq, Option.some.injEq, true_and,
        exists_eq_left', ← h]
      constructor
      · rintro ⟨msg, hf⟩
        rw [hf]
      · intro hf
        exact ⟨(f a).2, Prod.ext hf rfl⟩

theorem gateFinds_iff {call : CallResult} :
    GateFinds call c wd dep ↔ call = .ok ∧ GateUnhealthy c wd dep := by
  unfold GateFinds isDependencyHealthy GateUnhealthy
  split
  · exact gateGet_finds checkRolloutHealth_iff
  · split
    · exact gateGet_finds (fun obj => checkReplicaHealth_iff obj dep.condition dep.name)
    · exact gateGet_finds (fun obj => checkReplicaHealth_iff obj dep.condition dep.name)

theorem gatesRequest_iff : wd.gates req.kind req.name req.ns = true ↔ wd.GatesRequest req := by
  rw [gates_iff]
  exact ⟨fun h => ⟨h.1, h.2⟩, fun h => ⟨h.mode, h.dependent⟩⟩

theorem validate_denies {api : GateApi} :
    (validate api c req).allowed = false ↔ req.Raises ∧ api.list = .ok ∧
      ∃ i wd, (c.listNamespace req.ns)[i]? = some wd ∧ wd.GatesRequest req ∧
        ∃ j dep, wd.spec.dependsOn[j]? = some dep ∧ api.get i j = .ok ∧
          GateUnhealthy c wd dep := by
  rw [validate_denies_iff, AdmissionRequest.raises_iff, and_assoc]
  simp only [Blocked, gatesRequest_iff, gateFinds_iff]

end Reasons

/-- How the API server answers the Gets of the webhook, by the object and the entry each is for. -/
abbrev GateReads := NamespacedName → DependsOnEntry → CallResult

def GateReads.calls (reads : GateReads) (list : CallResult) (c : Cluster) (ns : String) :
    GateApi where
  list := list
  get i j := ((c.listNamespace ns)[i]?.bind
    (fun wd => wd.spec.dependsOn[j]?.map (reads wd.key))).getD .ok

structure Blocks (reads : GateReads) (c : Cluster) (req : AdmissionRequest)
    (wd : WorkloadDependency) : Prop where
  ns : wd.ns = req.ns
  gates : wd.GatesRequest req
  unhealthy : ∃ dep ∈ wd.spec.dependsOn, reads wd.key dep = .ok ∧ GateUnhealthy c wd dep

/-- The positions in the two loops do not matter: it takes one object and one of its entries. -/
theorem GateReads.denies_iff (reads : GateReads) (list : CallResult) (c : Cluster)
    (req : AdmissionRequest) :
    (validate (reads.calls list c req.ns) c req).allowed = false ↔
      req.Raises ∧ list = .ok ∧ ∃ wd ∈ c.wds.items, Blocks reads c req wd := by
  rw [validate_denies]
  refine and_congr_right (fun _ => and_congr_right (fun _ => ?_))
  constructor
  · rintro ⟨i, wd, hwd, hg, j, dep, hdep, hread, hun⟩
    obtain ⟨hmem, hns⟩ := List.mem_filter.mp (List.mem_of_getElem? hwd)
    have hcall : reads wd.key dep = .ok := by
      rw [← hread]
      simp [calls, hwd, hdep]
    exact ⟨wd, hmem, of_decide_eq_true hns, hg, dep, List.mem_of_getElem? hdep, hcall, hun⟩
  · rintro ⟨wd, hmem, hns, hg, dep, hdep, hcall, hun⟩
    have hlisted : wd ∈ c.listNamespace req.ns :=
      List.mem_filter.mpr ⟨hmem, decide_eq_true hns⟩
    obtain ⟨i, hi⟩ := List.mem_iff_getElem?.mp hlisted
    obtain ⟨j, hj⟩ := List.mem_iff_getElem?.mp hdep
    refine ⟨i, wd, hi, hg, j, dep, hj, ?_, hun⟩
    simp [calls, hi, hj, hcall]

theorem allowed_eq_iff {a b : AdmissionResponse} :
    a.allowed = b.allowed ↔ (a.allowed = false ↔ b.allowed = false) := by
  cases a.allowed <;> cases b.allowed <;> simp

def WorkloadDependency.Reordered (wd wd' : WorkloadDependency) : Prop :=
  ∃ deps, deps.Perm wd.spec.dependsOn ∧ wd' = { wd with spec := { wd.spec with dependsOn := deps } }

/-- The same cluster with its objects, and the entries of each, in another order. -/
structure Reordering (c c' : Cluster) : Prop where
  deployments : c'.deployments = c.deployments
  statefulSets : c'.statefulSets = c.statefulSets
  rollouts : c'.rollouts = c.rollouts
  forth : ∀ wd ∈ c.wds.items, ∃ wd' ∈ c'.wds.items, wd.Reordered wd'
  back : ∀ wd' ∈ c'.wds.items, ∃ wd ∈ c.wds.items, wd.Reordered wd'

section Order

variable {c c' : Cluster} {wd wd' : WorkloadDependency} {reads : GateReads}
  {req : AdmissionRequest}

theorem Reordering.gateUnhealthy (h : Reordering c c') (wd : WorkloadDependency)
    (dep : DependsOnEntry) : GateUnhealthy c' wd dep ↔ GateUnhealthy c wd dep := by
  unfold GateUnhealthy
  rw [h.deployments, h.statefulSets, h.rollouts]

theorem Reordering.blocks_iff (h : Reordering c c') (hr : wd.Reordered wd') :
    Blocks reads c' req wd' ↔ Blocks reads c req wd := by
  obtain ⟨deps, hperm, rfl⟩ := hr
  constructor
  · rintro ⟨hns, ⟨hmode, hdep⟩, dep, hmem, hcall, hun⟩
    have hun' : GateUnhealthy c wd dep := (h.gateUnhealthy wd dep).mp hun
    exact ⟨hns, ⟨hmode, hdep⟩, dep, hperm.mem_iff.mp hmem, hcall, hun'⟩
  · rintro ⟨hns, ⟨hmode, hdep⟩, dep, hmem, hcall, hun⟩
    have hun' : GateUnhealthy c' wd dep := (h.gateUnhealthy wd dep).mpr hun
    exact ⟨hns, ⟨hmode, hdep⟩, dep, hperm.mem_iff.mpr hmem, hcall, hun'⟩

theorem Reordering.exists_blocks (h : Reordering c c') :
    (∃ wd ∈ c'.wds.items, Blocks reads c' req wd) ↔
      ∃ wd ∈ c.wds.items, Blocks reads c req wd := by
  constructor
  · rintro ⟨wd', hmem', hb⟩
    obtain ⟨wd, hmem, hr⟩ := h.back wd' hmem'
    exact ⟨wd, hmem, (h.blocks_iff hr).mp hb⟩
  · rintro ⟨wd, hmem, hb⟩
    obtain ⟨wd', hmem', hr⟩ := h.forth wd hmem
    exact ⟨wd', hmem', (h.blocks_iff hr).mpr hb⟩

end Order

/-- The exact verdict. It is the same in whatever order objects and entries come, and one
unhealthy entry that can be read is enough, whatever happens to the other reads. -/
theorem validate_exact (c : Cluster) (req : AdmissionRequest) :
    (∀ api : GateApi, (validate api c req).allowed = false ↔ req.Raises ∧ api.list = .ok ∧
      ∃ i wd, (c.listNamespace req.ns)[i]? = some wd ∧ wd.GatesRequest req ∧
        ∃ j dep, wd.spec.dependsOn[j]? = some dep ∧ api.get i j = .ok ∧
          GateUnhealthy c wd dep) ∧
    (∀ (reads : GateReads) (list : CallResult) (c' : Cluster), Reordering c c' →
      (validate (reads.calls list c' req.ns) c' req).allowed =
        (validate (reads.calls list c req.ns) c req).allowed) ∧
    (∀ i j wd dep, req.Raises → (c.listNamespace req.ns)[i]? = some wd → wd.GatesRequest req →
      wd.spec.dependsOn[j]? = some dep → GateUnhealthy c wd dep →
        ∀ get : ℕ → ℕ → CallResult, get i j = .ok →
          (validate ⟨.ok, get⟩ c req).allowed = false) := by
  refine ⟨fun api => validate_denies, ?_, ?_⟩
  · intro reads list c' h
    rw [allowed_eq_iff, reads.denies_iff, reads.denies_iff, h.exists_blocks]
  · intro i j wd dep hr hwd hg hdep hun get hget
    exact validate_denies.mpr ⟨hr, rfl, i, wd, hwd, hg, j, dep, hdep, hget, hun⟩

def Cluster.unpaused (c : Cluster) : Cluster :=
  { c with wds := ⟨c.wds.items.filter (fun wd => !wd.isPaused),
    (List.filter_sublist.map WorkloadDependency.key).nodup c.wds.nodup⟩ }

theorem Cluster.mem_unpaused {c : Cluster} {wd : WorkloadDependency} :
    wd ∈ c.unpaused.wds.items ↔ wd ∈ c.wds.items ∧ wd.isPaused = false := by
  simp [unpaused, List.mem_filter]

/-- The webhook does not look at the annotation: a paused object leaves no trace in the verdict
exactly when some other object would deny the request as well. -/
theorem pause_opens_gate_iff (reads : GateReads) (list : CallResult) (c : Cluster)
    (req : AdmissionRequest) :
    (validate (reads.calls list c.unpaused req.ns) c.unpaused req).allowed =
        (validate (reads.calls list c req.ns) c req).allowed ↔
      (req.Raises → list = .ok →
        (∃ wd ∈ c.wds.items, wd.isPaused = true ∧ Blocks reads c req wd) →
        ∃ wd ∈ c.wds.items, wd.isPaused = false ∧ Blocks reads c req wd) := by
  have hblocks : ∀ wd, Blocks reads c.unpaused req wd ↔ Blocks reads c req wd :=
    fun wd => ⟨fun h => ⟨h.ns, h.gates, h.unhealthy⟩, fun h => ⟨h.ns, h.gates, h.unhealthy⟩⟩
  rw [allowed_eq_iff, reads.denies_iff, reads.denies_iff]
  simp only [hblocks, Cluster.mem_unpaused, and_assoc]
  constructor
  · rintro h hr hl ⟨wd, hmem, _, hb⟩
    exact (h.mpr ⟨hr, hl, wd, hmem, hb⟩).2.2
  · intro h
    constructor
    · rintro ⟨hr, hl, wd, hmem, _, hb⟩
      exact ⟨hr, hl, wd, hmem, hb⟩
    · rintro ⟨hr, hl, wd, hmem, hb⟩
      refine ⟨hr, hl, ?_⟩
      cases hp : wd.isPaused with
      | true => exact h hr hl ⟨wd, hmem, hp, hb⟩
      | false => exact ⟨wd, hmem, hp, hb⟩

def pausedGate : Cluster :=
  { gateCluster (demoDb 0) with
    wds := ⟨[{ gateObject with annotationPaused := some "true" }], by simp⟩ }

/-- A paused object still closes the gate. -/
theorem paused_object_denies :
    (validate .good pausedGate webScaleUp.mainRequest).allowed = false ∧
      (validate .good pausedGate.unpaused webScaleUp.mainRequest).allowed = true := by
  decide

structure AdmissionRequest.ScalesUp (req : AdmissionRequest) : Prop where
  update : req.operation = .update
  main : req.subResource = ""
  parses : req.object ≠ .malformed
  more : req.oldObject.count req.kind < req.object.count req.kind

theorem AdmissionRequest.ScalesUp.raises {req : AdmissionRequest} (h : req.ScalesUp) :
    req.Raises :=
  ⟨by simp [h.update], h.parses, h.more⟩

/-- The object, wherever it lives, has a reason to keep the workload of the request down. -/
structure Governs (c : Cluster) (req : AdmissionRequest) (wd : WorkloadDependency) : Prop where
  gates : wd.GatesRequest req
  unhealthy : ∃ dep ∈ wd.spec.dependsOn, GateUnhealthy c wd dep

theorem validate_good_denies (c : Cluster) (req : AdmissionRequest) :
    (validate .good c req).allowed = false ↔
      req.Raises ∧ ∃ wd ∈ c.wds.items, wd.ns = req.ns ∧ Governs c req wd := by
  have hcalls : GateReads.calls (fun _ _ => .ok) .ok c req.ns = .good := by
    unfold GateReads.calls GateApi.good
    congr 1
    funext i j
    cases (c.listNamespace req.ns)[i]? with
    | none => rfl
    | some wd => cases hd : wd.spec.dependsOn[j]? <;> simp [hd]
  rw [← hcalls, GateReads.denies_iff]
  refine and_congr_right (fun _ => ?_)
  constructor
  · rintro ⟨_, wd, hmem, hns, hg, dep, hdep, _, hun⟩
    exact ⟨wd, hmem, hns, hg, dep, hdep, hun⟩
  · rintro ⟨wd, hmem, hns, hg, dep, hdep, hun⟩
    exact ⟨rfl, wd, hmem, hns, hg, dep, hdep, rfl, hun⟩

/-- The gate hears of a workload's objects exactly when one of them lives beside it. -/
theorem gate_sees_governing_iff (c : Cluster) (req : AdmissionRequest) (hreq : req.ScalesUp) :
    ((∃ wd ∈ c.wds.items, Governs c req wd) → (validate .good c req).allowed = false) ↔
      ((∃ wd ∈ c.wds.items, Governs c req wd) →
        ∃ wd ∈ c.wds.items, wd.ns = req.ns ∧ Governs c req wd) := by
  rw [validate_good_denies]
  exact ⟨fun h hg => (h hg).2, fun h hg => ⟨hreq.raises, h hg⟩⟩

def remoteGate : WorkloadDependency :=
  { gateObject with
    ns := "ops"
    spec := ⟨⟨"Deployment", "web", "default"⟩, [⟨"StatefulSet", "db", "default", ⟨0, 0, 0⟩⟩], ⟨0⟩,
      .gate, none⟩ }

def remoteCluster : Cluster := { gateCluster (demoDb 0) with wds := ⟨[remoteGate], by simp⟩ }

theorem webScaleUp_scalesUp : webScaleUp.mainRequest.ScalesUp :=
  ⟨rfl, rfl, by decide, by decide⟩

theorem demoDb_short : ReplicaWorkload.Short ⟨some 1, 0⟩ ⟨0, 0, 0⟩ :=
  Or.inr (Or.inr ⟨1, rfl, by decide⟩)

theorem remoteGate_governs : Governs remoteCluster webScaleUp.mainRequest remoteGate :=
  ⟨⟨rfl, rfl⟩, _, List.mem_singleton_self _, ⟨some 1, 0⟩, rfl, demoDb_short⟩

/-- An object in another namespace than its dependent is not heard. -/
theorem remote_object_unheard :
    webScaleUp.mainRequest.ScalesUp ∧
      (∃ wd ∈ remoteCluster.wds.items, Governs remoteCluster webScaleUp.mainRequest wd) ∧
      (validate .good remoteCluster webScaleUp.mainRequest).allowed = true :=
  ⟨webScaleUp_scalesUp, ⟨remoteGate, List.mem_singleton_self _, remoteGate_governs⟩, by decide⟩

theorem gate_sees_governing_local :
    webScaleUp.mainRequest.ScalesUp ∧
      (((∃ wd ∈ (gateCluster (demoDb 0)).wds.items,
          Governs (gateCluster (demoDb 0)) webScaleUp.mainRequest wd) →
        (validate .good (gateCluster (demoDb 0)) webScaleUp.mainRequest).allowed = false) ↔
      ((∃ wd ∈ (gateCluster (demoDb 0)).wds.items,
          Governs (gateCluster (demoDb 0)) webScaleUp.mainRequest wd) →
        ∃ wd ∈ (gateCluster (demoDb 0)).wds.items, wd.ns = webScaleUp.mainRequest.ns ∧
          Governs (gateCluster (demoDb 0)) webScaleUp.mainRequest wd)) :=
  ⟨webScaleUp_scalesUp, gate_sees_governing_iff _ _ webScaleUp_scalesUp⟩

end Klink
