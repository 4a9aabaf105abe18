import Klink.ClusterState

/-! # Writing the status

`setStatus` snapshots three optional fields of the caller, writes, and after a conflict reads
the object again and re-applies the snapshot, at most three times in all.
-/
namespace Klink

structure ConditionSpec where
  condType : String
  status : ConditionStatus
  reason : String
  deriving DecidableEq, Repr

/-- The phase table of `setCondition`. Released and Observed have no row. -/
def conditionSpec : DependencyPhase → Option ConditionSpec
  | .healthy => some ⟨"Ready", .isTrue, "DependenciesHealthy"⟩
  | .degraded => some ⟨"Ready", .isFalse, "DependencyDegraded"⟩
  | .suspended => some ⟨"Ready", .isFalse, "DependentSuspended"⟩
  | .paused => some ⟨"Ready", .isUnknown, "Paused"⟩
  | .unknown => some ⟨"Ready", .isUnknown, "DependentNotFound"⟩
  | _ => none

def updateConditions (now : Int) (generation : Int) (spec : ConditionSpec) (msg : String) :
    List Condition → List Condition
  | [] => [⟨spec.condType, spec.status, spec.reason, msg, now, generation⟩]
  | c :: cs =>
    if c.type = spec.condType then
      if c.status = spec.status ∧ c.reason = spec.reason then
        { c with message := msg, observedGeneration := generation } :: cs
      else ⟨spec.condType, spec.status, spec.reason, msg, now, generation⟩ :: cs
    else c :: updateConditions now generation spec msg cs

def setCondition (now : Int) (wd : WorkloadDependency) (phase : DependencyPhase) (msg : String) :
    WorkloadDependency :=
  match conditionSpec phase with
  | none => wd
  | some spec =>
    { wd with
      status := { wd.status with
        conditions := updateConditions now wd.generation spec msg wd.status.conditions } }

/-- The caller's snapshot overrides a field only where it is set. -/
def applyFields (now : Int) (caller : WorkloadDependencyStatus) (phase : DependencyPhase)
    (msg : String) (wd : WorkloadDependency) : WorkloadDependency :=
  setCondition now
    { wd with
      status := { wd.status with
        suspendedAt :=
          if phase = .suspended then wd.status.suspendedAt.or (some now) else none
        phase := phase
        message := msg
        savedReplicas := caller.savedReplicas.or wd.status.savedReplicas
        degradedSince := caller.degradedSince.or wd.status.degradedSince
        healthySince := caller.healthySince.or wd.status.healthySince } }
    phase msg

inductive Attempt where
  | written (wd : WorkloadDependency)
  | exhausted
  | failed (e : ApiError)

def updateStatus (api : Api) (applyFields : WorkloadDependency → WorkloadDependency) :
    ℕ → ℕ → WorkloadDependency → List Effect × Attempt
  | 0, _, _ => ([], .exhausted)
  | retries + 1, i, wd =>
    match api.statusUpdate i with
    | .ok => ([.statusUpdate wd .ok], .written wd)
    | .failed =>
      ([.statusUpdate wd .failed, .recordReconcileError wd.ns "status_update"], .failed .failed)
    | .conflict =>
      -- the fields of the caller go onto the object as it is now
      match api.reread i with
      | none => ([.statusUpdate wd .conflict], .failed .failed)
      | some latest =>
        let rest := updateStatus api applyFields retries (i + 1) (applyFields latest)
        (.statusUpdate wd .conflict :: rest.1, rest.2)

def Api.persists (api : Api) : ℕ → ℕ → Bool
  | 0, _ => false
  | retries + 1, i =>
    match api.statusUpdate i with
    | .ok => true
    | .failed => false
    | .conflict => (api.reread i).isSome && api.persists retries (i + 1)

def shouldNotify (onPhases : List DependencyPhase) (phase : DependencyPhase) : Bool :=
  if onPhases = [] then decide (phase = .suspended ∨ phase = .healthy)
  else onPhases.contains phase

def resolveWebhookURL (api : Api) (wd : WorkloadDependency) (notify : NotifySpec) :
    Option String :=
  match notify.webhookSecretRef with
  | some ref =>
    (api.getSecret ⟨wd.ns, ref.name⟩).bind (List.lookup (if ref.key = "" then "url" else ref.key))
  | none => some notify.webhook

def maybeNotify (api : Api) (now : Int) (wd : WorkloadDependency)
    (prevPhase newPhase : DependencyPhase) : List Effect :=
  match wd.spec.notify with
  | none => []
  | some notify =>
    if shouldNotify notify.onPhases newPhase then
      match resolveWebhookURL api wd notify with
      | none => []
      | some url =>
        if url = "" then []
        else [.sendNotification url
          ⟨wd.name, wd.ns, newPhase, prevPhase, wd.status.message, wd.spec.dependent.name,
            wd.spec.dependent.kind, truncateTime now⟩]
    else []

def maxRetries : ℕ := 3

def Api.persistsStatus (api : Api) : Bool := api.persists maxRetries 0

def statusAttempt (api : Api) (now : Int) (wd : WorkloadDependency) (phase : DependencyPhase)
    (msg : String) : List Effect × Attempt :=
  let apply := applyFields now wd.status phase msg
  updateStatus api apply maxRetries 0 (apply wd)

def setStatus (api : Api) (now : Int) (wd : WorkloadDependency) (phase : DependencyPhase)
    (msg : String) (result : Option Result) : Outcome :=
  match statusAttempt api now wd phase msg with
  | (effects, .failed e) => ⟨effects, .error e⟩
  | (effects, .exhausted) => ⟨effects, .ok ⟨true, 0⟩⟩
  | (effects, .written w) =>
    ⟨effects ++ .recordPhase w.ns w.name phase ::
        (if wd.status.phase ≠ phase then maybeNotify api now w wd.status.phase phase else []),
      .ok (result.getD (.after (15 * second)))⟩

def Cluster.storeAttempt (c : Cluster) : Attempt → Cluster
  | .written w => c.putStatus w
  | _ => c

@[simp] theorem setCondition_key (now : Int) (wd : WorkloadDependency) (phase : DependencyPhase)
    (msg : String) : (setCondition now wd phase msg).key = wd.key := by
  unfold setCondition
  split <;> rfl

@[simp] theorem applyFields_key (now : Int) (caller : WorkloadDependencyStatus)
    (phase : DependencyPhase) (msg : String) (wd : WorkloadDependency) :
    (applyFields now caller phase msg wd).key = wd.key := by
  rw [applyFields, setCondition_key]
  rfl

theorem applyAll_maybeNotify (c : Cluster) (api : Api) (now : Int) (wd : WorkloadDependency)
    (p q : DependencyPhase) : c.applyAll (maybeNotify api now wd p q) = c := by
  unfold maybeNotify
  repeat' split
  all_goals rfl

theorem mem_updateStatus {api : Api} {f : WorkloadDependency → WorkloadDependency}
    {retries i : ℕ} {wd : WorkloadDependency} {e : Effect}
    (h : e ∈ (updateStatus api f retries i wd).1) :
    (∃ w r, e = .statusUpdate w r) ∨ ∃ ns, e = .recordReconcileError ns "status_update" := by
  induction retries generalizing i wd with
  | zero => cases h
  | succ retries ih =>
    cases hu : api.statusUpdate i with
    | ok =>
      simp only [updateStatus, hu, List.mem_singleton] at h
      exact Or.inl ⟨_, _, h⟩
    | failed =>
      simp only [updateStatus, hu, List.mem_cons, List.not_mem_nil, or_false] at h
      exact h.imp (fun h => ⟨_, _, h⟩) (fun h => ⟨_, h⟩)
    | conflict =>
      cases hr : api.reread i with
      | none =>
        simp only [updateStatus, hu, hr, List.mem_singleton] at h
        exact Or.inl ⟨_, _, h⟩
      | some latest =>
        simp only [updateStatus, hu, hr, List.mem_cons] at h
        rcases h with h | h
        · exact Or.inl ⟨_, _, h⟩
        · exact ih h

theorem mem_maybeNotify {api : Api} {now : Int} {wd : WorkloadDependency} {p q : DependencyPhase}
    {e : Effect} (h : e ∈ maybeNotify api now wd p q) :
    ∃ url payload, e = .sendNotification url payload := by
  unfold maybeNotify at h
  repeat' split at h
  all_goals simp only [List.not_mem_nil, List.mem_singleton] at h
  exact ⟨_, _, h⟩

theorem mem_setStatus {api : Api} {now : Int} {wd : WorkloadDependency} {phase : DependencyPhase}
    {msg : String} {result : Option Result} {e : Effect}
    (h : e ∈ (setStatus api now wd phase msg result).effects) :
    (∃ w r, e = .statusUpdate w r) ∨ (∃ ns, e = .recordReconcileError ns "status_update") ∨
      (∃ ns name p, e = .recordPhase ns name p) ∨
      ∃ url payload, e = .sendNotification url payload := by
  have hu : ∀ {e}, e ∈ (statusAttempt api now wd phase msg).1 →
      (∃ w r, e = .statusUpdate w r) ∨ ∃ ns, e = .recordReconcileError ns "status_update" :=
    mem_updateStatus
  unfold setStatus at h
  generalize statusAttempt api now wd phase msg = attempt at hu h
  obtain ⟨effects, w | _ | e⟩ := attempt
  · rcases List.mem_append.mp h with h | h
    · exact (hu h).imp_right Or.inl
    · rcases List.mem_cons.mp h with h | h
      · exact Or.inr (Or.inr (Or.inl ⟨_, _, _, h⟩))
      · split at h
        · exact Or.inr (Or.inr (Or.inr (mem_maybeNotify h)))
        · cases h
  · exact (hu h).imp_right Or.inl
  · exact (hu h).imp_right Or.inl

theorem applyAll_updateStatus (api : Api) (f : WorkloadDependency → WorkloadDependency)
    (retries i : ℕ) (wd : WorkloadDependency) (c : Cluster) :
    c.applyAll (updateStatus api f retries i wd).1 =
      c.storeAttempt (updateStatus api f retries i wd).2 := by
  induction retries generalizing i wd with
  | zero => rfl
  | succ retries ih =>
    cases hu : api.statusUpdate i with
    | ok => simp [updateStatus, hu, Cluster.apply, Cluster.storeAttempt]
    | failed => simp [updateStatus, hu, Cluster.apply, Cluster.storeAttempt]
    | conflict =>
      cases hr : api.reread i with
      | none => simp [updateStatus, hu, hr, Cluster.apply, Cluster.storeAttempt]
      | some latest => simpa [updateStatus, hu, hr, Cluster.apply] using ih (i + 1) (f latest)

/-- The only stored object a status write changes is the status it finally persists. -/
theorem applyAll_setStatus (c : Cluster) (api : Api) (now : Int) (wd : WorkloadDependency)
    (phase : DependencyPhase) (msg : String) (result : Option Result) :
    c.applyAll (setStatus api now wd phase msg result).effects =
      c.storeAttempt (statusAttempt api now wd phase msg).2 := by
  have hu : c.applyAll (statusAttempt api now wd phase msg).1 =
      c.storeAttempt (statusAttempt api now wd phase msg).2 := applyAll_updateStatus _ _ _ _ _ _
  unfold setStatus
  generalize statusAttempt api now wd phase msg = attempt at hu ⊢
  obtain ⟨effects, w | _ | e⟩ := attempt
  · change c.applyAll (effects ++ _) = _
    rw [Cluster.applyAll_append, hu, Cluster.applyAll_cons]
    split
    · exact applyAll_maybeNotify _ _ _ _ _ _
    · rfl
  · exact hu
  · exact hu

theorem statusAttempt_ok {api : Api} (h : api.statusUpdate 0 = .ok) (now : Int)
    (wd : WorkloadDependency) (phase : DependencyPhase) (msg : String) :
    (statusAttempt api now wd phase msg).2 =
      .written (applyFields now wd.status phase msg wd) := by
  simp [statusAttempt, updateStatus, maxRetries, h]

theorem persistsStatus_of_ok {api : Api} (h : api.statusUpdate 0 = .ok) :
    api.persistsStatus = true := by
  simp [Api.persistsStatus, Api.persists, maxRetries, h]

theorem updateStatus_written_iff (api : Api) (f : WorkloadDependency → WorkloadDependency)
    (retries i : ℕ) (wd : WorkloadDependency) :
    (∃ w, (updateStatus api f retries i wd).2 = .written w) ↔ api.persists retries i = true := by
  induction retries generalizing i wd with
  | zero => simp [updateStatus, Api.persists]
  | succ retries ih =>
    cases hu : api.statusUpdate i with
    | ok => simp [updateStatus, Api.persists, hu]
    | failed => simp [updateStatus, Api.persists, hu]
    | conflict =>
      cases hr : api.reread i with
      | none => simp [updateStatus, Api.persists, hu, hr]
      | some latest => simpa [updateStatus, Api.persists, hu, hr] using ih (i + 1) (f latest)

theorem statusAttempt_written_iff (api : Api) (now : Int) (wd : WorkloadDependency)
    (phase : DependencyPhase) (msg : String) :
    (∃ w, (statusAttempt api now wd phase msg).2 = .written w) ↔ api.persistsStatus = true :=
  updateStatus_written_iff api _ maxRetries 0 _

end Klink
