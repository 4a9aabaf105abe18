import Klink.DependencyHealth

/-! # The gate webhook

`GateHandler.validate` on a decoded admission request. The webhook reads the same cluster as the
operator but evaluates dependencies with code of its own, and allows whatever it cannot check.
-/
namespace Klink

inductive Operation where
  | create
  | update
  | delete
  | connect
  deriving DecidableEq, Repr

structure RawSpec where
  suspend : Option Bool
  replicas : Option Int32
  deriving DecidableEq, Repr

inductive RawObject where
  | absent
  | malformed
  | object (spec : RawSpec)
  deriving DecidableEq, Repr

structure AdmissionRequest where
  operation : Operation
  kind : String
  name : String
  ns : String
  resource : String
  subResource : String
  object : RawObject
  oldObject : RawObject
  deriving DecidableEq, Repr

structure AdmissionResponse where
  allowed : Bool
  code : ℕ
  reason : String
  message : String
  deriving DecidableEq, Repr

def allow : AdmissionResponse := ⟨true, 200, "", ""⟩

def deny (reason : String) : AdmissionResponse := ⟨false, 403, "Forbidden", reason⟩

/-- A CronJob counts as one replica while it is not suspended. A missing count means one. -/
def extractReplicas (raw : RawObject) (kind : String) : Option Int32 :=
  match raw with
  | .absent => some 0
  | .malformed => none
  | .object spec =>
    if kind = "CronJob" then
      if spec.suspend = some true then some 0 else some 1
    else some (spec.replicas.getD 1)

/-- How the API server answers the calls of one validation: the List, and the Get for each entry
of each listed object. -/
structure GateApi where
  list : CallResult
  get : ℕ → ℕ → CallResult

def RolloutPhase.text : RolloutPhase → String
  | .healthy => "Healthy"
  | .degraded => "Degraded"
  | .progressing => "Progressing"
  | .paused => "Paused"
  | .other text => text

def readyText (ready desired percent least : Int32) : String :=
  toString ready.toInt ++ "/" ++ toString desired.toInt ++ " ready (" ++ toString percent.toInt ++
    "% < " ++ toString least.toInt ++ "%)"

def checkReplicaHealth (desired : Option Int32) (ready : Int32) (cond : HealthCondition)
    (name : String) : Bool × String :=
  let zeroMsg := name ++ " has 0 desired replicas"
  match desired with
  | none => (false, zeroMsg)
  | some desired =>
    if desired = 0 then (false, zeroMsg)
    else
      let minPercent := if cond.minReadyPercent = 0 then 100 else cond.minReadyPercent
      let percent := readyPercent ready desired
      if percent < minPercent then (false, readyText ready desired percent minPercent)
      else (true, "")

def checkRolloutHealth (obj : Rollout) : Bool × String :=
  match obj.phase with
  | .healthy | .progressing | .paused => (true, "")
  | phase => (false, "phase=" ++ phase.text)

def gateGet {α : Type} (call : CallResult) (stored : Option α) : Except GetError α :=
  match call with
  | .ok =>
    match stored with
    | some obj => .ok obj
    | none => .error .notFound
  | r => .error (.api r.toError)

/-- Any kind but Rollout and StatefulSet is looked up as a Deployment. -/
def isDependencyHealthy (call : CallResult) (c : Cluster) (kind name ns : String)
    (cond : HealthCondition) : Except GetError (Bool × String) :=
  if kind = "Rollout" then
    (gateGet call (c.rollouts ⟨ns, name⟩)).map checkRolloutHealth
  else if kind = "StatefulSet" then
    (gateGet call (c.statefulSets ⟨ns, name⟩)).map
      (fun sts => checkReplicaHealth sts.replicas sts.readyReplicas cond name)
  else
    (gateGet call (c.deployments ⟨ns, name⟩)).map
      (fun dep => checkReplicaHealth dep.replicas dep.readyReplicas cond name)

def blockedMsg (wd : WorkloadDependency) (dep : DependsOnEntry) (msg : String) : String :=
  "klink gate: scale blocked by WorkloadDependency/" ++ wd.name ++ " — dependency " ++ dep.kind ++
    "/" ++ dep.name ++ " is not healthy: " ++ msg

/-- The loop over the entries of one object, from entry `j` on: the reason to deny, if any. -/
def checkEntries (get : ℕ → CallResult) (c : Cluster) (wd : WorkloadDependency) :
    ℕ → List DependsOnEntry → Option String
  | _, [] => none
  | j, dep :: rest =>
    match isDependencyHealthy (get j) c dep.kind dep.name (wd.dependsOnNs dep) dep.condition with
    -- fail open: what cannot be read, or is missing, is skipped
    | .error _ => checkEntries get c wd (j + 1) rest
    | .ok (true, _) => checkEntries get c wd (j + 1) rest
    | .ok (false, msg) => some (blockedMsg wd dep msg)

def WorkloadDependency.gates (wd : WorkloadDependency) (kind name ns : String) : Bool :=
  decide (wd.spec.mode = .gate ∧ wd.spec.dependent.kind = kind ∧ wd.spec.dependent.name = name ∧
    wd.dependentNs = ns)

def checkWDs (api : GateApi) (c : Cluster) (kind name ns : String) :
    ℕ → List WorkloadDependency → Option String
  | _, [] => none
  | i, wd :: rest =>
    if wd.gates kind name ns then
      match checkEntries (api.get i) c wd 0 wd.spec.dependsOn with
      | some reason => some reason
      | none => checkWDs api c kind name ns (i + 1) rest
    else checkWDs api c kind name ns (i + 1) rest

def validate (api : GateApi) (c : Cluster) (req : AdmissionRequest) : AdmissionResponse :=
  if req.operation = .create then allow
  else
    match extractReplicas req.object req.kind with
    | none => allow
    | some newReplicas =>
      -- an old object that cannot be read counts as zero
      let oldReplicas := (extractReplicas req.oldObject req.kind).getD 0
      if newReplicas ≤ oldReplicas then allow
      else
        match api.list with
        | .ok =>
          match checkWDs api c req.kind req.name req.ns 0 (c.listNamespace req.ns) with
          | some reason => deny reason
          | none => allow
        | _ => allow

def GateFinds (call : CallResult) (c : Cluster) (wd : WorkloadDependency) (dep : DependsOnEntry) :
    Prop :=
  ∃ msg, isDependencyHealthy call c dep.kind dep.name (wd.dependsOnNs dep) dep.condition =
    .ok (false, msg)

/-- Some object of the namespace in gate mode gives a reason to keep the workload down. -/
def Blocked (api : GateApi) (c : Cluster) (kind name ns : String) : Prop :=
  ∃ i wd, (c.listNamespace ns)[i]? = some wd ∧ wd.gates kind name ns = true ∧
    ∃ j dep, wd.spec.dependsOn[j]? = some dep ∧ GateFinds (api.get i j) c wd dep

theorem exists_getElem?_cons {α : Type} {P : ℕ → α → Prop} {i : ℕ} {a : α} {as : List α} :
    (∃ l b, (a :: as)[l]? = some b ∧ P (i + l) b) ↔
      P i a ∨ ∃ l b, as[l]? = some b ∧ P (i + 1 + l) b := by
  constructor
  · rintro ⟨l, b, hb, hp⟩
    cases l with
    | zero =>
      obtain rfl : a = b := Option.some.inj hb
      exact Or.inl hp
    | succ l =>
      have hl : i + 1 + l = i + (l + 1) := by omega
      exact Or.inr ⟨l, b, hb, hl ▸ hp⟩
  · rintro (hp | ⟨l, b, hb, hp⟩)
    · exact ⟨0, a, rfl, hp⟩
    · have hl : i + (l + 1) = i + 1 + l := by omega
      exact ⟨l + 1, b, hb, hl ▸ hp⟩

section Verdict

variable {api : GateApi} {c : Cluster} {wd : WorkloadDependency}

theorem checkEntries_isSome {get : ℕ → CallResult} {j : ℕ} {deps : List DependsOnEntry} :
    (checkEntries get c wd j deps).isSome = true ↔
      ∃ l dep, deps[l]? = some dep ∧ GateFinds (get (j + l)) c wd dep := by
  induction deps generalizing j with
  | nil => simp [checkEntries]
  | cons dep rest ih =>
    have hsplit : (∃ l d, (dep :: rest)[l]? = some d ∧ GateFinds (get (j + l)) c wd d) ↔
        GateFinds (get j) c wd dep ∨
          ∃ l d, rest[l]? = some d ∧ GateFinds (get (j + 1 + l)) c wd d :=
      exists_getElem?_cons (P := fun l d => GateFinds (get l) c wd d)
    rw [hsplit, ← ih, checkEntries, GateFinds]
    split
    · next hv => simp [hv]
    · next hv => simp [hv]
    · next msg hv => simp [hv]

theorem checkWDs_isSome {kind name ns : String} {i : ℕ} {wds : List WorkloadDependency} :
    (checkWDs api c kind name ns i wds).isSome = true ↔
      ∃ l wd, wds[l]? = some wd ∧ wd.gates kind name ns = true ∧
        ∃ j dep, wd.spec.dependsOn[j]? = some dep ∧ GateFinds (api.get (i + l) j) c wd dep := by
  induction wds generalizing i with
  | nil => simp [checkWDs]
  | cons wd rest ih =>
    have hentries : (checkEntries (api.get i) c wd 0 wd.spec.dependsOn).isSome = true ↔
        ∃ j dep, wd.spec.dependsOn[j]? = some dep ∧ GateFinds (api.get i j) c wd dep := by
      rw [checkEntries_isSome]
      simp only [Nat.zero_add]
    rw [exists_getElem?_cons (P := fun l wd => wd.gates kind name ns = true ∧
        ∃ j dep, wd.spec.dependsOn[j]? = some dep ∧ GateFinds (api.get l j) c wd dep),
      ← ih, ← hentries, checkWDs]
    by_cases hg : wd.gates kind name ns = true
    · rw [if_pos hg]
      cases hc : checkEntries (api.get i) c wd 0 wd.spec.dependsOn with
      | some reason => simp [hg]
      | none => simp
    · rw [if_neg hg]
      simp [hg]

theorem validate_denies_iff (req : AdmissionRequest) :
    (validate api c req).allowed = false ↔ req.operation ≠ .create ∧
      (∃ n, extractReplicas req.object req.kind = some n ∧
        (extractReplicas req.oldObject req.kind).getD 0 < n) ∧
      api.list = .ok ∧ Blocked api c req.kind req.name req.ns := by
  have hblocked : (checkWDs api c req.kind req.name req.ns 0 (c.listNamespace req.ns)).isSome =
      true ↔ Blocked api c req.kind req.name req.ns := by
    rw [checkWDs_isSome]
    simp only [Nat.zero_add]
    rfl
  rw [← hblocked]
  unfold validate
  by_cases ho : req.operation = .create
  · simp [ho, allow]
  · rw [if_neg ho]
    cases hn : extractReplicas req.object req.kind with
    | none => simp [allow]
    | some n =>
      dsimp only
      by_cases hle : n ≤ (extractReplicas req.oldObject req.kind).getD 0
      · rw [if_pos hle]
        simp [allow, Int32.not_lt.mpr hle]
      · rw [if_neg hle]
        have hlt := Int32.not_le.mp hle
        cases api.list with
        | conflict => simp [allow]
        | failed => simp [allow]
        | ok =>
          cases checkWDs api c req.kind req.name req.ns 0 (c.listNamespace req.ns) with
          | none => simp [allow]
          | some reason => simp [deny, ho, hlt]

end Verdict

end Klink
