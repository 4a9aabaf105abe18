import Klink.CertLifetime
import Klink.GateVerdicts

/-! # What is admitted

The two handlers of the webhook server, behind an API server that asks them. The gate lets pass
what it cannot check, the validator of WorkloadDependencies refuses what it cannot read; the chart
installs them with the failure policies Ignore and Fail. Whether the API server gets an answer at
all depends on the certificate the server holds and on the bundles in the two configurations. The
API server is a parameter, of which only its documented contract is used.
-/
namespace Klink

open TransitionSystem

/-! ## The validator of WorkloadDependencies -/

def fault (broken : Prop) [Decidable broken] (message : String) : List String :=
  if broken then [message] else []

def entryField (i : ℕ) (rest : String) : String :=
  "spec.dependsOn[" ++ toString i ++ "]" ++ rest

def entryFaults (check : ℕ → DependsOnEntry → List String) : ℕ → List DependsOnEntry → List String
  | _, [] => []
  | i, dep :: rest => check i dep ++ entryFaults check (i + 1) rest

def checkTarget (i : ℕ) (dep : DependsOnEntry) : List String :=
  fault (dep.kind = "CronJob") (entryField i (": CronJob cannot be used as a dependency " ++
    "(no replicas to check); use it as a dependent instead")) ++
  fault (dep.name = "") (entryField i ".name is required")

def checkWindows (i : ℕ) (dep : DependsOnEntry) : List String :=
  fault (dep.condition.window < 0) (entryField i ".condition.window must be positive") ++
  fault (dep.condition.recoveryWindow < 0)
    (entryField i ".condition.recoveryWindow must be positive")

def checkNotify : Option NotifySpec → List String
  | none => []
  | some notify =>
    fault (notify.webhook ≠ "" ∧ notify.webhookSecretRef ≠ none)
      "spec.notify: set either webhook or webhookSecretRef, not both" ++
    fault (notify.webhook = "" ∧ notify.webhookSecretRef = none)
      "spec.notify: must set either webhook or webhookSecretRef"

def validateWD (wd : WorkloadDependency) : List String :=
  fault (wd.spec.dependent.kind = "") "spec.dependent.kind is required" ++
  fault (wd.spec.dependent.name = "") "spec.dependent.name is required" ++
  fault (wd.spec.dependsOn.length = 0) "spec.dependsOn must have at least one entry" ++
  entryFaults checkTarget 0 wd.spec.dependsOn ++
  fault (wd.spec.onDegraded.maxSuspendDuration < 0)
    "spec.onDegraded.maxSuspendDuration must be positive" ++
  entryFaults checkWindows 0 wd.spec.dependsOn ++
  checkNotify wd.spec.notify

def wdAllow : AdmissionResponse := ⟨true, 200, "", ""⟩

def wdDeny (reason : String) : AdmissionResponse := ⟨false, 422, "Invalid", reason⟩

abbrev DecodedWD := Except String WorkloadDependency

def WDValidatorHandler.validate : DecodedWD → AdmissionResponse
  | .error err => wdDeny ("failed to decode WorkloadDependency: " ++ err)
  | .ok wd =>
    match validateWD wd with
    | [] => wdAllow
    | err :: _ => wdDeny ("validation failed: " ++ err)

structure WorkloadDependency.WellFormed (wd : WorkloadDependency) : Prop where
  kind : wd.spec.dependent.kind ≠ ""
  name : wd.spec.dependent.name ≠ ""
  entries : wd.spec.dependsOn ≠ []
  target : ∀ dep ∈ wd.spec.dependsOn, dep.kind ≠ "CronJob" ∧ dep.name ≠ ""
  maxSuspend : 0 ≤ wd.spec.onDegraded.maxSuspendDuration
  windows : ∀ dep ∈ wd.spec.dependsOn, 0 ≤ dep.condition.window ∧ 0 ≤ dep.condition.recoveryWindow
  notify : ∀ n, wd.spec.notify = some n → (n.webhook = "" ↔ n.webhookSecretRef ≠ none)

section Validator

variable {wd wd' : WorkloadDependency}

@[simp] theorem fault_eq_nil {broken : Prop} [Decidable broken] {message : String} :
    fault broken message = [] ↔ ¬ broken := by
  unfold fault
  split
  · next h => simp [h]
  · next h => simp [h]

theorem entryFaults_eq_nil {check : ℕ → DependsOnEntry → List String}
    {P : DependsOnEntry → Prop} (hcheck : ∀ i dep, check i dep = [] ↔ P dep) (i : ℕ)
    (deps : List DependsOnEntry) : entryFaults check i deps = [] ↔ ∀ dep ∈ deps, P dep := by
  induction deps generalizing i with
  | nil => simp [entryFaults]
  | cons dep rest ih => simp [entryFaults, hcheck, ih]

theorem checkTarget_eq_nil (i : ℕ) (dep : DependsOnEntry) :
    checkTarget i dep = [] ↔ dep.kind ≠ "CronJob" ∧ dep.name ≠ "" := by
  simp [checkTarget]

theorem checkWindows_eq_nil (i : ℕ) (dep : DependsOnEntry) :
    checkWindows i dep = [] ↔ 0 ≤ dep.condition.window ∧ 0 ≤ dep.condition.recoveryWindow := by
  simp [checkWindows]

theorem checkNotify_eq_nil (notify : Option NotifySpec) :
    checkNotify notify = [] ↔
      ∀ n, notify = some n → (n.webhook = "" ↔ n.webhookSecretRef ≠ none) := by
  cases notify with
  | none => simp [checkNotify]
  | some n =>
    simp only [checkNotify, List.append_eq_nil_iff, fault_eq_nil, Option.some.injEq, forall_eq']
    tauto

theorem validateWD_eq_nil : validateWD wd = [] ↔ wd.WellFormed := by
  simp only [validateWD, List.append_eq_nil_iff, fault_eq_nil,
    entryFaults_eq_nil checkTarget_eq_nil, entryFaults_eq_nil checkWindows_eq_nil,
    checkNotify_eq_nil, List.length_eq_zero_iff, not_lt]
  constructor
  · rintro ⟨⟨⟨⟨⟨⟨hk, hn⟩, he⟩, ht⟩, hm⟩, hw⟩, hnot⟩
    exact ⟨hk, hn, he, ht, hm, hw, hnot⟩
  · rintro ⟨hk, hn, he, ht, hm, hw, hnot⟩
    exact ⟨⟨⟨⟨⟨⟨hk, hn⟩, he⟩, ht⟩, hm⟩, hw⟩, hnot⟩

instance : Decidable wd.WellFormed := decidable_of_iff _ validateWD_eq_nil

theorem WorkloadDependency.WellFormed.of_spec (hw : wd.WellFormed) (h : wd'.spec = wd.spec) :
    wd'.WellFormed := by
  rw [← validateWD_eq_nil] at hw ⊢
  unfold validateWD at hw ⊢
  rwa [h]

theorem WDValidatorHandler.validate_allowed (raw : DecodedWD) :
    (validate raw).allowed = true ↔ ∃ wd, raw = .ok wd ∧ wd.WellFormed := by
  cases raw with
  | error err => simp [validate, wdDeny]
  | ok wd =>
    have hiff : validateWD wd = [] ↔ wd.WellFormed := validateWD_eq_nil
    cases hv : validateWD wd with
    | nil =>
      have hw : wd.WellFormed := hiff.mp hv
      simp [validate, hv, wdAllow, hw]
    | cons err rest =>
      have hw : ¬ wd.WellFormed := fun hw => by simp [hiff.mpr hw] at hv
      simp [validate, hv, wdDeny, hw]

end Validator

/-! ## The handlers -/

/-- The fields of a review that the handlers read. The raw object is seen twice: by the gate as some
workload, by the validator as a WorkloadDependency. -/
structure Review where
  uid : String
  request : AdmissionRequest
  decoded : DecodedWD

inductive ReviewBody where
  | unreadable
  | empty
  | undecodable
  | noRequest
  | review (r : Review)

inductive HttpReply where
  | error (code : ℕ) (text : String)
  | status (code : ℕ)
  | review (uid : String) (response : AdmissionResponse)
  deriving DecidableEq, Repr

/-- A review without a request makes `validate` panic, and the handler recovers. -/
def GateHandler.serveHTTP (api : GateApi) (c : Cluster) : ReviewBody → HttpReply
  | .unreadable => .error 400 "failed to read body"
  | .empty => .error 400 "failed to decode admission review"
  | .undecodable => .error 400 "failed to decode admission review"
  | .noRequest => .error 500 "internal server error"
  | .review r => .review r.uid (validate api c r.request)

def WDValidatorHandler.serveHTTP : ReviewBody → HttpReply
  | .unreadable => .error 400 "failed to read body"
  | .empty => .error 400 "failed to read body"
  | .undecodable => .error 400 "invalid admission review"
  | .noRequest => .error 400 "invalid admission review"
  | .review r => .review r.uid (WDValidatorHandler.validate r.decoded)

def mux (api : GateApi) (c : Cluster) (path : String) (body : ReviewBody) : HttpReply :=
  if path = "/validate" then GateHandler.serveHTTP api c body
  else if path = "/validate-wd" then WDValidatorHandler.serveHTTP body
  else if path = "/healthz" then .status 200
  else .error 404 "404 page not found"

/-! ## The API server -/

inductive FailurePolicy where
  | ignore
  | fail
  deriving DecidableEq, Repr

/-- An entry of the chart: for which requests it is asked, where, and what holds if it is not
answered. -/
structure HookSpec where
  config : String
  path : String
  failurePolicy : FailurePolicy
  operations : List Operation
  resources : List String
  excluded : List String
  deriving DecidableEq, Repr

def gateHook : HookSpec where
  config := webhookConfigName
  path := "/validate"
  failurePolicy := .ignore
  operations := [.create, .update]
  resources := ["deployments", "deployments/scale", "statefulsets", "statefulsets/scale",
    "rollouts", "cronjobs"]
  excluded := ["kube-system", "klink-system"]

def wdHook : HookSpec where
  config := wdValidatorName
  path := "/validate-wd"
  failurePolicy := .fail
  operations := [.create, .update]
  resources := ["workloaddependencies"]
  excluded := []

/-- How an API server treats a webhook: which requests it is asked about, and what is made of its
reply, or of none. What is made of other replies is left open. -/
structure Admission where
  covers : HookSpec → AdmissionRequest → Bool
  decides : HookSpec → String → Option HttpReply → Bool
  answered : ∀ h uid response, decides h uid (some (.review uid response)) = response.allowed
  unanswered : ∀ h uid, decides h uid none = decide (h.failurePolicy = .ignore)

/-- In the handshake a bundle is held against the certificate that the webhook presents. The
certificates of klink sign themselves. -/
structure ApiServer {κ : Type} (x : Crypto κ) extends Admission where
  trusts : Int → Bytes → Bytes → Bool
  trusts_self : ∀ now cert, x.expired now cert = false → trusts now cert cert = true

section Asking

variable {κ : Type} {x : Crypto κ}

def ApiServer.trustsServer (A : ApiServer x) (now : Int) (w : WebhookServer) (caBundle : Bytes) :
    Bool :=
  w.holder.any (fun pair => A.trusts now caBundle pair.certPEM)

def WebhookServer.replies (A : ApiServer x) (now : Int) (w : WebhookServer) (api : GateApi)
    (c : Cluster) (h : HookSpec) (entry : ValidatingWebhook) (r : Review) : Option HttpReply :=
  if A.trustsServer now w entry.caBundle then some (mux api c h.path (.review r)) else none

def WebhookServer.asks (A : ApiServer x) (now : Int) (w : WebhookServer) (api : GateApi)
    (c : Cluster) (r : Review) (h : HookSpec) : Bool :=
  !A.covers h r.request || ((w.objects.configs h.config).getD []).all
    (fun entry => A.decides h r.uid (w.replies A now api c h entry r))

/-- A write goes through if every webhook that is installed for it lets it through. -/
def WebhookServer.admits (A : ApiServer x) (now : Int) (w : WebhookServer) (api : GateApi)
    (c : Cluster) (r : Review) : Bool :=
  [gateHook, wdHook].all (w.asks A now api c r)

end Asking

def WebhookObjects.hookNames (s : WebhookObjects) (config : String) : List String :=
  ((s.configs config).getD []).map ValidatingWebhook.name

def WebhookObjects.Installed (s : WebhookObjects) (config : String) : Prop :=
  s.hookNames config ≠ []

section Chain

variable {κ : Type} {x : Crypto κ} {A : ApiServer x} {now : Int} {w : WebhookServer}
  {api : GateApi} {c : Cluster} {r : Review} {pair : TLSPair}

theorem gateHook_decides (A : ApiServer x) (api : GateApi) (c : Cluster) (r : Review) :
    A.decides gateHook r.uid (some (mux api c gateHook.path (.review r))) =
      (validate api c r.request).allowed := A.answered gateHook r.uid _

theorem wdHook_decides (A : ApiServer x) (api : GateApi) (c : Cluster) (r : Review) :
    A.decides wdHook r.uid (some (mux api c wdHook.path (.review r))) =
      (WDValidatorHandler.validate r.decoded).allowed := A.answered wdHook r.uid _

theorem WebhookServer.asks_iff (h : HookSpec) :
    w.asks A now api c r h = true ↔ (A.covers h r.request = true →
      ∀ entry ∈ (w.objects.configs h.config).getD [],
        A.decides h r.uid (w.replies A now api c h entry r) = true) := by
  unfold asks
  cases A.covers h r.request with
  | false => simp
  | true => simp

theorem WebhookServer.asks_trusted {h : HookSpec} {verdict : Bool}
    (hverdict : A.decides h r.uid (some (mux api c h.path (.review r))) = verdict)
    (htrust : ∀ entry ∈ (w.objects.configs h.config).getD [],
      A.trustsServer now w entry.caBundle = true) :
    w.asks A now api c r h = true ↔
      (A.covers h r.request = true → w.objects.Installed h.config → verdict = true) := by
  have hreplies : ∀ entry ∈ (w.objects.configs h.config).getD [],
      A.decides h r.uid (w.replies A now api c h entry r) = verdict := by
    intro entry he
    rw [replies, if_pos (htrust entry he), hverdict]
  rw [asks_iff]
  constructor
  · intro hall hc hinstalled
    obtain ⟨name, hname⟩ := List.exists_mem_of_ne_nil _ hinstalled
    obtain ⟨entry, he, _⟩ := List.mem_map.mp hname
    rw [← hreplies entry he]
    exact hall hc entry he
  · intro hv hc entry he
    rw [hreplies entry he]
    exact hv hc (List.ne_nil_of_mem (List.mem_map_of_mem he))

theorem ApiServer.trustsServer_of (A : ApiServer x) (hheld : w.holder = some pair)
    (hvalid : x.expired now pair.certPEM = false) {name : String}
    (htrust : w.objects.TrustsAt name pair.certPEM) :
    ∀ entry ∈ (w.objects.configs name).getD [],
      A.trustsServer now w entry.caBundle = true := by
  intro entry he
  have hbundle : entry.caBundle = pair.certPEM := by
    cases hc : w.objects.configs name with
    | none =>
      rw [hc] at he
      cases he
    | some hooks =>
      rw [hc] at he
      exact htrust hooks hc entry he
  unfold trustsServer
  rw [hheld, hbundle]
  exact A.trusts_self now pair.certPEM hvalid

def Review.Barred (r : Review) (api : GateApi) (c : Cluster) : Prop :=
  r.request.operation ≠ .create ∧
    (∃ n, extractReplicas r.request.object r.request.kind = some n ∧
      (extractReplicas r.request.oldObject r.request.kind).getD 0 < n) ∧
    api.list = .ok ∧ Blocked api c r.request.kind r.request.name r.request.ns

theorem validate_allowed_iff (r : Review) :
    (validate api c r.request).allowed = true ↔ ¬ r.Barred api c := by
  rw [← Bool.not_eq_false, validate_denies_iff]
  rfl

end Chain

section Runs

variable {κ : Type} {m : TLSManager} {x : Crypto κ} {w : WebhookServer} {pair : TLSPair}

theorem TLSManager.ensureCert_trusts {i : CertEnv κ} {s : WebhookObjects}
    (h : (m.ensureCert x i s).result = .ok pair) (ht : s.Trusts pair.certPEM) :
    (m.ensureCert x i s).state.Trusts pair.certPEM := by
  rcases m.ensureCert_cases x i s with ⟨e, he, _⟩ | ⟨old, _, _, ha⟩ | ⟨new, _, ha⟩
  · cases he.symm.trans h
  · rw [ha] at h ⊢
    obtain rfl := Except.ok.inj h
    exact fun name hname => (ht name hname).patchConfigs
  · rw [ha] at h ⊢
    obtain rfl := Except.ok.inj h
    exact fun name hname => WebhookObjects.TrustsAt.patchConfigs (ht name hname)

/-- A tick that keeps the pair keeps the trust in it, whichever of its calls fail. -/
theorem WebhookServer.Serves.tick_trusts (h : w.Serves m x pair)
    (ht : w.objects.Trusts pair.certPEM) {i : CertEnv κ}
    (hsame : (w.tick m x i).holder = w.holder) :
    (w.tick m x i).Serves m x pair ∧ (w.tick m x i).objects.Trusts pair.certPEM := by
  rcases h.tick_cases i with ⟨hidle, _⟩ | ⟨pair', hr, h', _, _⟩
  · rw [hidle]
    exact ⟨h, ht⟩
  · obtain rfl : pair' = pair :=
      Option.some.inj (h'.held.symm.trans (hsame.trans h.held))
    refine ⟨h', ?_⟩
    rw [tick_ok h hr]
    exact m.ensureCert_trusts hr ht

/-- The operator writes bundles. It installs no webhook and removes none. -/
theorem patchConfigs_hookNames (api : TLSCall → CallResult) (caPEM : Bytes) (names : List String)
    (s : WebhookObjects) (config : String) :
    (patchConfigs api caPEM names s).state.hookNames config = s.hookNames config := by
  induction names generalizing s with
  | nil => rfl
  | cons name rest ih =>
    rcases patchConfigs_cons api caPEM name rest s with ⟨_, h⟩ | ⟨_, h⟩ | ⟨webhooks, hw, h⟩
    · rw [h, ih]
    · rw [h]
    · rw [h, ih]
      unfold WebhookObjects.hookNames
      rw [WebhookObjects.putConfig_configs]
      by_cases hc : config = name
      · subst hc
        rw [Function.update_self, hw, Option.getD_some, Option.getD_some, List.map_map]
        rfl
      · rw [Function.update_of_ne hc]

theorem TLSManager.ensureCert_hookNames (i : CertEnv κ) (s : WebhookObjects) (config : String) :
    (m.ensureCert x i s).state.hookNames config = s.hookNames config := by
  rcases m.ensureCert_cases x i s with ⟨_, _, hs⟩ | ⟨_, _, _, ha⟩ | ⟨_, _, ha⟩
  · rw [hs]
  · rw [ha]
    exact patchConfigs_hookNames _ _ _ _ _
  · rw [ha]
    exact patchConfigs_hookNames _ _ _ _ _

theorem WebhookServer.run_hookNames (r : Run (rotation m x)) (n : ℕ) (config : String) :
    (r.state n).objects.hookNames config = (r.state 0).objects.hookNames config := by
  induction n with
  | zero => rfl
  | succ n ih =>
    obtain ⟨pair, hserves⟩ := run_serves r n
    rw [state_succ, ← ih]
    cases hr : (m.ensureCert x (r.event n) (r.state n).objects).result with
    | error e => rw [tick_error hr]
    | ok pair' =>
      rw [tick_ok hserves hr]
      exact m.ensureCert_hookNames _ _ _

/-- From a tick without a failed call until the pair is renewed, and whichever calls fail meanwhile,
what goes through is what the two handlers let through: a write of a WorkloadDependency exactly if
it can be read and keeps every rule, a change of a workload exactly if no gate bars it. -/
theorem WebhookServer.admission_exact (A : ApiServer x) (r : Run (rotation m x)) {k j : ℕ}
    (hkj : k < j)
    (hapi : ∀ call, (r.event k).api call = .ok)
    (hgen : (m.generateCert x (r.event k).now (r.event k).entropy).isSome)
    (hsame : ∀ n, k < n → n < j → (r.state (n + 1)).holder = (r.state n).holder) {now : Int}
    (hnow : now ≤ (r.event k).now + certRenewBefore) (api : GateApi) (c : Cluster) (q : Review) :
    (r.state j).admits A now api c q = true ↔
      (A.covers gateHook q.request = true →
        (r.state 0).objects.Installed webhookConfigName → ¬ q.Barred api c) ∧
      (A.covers wdHook q.request = true → (r.state 0).objects.Installed wdValidatorName →
        ∃ wd, q.decoded = .ok wd ∧ wd.WellFormed) := by
  obtain ⟨pair, hserves, hrep⟩ := run_trusted r k hapi hgen
  have hkept : (r.state j).Serves m x pair ∧ (r.state j).objects.Trusts pair.certPEM := by
    induction j, hkj using Nat.le_induction with
    | base => exact ⟨hserves, hrep.trusted⟩
    | succ n hn ih =>
      obtain ⟨hs, ht⟩ := ih (fun l hl hln => hsame l hl (by omega))
      have hstep : r.state (n + 1) = (r.state n).tick m x (r.event n) := r.step n
      have hheld := hsame n hn (by omega)
      rw [hstep] at hheld ⊢
      exact hs.tick_trusts ht hheld
  have hvalid : x.expired now pair.certPEM = false := hrep.valid.not_expired hnow
  have htrust : ∀ name ∈ [webhookConfigName, wdValidatorName],
      ∀ entry ∈ ((r.state j).objects.configs name).getD [],
        A.trustsServer now (r.state j) entry.caBundle = true :=
    fun name hname => A.trustsServer_of hkept.1.held hvalid (hkept.2 name hname)
  have hgate := asks_trusted (gateHook_decides A api c q)
    (htrust webhookConfigName List.mem_cons_self)
  have hwd := asks_trusted (wdHook_decides A api c q)
    (htrust wdValidatorName (List.mem_cons_of_mem _ List.mem_cons_self))
  rw [validate_allowed_iff] at hgate
  rw [WDValidatorHandler.validate_allowed] at hwd
  unfold WebhookObjects.Installed at hgate hwd
  rw [run_hookNames r] at hgate hwd
  unfold admits
  rw [List.all_cons, List.all_cons, List.all_nil, Bool.and_true, Bool.and_eq_true]
  exact and_congr hgate hwd

end Runs

section Story

def plainObject : WorkloadDependency :=
  ⟨"web-needs-db", "default", 1, none, [], none, ⟨⟨"Deployment", "web", ""⟩,
    [⟨"Deployment", "db", "", ⟨100, 30 * second, 60 * second⟩⟩], ⟨0⟩, .strict, none⟩, .empty⟩

def cronDependency : WorkloadDependency :=
  { plainObject with
    spec := { plainObject.spec with
      dependsOn := [⟨"CronJob", "backup", "", ⟨100, 30 * second, 60 * second⟩⟩] } }

example : WDValidatorHandler.validate (.ok cronDependency) = wdDeny ("validation failed: " ++
    "spec.dependsOn[0]: CronJob cannot be used as a dependency (no replicas to check); " ++
    "use it as a dependent instead") := by decide

def creation (wd : WorkloadDependency) : Review where
  uid := "705ab4f5"
  request := ⟨.create, "WorkloadDependency", wd.name, wd.ns, "workloaddependencies", "",
    .object ⟨none, none⟩, .absent⟩
  decoded := .ok wd

def AdmissionRequest.fullResource (req : AdmissionRequest) : String :=
  if req.subResource = "" then req.resource else req.resource ++ "/" ++ req.subResource

def ruleCovers (h : HookSpec) (req : AdmissionRequest) : Bool :=
  decide (req.operation ∈ h.operations ∧ req.fullResource ∈ h.resources ∧ req.ns ∉ h.excluded)

def policyDecides (h : HookSpec) (uid : String) : Option HttpReply → Bool
  | some (.review uid' response) =>
    if uid' = uid then response.allowed else decide (h.failurePolicy = .ignore)
  | _ => decide (h.failurePolicy = .ignore)

theorem policyDecides_answered (h : HookSpec) (uid : String) (response : AdmissionResponse) :
    policyDecides h uid (some (.review uid response)) = response.allowed := if_pos rfl

theorem policyDecides_unanswered (h : HookSpec) (uid : String) :
    policyDecides h uid none = decide (h.failurePolicy = .ignore) := rfl

def policyAdmission : Admission :=
  ⟨ruleCovers, policyDecides, policyDecides_answered, policyDecides_unanswered⟩

def pinTrusts (now : Int) (caBundle cert : Bytes) : Bool :=
  decide (caBundle = cert) && !demoCrypto.expired now cert

theorem pinTrusts_self (now : Int) (cert : Bytes) (h : demoCrypto.expired now cert = false) :
    pinTrusts now cert cert = true := by
  simp [pinTrusts, h]

def demoApiServer : ApiServer demoCrypto := ⟨policyAdmission, pinTrusts, pinTrusts_self⟩

def onceEnv : ℕ → CertEnv ℕ
  | 0 => demoTick hour
  | n + 1 => lostTick (hour + (n + 1) * rotationInterval)

theorem onceEnv_keeps (n : ℕ) (hn : 0 < n) :
    ((demoRotation onceEnv).state (n + 1)).holder = ((demoRotation onceEnv).state n).holder := by
  obtain ⟨l, rfl⟩ := Nat.exists_eq_add_of_le' hn
  rw [WebhookServer.state_succ]
  have hlost : (demoManager.ensureCert demoCrypto ((demoRotation onceEnv).event (l + 1))
      ((demoRotation onceEnv).state (l + 1)).objects).result =
        .error ⟨"get tls secret", .api .failed⟩ := rfl
  rw [WebhookServer.tick_error hlost]

theorem demoServer_installed (config : String) : demoServer.objects.Installed config := by
  obtain ⟨pair, hr⟩ := demoTick_succeeds le_rfl garbageObjects
  have hobjects : demoServer.objects =
      (demoManager.ensureCert demoCrypto (demoTick 0) garbageObjects).state := by
    unfold demoServer WebhookServer.start
    dsimp only
    rw [hr]
    rfl
  unfold WebhookObjects.Installed
  rw [hobjects, TLSManager.ensureCert_hookNames]
  exact List.cons_ne_nil _ _

def blockedRaise : Review := ⟨"92d0b1c7", webScaleUp.mainRequest, .error "not a WorkloadDependency"⟩

theorem WebhookServer.admission_exact_once :
    let admitted := ((demoRotation onceEnv).state 3).admits demoApiServer (25 * hour) .good
      (gateCluster (demoDb 0))
    admitted (creation plainObject) = true ∧ admitted (creation cronDependency) = false ∧
      admitted blockedRaise = false := by
  have hgen : (demoManager.generateCert demoCrypto hour ⟨some 7, some 1⟩).isSome = true := by
    rw [generateCert_demoPair (by decide)]
    rfl
  have hexact := admission_exact demoApiServer (demoRotation onceEnv) (by decide : 0 < 3)
    (fun _ => rfl) hgen (fun n hn _ => onceEnv_keeps n hn)
    (by decide : 25 * hour ≤ hour + certRenewBefore) .good (gateCluster (demoDb 0))
  refine ⟨?_, ?_, ?_⟩
  · rw [hexact]
    refine ⟨fun h => ?_, fun _ _ => ⟨plainObject, rfl, by decide⟩⟩
    cases h
  · rw [← Bool.not_eq_true, hexact]
    rintro ⟨_, hwd⟩
    obtain ⟨wd, hdec, hwell⟩ := hwd rfl (demoServer_installed _)
    obtain rfl := Except.ok.inj hdec
    exact absurd hwell (by decide)
  · rw [← Bool.not_eq_true, hexact]
    rintro ⟨hgate, _⟩
    have hfree := (validate_allowed_iff blockedRaise).mpr (hgate rfl (demoServer_installed _))
    exact absurd hfree (by decide)

end Story

end Klink
