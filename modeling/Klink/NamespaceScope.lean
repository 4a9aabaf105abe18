import Klink.IndependentReconciles
import Klink.PatchGuards
import Klink.PhaseReports

/-! # The namespaces an operator reads

`main` gives the manager a cache: Secrets of the operator's own namespace only and, if there is a
`watchNamespace`, of everything else only what lives there. A typed read from outside is an error.
Rollouts are read without a type and so past the cache. An operator restricted in this way goes
through the same runs as an unrestricted one in a cluster cut down to that namespace, and leaves
alone what is outside, but for Rollouts.
-/
namespace Klink

open KeyedStore TransitionSystem

structure CacheOptions where
  operatorNamespace : String
  watchNamespace : String
  deriving DecidableEq, Repr

namespace CacheOptions

def covers (o : CacheOptions) (ns : String) : Bool :=
  decide (o.watchNamespace = "" ∨ ns = o.watchNamespace)

def reads (o : CacheOptions) (kind : WorkloadKind) (ns : String) : Bool :=
  decide (kind = .rollout) || o.covers ns

def view (o : CacheOptions) (c : Cluster) : Cluster :=
  { c with wds := c.wds.restrict (fun k => o.covers k.ns) }

/-- The answers a Reconcile of `wd` gets: none from outside the cache, and a reread that is one. -/
structure Answers (o : CacheOptions) (wd : WorkloadDependency) (api : Api) : Prop where
  dependent : o.reads wd.dependentKind wd.dependentNs = false → api.getDependent ≠ .ok
  dependency : ∀ i dep, wd.spec.dependsOn[i]? = some dep →
    o.reads (WorkloadKind.ofString dep.kind) (wd.dependsOnNs dep) = false →
      api.getDependency i ≠ .ok
  secret : ∀ k : NamespacedName, k.ns ≠ o.operatorNamespace → api.getSecret k = none
  written : api.statusUpdate 0 = .ok ∨ api.Honest wd

/-- A Reconcile reads what the cache shows and writes to the cluster itself. -/
def next (o : CacheOptions) (s : World) : Happening → World
  | .reconcile req api =>
    ⟨s.cluster.applyAll (reconcile api s.clock (o.view s.cluster) req).effects, s.clock⟩
  | .environment s' => s'

def enabled (o : CacheOptions) (R : Rules) (s : World) : Happening → Prop
  | .reconcile req api => R.calls (o.view s.cluster) req api ∧
    ∀ wd, (o.view s.cluster).getWD req = some wd → o.Answers wd api
  | .environment s' => s.clock ≤ s'.clock ∧ R.disturbs (o.view s.cluster) (o.view s'.cluster)

/-- The restricted operator, under rules for what it can see. -/
def system (o : CacheOptions) (R : Rules) : System World Happening where
  init s := R.start (o.view s.cluster)
  enabled := o.enabled R
  next := o.next

section View

variable (o : CacheOptions) (c : Cluster)

theorem getWD_view (k : NamespacedName) :
    (o.view c).getWD k = if o.covers k.ns then c.getWD k else none :=
  c.wds.get?_restrict _ k

variable {o c} in
theorem getWD_of_view {k : NamespacedName} {wd : WorkloadDependency}
    (h : (o.view c).getWD k = some wd) : c.getWD k = some wd ∧ o.covers k.ns = true := by
  rw [getWD_view] at h
  split at h
  · next hk => exact ⟨h, hk⟩
  · cases h

theorem view_apply (e : Effect) : o.view (c.apply e) = (o.view c).apply e := by
  cases e with
  | patch key before after call =>
    cases call with
    | ok => cases after <;> rfl
    | conflict => rfl
    | failed => rfl
  | statusUpdate w call =>
    cases call with
    | ok =>
      exact congrArg (fun wds => ({ c with wds := wds } : Cluster))
        (c.wds.restrict_modify (fun k => o.covers k.ns))
    | conflict => rfl
    | failed => rfl
  | update w call =>
    cases call with
    | ok =>
      change o.view (c.putObject w) = (o.view c).putObject w
      unfold Cluster.putObject
      by_cases h : w.deletionTimestamp.isSome ∧ w.finalizers = []
      · rw [if_pos h, if_pos h]
        exact congrArg (fun wds => ({ c with wds := wds } : Cluster))
          (c.wds.restrict_erase (fun k => o.covers k.ns))
      · rw [if_neg h, if_neg h]
        exact congrArg (fun wds => ({ c with wds := wds } : Cluster))
          (c.wds.restrict_modify (fun k => o.covers k.ns))
    | conflict => rfl
    | failed => rfl
  | _ => rfl

theorem view_applyAll (es : List Effect) : o.view (c.applyAll es) = (o.view c).applyAll es := by
  induction es generalizing c with
  | nil => rfl
  | cons e es ih => rw [Cluster.applyAll_cons, ih, o.view_apply, Cluster.applyAll_cons]

end View

end CacheOptions

section Reads

variable {api : Api} {now : Int} {c : Cluster} {req : NamespacedName} {wd : WorkloadDependency}

theorem getDependent_of_patches (h : c.getWD req = some wd)
    (hps : (reconcile api now c req).patches ≠ []) : api.getDependent = .ok := by
  have hexit : Exit api now c req wd (reconcile api now c req) := reconcile_exit now h
  generalize reconcile api now c req = o at hexit hps
  cases hexit with
  | failed => exact absurd rfl hps
  | deletion => exact ((handleDeletion_exit api c wd).patches.resolve_left hps).2.1
  | unfinalized => exact absurd (ensureFinalizer_patches api now c wd) hps
  | reported => exact absurd (patches_setStatus api now wd _ _ none) hps
  | dispatched hs _ => exact (sees_of_sighting hs h).read

theorem target_of_mem_patches (h : c.getWD req = some wd) {p : Patch}
    (hp : p ∈ (reconcile api now c req).patches) :
    p.key = wd.dependentKey ∧ p.after.kind = wd.dependentKind := by
  have hsource : PatchSource api now c req wd (reconcile api now c req).patches :=
    reconcile_patchSource now h
  generalize (reconcile api now c req).patches = ps at hsource hp
  cases hsource with
  | silent => cases hp
  | move _ hw _ =>
    obtain ⟨a, ha, rfl⟩ := Deed.mem_patches.mp hp
    exact ⟨rfl, (Deed.patch_kind ha).trans (c.workload_kind hw)⟩
  | undo _ _ hw =>
    obtain ⟨a, ha, rfl⟩ := Deed.mem_patches.mp hp
    exact ⟨rfl, (Deed.patch_kind ha).trans (c.workload_kind hw)⟩

end Reads

namespace CacheOptions

section Isolation

variable {o : CacheOptions} {R : Rules} {s : World} {req k : NamespacedName} {api : Api}

theorem next_outside (he : o.enabled R s (.reconcile req api)) (hk : o.covers k.ns = false) :
    (o.next s (.reconcile req api)).cluster.getWD k = s.cluster.getWD k ∧
      ∀ kind, kind ≠ .rollout →
        (o.next s (.reconcile req api)).cluster.workload kind k = s.cluster.workload kind k := by
  change (s.cluster.applyAll _).getWD k = _ ∧ ∀ kind, kind ≠ .rollout →
    (s.cluster.applyAll _).workload kind k = _
  cases h : (o.view s.cluster).getWD req with
  | none =>
    rw [reconcile_effects_absent s.clock h]
    exact ⟨rfl, fun _ _ => rfl⟩
  | some wd =>
    have hans := he.2 wd h
    have hne : k ≠ req := by
      rintro rfl
      cases hk.symm.trans (getWD_of_view h).2
    constructor
    · exact ((reconcile_amounts s.clock h hans.written).confined (Cluster.getWD_key h) _).getWD hne
    · intro kind hkind
      rcases s.cluster.workload_applyAll_cases
        (reconcile api s.clock (o.view s.cluster) req).effects kind k with
        hsame | ⟨before, after, hm, hak, _⟩
      · exact hsame
      · have hp : (⟨k, before, after, .ok⟩ : Patch) ∈
            (reconcile api s.clock (o.view s.cluster) req).patches :=
          List.mem_filterMap.mpr ⟨_, hm, rfl⟩
        obtain ⟨htk, htkind⟩ := target_of_mem_patches h hp
        refine absurd (getDependent_of_patches h (List.ne_nil_of_mem hp)) (hans.dependent ?_)
        have hns : wd.dependentNs = k.ns := congrArg NamespacedName.ns htk.symm
        have hnoroll : wd.dependentKind ≠ .rollout := by
          rw [← htkind]
          exact hak.trans_ne hkind
        unfold reads
        rw [hns, hk, decide_eq_false hnoroll]
        rfl

/-- Over any run, what lies outside the watched namespace and is no Rollout is as everybody else
leaves it. -/
theorem isolates (r : Run (o.system R)) {i j : ℕ} (hij : i ≤ j) (hk : o.covers k.ns = false)
    {kind : WorkloadKind} (hkind : kind ≠ .rollout)
    (hothers : ∀ n s', i ≤ n → n < j → r.event n = .environment s' →
      s'.cluster.getWD k = (r.state n).cluster.getWD k ∧
        s'.cluster.workload kind k = (r.state n).cluster.workload kind k) :
    (r.state j).cluster.getWD k = (r.state i).cluster.getWD k ∧
      (r.state j).cluster.workload kind k = (r.state i).cluster.workload kind k := by
  induction j, hij using Nat.le_induction with
  | base => exact ⟨rfl, rfl⟩
  | succ n hin ih =>
    obtain ⟨hg, hw⟩ := ih (fun l s' hl hln => hothers l s' hl (by omega))
    rw [← hg, ← hw, r.step n]
    have hv := r.valid n
    cases he : r.event n with
    | reconcile req api =>
      rw [he] at hv
      obtain ⟨hsame, hsame'⟩ := next_outside hv hk
      exact ⟨hsame, hsame' kind hkind⟩
    | environment s' => exact hothers n s' hin (by omega) he

end Isolation

end CacheOptions

theorem mem_maybeNotify_url {api : Api} {now : Int} {wd : WorkloadDependency}
    {p q : DependencyPhase} {url : String} {payload : NotifyPayload}
    (h : Effect.sendNotification url payload ∈ maybeNotify api now wd p q) :
    payload.ns = wd.ns ∧
      ∃ notify, wd.spec.notify = some notify ∧ resolveWebhookURL api wd notify = some url := by
  unfold maybeNotify at h
  split at h
  · cases h
  · next notify hn =>
    split at h
    · split at h
      · cases h
      · next found hu =>
        split at h
        · cases h
        · obtain ⟨rfl, rfl⟩ : url = found ∧ payload = _ := by simpa using h
          exact ⟨rfl, notify, hn, hu⟩
    · cases h

namespace CacheOptions

/-- Where notifications go, over any run and whatever is configured: about an object that does not
live beside the operator only to the address in its spec, since no Secret of its own can be read. -/
theorem notices_use_spec_url {o : CacheOptions} {R : Rules} (r : Run (o.system R)) {n : ℕ}
    {req : NamespacedName} {api : Api} (he : r.event n = .reconcile req api) {url : String}
    {payload : NotifyPayload}
    (hm : Effect.sendNotification url payload ∈
      (reconcile api (r.state n).clock (o.view (r.state n).cluster) req).effects)
    (hns : payload.ns ≠ o.operatorNamespace) :
    ∃ wd notify, (r.state n).cluster.getWD ⟨payload.ns, payload.workloadDependency⟩ = some wd ∧
      wd.spec.notify = some notify ∧ notify.webhookSecretRef = none ∧ url = notify.webhook := by
  have hv := r.valid n
  rw [he] at hv
  cases h : (o.view (r.state n).cluster).getWD req with
  | none =>
    rw [reconcile_effects_absent _ h] at hm
    cases hm
  | some wd =>
    have hans := hv.2 wd h
    have hnotice : (url, payload) ∈ noticesOf ⟨payload.ns, payload.workloadDependency⟩
        (reconcile api (r.state n).clock (o.view (r.state n).cluster) req).effects :=
      mem_noticesOf.mpr ⟨hm, rfl⟩
    have htells := reconcile_tells (r.state n).clock h hans.written
      ⟨payload.ns, payload.workloadDependency⟩
    cases htells with
    | nothing _ hnone =>
      rw [hnone] at hnotice
      cases hnotice
    | @phase old new hold _ hsame _ _ hsent =>
      rw [hsent] at hnotice
      split at hnotice
      · obtain ⟨hmem, _⟩ := mem_noticesOf.mp hnotice
        obtain ⟨hpns, notify, hnotify, hurl⟩ := mem_maybeNotify_url hmem
        rw [hsame.sameSpec.spec] at hnotify
        refine ⟨old, notify, (getWD_of_view hold).1, hnotify, ?_⟩
        unfold resolveWebhookURL at hurl
        cases href : notify.webhookSecretRef with
        | none =>
          rw [href] at hurl
          exact ⟨rfl, (Option.some.inj hurl).symm⟩
        | some ref =>
          have hnone : api.getSecret ⟨new.ns, ref.name⟩ = none :=
            hans.secret _ (hpns ▸ hns)
          rw [href] at hurl
          dsimp only at hurl
          rw [hnone] at hurl
          cases hurl
      · cases hnotice

end CacheOptions

section Foreign

variable {api : Api} {c : Cluster} {wd : WorkloadDependency}

theorem getWorkload_not_ok {call : CallResult} (h : call ≠ .ok) (c : Cluster)
    (kind name ns : String) : ∃ e, getWorkload call c kind name ns = .error (.api e) := by
  cases call with
  | ok => exact absurd rfl h
  | conflict => exact ⟨_, rfl⟩
  | failed => exact ⟨_, rfl⟩

/-- An entry that cannot be read ends the evaluation with an error, unless a missing workload has
ended it before. -/
theorem evaluateFrom_unreadable {deps : List DependsOnEntry} {i l : ℕ} {acc : Evaluation}
    {dep : DependsOnEntry} (hdep : deps[l]? = some dep) (hcall : api.getDependency (i + l) ≠ .ok)
    (hbefore : ∀ m < l, ∀ d, deps[m]? = some d →
      c.workload (WorkloadKind.ofString d.kind) ⟨wd.dependsOnNs d, d.name⟩ ≠ none) :
    ∃ e, evaluateFrom api c wd i deps acc = .error e := by
  induction deps generalizing i l acc with
  | nil => cases hdep
  | cons d rest ih =>
    unfold evaluateFrom
    dsimp only
    cases l with
    | zero =>
      have hfirst : api.getDependency i ≠ .ok := hcall
      obtain ⟨e, he⟩ := getWorkload_not_ok hfirst c d.kind d.name (wd.dependsOnNs d)
      exact ⟨e, by rw [he]⟩
    | succ l =>
      have hcall' : api.getDependency (i + 1 + l) ≠ .ok := by
        rw [show i + 1 + l = i + (l + 1) by omega]
        exact hcall
      have hrest : ∀ acc, ∃ e, evaluateFrom api c wd (i + 1) rest acc = .error e :=
        fun acc => ih hdep hcall' (fun m hm => hbefore (m + 1) (by omega))
      cases hg : getWorkload (api.getDependency i) c d.kind d.name (wd.dependsOnNs d) with
      | error err =>
        cases err with
        | notFound => exact absurd (getWorkload_eq_notFound hg) (hbefore 0 (by omega) d rfl)
        | api e => exact ⟨e, rfl⟩
      | ok w =>
        dsimp only
        split
        · exact ⟨_, rfl⟩
        · exact hrest _
        · exact hrest _

/-- An entry names a workload that the operator cannot read, and the workloads of the entries before
it exist. -/
def CacheOptions.Foreign (o : CacheOptions) (c : Cluster) (wd : WorkloadDependency) : Prop :=
  ∃ (l : ℕ) (dep : DependsOnEntry), wd.spec.dependsOn[l]? = some dep ∧
    o.reads (WorkloadKind.ofString dep.kind) (wd.dependsOnNs dep) = false ∧
    ∀ m < l, ∀ d, wd.spec.dependsOn[m]? = some d →
      c.workload (WorkloadKind.ofString d.kind) ⟨wd.dependsOnNs d, d.name⟩ ≠ none

theorem CacheOptions.Foreign.sighting {o : CacheOptions} {req : NamespacedName}
    (hf : o.Foreign c wd) (ha : o.Answers wd api) (h : c.getWD req = some wd) :
    sighting api c req = none := by
  obtain ⟨l, dep, hdep, hout, hbefore⟩ := hf
  have hcall : api.getDependency (0 + l) ≠ .ok := by
    rw [Nat.zero_add]
    exact ha.dependency l dep hdep hout
  have hbad : ∃ e, evaluateFrom api c wd 0 wd.spec.dependsOn ⟨true, ""⟩ = .error e :=
    evaluateFrom_unreadable hdep hcall hbefore
  obtain ⟨e, he⟩ := hbad
  cases hs : Klink.sighting api c req with
  | none => rfl
  | some s =>
    have hev : evaluateFrom api c wd 0 wd.spec.dependsOn ⟨true, ""⟩ = .ok s.ev :=
      sighting_evaluation hs h
    cases he.symm.trans hev

def quietPhases : List DependencyPhase := [.unset, .unknown, .paused]

theorem Transition.quiet {now : Int} {req : NamespacedName} {w w' : Option WorkloadObject}
    {wd' : WorkloadDependency} {ps : List Patch}
    (ht : Transition api now c req wd w (some wd') w' ps) (hs : sighting api c req = none)
    (hd : wd.deletionTimestamp = none) (hq : wd.status.phase ∈ quietPhases) :
    wd'.status.phase ∈ quietPhases ∧ ps = [] := by
  generalize ho : some wd' = o at ht
  cases ht with
  | idle =>
    obtain rfl := Option.some.inj ho
    exact ⟨hq, rfl⟩
  | finalize =>
    obtain rfl := Option.some.inj ho
    have hphase : wd.addFinalizer.status.phase = wd.status.phase :=
      congrArg Memory.phase wd.addFinalizer_memory
    rw [hphase]
    exact ⟨hq, rfl⟩
  | @report _ phase _ _ hp _ hst =>
    obtain rfl := Option.some.inj ho
    have hphase : wd'.status.phase = phase := by
      rcases hst.2 with h | ⟨_, h⟩
      · exact congrArg Memory.phase h
      · exact congrArg Memory.phase h
    rw [hphase]
    rcases hp with ⟨rfl, _⟩ | ⟨rfl, _⟩
    · exact ⟨by decide, rfl⟩
    · exact ⟨by decide, rfl⟩
  | refused hs' => cases hs.symm.trans hs'
  | act hs' => cases hs.symm.trans hs'
  | move hs' => cases hs.symm.trans hs'
  | undoFailed hdel =>
    rw [hd] at hdel
    cases hdel
  | undone hdel =>
    rw [hd] at hdel
    cases hdel
  | dropped hdel =>
    rw [hd] at hdel
    cases hdel

end Foreign

namespace CacheOptions

section Inert

variable {o : CacheOptions} {R : Rules} {s : World} {req k : NamespacedName} {api : Api}
  {wd wd' : WorkloadDependency}

theorem view_next (o : CacheOptions) (s : World) (req : NamespacedName) (api : Api) :
    o.view (o.next s (.reconcile req api)).cluster =
      (o.view s.cluster).reconciled api s.clock req :=
  o.view_applyAll s.cluster _

theorem next_quiet (he : o.enabled R s (.reconcile req api)) (h : s.cluster.getWD k = some wd)
    (h' : (o.next s (.reconcile req api)).cluster.getWD k = some wd')
    (hd : wd.deletionTimestamp = none) (hf : o.Foreign s.cluster wd)
    (hq : wd.status.phase ∈ quietPhases) : wd'.status.phase ∈ quietPhases := by
  by_cases hcov : o.covers k.ns = true
  · have hv : (o.view s.cluster).getWD k = some wd := by
      rw [getWD_view, if_pos hcov]
      exact h
    have hv' : ((o.view s.cluster).reconciled api s.clock req).getWD k = some wd' := by
      rw [← view_next, getWD_view, if_pos hcov]
      exact h'
    by_cases hk : k = req
    · subst hk
      have hans := he.2 wd hv
      have hview : o.Foreign (o.view s.cluster) wd := hf
      have ht := reconcile_transition s.clock hv hans.written
      rw [hv'] at ht
      exact (ht.quiet (hview.sighting hans hv) hd hq).1
    · cases hreq : (o.view s.cluster).getWD req with
      | none =>
        rw [reconcile_absent s.clock hreq, hv] at hv'
        rw [← Option.some.inj hv']
        exact hq
      | some other =>
        have hsame := (reconcile_confined s.clock hreq (he.2 other hreq).written).getWD hk
        rw [hv', hv] at hsame
        rw [Option.some.inj hsame]
        exact hq
  · obtain ⟨hsame, _⟩ := next_outside he (Bool.not_eq_true _ ▸ hcov)
    rw [h', h] at hsame
    rw [Option.some.inj hsame]
    exact hq

/-- An object that depends on a workload the operator cannot read is never acted for: from a quiet
phase it does not come to any other, and no Reconcile of it patches anything. Others are expected to
leave its status alone and not to delete it. -/
theorem foreign_dependency_inert (r : Run (o.system R)) {i j : ℕ} (hij : i ≤ j)
    (hforeign : ∀ n, i ≤ n → n ≤ j → ∃ wd, (r.state n).cluster.getWD k = some wd ∧
      wd.deletionTimestamp = none ∧ o.Foreign (r.state n).cluster wd)
    (hothers : ∀ n s', i ≤ n → n < j → r.event n = .environment s' →
      s'.cluster.phase k = (r.state n).cluster.phase k)
    (hquiet : ∀ wd, (r.state i).cluster.getWD k = some wd → wd.status.phase ∈ quietPhases) :
    ∀ wd, (r.state j).cluster.getWD k = some wd → wd.status.phase ∈ quietPhases ∧
      ∀ api, r.event j = .reconcile k api →
        (reconcile api (r.state j).clock (o.view (r.state j).cluster) k).patches = [] := by
  have hphase : ∀ wd, (r.state j).cluster.getWD k = some wd → wd.status.phase ∈ quietPhases := by
    induction j, hij using Nat.le_induction with
    | base => exact hquiet
    | succ n hin ih =>
      intro wd' h'
      obtain ⟨wd, h, hd, hf⟩ := hforeign n hin (by omega)
      have hq := ih (fun l hl hln => hforeign l hl (by omega))
        (fun l s' hl hln => hothers l s' hl (by omega)) wd h
      have hv := r.valid n
      rw [r.step n] at h'
      cases he : r.event n with
      | reconcile req api =>
        rw [he] at hv h'
        exact next_quiet hv h h' hd hf hq
      | environment s' =>
        rw [he] at h'
        have hsame := hothers n s' hin (by omega) he
        unfold Cluster.phase at hsame
        change s'.cluster.getWD k = some wd' at h'
        rw [h', h] at hsame
        have hp : wd'.status.phase = wd.status.phase := Option.some.inj hsame
        rw [hp]
        exact hq
  intro wd h
  refine ⟨hphase wd h, ?_⟩
  intro api he
  obtain ⟨seen, hseen, hd, hf⟩ := hforeign j hij le_rfl
  have hv := r.valid j
  rw [he] at hv
  cases hview : (o.view (r.state j).cluster).getWD k with
  | none =>
    rw [Outcome.patches, reconcile_effects_absent _ hview]
    rfl
  | some found =>
    obtain rfl : seen = found :=
      Option.some.inj (hseen.symm.trans (getWD_of_view hview).1)
    have hforeign' : o.Foreign (o.view (r.state j).cluster) seen := hf
    exact patches_unseen hview (hforeign'.sighting (hv.2 seen hview) hview) hd

end Inert

end CacheOptions

/-! An operator that watches the namespace `default`: one object there has all it needs, another one
depends on a Deployment of a team that has a namespace of its own. -/

section Story

def homeOptions : CacheOptions := ⟨"klink-system", "default"⟩

def openRules : Rules := ⟨fun _ => True, fun _ _ _ => True, fun _ _ => True⟩

def farObject : WorkloadDependency :=
  { demoObject "Deployment" .strict 0 with
    name := "web-needs-far"
    spec := ⟨⟨"Deployment", "web", ""⟩, [⟨"Deployment", "far", "team", ⟨0, 0, 0⟩⟩], ⟨0⟩, .strict,
      none⟩ }

def farKey : NamespacedName := ⟨"default", "web-needs-far"⟩

def teamKey : NamespacedName := ⟨"team", "far"⟩

def farApi : Api := { Api.good with getDependency := fun _ => .failed }

def homeWorld : World where
  cluster := (((Cluster.mk ⟨[newsObject, farObject], by decide⟩ (fun _ => none) (fun _ => none)
    (fun _ => none) (fun _ => none)).putWorkload webKey (.deployment ⟨some 3, 3⟩)).putWorkload dbKey
      (demoDb 0)).putWorkload teamKey (.deployment ⟨some 2, 2⟩)
  clock := 0

def homeScript : List (World → Happening) :=
  [runs demoKey .good, runs demoKey .good, runs farKey farApi, runs farKey farApi]

def CacheOptions.readsAll (o : CacheOptions) (wd : WorkloadDependency) : Bool :=
  o.reads wd.dependentKind wd.dependentNs && wd.spec.dependsOn.all
    (fun dep => o.reads (WorkloadKind.ofString dep.kind) (wd.dependsOnNs dep))

theorem home_enabled_good {s : World}
    (h : ((homeOptions.view s.cluster).getWD demoKey).all homeOptions.readsAll = true) :
    homeOptions.enabled openRules s (runs demoKey .good s) := by
  refine ⟨trivial, ?_⟩
  intro wd hwd
  rw [hwd] at h
  obtain ⟨hdep, hall⟩ := Bool.and_eq_true_iff.mp h
  refine ⟨fun hno => ?_, ?_, fun _ _ => rfl, Or.inl rfl⟩
  · cases hno.symm.trans hdep
  · intro i dep hd hno
    cases hno.symm.trans (List.all_eq_true.mp hall dep (List.mem_of_getElem? hd))

theorem home_enabled_far {s : World}
    (h : ((homeOptions.view s.cluster).getWD farKey).all
      (fun wd => homeOptions.reads wd.dependentKind wd.dependentNs) = true) :
    homeOptions.enabled openRules s (runs farKey farApi s) := by
  refine ⟨trivial, ?_⟩
  intro wd hwd
  rw [hwd] at h
  refine ⟨fun hno => ?_, fun _ _ _ _ hok => ?_, fun _ _ => rfl, Or.inl rfl⟩
  · cases hno.symm.trans h
  · cases hok

theorem homeScript_playable : Playable (homeOptions.system openRules) homeWorld homeScript := by
  refine ⟨home_enabled_good ?_, home_enabled_good ?_, home_enabled_far ?_, home_enabled_far ?_,
    trivial⟩
  · decide +kernel
  · decide +kernel
  · decide +kernel
  · decide +kernel

theorem home_idles (s : World) :
    homeOptions.enabled openRules s (.environment s) ∧
      homeOptions.next s (.environment s) = s := ⟨⟨le_rfl, trivial⟩, rfl⟩

def homeRun : Run (homeOptions.system openRules) :=
  Run.ofScript (s := homeWorld) trivial homeScript homeScript_playable .environment home_idles

theorem homeRun_reconciles (n : ℕ) (hn : n < 4) (s' : World) :
    homeRun.event n ≠ .environment s' := by
  intro h
  have hall : ∀ n < 4, (match homeRun.event n with
      | .reconcile _ _ => true
      | .environment _ => false) = true := by decide +kernel
  have := hall n hn
  rw [h] at this
  cases this

namespace CacheOptions

theorem isolates_home :
    (homeRun.state 4).cluster.workload .deployment teamKey = some (.deployment ⟨some 2, 2⟩) := by
  have hstart : (homeRun.state 0).cluster.workload .deployment teamKey =
      some (.deployment ⟨some 2, 2⟩) := by decide +kernel
  rw [← hstart]
  refine (isolates homeRun (Nat.zero_le 4) rfl (by decide) ?_).2
  intro n s' _ hn he
  exact absurd he (homeRun_reconciles n hn s')

theorem notices_use_spec_url_home :
    ∃ wd notify, (homeRun.state 1).cluster.getWD demoKey = some wd ∧
      wd.spec.notify = some notify ∧ notify.webhookSecretRef = none ∧
      "webhook" = notify.webhook := by
  have he : homeRun.event 1 = .reconcile demoKey .good := rfl
  have hm : Effect.sendNotification "webhook" ⟨"web-needs-db", "default", .degraded, .unset,
      "dependency StatefulSet db is not healthy", "web", "Deployment", 0⟩ ∈
        (reconcile .good (homeRun.state 1).clock (homeOptions.view (homeRun.state 1).cluster)
          demoKey).effects := by decide +kernel
  exact notices_use_spec_url homeRun he hm (by decide)

theorem foreign_dependency_inert_home :
    ∃ wd, (homeRun.state 3).cluster.getWD farKey = some wd ∧ wd.status.phase ∈ quietPhases ∧
      (reconcile farApi (homeRun.state 3).clock (homeOptions.view (homeRun.state 3).cluster)
        farKey).patches = [] := by
  have hobj : ∀ n ≤ 3, ((homeRun.state n).cluster.getWD farKey).map
      (fun wd => (wd.spec, wd.deletionTimestamp)) = some (farObject.spec, none) := by
    decide +kernel
  have hquiet : ((homeRun.state 0).cluster.getWD farKey).map (fun wd => wd.status.phase) =
      some .unset := by decide +kernel
  obtain ⟨wd, hwd, _⟩ := Option.map_eq_some_iff.mp (hobj 3 le_rfl)
  have hinert := foreign_dependency_inert homeRun (Nat.zero_le 3) ?_ ?_ ?_ wd hwd
  · exact ⟨wd, hwd, hinert.1, hinert.2 farApi rfl⟩
  · intro n _ hn
    obtain ⟨wd, hwd, hp⟩ := Option.map_eq_some_iff.mp (hobj n hn)
    obtain ⟨hspec, hd⟩ : wd.spec = farObject.spec ∧ wd.deletionTimestamp = none := by
      simpa using hp
    refine ⟨wd, hwd, hd, 0, ⟨"Deployment", "far", "team", ⟨0, 0, 0⟩⟩, ?_, rfl, ?_⟩
    · rw [hspec]
      rfl
    · intro m hm
      omega
  · intro n s' _ hn he
    exact absurd he (homeRun_reconciles n (by omega) s')
  · intro wd hwd
    have hphase : wd.status.phase = .unset := by simpa [hwd] using hquiet
    rw [hphase]
    decide

end CacheOptions

end Story

end Klink
