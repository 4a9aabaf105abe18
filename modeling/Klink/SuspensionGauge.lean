import Mathlib.Algebra.BigOperators.Group.List.Basic
import Klink.CountingLedger
import Klink.PatchGuards
import Klink.RequeueTimers

/-! # The gauge of suspended workloads

`recordScaleToZero` raises the gauge and `recordReplicasRestored` lowers it, each after a patch
went through. Over the runs of a whole operator process the gauge is compared with what it is to
count: the objects whose dependent was last patched down by klink.
-/
namespace Klink

open TransitionSystem CountingLedger

abbrev Gauge : Type := String × String → Int

def Gauge.observe (g : Gauge) : Effect → Gauge
  | .recordScaleToZero ns kind _ => Function.update g (ns, kind) (g (ns, kind) + 1)
  | .recordReplicasRestored ns kind _ => Function.update g (ns, kind) (g (ns, kind) - 1)
  | _ => g

def Gauge.observeAll (g : Gauge) (es : List Effect) : Gauge := es.foldl Gauge.observe g

instance (p : Patch) : Decidable p.takesDown := inferInstanceAs (Decidable (_ ∨ _))

def Patch.target (p : Patch) : Target := ⟨p.before.kind, p.key⟩

section Metering

variable {l : String × String} {ns : String} {es fs : List Effect}

def Effect.change (l : String × String) : Effect → Int
  | .recordScaleToZero ns kind _ => if (ns, kind) = l then 1 else 0
  | .recordReplicasRestored ns kind _ => if (ns, kind) = l then -1 else 0
  | _ => 0

theorem Gauge.observe_apply (g : Gauge) (e : Effect) (l : String × String) :
    g.observe e l = g l + e.change l := by
  cases e with
  | recordScaleToZero ns kind name =>
    change Function.update g (ns, kind) _ l = g l + ite _ _ _
    by_cases h : (ns, kind) = l
    · subst h
      rw [Function.update_self, if_pos rfl]
    · rw [Function.update_of_ne (Ne.symm h), if_neg h, Int.add_zero]
  | recordReplicasRestored ns kind name =>
    change Function.update g (ns, kind) _ l = g l + ite _ _ _
    by_cases h : (ns, kind) = l
    · subst h
      rw [Function.update_self, if_pos rfl, Int.sub_eq_add_neg]
    · rw [Function.update_of_ne (Ne.symm h), if_neg h, Int.add_zero]
  | _ => exact (Int.add_zero _).symm

theorem Gauge.observeAll_apply (g : Gauge) (es : List Effect) (l : String × String) :
    g.observeAll es l = g l + (es.map (Effect.change l)).sum := by
  induction es generalizing g with
  | nil => simp [observeAll]
  | cons e es ih =>
    change (g.observe e).observeAll es l = _
    rw [ih, observe_apply, List.map_cons, List.sum_cons, Int.add_assoc]

def Patch.change (ns : String) (l : String × String) (p : Patch) : Int :=
  if p.result = .ok ∧ (ns, p.before.kind.name) = l then (if p.takesDown then 1 else -1) else 0

/-- The gauge moves with the patches that went through. -/
def Metered (ns : String) (es : List Effect) : Prop :=
  ∀ l, (es.map (Effect.change l)).sum = ((es.filterMap Effect.patch?).map (Patch.change ns l)).sum

theorem Metered.append (h : Metered ns es) (h' : Metered ns fs) : Metered ns (es ++ fs) := by
  intro l
  rw [List.map_append, List.sum_append, List.filterMap_append, List.map_append, List.sum_append,
    h l, h' l]

theorem metered_nil (ns : String) : Metered ns [] := fun _ => rfl

theorem metered_event (ns : String) (e : Event) : Metered ns [.event e] := fun _ => rfl

theorem Receipt.change {w : WorkloadAccessor} {after : WorkloadObject} {done : List Effect}
    (h : Receipt ns w after done) (l : String × String) :
    (done.map (Effect.change l)).sum = Patch.change ns l ⟨w.key, w.obj, after, .ok⟩ := by
  cases h with
  | down e hpatch =>
    have hdown : Patch.takesDown ⟨w.key, w.obj, after, .ok⟩ := suspendPatch_down hpatch
    simp [Effect.change, Patch.change, hdown]
  | up e hpatch =>
    have hup : ¬ Patch.takesDown ⟨w.key, w.obj, after, .ok⟩ := Patch.up_of_restorePatch hpatch
    simp [Effect.change, Patch.change, hup]

theorem OnWorkload.metered {w : WorkloadAccessor} (h : OnWorkload ns w es) : Metered ns es := by
  induction h with
  | nil => exact metered_nil ns
  | event e => exact metered_event ns e
  | refused hcall =>
    intro l
    simp [Effect.patch?, Effect.change, Patch.change, hcall]
  | patched hr =>
    intro l
    simp [Effect.patch?, Effect.change, hr.silent.1, hr.change]
  | append _ _ ih ih' => exact ih.append ih'

theorem metered_setStatus (ns : String) (api : Api) (now : Int) (wd : WorkloadDependency)
    (phase : DependencyPhase) (msg : String) (result : Option Result) :
    Metered ns (setStatus api now wd phase msg result).effects := by
  intro l
  rw [patches_setStatus]
  apply List.sum_eq_zero
  intro x hx
  obtain ⟨e, he, rfl⟩ := List.mem_map.mp hx
  rcases mem_setStatus he with ⟨_, _, rfl⟩ | ⟨_, rfl⟩ | ⟨_, _, _, rfl⟩ | ⟨_, _, rfl⟩
  · rfl
  · rfl
  · rfl
  · rfl

theorem Delivers.metered {api : Api} {now : Int} {wd : WorkloadDependency}
    {w : WorkloadAccessor} {ev : Evaluation} {d : Deed} {o : Outcome}
    {write : Option (DependencyPhase × Memory)} (h : Delivers api now wd w ev d o write) :
    Metered wd.ns o.effects := by
  cases h with
  | refused _ _ _ _ _ ha => exact ha.metered
  | waited _ _ ho =>
    subst ho
    exact metered_nil _
  | wrote _ _ _ _ _ _ ha ho =>
    subst ho
    exact ha.metered.append (metered_setStatus _ _ _ _ _ _ _)

end Metering

def Cluster.fleet (c : Cluster) : List (String × Target) :=
  c.wds.items.map (fun wd => (wd.ns, wd.target))

section Fleet

variable {api : Api} {now : Int} {c : Cluster} {req : NamespacedName} {wd : WorkloadDependency}

theorem mem_fleet (h : c.getWD req = some wd) : (req.ns, wd.target) ∈ c.fleet := by
  have hns : wd.ns = req.ns := congrArg NamespacedName.ns (c.getWD_key h)
  rw [← hns]
  exact List.mem_map_of_mem (c.mem_wds h)

theorem fleet_putPatch (c : Cluster) (k : NamespacedName) (patch : Option WorkloadObject) :
    (c.putPatch k patch).fleet = c.fleet := by
  cases patch with
  | none => rfl
  | some a => cases a <;> rfl

theorem fleet_storeAttempt (c : Cluster) (a : Attempt) : (c.storeAttempt a).fleet = c.fleet := by
  cases a with
  | written w => exact c.wds.map_modify w.withStatusOf (fun _ => rfl) (fun _ _ _ => rfl)
  | exhausted => rfl
  | failed => rfl

theorem fleet_addFinalizer (h : c.getWD req = some wd) (hd : wd.deletionTimestamp = none) :
    (c.putObject wd.addFinalizer).fleet = c.fleet := by
  have hspec := wd.addFinalizer_sameSpec
  have hlive : ¬ (wd.addFinalizer.deletionTimestamp.isSome ∧ wd.addFinalizer.finalizers = []) := by
    rw [hspec.deletionTimestamp, hd]
    simp
  unfold Cluster.putObject
  rw [if_neg hlive]
  apply c.wds.map_modify wd.addFinalizer.withObjectOf (fun _ => rfl)
  intro a ha hk
  have hwd : a = wd := by
    apply c.wds.key_injOn ha (c.mem_wds h)
    exact hk.trans hspec.key
  subst hwd
  change (a.ns, WorkloadDependency.target _) = (a.ns, a.target)
  unfold WorkloadDependency.target WorkloadDependency.dependentKind WorkloadDependency.dependentKey
    WorkloadDependency.dependentNs WorkloadDependency.withObjectOf
  rw [hspec.spec]

theorem ensureFinalizer_fleet (h : c.getWD req = some wd) (hd : wd.deletionTimestamp = none) :
    (c.applyAll (ensureFinalizer api now c wd).effects).fleet = c.fleet := by
  have hexit : FinalizerExit api now c wd (ensureFinalizer api now c wd) :=
    ensureFinalizer_exit api now c wd
  generalize ensureFinalizer api now c wd = o at hexit ⊢
  cases hexit with
  | turnedAway =>
    rw [Outcome.prepend, Cluster.applyAll_append, applyAll_setStatus]
    exact fleet_storeAttempt c _
  | @sent call =>
    cases call with
    | ok => exact fleet_addFinalizer h hd
    | conflict => rfl
    | failed => rfl

theorem reconciled_fleet (h : c.getWD req = some wd) (hd : wd.deletionTimestamp = none) :
    (c.reconciled api now req).fleet = c.fleet := by
  have hexit : Exit api now c req wd (reconcile api now c req) := reconcile_exit now h
  unfold Cluster.reconciled
  generalize reconcile api now c req = o at hexit ⊢
  cases hexit with
  | failed => rfl
  | deletion hdel => simp [hd] at hdel
  | unfinalized => exact ensureFinalizer_fleet h hd
  | reported =>
    rw [applyAll_setStatus]
    exact fleet_storeAttempt c _
  | @dispatched obj ev =>
    obtain ⟨d, write, _, hperf, _⟩ := dispatch_spec api now wd ⟨wd.dependentKey, obj⟩ ev
    cases hperf with
    | refused _ _ he => rw [he]
    | waited _ he =>
      rw [he]
      exact fleet_putPatch c _ _
    | wrote _ _ he =>
      rw [he, fleet_storeAttempt]
      exact fleet_putPatch c _ _

theorem metered_ensureFinalizer (ns : String) (api : Api) (now : Int) (c : Cluster)
    (wd : WorkloadDependency) : Metered ns (ensureFinalizer api now c wd).effects := by
  have hexit : FinalizerExit api now c wd (ensureFinalizer api now c wd) :=
    ensureFinalizer_exit api now c wd
  generalize ensureFinalizer api now c wd = o at hexit ⊢
  cases hexit with
  | turnedAway => exact (metered_event _ _).append (metered_setStatus ns api now wd _ _ _)
  | sent => exact fun _ => rfl

theorem metered_reconcile (now : Int) (h : c.getWD req = some wd)
    (hd : wd.deletionTimestamp = none) : Metered req.ns (reconcile api now c req).effects := by
  have hns : wd.ns = req.ns := congrArg NamespacedName.ns (c.getWD_key h)
  have hexit : Exit api now c req wd (reconcile api now c req) := reconcile_exit now h
  generalize reconcile api now c req = o at hexit ⊢
  cases hexit with
  | failed => exact metered_nil _
  | deletion hdel => simp [hd] at hdel
  | unfinalized => exact metered_ensureFinalizer req.ns api now c wd
  | reported => exact metered_setStatus req.ns api now wd _ _ _
  | @dispatched obj ev =>
    obtain ⟨d, write, _, hdel⟩ := dispatch_delivers api now wd ⟨wd.dependentKey, obj⟩ ev
    rw [← hns]
    exact hdel.metered

end Fleet

structure Pending (now : Int) (c : Cluster) (wd : WorkloadDependency) (w : WorkloadObject)
    (d : Deed) : Prop where
  dependent : c.dependent wd = some w
  finalizer : wd.containsFinalizer = true
  unpaused : wd.isPaused = false
  due : ∃ ok write, (ok = true ↔ AllWell c wd) ∧ Move wd w now ok d write
  needed : d.patch wd.status.savedReplicas w ≠ none

section Patches

variable {api : Api} {now : Int} {c : Cluster} {req : NamespacedName} {wd : WorkloadDependency}

theorem Pending.patches {w : WorkloadObject} {d : Deed} (hp : Pending now c wd w d)
    (hok : api.AllOk) (h : c.getWD req = some wd) (hd : wd.deletionTimestamp = none)
    (he : wd.enforces) : ∃ a, d.patch wd.status.savedReplicas w = some a ∧
      (reconcile api now c req).patches = [⟨wd.dependentKey, w, a, .ok⟩] := by
  obtain ⟨a, hpatch⟩ := Option.ne_none_iff_exists'.mp hp.needed
  obtain ⟨ev, hs⟩ := sighting_of_allOk hok h hd hp.finalizer hp.unpaused hp.dependent
  obtain ⟨_, _, d', write', hm', hdel⟩ := reconcile_delivers now h hs
  obtain ⟨ok, write, hwell, hm⟩ := hp.due
  obtain rfl := sighting_allOk h hs hwell
  obtain ⟨rfl, _⟩ := hm'.unique he hm
  refine ⟨a, hpatch, ?_⟩
  have hpatches := hdel.realises.2
  unfold Deed.patches at hpatches
  rw [hpatch, hok.patch] at hpatches
  exact hpatches

theorem reconcile_pending (now : Int) (hok : api.AllOk) (h : c.getWD req = some wd)
    (hd : wd.deletionTimestamp = none) :
    (reconcile api now c req).patches = [] ∨ ∃ w d a, Pending now c wd w d ∧
      d.patch wd.status.savedReplicas w = some a ∧
      (reconcile api now c req).patches = [⟨wd.dependentKey, w, a, .ok⟩] := by
  have hsource : PatchSource api now c req wd (reconcile api now c req).patches :=
    reconcile_patchSource now h
  generalize (reconcile api now c req).patches = ps at hsource ⊢
  cases hsource with
  | silent => exact Or.inl rfl
  | @move s d write hs hw hm =>
    cases hpatch : d.patch wd.status.savedReplicas s.dependent with
    | none =>
      left
      simp [Deed.patches, hpatch]
    | some a =>
      right
      obtain ⟨_, hf, hp⟩ := sighting_spec hs h
      refine ⟨s.dependent, d, a, ⟨hw, hf, hp, ⟨_, _, ?_, hm⟩, by simp [hpatch]⟩, hpatch, ?_⟩
      · exact evaluateDependencies_allOk (sighting_evaluation hs h)
      · simp [Deed.patches, hpatch, hok.patch]
  | undo hdel => simp [hd] at hdel

end Patches

/-- One operator process: any number of living objects in strict or soft mode with different
dependents, none of them suspended at the start and none ever edited. Every call succeeds;
workloads change in any way. -/
def fleetRules : Rules where
  start c := (c.fleet.map Prod.snd).Nodup ∧ ∀ k wd, c.getWD k = some wd →
    wd.deletionTimestamp = none ∧ wd.enforces ∧ wd.status.phase ≠ .suspended
  calls _ _ := Api.AllOk
  disturbs c c' := c'.wds = c.wds

def FleetRun : Type := Run fleetRules.system

namespace FleetRun

variable (r : FleetRun)

def cluster (i : ℕ) : Cluster := (Run.state r i).cluster

def clock (i : ℕ) : Int := (Run.state r i).clock

def effects (i : ℕ) : List Effect :=
  match Run.event r i with
  | .reconcile req api => (Klink.reconcile api (r.clock i) (r.cluster i) req).effects
  | .environment _ => []

def patches (i : ℕ) : List Patch := (r.effects i).filterMap Effect.patch?

def gauge : ℕ → Gauge
  | 0 => fun _ => 0
  | i + 1 => (gauge i).observeAll (r.effects i)

/-- klink's last patch of the workload took it down. -/
def held (t : Target) : ℕ → Bool
  | 0 => false
  | i + 1 =>
    (r.patches i).foldl (fun h p => if p.target = t then decide p.takesDown else h) (held t i)

def count (l : String × String) (i : ℕ) : ℕ :=
  (r.cluster i).wds.items.countP
    (fun wd => decide ((wd.ns, wd.dependentKind.name) = l) && r.held wd.target i)

/-- The Reconcile at step `i` is not about to take down what klink holds down, nor to bring back
what it does not hold. -/
def Orderly (i : ℕ) : Prop :=
  ∀ req api wd w, Run.event r i = .reconcile req api → (r.cluster i).getWD req = some wd →
    (Pending (r.clock i) (r.cluster i) wd w .suspend → r.held wd.target i = false) ∧
    (Pending (r.clock i) (r.cluster i) wd w .restore → r.held wd.target i = true)

variable {r} {i : ℕ}

theorem step_cases :
    (∃ req api, Run.event r i = .reconcile req api ∧ api.AllOk ∧
      r.effects i = (Klink.reconcile api (r.clock i) (r.cluster i) req).effects ∧
      r.cluster (i + 1) = (r.cluster i).reconciled api (r.clock i) req) ∨
    ((∀ req api, Run.event r i ≠ .reconcile req api) ∧ r.effects i = [] ∧
      (r.cluster (i + 1)).wds = (r.cluster i).wds) := by
  have hv := Run.valid r i
  have hs := Run.step r i
  unfold effects cluster
  rw [hs]
  cases he : Run.event r i with
  | reconcile req api =>
    rw [he] at hv
    exact Or.inl ⟨req, api, rfl, hv, rfl, rfl⟩
  | environment s =>
    rw [he] at hv
    exact Or.inr ⟨nofun, rfl, hv.2⟩

theorem living_enforces {k : NamespacedName} {wd : WorkloadDependency}
    (h : (r.cluster i).getWD k = some wd) : wd.deletionTimestamp = none ∧ wd.enforces := by
  refine Rules.invariant r (I := fun c => ∀ k wd, c.getWD k = some wd →
    wd.deletionTimestamp = none ∧ wd.enforces) ?_ ?_ ?_ i k wd h
  · rintro c ⟨_, hstart⟩ k wd hk
    obtain ⟨hd, he, _⟩ := hstart k wd hk
    exact ⟨hd, he⟩
  · intro i req api _ hok ih k wd hk
    cases hreq : (Run.state r i).cluster.getWD req with
    | none =>
      rw [reconcile_absent _ hreq] at hk
      exact ih k wd hk
    | some wd₀ =>
      obtain ⟨hd, he⟩ := ih req wd₀ hreq
      by_cases hkey : k = req
      · subst hkey
        obtain ⟨wd', ho, hspec, _⟩ :=
          (reconcile_transition (r.clock i) hreq (Api.AllOk.written hok)).advance hd
        obtain rfl := Option.some.inj (ho.symm.trans hk)
        exact ⟨hspec.deletionTimestamp.trans hd, hspec.enforces.mpr he⟩
      · have hconf := reconcile_confined (r.clock i) hreq (Api.AllOk.written hok)
        exact ih k wd ((hconf.getWD hkey).symm.trans hk)
  · intro i c' hw ih k wd hk
    apply ih k wd
    unfold Cluster.getWD at hk ⊢
    rw [← hw]
    exact hk

theorem fleet_eq (i : ℕ) : (r.cluster i).fleet = (r.cluster 0).fleet := by
  induction i with
  | zero => rfl
  | succ i ih =>
    rw [← ih]
    rcases r.step_cases with ⟨req, api, _, _, _, hn⟩ | ⟨_, _, hw⟩
    · rw [hn]
      cases hreq : (r.cluster i).getWD req with
      | none => rw [reconcile_absent _ hreq]
      | some wd => exact reconciled_fleet hreq (living_enforces hreq).1
    · unfold Cluster.fleet
      rw [hw]

theorem targets_nodup : ((r.cluster 0).fleet.map Prod.snd).Nodup := (Run.start r).1

variable (r) in
def report (i : ℕ) : Option ((String × Target) × Bool) :=
  match Run.event r i with
  | .reconcile req _ => (r.patches i).head?.map (fun p => ((req.ns, p.target), decide p.takesDown))
  | .environment _ => none

structure Reports (r : FleetRun) (i : ℕ) (req : NamespacedName) (api : Api)
    (wd : WorkloadDependency) (w a : WorkloadObject) (d : Deed) : Prop where
  event : Run.event r i = .reconcile req api
  stored : (r.cluster i).getWD req = some wd
  pending : Pending (r.clock i) (r.cluster i) wd w d
  down : Patch.takesDown ⟨wd.dependentKey, w, a, .ok⟩ ↔ d = .suspend
  target : Patch.target ⟨wd.dependentKey, w, a, .ok⟩ = wd.target
  patches : r.patches i = [⟨wd.dependentKey, w, a, .ok⟩]

theorem takesDown_iff {wd : WorkloadDependency} {w a : WorkloadObject} {d : Deed}
    (ha : d.patch wd.status.savedReplicas w = some a) :
    Patch.takesDown ⟨wd.dependentKey, w, a, .ok⟩ ↔ d = .suspend := by
  cases d with
  | keep => cases ha
  | suspend => exact ⟨fun _ => rfl, fun _ => suspendPatch_down ha⟩
  | restore => exact ⟨fun hd => absurd hd (Patch.up_of_restorePatch ha), nofun⟩

theorem effects_of_event {req : NamespacedName} {api : Api}
    (he : Run.event r i = .reconcile req api) : api.AllOk ∧
      r.effects i = (Klink.reconcile api (r.clock i) (r.cluster i) req).effects := by
  rcases r.step_cases with ⟨req', api', he', hok, heff, _⟩ | ⟨hne, _⟩
  · cases he.symm.trans he'
    exact ⟨hok, heff⟩
  · exact absurd he (hne req api)

theorem Reports.of_pending {req : NamespacedName} {api : Api} {wd : WorkloadDependency}
    {w : WorkloadObject} {d : Deed} (he : Run.event r i = .reconcile req api)
    (h : (r.cluster i).getWD req = some wd) (hp : Pending (r.clock i) (r.cluster i) wd w d) :
    ∃ a, Reports r i req api wd w a d := by
  obtain ⟨hok, heff⟩ := effects_of_event he
  obtain ⟨hd, henf⟩ := living_enforces h
  obtain ⟨a, ha, hps⟩ := hp.patches hok h hd henf
  have hkind : w.kind = wd.dependentKind := (r.cluster i).workload_kind hp.dependent
  have htarget : Patch.target ⟨wd.dependentKey, w, a, .ok⟩ = wd.target := by
    unfold Patch.target WorkloadDependency.target
    rw [← hkind]
  exact ⟨a, he, h, hp, takesDown_iff ha, htarget,
    (congrArg (List.filterMap Effect.patch?) heff).trans hps⟩

theorem reports_cases (r : FleetRun) (i : ℕ) : r.patches i = [] ∨
    ∃ req api wd w a d, Reports r i req api wd w a d := by
  rcases r.step_cases with ⟨req, api, he, hok, heff, _⟩ | ⟨_, heff, _⟩
  · have hp : r.patches i = (Klink.reconcile api (r.clock i) (r.cluster i) req).patches :=
      congrArg (List.filterMap Effect.patch?) heff
    cases hreq : (r.cluster i).getWD req with
    | none =>
      left
      rw [hp]
      exact congrArg (List.filterMap Effect.patch?) (reconcile_effects_absent _ hreq)
    | some wd =>
      rcases reconcile_pending (r.clock i) hok hreq (living_enforces hreq).1 with
        hnone | ⟨w, d, _, hpend, _⟩
      · exact Or.inl (hp.trans hnone)
      · obtain ⟨a, hr⟩ := Reports.of_pending he hreq hpend
        exact Or.inr ⟨req, api, wd, w, a, d, hr⟩
  · left
    exact congrArg (List.filterMap Effect.patch?) heff

theorem report_eq_none (h : r.patches i = []) : r.report i = none := by
  unfold report
  rw [h]
  cases Run.event r i <;> rfl

section Step

variable {req : NamespacedName} {api : Api} {wd : WorkloadDependency} {w a : WorkloadObject}
  {d : Deed}

theorem Reports.report (h : Reports r i req api wd w a d) :
    r.report i = some ((req.ns, wd.target), decide (d = .suspend)) := by
  unfold FleetRun.report
  rw [h.event, h.patches]
  simp [h.target, h.down]

theorem Reports.mem_fleet (h : Reports r i req api wd w a d) :
    (req.ns, wd.target) ∈ (r.cluster 0).fleet := by
  rw [← fleet_eq i]
  exact Klink.mem_fleet h.stored

theorem Reports.held_succ (h : Reports r i req api wd w a d) (t : Target) :
    r.held t (i + 1) = if wd.target = t then decide (d = .suspend) else r.held t i := by
  rw [held, h.patches]
  simp [h.target, h.down]

end Step

theorem fleet_nodup (r : FleetRun) : (r.cluster 0).fleet.Nodup := targets_nodup.of_map Prod.snd

theorem report_known (r : FleetRun) (i : ℕ) (x : String × Target) (b : Bool)
    (h : r.report i = some (x, b)) : x ∈ (r.cluster 0).fleet := by
  rcases reports_cases r i with hnone | ⟨req, api, wd, w, a, d, hr⟩
  · cases (report_eq_none hnone).symm.trans h
  · cases Option.some.inj (hr.report.symm.trans h)
    exact hr.mem_fleet

def ledger (r : FleetRun) : Ledger (String × Target) (String × String) where
  things := (r.cluster 0).fleet
  nodup := r.fleet_nodup
  label x := (x.1, x.2.kind.name)
  report := r.report
  known := r.report_known

theorem ledger_held {x : String × Target} (hx : x ∈ (r.cluster 0).fleet) (i : ℕ) :
    r.ledger.held x i = r.held x.2 i := by
  induction i with
  | zero => rfl
  | succ i ih =>
    rcases reports_cases r i with hnone | ⟨req, api, wd, w, a, d, hr⟩
    · rw [Ledger.held_succ_of_none (report_eq_none hnone), held, hnone]
      exact ih
    · have hsame : (req.ns, wd.target) = x ↔ wd.target = x.2 := by
        refine ⟨fun h => by rw [← h], fun h => ?_⟩
        exact List.inj_on_of_nodup_map targets_nodup hr.mem_fleet hx h
      rw [Ledger.held_succ hr.report, hr.held_succ, ih]
      simp only [hsame]

/-- The gauge moves with the patch of the step. -/
theorem ledger_change (l : String × String) (i : ℕ) :
    r.ledger.change l i = ((r.effects i).map (Effect.change l)).sum := by
  have hmetered : ∀ req api, Run.event r i = .reconcile req api → ∀ wd,
      (r.cluster i).getWD req = some wd → Metered req.ns (r.effects i) := by
    intro req api he wd hreq
    rw [(effects_of_event he).2]
    exact metered_reconcile (r.clock i) hreq (living_enforces hreq).1
  rcases reports_cases r i with hnone | ⟨req, api, wd, w, a, d, hr⟩
  · have hreport : r.ledger.report i = none := report_eq_none hnone
    rw [Ledger.change, hreport]
    rcases r.step_cases with ⟨req, api, he, _, heff, _⟩ | ⟨_, heff, _⟩
    · cases hreq : (r.cluster i).getWD req with
      | none =>
        rw [heff, reconcile_effects_absent _ hreq]
        rfl
      | some wd =>
        rw [hmetered req api he wd hreq l]
        change 0 = ((r.patches i).map _).sum
        rw [hnone]
        rfl
    · rw [heff]
      rfl
  · have hreport : r.ledger.report i = _ := hr.report
    have hkind : w.kind.name = wd.target.kind.name :=
      congrArg (fun t => WorkloadKind.name t.kind) hr.target
    rw [Ledger.change, hreport, hmetered req api hr.event wd hr.stored l]
    change (if (req.ns, wd.target.kind.name) = l then _ else 0) = ((r.patches i).map _).sum
    rw [hr.patches, ← hkind]
    simp [Patch.change, hr.down]

theorem ledger_gauge (l : String × String) (i : ℕ) : r.ledger.gauge l i = r.gauge i l := by
  induction i with
  | zero => rfl
  | succ i ih =>
    rw [Ledger.gauge, ih, ledger_change]
    exact (Gauge.observeAll_apply _ _ _).symm

theorem ledger_count (l : String × String) (i : ℕ) : r.ledger.count l i = r.count l i := by
  have hitems : r.count l i = (r.cluster i).fleet.countP
      (fun x => decide ((x.1, x.2.kind.name) = l) && r.held x.2 i) := by
    unfold count Cluster.fleet
    rw [List.countP_map]
    rfl
  rw [hitems, fleet_eq]
  apply List.countP_congr
  intro x hx
  rw [ledger_held hx]
  rfl

theorem Reports.held_eq {req : NamespacedName} {api : Api} {wd : WorkloadDependency}
    {w a : WorkloadObject} {d : Deed} (hr : Reports r i req api wd w a d) :
    r.ledger.held (req.ns, wd.target) i = r.held wd.target i :=
  ledger_held hr.mem_fleet i

theorem orderly_iff (i : ℕ) : r.ledger.Orderly i ↔ r.Orderly i := by
  constructor
  · intro h req api wd w he hs
    constructor
    · intro hp
      obtain ⟨a, hr⟩ := Reports.of_pending he hs hp
      exact hr.held_eq.symm.trans (h _ _ hr.report)
    · intro hp
      obtain ⟨a, hr⟩ := Reports.of_pending he hs hp
      exact hr.held_eq.symm.trans (h _ _ hr.report)
  · intro h x b hx
    rcases reports_cases r i with hnone | ⟨req, api, wd, w, a, d, hr⟩
    · cases (report_eq_none hnone).symm.trans hx
    · cases Option.some.inj (hr.report.symm.trans hx)
      rw [hr.held_eq]
      obtain ⟨hsuspend, hrestore⟩ := h req api wd w hr.event hr.stored
      cases d with
      | keep => exact absurd rfl hr.pending.needed
      | suspend => exact hsuspend hr.pending
      | restore => exact hrestore hr.pending

end FleetRun

/-- The gauge counts what klink holds down exactly while every step is orderly. It is then never
negative, and zero when nothing is held. -/
theorem gauge_counts_iff (r : FleetRun) :
    ((∀ i l, r.gauge i l = r.count l i) ↔ ∀ i, r.Orderly i) ∧
    ∀ i, (∀ j < i, r.Orderly j) → ∀ l, r.gauge i l = r.count l i ∧ 0 ≤ r.gauge i l ∧
      ((∀ wd ∈ (r.cluster i).wds.items, r.held wd.target i = false) → r.gauge i l = 0) := by
  have hcount : ∀ i, (∀ j < i, r.Orderly j) → ∀ l, r.gauge i l = r.count l i := by
    intro i h l
    rw [← FleetRun.ledger_gauge, ← FleetRun.ledger_count]
    exact Ledger.gauge_eq_count (fun j hj => (FleetRun.orderly_iff j).mpr (h j hj)) l
  constructor
  · simp only [← FleetRun.orderly_iff, ← FleetRun.ledger_gauge, ← FleetRun.ledger_count]
    exact Ledger.gauge_eq_count_iff
  · intro i h l
    rw [hcount i h l]
    refine ⟨rfl, Int.natCast_nonneg _, ?_⟩
    intro hfree
    have hzero : r.count l i = 0 := by
      apply List.countP_eq_zero.mpr
      intro wd hwd
      simp [hfree wd hwd]
    rw [hzero]
    rfl

def scaleUpScript : List (World → Happening) :=
  [runs demoKey .good, runs demoKey .good, waits (31 * second), runs demoKey .good,
    sets webKey (.deployment ⟨some 2, 2⟩), runs demoKey .good]

theorem scaleUpScript_playable : Playable fleetRules.system demoDeployment scaleUpScript := by
  have hr : Api.AllOk .good := Api.good_allOk
  have hw : ∀ t : Int, t ≤ t + 31 * second := fun t => Int.le_add_of_nonneg_right (by decide)
  exact ⟨hr, hr, ⟨hw _, rfl⟩, hr, ⟨le_refl _, rfl⟩, hr, trivial⟩

theorem demoDeployment_fleet : fleetRules.start demoDeployment.cluster := by
  refine ⟨List.nodup_singleton _, ?_⟩
  intro k wd h
  obtain rfl : wd = demoObject "Deployment" .strict 0 :=
    List.mem_singleton.mp (Cluster.mem_wds h)
  exact ⟨rfl, Or.inl rfl, nofun⟩

def scaleUpRun : FleetRun :=
  Run.ofScript demoDeployment_fleet scaleUpScript scaleUpScript_playable
    (fun s => .environment s) (fun _ => ⟨⟨le_refl _, rfl⟩, rfl⟩)

/-- One workload is suspended, and the gauge says two. -/
theorem reenforcement_counted_twice :
    scaleUpRun.gauge 6 ("default", "Deployment") = 2 ∧
      scaleUpRun.count ("default", "Deployment") 6 = 1 := by
  decide

end Klink
