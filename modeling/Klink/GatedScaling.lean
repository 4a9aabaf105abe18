import Klink.AdmissionServer
import Klink.GateScope
import Klink.PatchGuards
import Klink.SuspensionGauge

/-! # A workload behind the gate

The gate reviews every update of a workload, those of the operator included: an object in strict or
soft mode that wants to give a workload back meets the same gate as anybody else. While the gate has
a reason to block, the workload only goes down, and a restore that is refused leaves everything as
it was, so that nothing that was saved is lost. Creation and the scale subresource pass by the gate.
-/
namespace Klink

open TransitionSystem

def WorkloadKind.resource : WorkloadKind → String
  | .deployment => "deployments"
  | .statefulSet => "statefulsets"
  | .cronJob => "cronjobs"
  | .rollout => "rollouts"

/-- The `spec` of a workload as it stands in a request. The count of a Rollout is taken to fit. -/
def WorkloadObject.raw : WorkloadObject → RawObject
  | .deployment obj => .object ⟨none, obj.replicas⟩
  | .statefulSet obj => .object ⟨none, obj.replicas⟩
  | .cronJob obj => .object ⟨obj.suspend, none⟩
  | .rollout obj => .object ⟨none, obj.replicas.map Int64.toInt32⟩

def WorkloadObject.gateCount (w : WorkloadObject) : Int32 := w.raw.count w.kind.name

def updateRequest (k : NamespacedName) (old new : WorkloadObject) : AdmissionRequest :=
  ⟨.update, new.kind.name, k.name, k.ns, new.kind.resource, "", new.raw, old.raw⟩

/-- The gate was asked about the update, could read all it needs, and let it through. -/
def GateAdmits (A : Admission) (c : Cluster) (k : NamespacedName) (old new : WorkloadObject) :
    Prop :=
  ∃ r : Review, r.request = updateRequest k old new ∧
    A.decides gateHook r.uid (some (GateHandler.serveHTTP .good c (.review r))) = true

/-- What others do to one workload. A change that is no change of its scale comes with the status;
one of its scale is an update of the workload, and the gate is asked. -/
inductive Rescaled (A : Admission) (c : Cluster) (t : Target) :
    Option WorkloadObject → Option WorkloadObject → Prop where
  | kept {old new} : new.raw = old.raw → Rescaled A c t (some old) (some new)
  | updated {old new} : GateAdmits A c t.key old new → Rescaled A c t (some old) (some new)
  | removed (o) : Rescaled A c t o none
  | created (o) : Rescaled A c t none o

def gateRules (A : Admission) (t : Target) : Rules where
  start _ := True
  calls c req api := ∀ now k before after old,
    Effect.patch k before after .ok ∈ (reconcile api now c req).effects →
      c.workload after.kind k = some old → GateAdmits A c k old after
  disturbs c c' := Rescaled A c t (c.workload t.kind t.key) (c'.workload t.kind t.key)

section Patches

variable {api : Api} {now : Int} {c : Cluster} {req : NamespacedName} {wd : WorkloadDependency}
  {es : List Effect} {kind : WorkloadKind} {k : NamespacedName}

theorem handleDeletion_refused (hno : api.patch ≠ .ok)
    (hps : (handleDeletion api c wd).patches ≠ []) :
    c.applyAll (handleDeletion api c wd).effects = c := by
  have hexit : DeletionExit api c wd (handleDeletion api c wd) := handleDeletion_exit api c wd
  generalize handleDeletion api c wd = o at hexit hps ⊢
  cases hexit with
  | dropped => exact absurd (patches_removeFinalizer api wd) hps
  | unread => rfl
  | refused _ _ _ ha => exact ha.cluster c
  | @undone obj _ _ _ _ ha =>
    -- without a patch there would be none among the effects
    have hnone : Deed.restore.patch wd.status.savedReplicas obj = none :=
      ha.accepted.resolve_right hno
    refine absurd ?_ hps
    rw [ha.removal_patches, Deed.patches, hnone]
    rfl

/-- A patch that is not accepted ends the Reconcile with nothing changed. -/
theorem reconcile_refused (hno : api.patch ≠ .ok)
    (hps : (reconcile api now c req).patches ≠ []) : c.reconciled api now req = c := by
  cases hwd : c.getWD req with
  | none => exact reconcile_absent now hwd
  | some wd =>
    have hexit : Exit api now c req wd (reconcile api now c req) := reconcile_exit now hwd
    unfold Cluster.reconciled
    generalize reconcile api now c req = o at hexit hps ⊢
    cases hexit with
    | failed => rfl
    | deletion => exact handleDeletion_refused hno hps
    | unfinalized => exact absurd (ensureFinalizer_patches api now c wd) hps
    | reported => exact absurd (patches_setStatus api now wd _ _ none) hps
    | @dispatched obj ev _ _ =>
      obtain ⟨d, write, _, hdel⟩ := dispatch_delivers api now wd ⟨wd.dependentKey, obj⟩ ev
      cases hdel with
      | refused _ _ _ hc _ _ => exact hc c
      | waited _ _ ho =>
        rw [ho] at hps
        exact absurd rfl hps
      | wrote hacc _ _ _ _ hes _ ho =>
        refine absurd ?_ hps
        have hnone : d.patches api wd.status.savedReplicas ⟨wd.dependentKey, obj⟩ = [] := by
          rw [Deed.patches, hacc.resolve_right hno]
          rfl
        rw [ho]
        change List.filterMap Effect.patch? (_ ++ _) = _
        rw [List.filterMap_append, patches_setStatus, hes, hnone]
        rfl

end Patches

section Gate

variable {A : Admission} {c : Cluster} {t : Target} {old new : WorkloadObject} {i j : ℕ}
  {w w' : WorkloadObject}

theorem GateAdmits.count_le {k : NamespacedName} (h : GateAdmits A c k old new)
    (hkind : old.kind = new.kind) (hb : Blocked .good c new.kind.name k.name k.ns) :
    new.gateCount ≤ old.gateCount := by
  obtain ⟨r, hr, hd⟩ := h
  have hallowed : (validate .good c r.request).allowed = true := by
    rw [← hd]
    exact (A.answered gateHook r.uid _).symm
  by_contra hlt
  have hraises : r.request.Raises := by
    rw [hr]
    refine ⟨by simp [updateRequest], ?_, ?_⟩
    · cases new <;> simp [updateRequest, WorkloadObject.raw]
    · rw [Int32.not_le] at hlt
      unfold WorkloadObject.gateCount at hlt
      rw [hkind] at hlt
      exact hlt
  have hdenied : (validate .good c r.request).allowed = false := by
    obtain ⟨hop, hmore⟩ := AdmissionRequest.raises_iff.mp hraises
    refine (validate_denies_iff r.request).mpr ⟨hop, hmore, rfl, ?_⟩
    rw [hr]
    exact hb
  cases hallowed.symm.trans hdenied

theorem WorkloadObject.gateCount_eq (h : new.raw = old.raw) (hkind : old.kind = new.kind) :
    new.gateCount = old.gateCount := by
  unfold gateCount
  rw [h, hkind]

theorem gateCount_step (r : Run (gateRules A t).system) {n : ℕ}
    (hb : Blocked .good (r.state n).cluster t.kind.name t.key.name t.key.ns)
    (hw : (r.state n).cluster.workload t.kind t.key = some w)
    (hw' : (r.state (n + 1)).cluster.workload t.kind t.key = some w') :
    w'.gateCount ≤ w.gateCount := by
  have hold : w.kind = t.kind := Cluster.workload_kind hw
  have hnew : w'.kind = t.kind := Cluster.workload_kind hw'
  have hkind : w.kind = w'.kind := hold.trans hnew.symm
  have hb' : Blocked .good (r.state n).cluster w'.kind.name t.key.name t.key.ns := by
    rw [hnew]
    exact hb
  have hv := r.valid n
  rw [r.step n] at hw'
  cases he : r.event n with
  | reconcile req api =>
    rw [he] at hv hw'
    rcases (r.state n).cluster.workload_applyAll_cases
      (reconcile api (r.state n).clock (r.state n).cluster req).effects t.kind t.key with
      hsame | ⟨before, after, hm, hk, hafter⟩
    · obtain rfl : w' = w := Option.some.inj (hw'.symm.trans (hsame.trans hw))
      exact Int32.le_refl _
    · obtain rfl : w' = after := Option.some.inj (hw'.symm.trans hafter)
      refine (hv _ _ _ _ w hm ?_).count_le hkind hb'
      rw [hk]
      exact hw
  | environment s =>
    rw [he] at hv hw'
    have hwrite : Rescaled A (r.state n).cluster t (some w) (some w') := by
      rw [← hw, ← hw']
      exact hv.2
    cases hwrite with
    | kept hraw =>
      rw [WorkloadObject.gateCount_eq hraw hkind]
      exact Int32.le_refl _
    | updated ha => exact ha.count_le hkind hb'

/-- While a gate has a reason to block, its workload only goes down, whoever writes to it; and a
Reconcile that would raise it, for whatever object, is refused and changes nothing at all. -/
theorem gate_holds_down (r : Run (gateRules A t).system) (hij : i ≤ j)
    (hpresent : ∀ n, i ≤ n → n ≤ j → ((r.state n).cluster.workload t.kind t.key).isSome = true)
    (hblocked : ∀ n, i ≤ n → n < j →
      Blocked .good (r.state n).cluster t.kind.name t.key.name t.key.ns)
    (hw : (r.state i).cluster.workload t.kind t.key = some w)
    (hw' : (r.state j).cluster.workload t.kind t.key = some w') :
    w'.gateCount ≤ w.gateCount ∧
      ∀ n, i ≤ n → n < j → ∀ req api, r.event n = .reconcile req api →
        ∀ p ∈ (reconcile api (r.state n).clock (r.state n).cluster req).patches,
          p.key = t.key → p.after.kind = t.kind → p.before.gateCount < p.after.gateCount →
            (r.state (n + 1)).cluster = (r.state n).cluster := by
  constructor
  · induction j, hij using Nat.le_induction generalizing w' with
    | base =>
      obtain rfl : w = w' := Option.some.inj (hw.symm.trans hw')
      exact Int32.le_refl _
    | succ n hin ih =>
      obtain ⟨mid, hmid⟩ := Option.isSome_iff_exists.mp (hpresent n hin (by omega))
      have hrest : mid.gateCount ≤ w.gateCount :=
        ih (fun l hl hln => hpresent l hl (by omega)) (fun l hl hln => hblocked l hl (by omega))
          hmid
      have hstep : w'.gateCount ≤ mid.gateCount :=
        gateCount_step r (hblocked n hin (by omega)) hmid hw'
      exact Int32.le_trans hstep hrest
  · intro n hin hnj req api he p hp hkey hkind hmore
    have hv := r.valid n
    rw [r.step n, he]
    rw [he] at hv
    obtain ⟨hstored, hresult⟩ := stored_of_mem_patches hp
    have hno : api.patch ≠ .ok := by
      intro hok
      -- accepted, the patch would have gone past the gate
      have hm : Effect.patch p.key p.before p.after .ok ∈
          (reconcile api (r.state n).clock (r.state n).cluster req).effects := by
        obtain ⟨e, he, hpe⟩ := List.mem_filterMap.mp hp
        cases e with
        | patch k b a res =>
          obtain rfl := Option.some.inj hpe
          rw [← hok, ← hresult]
          exact he
        | _ => cases hpe
      have hle := (hv _ _ _ _ _ hm hstored).count_le
        (Cluster.workload_kind hstored) (by rw [hkind, hkey]; exact hblocked n hin hnj)
      exact absurd hmore (Int32.not_lt.mpr hle)
    exact reconcile_refused hno (List.ne_nil_of_mem hp)

end Gate

/-! Two objects of one workload: the one in strict mode has seen its cache come back and wants to
restore it, the one in gate mode still misses its database. -/

section Story

def cacheObject : WorkloadDependency :=
  { demoObject "Deployment" .strict 0 with
    name := "web-needs-cache"
    finalizers := [finalizerName]
    spec := ⟨⟨"Deployment", "web", ""⟩, [⟨"Deployment", "cache", "", ⟨0, 0, 0⟩⟩], ⟨0⟩, .strict,
      none⟩
    status := { WorkloadDependencyStatus.empty with
      phase := .suspended
      savedReplicas := some 3
      suspendedAt := some 0
      healthySince := some 0 } }

def cacheKey : NamespacedName := ⟨"default", "web-needs-cache"⟩

def rivalWorld : World where
  cluster := (((Cluster.mk ⟨[cacheObject, gateObject], by decide⟩ (fun _ => none) (fun _ => none)
    (fun _ => none) (fun _ => none)).putWorkload webKey (.deployment ⟨some 0, 0⟩)).putWorkload dbKey
      (demoDb 0)).putWorkload ⟨"default", "cache"⟩ (.deployment ⟨some 1, 1⟩)
  clock := 60 * second

def noPatch : Api := { Api.good with patch := .failed }

def rivalScript : List (World → Happening) := [runs cacheKey noPatch]

def webTarget : Target := ⟨.deployment, webKey⟩

theorem gate_enabled_runs (s : World) :
    (gateRules policyAdmission webTarget).enabled s (runs cacheKey noPatch s) := by
  intro now k before after old hm _
  have hp : (⟨k, before, after, .ok⟩ : Patch) ∈
      (reconcile noPatch now s.cluster cacheKey).patches := List.mem_filterMap.mpr ⟨_, hm, rfl⟩
  cases (stored_of_mem_patches hp).2

theorem gate_idles (s : World) :
    (gateRules policyAdmission webTarget).enabled s (.environment s) ∧
      s.next (.environment s) = s := by
  refine ⟨⟨le_rfl, ?_⟩, rfl⟩
  change Rescaled _ s.cluster webTarget (s.cluster.workload .deployment webKey)
    (s.cluster.workload .deployment webKey)
  cases s.cluster.workload .deployment webKey with
  | none => exact .removed none
  | some w => exact .kept rfl

theorem rivalScript_playable :
    Playable (gateRules policyAdmission webTarget).system rivalWorld rivalScript :=
  ⟨gate_enabled_runs _, trivial⟩

def rivalRun : Run (gateRules policyAdmission webTarget).system :=
  Run.ofScript (s := rivalWorld) trivial rivalScript rivalScript_playable .environment gate_idles

theorem rival_blocked :
    Blocked .good (rivalRun.state 0).cluster "Deployment" "web" "default" :=
  ⟨1, gateObject, by decide +kernel, by decide +kernel, 0, ⟨"StatefulSet", "db", "", ⟨0, 0, 0⟩⟩,
    by decide +kernel, "0/1 ready (0% < 100%)", by decide +kernel⟩

def refusedRestore : Patch :=
  ⟨webKey, .deployment ⟨some 0, 0⟩, .deployment ⟨some 3, 0⟩, .failed⟩

theorem gate_holds_down_rivals :
    (reconcile noPatch (60 * second) (rivalRun.state 0).cluster cacheKey).patches =
        [refusedRestore] ∧
      (rivalRun.state 1).cluster = (rivalRun.state 0).cluster := by
  have hp : (reconcile noPatch (60 * second) (rivalRun.state 0).cluster cacheKey).patches =
      [refusedRestore] := by decide +kernel
  have hw : ∀ n ≤ 1, (rivalRun.state n).cluster.workload .deployment webKey =
      some (.deployment ⟨some 0, 0⟩) := by decide +kernel
  have hblocked : ∀ n, 0 ≤ n → n < 1 →
      Blocked .good (rivalRun.state n).cluster "Deployment" "web" "default" := by
    intro n _ hn
    obtain rfl : n = 0 := by omega
    exact rival_blocked
  have hheld := gate_holds_down rivalRun (Nat.zero_le 1)
    (fun n _ hn => Option.isSome_of_eq_some (hw n hn)) hblocked (hw 0 (by decide)) (hw 1 le_rfl)
  refine ⟨hp, hheld.2 0 le_rfl Nat.zero_lt_one cacheKey noPatch rfl refusedRestore ?_ rfl rfl
    (by decide)⟩
  change _ ∈ (reconcile noPatch (60 * second) (rivalRun.state 0).cluster cacheKey).patches
  rw [hp]
  exact List.mem_singleton_self _

end Story

end Klink
