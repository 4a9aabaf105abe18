import Klink.PhaseMachine

/-! # What one Reconcile can do

`Transition` lists every way a Reconcile changes the stored WorkloadDependency and its
dependent, with the guards the code checks and with failing calls. All run invariants are
proved from it. Every other stored object is untouched.
-/
namespace Klink

namespace WorkloadDependency

def dependentKey (wd : WorkloadDependency) : NamespacedName :=
  ⟨wd.dependentNs, wd.spec.dependent.name⟩

def dependentKind (wd : WorkloadDependency) : WorkloadKind :=
  WorkloadKind.ofString wd.spec.dependent.kind

def SameObject (wd wd' : WorkloadDependency) : Prop := { wd with status := wd'.status } = wd'

theorem SameObject.refl (wd : WorkloadDependency) : wd.SameObject wd := rfl

theorem SameObject.key {wd wd' : WorkloadDependency} (h : wd.SameObject wd') :
    wd'.key = wd.key := by
  rw [← h]; rfl

end WorkloadDependency

/-- The object after its finalizer is removed: gone, unless another finalizer keeps it. -/
def WorkloadDependency.withoutFinalizer (wd : WorkloadDependency) : Option WorkloadDependency :=
  if wd.removeFinalizer.finalizers = [] then none else some wd.removeFinalizer

def Cluster.dependent (c : Cluster) (wd : WorkloadDependency) : Option WorkloadObject :=
  c.workload wd.dependentKind wd.dependentKey

structure Target where
  kind : WorkloadKind
  key : NamespacedName
  deriving DecidableEq, Repr

def WorkloadDependency.target (wd : WorkloadDependency) : Target :=
  ⟨wd.dependentKind, wd.dependentKey⟩

structure WorkloadDependency.SameTarget (wd wd' : WorkloadDependency) : Prop where
  key : wd'.dependentKey = wd.dependentKey
  kind : wd'.dependentKind = wd.dependentKind

theorem WorkloadDependency.SameTarget.dependent {wd wd' : WorkloadDependency}
    (h : wd.SameTarget wd') (c : Cluster) : c.dependent wd' = c.dependent wd := by
  unfold Cluster.dependent
  rw [h.kind, h.key]

structure Sighting where
  dependent : WorkloadObject
  ev : Evaluation

def sighting (api : Api) (c : Cluster) (req : NamespacedName) : Option Sighting :=
  match api.getWD, c.getWD req with
  | .ok, some wd =>
    if wd.deletionTimestamp.isSome ∨ wd.containsFinalizer = false ∨ wd.isPaused then none
    else
      match getWorkload api.getDependent c wd.spec.dependent.kind wd.spec.dependent.name
          wd.dependentNs, evaluateDependencies api c wd with
      | .ok w, .ok ev => some ⟨w.obj, ev⟩
      | _, _ => none
  | _, _ => none

/-- What the Reconcile found: `some true` when every dependency was healthy or co-suspended,
`none` when it stopped before or during the evaluation. -/
def found (api : Api) (c : Cluster) (req : NamespacedName) : Option Bool :=
  (sighting api c req).map (·.ev.allOk)

theorem found_eq_of_sighting {api : Api} {c : Cluster} {req : NamespacedName} {s : Sighting}
    (h : sighting api c req = some s) : found api c req = some s.ev.allOk := by
  unfold found
  rw [h]
  rfl

def Api.Honest (api : Api) (wd : WorkloadDependency) : Prop :=
  ∀ i w, api.reread i = some w → w = wd

theorem Api.AllOk.written {wd : WorkloadDependency} {api : Api} (h : api.AllOk) :
    api.statusUpdate 0 = .ok ∨ api.Honest wd := Or.inl (h.statusUpdate 0)

/-- The memory a successful status write leaves behind. After a conflict the caller's fields
land on the stored object instead of the caller's own. -/
def Stored (api : Api) (now : Int) (m : Memory) (phase : DependencyPhase) (caller m' : Memory) :
    Prop :=
  api.persistsStatus = true ∧ (m' = Memory.write now phase caller caller ∨
    (api.statusUpdate 0 = .conflict ∧ m' = Memory.write now phase caller m))

def Deed.Accepted (api : Api) (wd : WorkloadDependency) (w : WorkloadObject) (d : Deed) : Prop :=
  d.patch wd.status.savedReplicas w = none ∨ api.patch = .ok

inductive Transition (api : Api) (now : Int) (c : Cluster) (req : NamespacedName)
    (wd : WorkloadDependency) (w : Option WorkloadObject) :
    Option WorkloadDependency → Option WorkloadObject → List Patch → Prop where
  | idle : ¬ api.AllOk → sighting api c req = none → Transition api now c req wd w (some wd) w []
  | finalize : wd.deletionTimestamp = none → wd.containsFinalizer = false →
      sighting api c req = none → Transition api now c req wd w (some wd.addFinalizer) w []
  | report {wd' phase} : wd.deletionTimestamp = none → sighting api c req = none →
      (phase = .unknown ∧ (wd.containsFinalizer = false ∨ w = none) ∨
        phase = .paused ∧ wd.containsFinalizer = true ∧ wd.isPaused = true) →
      wd.SameObject wd' → Stored api now wd.memory phase wd.memory wd'.memory →
      Transition api now c req wd w (some wd') w []
  | refused {s d write} : sighting api c req = some s → w = some s.dependent →
      Move wd s.dependent now s.ev.allOk d write → api.patch ≠ .ok →
      d.patch wd.status.savedReplicas s.dependent ≠ none →
      Transition api now c req wd w (some wd) w
        (d.patches api wd.status.savedReplicas ⟨wd.dependentKey, s.dependent⟩)
  | act {s d write} : sighting api c req = some s → w = some s.dependent →
      Move wd s.dependent now s.ev.allOk d write → d.Accepted api wd s.dependent →
      (write = none ∨ api.persistsStatus = false) →
      Transition api now c req wd w (some wd)
        (some (d.object wd.status.savedReplicas s.dependent))
        (d.patches api wd.status.savedReplicas ⟨wd.dependentKey, s.dependent⟩)
  | move {s d phase caller wd'} : sighting api c req = some s → w = some s.dependent →
      Move wd s.dependent now s.ev.allOk d (some (phase, caller)) →
      d.Accepted api wd s.dependent → wd.SameObject wd' →
      Stored api now wd.memory phase caller wd'.memory →
      Transition api now c req wd w (some wd')
        (some (d.object wd.status.savedReplicas s.dependent))
        (d.patches api wd.status.savedReplicas ⟨wd.dependentKey, s.dependent⟩)
  | undoFailed {obj obj'} : wd.deletionTimestamp.isSome = true → sighting api c req = none →
      wd.holdsReplicas = true → w = some obj → api.update ≠ .ok ∨ api.patch ≠ .ok →
      (obj' = obj ∨ obj' = Deed.restore.object wd.status.savedReplicas obj) →
      Transition api now c req wd w (some wd) (some obj')
        (Deed.restore.patches api wd.status.savedReplicas ⟨wd.dependentKey, obj⟩)
  | undone {obj} : wd.deletionTimestamp.isSome = true → sighting api c req = none →
      wd.holdsReplicas = true → w = some obj →
      Transition api now c req wd w wd.withoutFinalizer
        (some (Deed.restore.object wd.status.savedReplicas obj))
        (Deed.restore.patches api wd.status.savedReplicas ⟨wd.dependentKey, obj⟩)
  | dropped : wd.deletionTimestamp.isSome = true → sighting api c req = none →
      wd.holdsReplicas = false ∨ w = none →
      Transition api now c req wd w wd.withoutFinalizer w []

def Confined (c : Cluster) (req : NamespacedName) (wd : WorkloadDependency) (c' : Cluster) : Prop :=
  ∃ patch, (∀ a, patch = some a → a.kind = wd.dependentKind) ∧
    (c' = c.putPatch wd.dependentKey patch ∨ ∃ w, w.key = req ∧
      (c' = (c.putPatch wd.dependentKey patch).putStatus w ∨
        c' = (c.putPatch wd.dependentKey patch).putObject w))

theorem Confined.refl (c : Cluster) (req : NamespacedName) (wd : WorkloadDependency) :
    Confined c req wd c := ⟨none, by simp, Or.inl rfl⟩

theorem Confined.getWD {c c' : Cluster} {req k : NamespacedName} {wd : WorkloadDependency}
    (h : Confined c req wd c') (hk : k ≠ req) : c'.getWD k = c.getWD k := by
  obtain ⟨patch, _, h⟩ := h
  have hp : (c.putPatch wd.dependentKey patch).getWD k = c.getWD k := by
    cases patch with
    | none => rfl
    | some a => exact c.getWD_putWorkload _ _ _
  rcases h with rfl | ⟨w, rfl, rfl | rfl⟩
  · exact hp
  · exact (Cluster.getWD_putStatus_ne _ hk).trans hp
  · exact (Cluster.getWD_putObject_ne _ hk).trans hp

theorem Confined.workload {c c' : Cluster} {req k : NamespacedName} {wd : WorkloadDependency}
    {kind : WorkloadKind} (h : Confined c req wd c')
    (hk : kind ≠ wd.dependentKind ∨ k ≠ wd.dependentKey) :
    c'.workload kind k = c.workload kind k := by
  obtain ⟨patch, ha, h⟩ := h
  have hp : (c.putPatch wd.dependentKey patch).workload kind k = c.workload kind k := by
    cases patch with
    | none => rfl
    | some a => exact c.workload_putWorkload_ne (by rw [ha a rfl]; exact hk)
  rcases h with rfl | ⟨w, _, rfl | rfl⟩
  · exact hp
  · exact hp
  · exact (Cluster.workload_putObject _ _ _ _).trans hp

theorem Confined.workload_of_target {c c' : Cluster} {req : NamespacedName}
    {wd : WorkloadDependency} {t : Target} (h : Confined c req wd c') (ht : wd.target ≠ t) :
    c'.workload t.kind t.key = c.workload t.kind t.key := by
  apply h.workload
  by_contra hne
  obtain ⟨hkind, hkey⟩ := not_or.mp hne
  apply ht
  unfold WorkloadDependency.target
  rw [← not_not.mp hkind, ← not_not.mp hkey]

/-- One Reconcile of a stored object: what it does to that object and its dependent, and that it
does nothing else. -/
structure Reconciles (api : Api) (now : Int) (c : Cluster) (req : NamespacedName)
    (wd : WorkloadDependency) (o : Outcome) : Prop where
  transition : Transition api now c req wd (c.dependent wd) ((c.applyAll o.effects).getWD req)
    ((c.applyAll o.effects).dependent wd) o.patches
  confined : Confined c req wd (c.applyAll o.effects)

theorem reconciles_untouched {api : Api} {now : Int} {c : Cluster} {req : NamespacedName}
    {wd : WorkloadDependency} {o : Outcome} (h : c.getWD req = some wd) (hf : ¬ api.AllOk)
    (hn : sighting api c req = none) (hp : o.patches = [])
    (hc : ∀ c : Cluster, c.applyAll o.effects = c) : Reconciles api now c req wd o := by
  constructor
  · rw [hc, hp, h]
    exact .idle hf hn
  · rw [hc]
    exact .refl c req wd

theorem getWorkload_eq_ok {call : CallResult} {c : Cluster} {kind name ns : String}
    {w : WorkloadAccessor} (h : getWorkload call c kind name ns = .ok w) :
    call = .ok ∧ c.workload (WorkloadKind.ofString kind) ⟨ns, name⟩ = some w.obj ∧
      w.key = ⟨ns, name⟩ := by
  unfold getWorkload at h
  split at h
  · split at h
    · next obj ho =>
      cases h
      exact ⟨rfl, ho, rfl⟩
    · cases h
  · cases h

theorem getWorkload_eq_notFound {call : CallResult} {c : Cluster} {kind name ns : String}
    (h : getWorkload call c kind name ns = .error .notFound) :
    c.workload (WorkloadKind.ofString kind) ⟨ns, name⟩ = none := by
  unfold getWorkload at h
  split at h
  · split at h
    · cases h
    · next ho => exact ho
  · cases h

theorem getWorkload_ne_api {c : Cluster} {kind name ns : String} {e : ApiError} :
    getWorkload .ok c kind name ns ≠ .error (.api e) := by
  unfold getWorkload
  dsimp only
  split <;> simp

/-- Whatever happens inside the retry loop, the object written last carries the caller's fields
on top of the caller's own object or of the one read again. -/
theorem updateStatus_written {api : Api} {f : WorkloadDependency → WorkloadDependency}
    {wd : WorkloadDependency} (hr : api.Honest wd) {retries i : ℕ} {w w' : WorkloadDependency}
    (h : (updateStatus api f retries i w).2 = .written w') :
    w' = w ∨ (api.statusUpdate i = .conflict ∧ w' = f wd) := by
  induction retries generalizing i w with
  | zero => cases h
  | succ retries ih =>
    unfold updateStatus at h
    split at h
    · cases h; exact Or.inl rfl
    · cases h
    · next hc =>
      split at h
      · cases h
      · next latest hl =>
        refine Or.inr ⟨hc, ?_⟩
        rcases ih h with rfl | ⟨_, rfl⟩
        · rw [hr i latest hl]
        · rfl

theorem statusAttempt_written {api : Api} {now : Int} {wd caller w : WorkloadDependency}
    {phase : DependencyPhase} {msg : String} (hr : api.statusUpdate 0 = .ok ∨ api.Honest wd)
    (h : (statusAttempt api now caller phase msg).2 = .written w) :
    w = applyFields now caller.status phase msg caller ∨
      (api.statusUpdate 0 = .conflict ∧ w = applyFields now caller.status phase msg wd) := by
  rcases hr with hr | hr
  · rw [statusAttempt_ok hr] at h
    exact Or.inl (Attempt.written.inj h).symm
  · exact updateStatus_written hr h

@[simp] theorem Cluster.workload_storeAttempt (c : Cluster) (a : Attempt) (kind : WorkloadKind)
    (k : NamespacedName) : (c.storeAttempt a).workload kind k = c.workload kind k := by
  cases a <;> rfl

theorem storeAttempt_cases {api : Api} {now : Int} {c : Cluster} {req : NamespacedName}
    {wd caller : WorkloadDependency} {phase : DependencyPhase} {msg : String}
    (h : c.getWD req = some wd) (hr : api.statusUpdate 0 = .ok ∨ api.Honest wd)
    (hc : wd.SameObject caller) :
    (api.persistsStatus = false ∧
      (c.storeAttempt (statusAttempt api now caller phase msg).2).getWD req = some wd) ∨
    ∃ wd', (c.storeAttempt (statusAttempt api now caller phase msg).2).getWD req = some wd' ∧
      wd.SameObject wd' ∧ Stored api now wd.memory phase caller.memory wd'.memory := by
  cases ha : (statusAttempt api now caller phase msg).2 with
  | written w =>
    right
    have hkey : wd.key = req := c.getWD_key h
    have hw := statusAttempt_written hr ha
    have hk : w.key = req := by
      rcases hw with rfl | ⟨_, rfl⟩
      · rw [applyFields_key, hc.key, hkey]
      · rw [applyFields_key, hkey]
    refine ⟨_, Cluster.getWD_putStatus_self h hk, rfl,
      (statusAttempt_written_iff api now caller phase msg).mp ⟨w, ha⟩, ?_⟩
    rcases hw with rfl | ⟨hconf, rfl⟩
    · exact Or.inl (applyFields_memory _ _ _ _ _)
    · exact Or.inr ⟨hconf, applyFields_memory _ _ _ _ _⟩
  | exhausted =>
    refine Or.inl ⟨?_, h⟩
    by_contra hok
    obtain ⟨w, hw⟩ := (statusAttempt_written_iff api now caller phase msg).mpr (by simpa using hok)
    cases ha.symm.trans hw
  | failed e =>
    refine Or.inl ⟨?_, h⟩
    by_contra hok
    obtain ⟨w, hw⟩ := (statusAttempt_written_iff api now caller phase msg).mpr (by simpa using hok)
    cases ha.symm.trans hw

theorem confined_storeAttempt {api : Api} {now : Int} {c : Cluster} {req : NamespacedName}
    {wd caller : WorkloadDependency} {phase : DependencyPhase} {msg : String}
    {patch : Option WorkloadObject} (hk : wd.key = req)
    (hr : api.statusUpdate 0 = .ok ∨ api.Honest wd) (hc : wd.SameObject caller)
    (hp : ∀ a, patch = some a → a.kind = wd.dependentKind) :
    Confined c req wd ((c.putPatch wd.dependentKey patch).storeAttempt
      (statusAttempt api now caller phase msg).2) := by
  refine ⟨patch, hp, ?_⟩
  cases ha : (statusAttempt api now caller phase msg).2 with
  | written w =>
    refine Or.inr ⟨w, ?_, Or.inl rfl⟩
    rcases statusAttempt_written hr ha with rfl | ⟨_, rfl⟩
    · rw [applyFields_key, hc.key, hk]
    · rw [applyFields_key, hk]
  | exhausted => exact Or.inl rfl
  | failed e => exact Or.inl rfl

theorem report_reconciles {api : Api} {now : Int} {c : Cluster} {req : NamespacedName}
    {wd : WorkloadDependency} {phase : DependencyPhase} {msg : String} {result : Option Result}
    (es : List Effect) (h : c.getWD req = some wd)
    (hr : api.statusUpdate 0 = .ok ∨ api.Honest wd) (hs : Silent es)
    (hd : wd.deletionTimestamp = none) (hn : sighting api c req = none)
    (hp : phase = .unknown ∧ (wd.containsFinalizer = false ∨ c.dependent wd = none) ∨
        phase = .paused ∧ wd.containsFinalizer = true ∧ wd.isPaused = true) :
    let o := (setStatus api now wd phase msg result).prepend es
    Reconciles api now c req wd o := by
  intro o
  have he : c.applyAll o.effects = c.storeAttempt (statusAttempt api now wd phase msg).2 := by
    change c.applyAll (es ++ _) = _
    rw [Cluster.applyAll_append, hs.2, applyAll_setStatus]
  have hw : (c.applyAll o.effects).dependent wd = c.dependent wd := by
    rw [he]; exact Cluster.workload_storeAttempt _ _ _ _
  have hpatch : o.patches = [] := by
    change (es ++ _).filterMap Effect.patch? = []
    rw [List.filterMap_append, hs.1, patches_setStatus]
    rfl
  constructor
  · rw [hw, hpatch, he]
    rcases storeAttempt_cases h hr (.refl wd) with ⟨hl, hg⟩ | ⟨wd', hg, hso, hst⟩
    · have hf : ¬ api.AllOk := by
        intro hok
        simp [persistsStatus_of_ok (hok.statusUpdate 0)] at hl
      rw [hg]
      exact .idle hf hn
    · rw [hg]; exact .report hd hn hp hso hst
  · have hnone : ∀ a, (none : Option WorkloadObject) = some a → a.kind = wd.dependentKind := by
      intro a ha
      cases ha
    rw [he]
    exact confined_storeAttempt (c.getWD_key h) hr (.refl wd) hnone

theorem Cluster.dependent_putPatch {c : Cluster} {wd : WorkloadDependency} {obj : WorkloadObject}
    {patch : Option WorkloadObject} (h : c.dependent wd = some obj)
    (hk : ∀ a, patch = some a → a.kind = obj.kind) :
    (c.putPatch wd.dependentKey patch).dependent wd = some (patch.getD obj) := by
  cases patch with
  | none => exact h
  | some a =>
    have ha : a.kind = wd.dependentKind := (hk a rfl).trans (c.workload_kind h)
    unfold Cluster.dependent
    rw [← ha]
    exact c.workload_putWorkload_self _ _

@[simp] theorem Cluster.getWD_putPatch (c : Cluster) (k j : NamespacedName)
    (patch : Option WorkloadObject) : (c.putPatch k patch).getWD j = c.getWD j := by
  cases patch with
  | none => rfl
  | some a => exact c.getWD_putWorkload k j a

theorem suspendPatch_form {w a : WorkloadObject} (h : w.suspendPatch = some a) :
    (w.kind ≠ .cronJob ∧ a = w.setReplicas 0) ∨ (w.kind = .cronJob ∧ a = w.setSuspend true) := by
  by_cases hk : w.kind = .cronJob
  · rw [WorkloadObject.suspendPatch_cronJob hk] at h
    split at h
    · cases h
    · exact Or.inr ⟨hk, (Option.some.inj h).symm⟩
  · rw [WorkloadObject.suspendPatch_replicas hk] at h
    split at h
    · cases h
    · exact Or.inl ⟨hk, (Option.some.inj h).symm⟩

theorem restorePatch_form {saved : Option Int32} {w a : WorkloadObject}
    (h : w.restorePatch saved = some a) :
    (w.kind ≠ .cronJob ∧ ∃ n, saved = some n ∧ n ≠ 0 ∧ a = w.setReplicas n) ∨
      (w.kind = .cronJob ∧ a = w.setSuspend false) := by
  by_cases hk : w.kind = .cronJob
  · rw [WorkloadObject.restorePatch_cronJob hk] at h
    split at h
    · exact Or.inr ⟨hk, (Option.some.inj h).symm⟩
    · cases h
  · cases saved with
    | none =>
      rw [WorkloadObject.restorePatch_none hk] at h
      cases h
    | some n =>
      rw [WorkloadObject.restorePatch_replicas hk] at h
      split at h
      · cases h
      · next h0 => exact Or.inl ⟨hk, n, rfl, h0, (Option.some.inj h).symm⟩

theorem WorkloadObject.setReplicas_kind (n : Int32) (w : WorkloadObject) :
    (w.setReplicas n).kind = w.kind := by
  cases w <;> rfl

theorem WorkloadObject.setSuspend_kind (b : Bool) (w : WorkloadObject) :
    (w.setSuspend b).kind = w.kind := by
  cases w <;> rfl

theorem Deed.patch_kind {saved : Option Int32} {w a : WorkloadObject} {d : Deed}
    (h : d.patch saved w = some a) : a.kind = w.kind := by
  cases d with
  | keep => cases h
  | suspend =>
    rcases suspendPatch_form h with ⟨_, rfl⟩ | ⟨_, rfl⟩
    · exact w.setReplicas_kind 0
    · exact w.setSuspend_kind true
  | restore =>
    rcases restorePatch_form h with ⟨_, n, _, _, rfl⟩ | ⟨_, rfl⟩
    · exact w.setReplicas_kind n
    · exact w.setSuspend_kind false

theorem Deed.object_kind (saved : Option Int32) (w : WorkloadObject) (d : Deed) :
    (d.object saved w).kind = w.kind := by
  unfold Deed.object
  cases hp : d.patch saved w with
  | none => rfl
  | some a => exact Deed.patch_kind hp

theorem Deed.mem_patches {api : Api} {saved : Option Int32} {w : WorkloadAccessor} {d : Deed}
    {p : Patch} : p ∈ d.patches api saved w ↔
      ∃ a, d.patch saved w.obj = some a ∧ p = ⟨w.key, w.obj, a, api.patch⟩ := by
  unfold Deed.patches
  cases d.patch saved w.obj with
  | none => simp
  | some a => simp

def Patch.takesDown (p : Patch) : Prop :=
  p.after.isSuspended = true ∨ (p.after.kind ≠ .cronJob ∧ p.after.getReplicas = 0)

theorem restorePatch_up {saved : Option Int32} {w a : WorkloadObject}
    (h : w.restorePatch saved = some a) :
    a.isSuspended = false ∧ (a.kind ≠ .cronJob → a.getReplicas ≠ 0) := by
  rcases restorePatch_form h with ⟨hk, n, _, h0, rfl⟩ | ⟨hk, rfl⟩
  · refine ⟨?_, fun _ => ?_⟩
    · cases w with
      | cronJob => exact absurd rfl hk
      | _ => rfl
    · rw [WorkloadObject.getReplicas_setReplicas_of_ne hk]
      exact h0
  · cases w with
    | cronJob => exact ⟨rfl, fun hne => absurd rfl hne⟩
    | _ => cases hk

theorem Patch.up_of_restorePatch {saved : Option Int32} {p : Patch}
    (h : p.before.restorePatch saved = some p.after) : ¬ p.takesDown := by
  obtain ⟨hs, hr⟩ := restorePatch_up h
  rintro (hd | ⟨hk, h0⟩)
  · cases hs.symm.trans hd
  · exact hr hk h0

theorem Deed.restore_up {api : Api} {saved : Option Int32} {w : WorkloadAccessor} {p : Patch}
    (h : p ∈ Deed.restore.patches api saved w) : ¬ p.takesDown := by
  obtain ⟨a, ha, rfl⟩ := Deed.mem_patches.mp h
  exact Patch.up_of_restorePatch ha

theorem dispatch_reconciles {api : Api} {now : Int} {c : Cluster} {req : NamespacedName}
    {wd : WorkloadDependency} {obj : WorkloadObject} {ev : Evaluation}
    (h : c.getWD req = some wd) (hr : api.statusUpdate 0 = .ok ∨ api.Honest wd)
    (hs : sighting api c req = some ⟨obj, ev⟩) (hw : c.dependent wd = some obj) :
    let o := dispatch api now wd ⟨wd.dependentKey, obj⟩ ev
    Reconciles api now c req wd o := by
  intro o
  obtain ⟨d, write, hm, hp, hpatch⟩ :=
    dispatch_spec api now wd ⟨wd.dependentKey, obj⟩ ev
  have hobj : (d.place wd.status.savedReplicas ⟨wd.dependentKey, obj⟩ c).dependent wd =
      some (d.object wd.status.savedReplicas obj) :=
    Cluster.dependent_putPatch hw (fun _ ha => Deed.patch_kind ha)
  have hget : (d.place wd.status.savedReplicas ⟨wd.dependentKey, obj⟩ c).getWD req = some wd :=
    (Cluster.getWD_putPatch _ _ _ _).trans h
  have hkind : ∀ a, d.patch wd.status.savedReplicas obj = some a → a.kind = wd.dependentKind :=
    fun _ ha => (Deed.patch_kind ha).trans (c.workload_kind hw)
  have hpatch : o.patches = _ := hpatch
  cases hp with
  | refused hp hd he =>
    have he : c.applyAll o.effects = c := he c
    constructor
    · rw [hpatch, he, h]
      exact .refused hs hw hm hp hd
    · rw [he]
      exact .refl c req wd
  | waited hp he =>
    have he : c.applyAll o.effects =
        d.place wd.status.savedReplicas ⟨wd.dependentKey, obj⟩ c := he c
    constructor
    · rw [hpatch, he, hobj, hget]
      exact .act hs hw hm hp (Or.inl rfl)
    · exact ⟨_, hkind, Or.inl he⟩
  | @wrote phase caller msg hp hf he =>
    have he : c.applyAll o.effects = (d.place wd.status.savedReplicas ⟨wd.dependentKey, obj⟩
        c).storeAttempt (statusAttempt api now caller phase msg).2 := he c
    constructor
    swap
    · rw [he]
      exact confined_storeAttempt (c.getWD_key h) hr hf hkind
    rw [hpatch, he]
    have hdep : ((d.place wd.status.savedReplicas ⟨wd.dependentKey, obj⟩ c).storeAttempt
        (statusAttempt api now caller phase msg).2).dependent wd =
        some (d.object wd.status.savedReplicas obj) :=
      (Cluster.workload_storeAttempt _ _ _ _).trans hobj
    rw [hdep]
    rcases storeAttempt_cases hget hr hf with ⟨hf, hg⟩ | ⟨wd', hg, hso, hst⟩
    · rw [hg]; exact .act hs hw hm hp (Or.inr hf)
    · rw [hg]; exact .move hs hw hm hp hso hst

/-- The ways out of `ensureFinalizer`: the object closes a cycle, or its finalizer is sent. -/
inductive FinalizerExit (api : Api) (now : Int) (c : Cluster) (wd : WorkloadDependency) :
    Outcome → Prop where
  | turnedAway {cycle msg} : detectCycle (c.listNamespace wd.ns) wd = some cycle →
      msg = "dependency cycle detected: " ++ formatCycle cycle →
      FinalizerExit api now c wd
        ((setStatus api now wd .unknown msg (some .none)).prepend [.event (.cycleDetected msg)])
  | sent {call result} : api.update = call → (call = .ok → result = .ok ⟨true, 0⟩) →
      (call ≠ .ok → ∃ e, result = .error e) →
      FinalizerExit api now c wd ⟨[.update wd.addFinalizer call], result⟩

theorem ensureFinalizer_exit (api : Api) (now : Int) (c : Cluster) (wd : WorkloadDependency) :
    FinalizerExit api now c wd (ensureFinalizer api now c wd) := by
  unfold ensureFinalizer
  dsimp only
  split
  · next cycle hcycle =>
    split at hcycle
    · exact .turnedAway hcycle rfl
    · cases hcycle
  · cases hu : api.update with
    | ok => exact .sent hu (fun _ => rfl) (absurd rfl)
    | conflict => exact .sent hu (fun hok => by cases hok) (fun _ => ⟨_, rfl⟩)
    | failed => exact .sent hu (fun hok => by cases hok) (fun _ => ⟨_, rfl⟩)

theorem applyAll_update (c : Cluster) (wd : WorkloadDependency) (call : CallResult) :
    c.applyAll [.update wd call] = if call = .ok then c.putObject wd else c := by
  cases call <;> rfl

theorem finalizer_reconciles {api : Api} {now : Int} {c : Cluster} {req : NamespacedName}
    {wd : WorkloadDependency} (h : c.getWD req = some wd)
    (hr : api.statusUpdate 0 = .ok ∨ api.Honest wd) (hd : wd.deletionTimestamp = none)
    (hf : wd.containsFinalizer = false) (hn : sighting api c req = none) :
    Reconciles api now c req wd (ensureFinalizer api now c wd) := by
  have hexit : FinalizerExit api now c wd (ensureFinalizer api now c wd) :=
    ensureFinalizer_exit api now c wd
  generalize ensureFinalizer api now c wd = o at hexit ⊢
  cases hexit with
  | turnedAway =>
    exact report_reconciles _ h hr (silent_event _) hd hn (Or.inl ⟨rfl, Or.inl hf⟩)
  | @sent call _ hcall _ _ =>
    by_cases hu : call = .ok
    · have hk : wd.addFinalizer.key = req := by
        rw [← c.getWD_key h]
        unfold WorkloadDependency.addFinalizer
        split <;> rfl
      have hg : (c.putObject wd.addFinalizer).getWD req = some wd.addFinalizer := by
        have hcond : ¬ (wd.addFinalizer.deletionTimestamp.isSome ∧
            wd.addFinalizer.finalizers = []) := by
          simp [WorkloadDependency.addFinalizer, hf]
        rw [Cluster.getWD_putObject_self h hk hcond]
        simp [WorkloadDependency.withObjectOf, WorkloadDependency.addFinalizer, hf]
      have hc : c.applyAll [.update wd.addFinalizer call] = c.putObject wd.addFinalizer := by
        rw [applyAll_update, if_pos hu]
      have hw : (c.putObject wd.addFinalizer).dependent wd = c.dependent wd :=
        Cluster.workload_putObject _ _ _ _
      constructor
      · dsimp only
        rw [hc, hg, hw]
        exact .finalize hd hf hn
      · exact ⟨none, by simp, Or.inr ⟨wd.addFinalizer, hk, Or.inr hc⟩⟩
    · refine reconciles_untouched h (fun hok => hu (hcall.symm.trans hok.update)) hn rfl ?_
      intro c
      rw [applyAll_update, if_neg hu]

theorem Cluster.getWD_putObject_removeFinalizer {c : Cluster} {req : NamespacedName}
    {wd : WorkloadDependency} (h : c.getWD req = some wd)
    (hd : wd.deletionTimestamp.isSome = true) :
    (c.putObject wd.removeFinalizer).getWD req = wd.withoutFinalizer := by
  have hk : wd.removeFinalizer.key = req := by
    rw [← c.getWD_key h]; rfl
  unfold WorkloadDependency.withoutFinalizer
  split
  · next hf =>
    rw [← hk]
    exact c.getWD_putObject_gone hd hf
  · next hf =>
    rw [Cluster.getWD_putObject_self h hk (fun hc => hf hc.2)]
    rfl

theorem applyAll_removeFinalizer (c : Cluster) (api : Api) (wd : WorkloadDependency) :
    c.applyAll (removeFinalizerOutcome api wd).effects =
      if api.update = .ok then c.putObject wd.removeFinalizer else c := by
  unfold removeFinalizerOutcome
  cases api.update <;> rfl

theorem patches_removeFinalizer (api : Api) (wd : WorkloadDependency) :
    (removeFinalizerOutcome api wd).effects.filterMap Effect.patch? = [] := by
  unfold removeFinalizerOutcome
  cases api.update <;> rfl

theorem removeFinalizer_reconciles {api : Api} {now : Int} {c : Cluster} {req : NamespacedName}
    {wd : WorkloadDependency} (h : c.getWD req = some wd)
    (hd : wd.deletionTimestamp.isSome = true) (hn : sighting api c req = none)
    (hh : wd.holdsReplicas = false ∨ c.dependent wd = none) :
    let o := removeFinalizerOutcome api wd
    Reconciles api now c req wd o := by
  intro o
  have hk : wd.key = req := c.getWD_key h
  have hp : o.patches = [] := patches_removeFinalizer api wd
  by_cases hu : api.update = .ok
  · have hc : c.applyAll o.effects = c.putObject wd.removeFinalizer := by
      rw [applyAll_removeFinalizer, if_pos hu]
    have hw : (c.putObject wd.removeFinalizer).dependent wd = c.dependent wd :=
      Cluster.workload_putObject _ _ _ _
    constructor
    · rw [hp, hc, Cluster.getWD_putObject_removeFinalizer h hd, hw]
      exact .dropped hd hn hh
    · exact ⟨none, by simp, Or.inr ⟨wd.removeFinalizer, hk, Or.inr hc⟩⟩
  · refine reconciles_untouched h (fun hok => hu hok.update) hn hp (fun c => ?_)
    rw [applyAll_removeFinalizer, if_neg hu]

theorem Action.Did.removal_patches {api : Api} {wd : WorkloadDependency} {obj : WorkloadObject}
    {a : Action} (ha : a.Did wd.ns api ⟨wd.dependentKey, obj⟩
      (obj.restorePatch wd.status.savedReplicas) wd) :
    ((removeFinalizerOutcome api wd).prepend a.effects).patches =
      Deed.restore.patches api wd.status.savedReplicas ⟨wd.dependentKey, obj⟩ := by
  change List.filterMap Effect.patch? (_ ++ _) = _
  rw [List.filterMap_append, patches_removeFinalizer, ha.patches, List.append_nil]
  rfl

theorem undo_reconciles {api : Api} {now : Int} {c : Cluster} {req : NamespacedName}
    {wd : WorkloadDependency} {obj : WorkloadObject} {a : Action} (h : c.getWD req = some wd)
    (hd : wd.deletionTimestamp.isSome = true) (hn : sighting api c req = none)
    (hh : wd.holdsReplicas = true) (hw : c.dependent wd = some obj)
    (ha : a.Did wd.ns api ⟨wd.dependentKey, obj⟩ (obj.restorePatch wd.status.savedReplicas) wd) :
    let o := (removeFinalizerOutcome api wd).prepend a.effects
    Reconciles api now c req wd o := by
  intro o
  have hk : wd.key = req := c.getWD_key h
  have hpatch : o.patches = Deed.restore.patches api wd.status.savedReplicas
      ⟨wd.dependentKey, obj⟩ := ha.removal_patches
  have hobj : (c.putPatch wd.dependentKey (obj.restorePatch wd.status.savedReplicas)).dependent wd =
      some (Deed.restore.object wd.status.savedReplicas obj) :=
    Cluster.dependent_putPatch hw (fun _ hp => Deed.patch_kind (d := .restore) hp)
  have hget : (c.putPatch wd.dependentKey (obj.restorePatch wd.status.savedReplicas)).getWD req =
      some wd := (Cluster.getWD_putPatch _ _ _ _).trans h
  have hc : c.applyAll o.effects = if api.update = .ok then
      (c.putPatch wd.dependentKey (obj.restorePatch wd.status.savedReplicas)).putObject
        wd.removeFinalizer
      else c.putPatch wd.dependentKey (obj.restorePatch wd.status.savedReplicas) := by
    change c.applyAll (_ ++ _) = _
    rw [Cluster.applyAll_append, ha.cluster, applyAll_removeFinalizer]
  have hkind : ∀ a, obj.restorePatch wd.status.savedReplicas = some a →
      a.kind = wd.dependentKind :=
    fun _ hp => (Deed.patch_kind (d := .restore) hp).trans (c.workload_kind hw)
  by_cases hu : api.update = .ok
  · rw [if_pos hu] at hc
    have hdep : ((c.putPatch wd.dependentKey
        (obj.restorePatch wd.status.savedReplicas)).putObject wd.removeFinalizer).dependent wd =
        some (Deed.restore.object wd.status.savedReplicas obj) :=
      (Cluster.workload_putObject _ _ _ _).trans hobj
    constructor
    · rw [hpatch, hc, Cluster.getWD_putObject_removeFinalizer hget hd, hdep]
      exact .undone hd hn hh hw
    · exact ⟨_, hkind, Or.inr ⟨wd.removeFinalizer, hk, Or.inr hc⟩⟩
  · rw [if_neg hu] at hc
    constructor
    · rw [hpatch, hc, hget, hobj]
      exact .undoFailed hd hn hh hw (Or.inl hu) (Or.inr rfl)
    · exact ⟨_, hkind, Or.inl hc⟩

/-- The ways out of `handleDeletion`. An object that holds replicas is let go after they are
restored, or after there is nothing left to restore. -/
inductive DeletionExit (api : Api) (c : Cluster) (wd : WorkloadDependency) : Outcome → Prop where
  | dropped : wd.holdsReplicas = false ∨ c.dependent wd = none →
      DeletionExit api c wd (removeFinalizerOutcome api wd)
  | unread : api.getDependent ≠ .ok → DeletionExit api c wd (.wait (5 * second))
  | refused {obj a} : wd.holdsReplicas = true → api.getDependent = .ok →
      c.dependent wd = some obj → Action.Refused a wd.ns api ⟨wd.dependentKey, obj⟩
        (obj.restorePatch wd.status.savedReplicas) →
      DeletionExit api c wd ⟨a.effects, .ok (.after (5 * second))⟩
  | undone {obj a} : wd.holdsReplicas = true → api.getDependent = .ok →
      c.dependent wd = some obj → Action.Did a wd.ns api ⟨wd.dependentKey, obj⟩
        (obj.restorePatch wd.status.savedReplicas) wd →
      DeletionExit api c wd ((removeFinalizerOutcome api wd).prepend a.effects)

theorem handleDeletion_exit (api : Api) (c : Cluster) (wd : WorkloadDependency) :
    DeletionExit api c wd (handleDeletion api c wd) := by
  unfold handleDeletion
  split
  · next hh =>
    split
    · next hg => exact .dropped (Or.inr (getWorkload_eq_notFound hg))
    · next hg => exact .unread (fun hok => getWorkload_ne_api (hok ▸ hg))
    · next w hg =>
      obtain ⟨hok, hw, hk⟩ := getWorkload_eq_ok hg
      obtain ⟨key, obj⟩ := w
      obtain rfl : key = wd.dependentKey := hk
      dsimp only
      rcases restoreWorkload_spec api wd ⟨wd.dependentKey, obj⟩ with ha | ha
      · rw [ha.err, ha.memory]
        exact .undone hh hok hw ha
      · obtain ⟨e, he⟩ := ha.err
        rw [he]
        exact .refused hh hok hw ha
  · next hh => exact .dropped (Or.inl (by simpa using hh))

theorem DeletionExit.patches {api : Api} {c : Cluster} {wd : WorkloadDependency} {o : Outcome}
    (h : DeletionExit api c wd o) : o.patches = [] ∨
      wd.holdsReplicas = true ∧ api.getDependent = .ok ∧ ∃ obj, c.dependent wd = some obj ∧
        o.patches = Deed.restore.patches api wd.status.savedReplicas ⟨wd.dependentKey, obj⟩ := by
  cases h with
  | dropped => exact Or.inl (patches_removeFinalizer api wd)
  | unread => exact Or.inl rfl
  | refused hh hok hw ha => exact Or.inr ⟨hh, hok, _, hw, ha.patches⟩
  | undone hh hok hw ha => exact Or.inr ⟨hh, hok, _, hw, ha.removal_patches⟩

theorem deletion_reconciles {api : Api} {now : Int} {c : Cluster} {req : NamespacedName}
    {wd : WorkloadDependency} (h : c.getWD req = some wd)
    (hd : wd.deletionTimestamp.isSome = true) (hn : sighting api c req = none) :
    Reconciles api now c req wd (handleDeletion api c wd) := by
  have hexit : DeletionExit api c wd (handleDeletion api c wd) := handleDeletion_exit api c wd
  generalize handleDeletion api c wd = o at hexit ⊢
  cases hexit with
  | dropped hh => exact removeFinalizer_reconciles h hd hn hh
  | unread hget =>
    exact reconciles_untouched h (fun hok => hget hok.getDependent) hn rfl (fun _ => rfl)
  | refused hh _ hw ha =>
    constructor
    · dsimp only
      rw [ha.cluster, Outcome.patches, ha.patches, h, hw]
      exact .undoFailed hd hn hh rfl (Or.inr ha.cause) (Or.inl rfl)
    · dsimp only
      rw [ha.cluster]
      exact .refl c req wd
  | undone hh _ hw ha => exact undo_reconciles h hd hn hh hw ha

inductive Exit (api : Api) (now : Int) (c : Cluster) (req : NamespacedName)
    (wd : WorkloadDependency) : Outcome → Prop where
  | failed {e} : ¬ api.AllOk → sighting api c req = none → Exit api now c req wd (.fail e)
  | deletion : wd.deletionTimestamp.isSome = true → sighting api c req = none →
      Exit api now c req wd (handleDeletion api c wd)
  | unfinalized : wd.deletionTimestamp = none → wd.containsFinalizer = false →
      sighting api c req = none → Exit api now c req wd (ensureFinalizer api now c wd)
  | reported {phase msg} : wd.deletionTimestamp = none → sighting api c req = none →
      (phase = .unknown ∧ (wd.containsFinalizer = false ∨ c.dependent wd = none) ∨
        phase = .paused ∧ wd.containsFinalizer = true ∧ wd.isPaused = true) →
      Exit api now c req wd (setStatus api now wd phase msg none)
  | dispatched {obj ev} : sighting api c req = some ⟨obj, ev⟩ → c.dependent wd = some obj →
      Exit api now c req wd (dispatch api now wd ⟨wd.dependentKey, obj⟩ ev)

theorem reconcile_exit {api : Api} {c : Cluster} {req : NamespacedName}
    {wd : WorkloadDependency} (now : Int) (h : c.getWD req = some wd) :
    Exit api now c req wd (reconcile api now c req) := by
  unfold reconcile
  cases ha : api.getWD with
  | ok =>
    simp only [h]
    split
    · next hd => exact .deletion hd (by simp [sighting, ha, h, hd])
    next hd =>
    have hd' : wd.deletionTimestamp = none := by simpa using hd
    split
    · next hf => exact .unfinalized hd' hf (by simp [sighting, ha, h, hf])
    next hf =>
    have hf' : wd.containsFinalizer = true := by simpa using hf
    split
    · next hp => exact .reported hd' (by simp [sighting, ha, h, hp]) (Or.inr ⟨rfl, hf', hp⟩)
    next hp =>
    have hs : sighting api c req =
        match getWorkload api.getDependent c wd.spec.dependent.kind wd.spec.dependent.name
          wd.dependentNs, evaluateDependencies api c wd with
        | .ok w, .ok ev => some ⟨w.obj, ev⟩
        | _, _ => none := by
      simp only [sighting, ha, h]
      rw [if_neg (by simp [hd', hf', hp])]
    unfold reconcileActive
    split
    · next hg =>
      rw [hg] at hs
      exact .reported hd' hs (Or.inl ⟨rfl, Or.inr (getWorkload_eq_notFound hg)⟩)
    · next hg =>
      rw [hg] at hs
      exact .failed (fun hok => getWorkload_ne_api (hok.getDependent ▸ hg)) hs
    · next w hg =>
      obtain ⟨_, hw, hk⟩ := getWorkload_eq_ok hg
      obtain ⟨key, obj⟩ := w
      obtain rfl : key = wd.dependentKey := hk
      split
      · next he =>
        rw [hg, he] at hs
        refine .failed ?_ hs
        intro hok
        obtain ⟨ev, hev⟩ := evaluateFrom_ok hok c wd 0 wd.spec.dependsOn ⟨true, ""⟩
        cases he.symm.trans hev
      · next ev he =>
        rw [hg, he] at hs
        exact .dispatched hs hw
  | conflict => exact .failed (fun hok => by simp [hok.getWD] at ha) (by simp [sighting, ha])
  | failed => exact .failed (fun hok => by simp [hok.getWD] at ha) (by simp [sighting, ha])

/-- Everything a Reconcile of a stored object can do. -/
theorem reconcile_reconciles {api : Api} {c : Cluster} {req : NamespacedName}
    {wd : WorkloadDependency} (now : Int) (h : c.getWD req = some wd)
    (hr : api.statusUpdate 0 = .ok ∨ api.Honest wd) :
    Reconciles api now c req wd (reconcile api now c req) := by
  have hexit : Exit api now c req wd (reconcile api now c req) := reconcile_exit now h
  generalize reconcile api now c req = o at hexit ⊢
  cases hexit with
  | failed hf hn => exact reconciles_untouched h hf hn rfl (fun _ => rfl)
  | deletion hd hn => exact deletion_reconciles h hd hn
  | unfinalized hd hf hn => exact finalizer_reconciles h hr hd hf hn
  | reported hd hn hp => exact report_reconciles [] h hr ⟨rfl, fun _ => rfl⟩ hd hn hp
  | dispatched hs hw => exact dispatch_reconciles h hr hs hw

theorem reconcile_transition {api : Api} {c : Cluster} {req : NamespacedName}
    {wd : WorkloadDependency} (now : Int) (h : c.getWD req = some wd)
    (hr : api.statusUpdate 0 = .ok ∨ api.Honest wd) :
    Transition api now c req wd (c.dependent wd) ((c.reconciled api now req).getWD req)
      ((c.reconciled api now req).dependent wd) (reconcile api now c req).patches :=
  (reconcile_reconciles now h hr).transition

theorem reconcile_confined {api : Api} {c : Cluster} {req : NamespacedName}
    {wd : WorkloadDependency} (now : Int) (h : c.getWD req = some wd)
    (hr : api.statusUpdate 0 = .ok ∨ api.Honest wd) :
    Confined c req wd (c.reconciled api now req) :=
  (reconcile_reconciles now h hr).confined

/-- The fields of an object that no Reconcile of a living object changes. The finalizer may be
added, and no other one is. -/
structure WorkloadDependency.SameSpec (wd wd' : WorkloadDependency) : Prop where
  spec : wd'.spec = wd.spec
  annotationPaused : wd'.annotationPaused = wd.annotationPaused
  deletionTimestamp : wd'.deletionTimestamp = wd.deletionTimestamp
  key : wd'.key = wd.key
  dependentKey : wd'.dependentKey = wd.dependentKey
  finalizers : wd'.finalizers = wd.finalizers ∨
    (wd.containsFinalizer = false ∧ wd'.finalizers = wd.finalizers ++ [finalizerName])

theorem WorkloadDependency.SameSpec.finalizer {wd wd' : WorkloadDependency} (h : wd.SameSpec wd')
    (hf : wd.containsFinalizer = true) : wd'.containsFinalizer = true := by
  rcases h.finalizers with h | ⟨hn, _⟩
  · rw [containsFinalizer, h]
    exact hf
  · cases hf.symm.trans hn

theorem WorkloadDependency.SameObject.sameSpec {wd wd' : WorkloadDependency}
    (h : wd.SameObject wd') : wd.SameSpec wd' := by
  rw [← h]
  exact ⟨rfl, rfl, rfl, rfl, rfl, Or.inl rfl⟩

theorem WorkloadDependency.addFinalizer_sameSpec {wd : WorkloadDependency} :
    wd.SameSpec wd.addFinalizer := by
  unfold addFinalizer
  split
  · exact (SameObject.refl wd).sameSpec
  · next h => exact ⟨rfl, rfl, rfl, rfl, rfl, Or.inr ⟨by simpa using h, rfl⟩⟩

theorem WorkloadDependency.addFinalizer_memory (wd : WorkloadDependency) :
    wd.addFinalizer.memory = wd.memory := by
  unfold addFinalizer
  split <;> rfl

theorem WorkloadDependency.SameSpec.enforces {wd wd' : WorkloadDependency} (h : wd.SameSpec wd') :
    wd'.enforces ↔ wd.enforces := by
  unfold WorkloadDependency.enforces
  rw [h.spec]

theorem WorkloadDependency.SameSpec.isPaused {wd wd' : WorkloadDependency} (h : wd.SameSpec wd') :
    wd'.isPaused = wd.isPaused := by
  unfold WorkloadDependency.isPaused
  rw [h.annotationPaused]

theorem WorkloadDependency.SameSpec.target {wd wd' : WorkloadDependency} (h : wd.SameSpec wd') :
    wd.SameTarget wd' := by
  refine ⟨h.dependentKey, ?_⟩
  unfold WorkloadDependency.dependentKind
  rw [h.spec]

inductive Advance (api : Api) (now : Int) (c : Cluster) (req : NamespacedName)
    (wd : WorkloadDependency) (w : Option WorkloadObject) :
    Memory → Option WorkloadObject → List Patch → Prop where
  | still : sighting api c req = none → Advance api now c req wd w wd.memory w []
  | report {m' phase} : sighting api c req = none →
      (phase = .unknown ∧ (wd.containsFinalizer = false ∨ w = none) ∨
        phase = .paused ∧ wd.containsFinalizer = true ∧ wd.isPaused = true) →
      Stored api now wd.memory phase wd.memory m' → Advance api now c req wd w m' w []
  | refused {s d write} : sighting api c req = some s → w = some s.dependent →
      Move wd s.dependent now s.ev.allOk d write → api.patch ≠ .ok →
      d.patch wd.status.savedReplicas s.dependent ≠ none →
      Advance api now c req wd w wd.memory w
        (d.patches api wd.status.savedReplicas ⟨wd.dependentKey, s.dependent⟩)
  | act {s d write} : sighting api c req = some s → w = some s.dependent →
      Move wd s.dependent now s.ev.allOk d write → d.Accepted api wd s.dependent →
      (write = none ∨ api.persistsStatus = false) →
      Advance api now c req wd w wd.memory
        (some (d.object wd.status.savedReplicas s.dependent))
        (d.patches api wd.status.savedReplicas ⟨wd.dependentKey, s.dependent⟩)
  | move {s d phase caller m'} : sighting api c req = some s → w = some s.dependent →
      Move wd s.dependent now s.ev.allOk d (some (phase, caller)) →
      d.Accepted api wd s.dependent → Stored api now wd.memory phase caller m' →
      Advance api now c req wd w m' (some (d.object wd.status.savedReplicas s.dependent))
        (d.patches api wd.status.savedReplicas ⟨wd.dependentKey, s.dependent⟩)

theorem Transition.advance {api : Api} {now : Int} {c : Cluster} {req : NamespacedName}
    {wd : WorkloadDependency} {w w' : Option WorkloadObject} {o : Option WorkloadDependency}
    {ps : List Patch} (h : Transition api now c req wd w o w' ps)
    (hd : wd.deletionTimestamp = none) :
    ∃ wd', o = some wd' ∧ wd.SameSpec wd' ∧ Advance api now c req wd w wd'.memory w' ps := by
  cases h with
  | idle _ hs => exact ⟨wd, rfl, (WorkloadDependency.SameObject.refl wd).sameSpec, .still hs⟩
  | finalize _ _ hs =>
    refine ⟨wd.addFinalizer, rfl, WorkloadDependency.addFinalizer_sameSpec, ?_⟩
    rw [wd.addFinalizer_memory]
    exact .still hs
  | report _ hs hp ho hst => exact ⟨_, rfl, ho.sameSpec, .report hs hp hst⟩
  | refused hs hw hm hp hd =>
    exact ⟨wd, rfl, (WorkloadDependency.SameObject.refl wd).sameSpec, .refused hs hw hm hp hd⟩
  | act hs hw hm hp hn =>
    exact ⟨wd, rfl, (WorkloadDependency.SameObject.refl wd).sameSpec, .act hs hw hm hp hn⟩
  | move hs hw hm hp ho hst => exact ⟨_, rfl, ho.sameSpec, .move hs hw hm hp hst⟩
  | undoFailed hdel => simp [hd] at hdel
  | undone hdel => simp [hd] at hdel
  | dropped hdel => simp [hd] at hdel

theorem WorkloadDependency.withoutFinalizer_eq {wd wd' : WorkloadDependency}
    (h : wd.withoutFinalizer = some wd') : wd' = wd.removeFinalizer := by
  unfold withoutFinalizer at h
  split at h
  · cases h
  · exact (Option.some.inj h).symm

/-- Besides the status a Reconcile writes nothing of the object but its own finalizer. -/
theorem Transition.object_cases {api : Api} {now : Int} {c : Cluster} {req : NamespacedName}
    {wd wd' : WorkloadDependency} {w w' : Option WorkloadObject} {ps : List Patch}
    (h : Transition api now c req wd w (some wd') w' ps) :
    wd.SameObject wd' ∨
      (wd.deletionTimestamp = none ∧ wd.containsFinalizer = false ∧ wd' = wd.addFinalizer) ∨
      wd' = wd.removeFinalizer := by
  generalize ho : some wd' = o at h
  cases h with
  | idle => cases ho; exact Or.inl (.refl wd)
  | finalize hd hf => cases ho; exact Or.inr (Or.inl ⟨hd, hf, rfl⟩)
  | report _ _ _ hs => cases ho; exact Or.inl hs
  | refused => cases ho; exact Or.inl (.refl wd)
  | act => cases ho; exact Or.inl (.refl wd)
  | move _ _ _ _ hs => cases ho; exact Or.inl hs
  | undoFailed => cases ho; exact Or.inl (.refl wd)
  | undone => exact Or.inr (Or.inr (WorkloadDependency.withoutFinalizer_eq ho.symm))
  | dropped => exact Or.inr (Or.inr (WorkloadDependency.withoutFinalizer_eq ho.symm))

theorem Transition.target {api : Api} {now : Int} {c : Cluster} {req : NamespacedName}
    {wd wd' : WorkloadDependency} {w w' : Option WorkloadObject} {ps : List Patch}
    (h : Transition api now c req wd w (some wd') w' ps) : wd.SameTarget wd' := by
  rcases h.object_cases with hs | ⟨_, _, rfl⟩ | rfl
  · exact hs.sameSpec.target
  · exact WorkloadDependency.addFinalizer_sameSpec.target
  · exact ⟨rfl, rfl⟩

theorem Transition.dependent_kind {api : Api} {now : Int} {c : Cluster} {req : NamespacedName}
    {wd : WorkloadDependency} {w w' : Option WorkloadObject} {o : Option WorkloadDependency}
    {ps : List Patch} (h : Transition api now c req wd w o w' ps) :
    w'.map WorkloadObject.kind = w.map WorkloadObject.kind := by
  cases h with
  | idle => rfl
  | finalize => rfl
  | report => rfl
  | refused => rfl
  | act _ hw => simp [hw, Deed.object_kind]
  | move _ hw => simp [hw, Deed.object_kind]
  | undoFailed _ _ _ hw _ ho =>
    rcases ho with rfl | rfl
    · rw [hw]
    · simp [hw, Deed.object_kind]
  | undone _ _ _ hw => simp [hw, Deed.object_kind]
  | dropped => rfl

theorem Transition.dependent_exists {api : Api} {now : Int} {c : Cluster} {req : NamespacedName}
    {wd : WorkloadDependency} {obj : WorkloadObject} {w' : Option WorkloadObject}
    {o : Option WorkloadDependency} {ps : List Patch}
    (h : Transition api now c req wd (some obj) o w' ps) :
    ∃ obj', w' = some obj' ∧ obj'.kind = obj.kind := by
  have hk := h.dependent_kind
  cases w' with
  | none => cases hk
  | some obj' => exact ⟨obj', rfl, Option.some.inj hk⟩

theorem Transition.deleted {api : Api} {now : Int} {c : Cluster} {req : NamespacedName}
    {wd wd' : WorkloadDependency} {w w' : Option WorkloadObject} {ps : List Patch}
    (h : Transition api now c req wd w (some wd') w' ps)
    (hd : wd.deletionTimestamp.isSome = true) : wd'.deletionTimestamp.isSome = true := by
  rcases h.object_cases with hs | ⟨hn, _⟩ | rfl
  · rw [hs.sameSpec.deletionTimestamp]
    exact hd
  · simp [hn] at hd
  · exact hd

structure Sees (api : Api) (c : Cluster) (wd : WorkloadDependency) (ev : Evaluation) : Prop where
  living : wd.deletionTimestamp = none
  finalizer : wd.containsFinalizer = true
  unpaused : wd.isPaused = false
  read : api.getDependent = .ok
  evaluation : evaluateDependencies api c wd = .ok ev

theorem sighting_sees {api : Api} {c : Cluster} {req : NamespacedName} {s : Sighting}
    (hs : sighting api c req = some s) : ∃ wd, c.getWD req = some wd ∧ Sees api c wd s.ev := by
  unfold sighting at hs
  split at hs
  · next wd _ hwd =>
    split at hs
    · cases hs
    · next hn =>
      obtain ⟨hd, hf, hp⟩ : wd.deletionTimestamp = none ∧ wd.containsFinalizer = true ∧
          wd.isPaused = false := by simpa [not_or] using hn
      split at hs
      · next hw hev =>
        rw [← Option.some.inj hs]
        exact ⟨wd, hwd, hd, hf, hp, (getWorkload_eq_ok hw).1, hev⟩
      · cases hs
  · cases hs

theorem sees_of_sighting {api : Api} {c : Cluster} {req : NamespacedName}
    {wd : WorkloadDependency} {s : Sighting} (hs : sighting api c req = some s)
    (h : c.getWD req = some wd) : Sees api c wd s.ev := by
  obtain ⟨seen, hseen, hsees⟩ := sighting_sees hs
  obtain rfl := Option.some.inj (hseen.symm.trans h)
  exact hsees

theorem sighting_spec {api : Api} {c : Cluster} {req : NamespacedName} {wd : WorkloadDependency}
    {s : Sighting} (hs : sighting api c req = some s) (h : c.getWD req = some wd) :
    wd.deletionTimestamp = none ∧ wd.containsFinalizer = true ∧ wd.isPaused = false :=
  ⟨(sees_of_sighting hs h).living, (sees_of_sighting hs h).finalizer,
    (sees_of_sighting hs h).unpaused⟩

theorem sighting_evaluation {api : Api} {c : Cluster} {req : NamespacedName}
    {wd : WorkloadDependency} {s : Sighting} (hs : sighting api c req = some s)
    (h : c.getWD req = some wd) : evaluateDependencies api c wd = .ok s.ev :=
  (sees_of_sighting hs h).evaluation

theorem sighting_of_allOk {api : Api} {c : Cluster} {req : NamespacedName}
    {wd : WorkloadDependency} {obj : WorkloadObject} (ha : api.AllOk) (h : c.getWD req = some wd)
    (hd : wd.deletionTimestamp = none) (hf : wd.containsFinalizer = true)
    (hp : wd.isPaused = false) (hw : c.dependent wd = some obj) :
    ∃ ev, sighting api c req = some ⟨obj, ev⟩ := by
  obtain ⟨ev, hev⟩ := evaluateFrom_ok ha c wd 0 wd.spec.dependsOn ⟨true, ""⟩
  have hg : getWorkload api.getDependent c wd.spec.dependent.kind wd.spec.dependent.name
      wd.dependentNs = .ok ⟨wd.dependentKey, obj⟩ := by
    unfold getWorkload
    rw [ha.getDependent]
    have hw : c.workload (WorkloadKind.ofString wd.spec.dependent.kind)
      ⟨wd.dependentNs, wd.spec.dependent.name⟩ = some obj := hw
    simp only [hw]
    rfl
  refine ⟨ev, ?_⟩
  simp [sighting, ha.getWD, h, hd, hf, hp, hg, evaluateDependencies, hev]

theorem Stored.eq_write {api : Api} {now : Int} {m caller m' : Memory} {phase : DependencyPhase}
    (h : Stored api now m phase caller m') (hok : api.statusUpdate 0 = .ok) :
    m' = Memory.write now phase caller caller := by
  rcases h.2 with h | ⟨hc, _⟩
  · exact h
  · rw [hok] at hc
    cases hc

theorem Stored.savedReplicas {api : Api} {now : Int} {m caller m' : Memory}
    {phase : DependencyPhase} (h : Stored api now m phase caller m')
    (hok : api.statusUpdate 0 = .ok) : m'.savedReplicas = caller.savedReplicas := by
  rw [h.eq_write hok, Memory.write_self_savedReplicas]

/-- A Reconcile while status writes go through at once: a move that asks for one is made and stored,
any other leaves everything as it was. -/
inductive Persisted (api : Api) (now : Int) (c : Cluster) (req : NamespacedName)
    (wd : WorkloadDependency) (w : Option WorkloadObject) :
    Memory → Option WorkloadObject → Prop where
  | still : sighting api c req = none → Persisted api now c req wd w wd.memory w
  | report {phase} : sighting api c req = none →
      (phase = .unknown ∧ (wd.containsFinalizer = false ∨ w = none) ∨
        phase = .paused ∧ wd.containsFinalizer = true ∧ wd.isPaused = true) →
      Persisted api now c req wd w (Memory.write now phase wd.memory wd.memory) w
  | unwritten {s d write} : sighting api c req = some s → w = some s.dependent →
      Move wd s.dependent now s.ev.allOk d write →
      (write = none ∨ api.patch ≠ .ok ∧ d.patch wd.status.savedReplicas s.dependent ≠ none) →
      Persisted api now c req wd w wd.memory w
  | move {s d phase caller} : sighting api c req = some s → w = some s.dependent →
      Move wd s.dependent now s.ev.allOk d (some (phase, caller)) →
      Persisted api now c req wd w (Memory.write now phase caller caller)
        (some (d.object wd.status.savedReplicas s.dependent))

theorem Advance.persisted {api : Api} {now : Int} {c : Cluster} {req : NamespacedName}
    {wd : WorkloadDependency} {w w' : Option WorkloadObject} {m' : Memory} {ps : List Patch}
    (h : Advance api now c req wd w m' w' ps) (hok : api.statusUpdate 0 = .ok) :
    Persisted api now c req wd w m' w' := by
  cases h with
  | still hs => exact .still hs
  | report hs hp hst =>
    rw [hst.eq_write hok]
    exact .report hs hp
  | refused hs hw hm hp hd => exact .unwritten hs hw hm (Or.inr ⟨hp, hd⟩)
  | @act s _ _ hs hw hm _ hn =>
    obtain rfl := hn.resolve_right (by simp [persistsStatus_of_ok hok])
    obtain rfl := hm.keep_of_no_write
    have hsame : some (Deed.keep.object wd.status.savedReplicas s.dependent) = w := hw.symm
    rw [hsame]
    exact .unwritten hs hw hm (Or.inl rfl)
  | move hs hw hm _ hst =>
    rw [hst.eq_write hok]
    exact .move hs hw hm

theorem Advance.persisted_present {api : Api} {now : Int} {c : Cluster} {req : NamespacedName}
    {wd : WorkloadDependency} {obj obj' : WorkloadObject} {m' : Memory} {ps : List Patch}
    (h : Advance api now c req wd (some obj) m' (some obj') ps) (hok : api.statusUpdate 0 = .ok) :
    (m' = wd.memory ∧ obj' = obj) ∨
      (∃ phase, (phase = .unknown ∨ phase = .paused) ∧
        m' = Memory.write now phase wd.memory wd.memory ∧ obj' = obj) ∨
      ∃ s d phase caller, sighting api c req = some s ∧
        Move wd obj now s.ev.allOk d (some (phase, caller)) ∧
        m' = Memory.write now phase caller caller ∧
        obj' = d.object wd.status.savedReplicas obj := by
  have hpers := h.persisted hok
  generalize hw : some obj = w, hw' : some obj' = w' at hpers
  cases hpers with
  | still => exact Or.inl ⟨rfl, Option.some.inj (hw'.trans hw.symm)⟩
  | unwritten => exact Or.inl ⟨rfl, Option.some.inj (hw'.trans hw.symm)⟩
  | @report phase _ hp =>
    refine Or.inr (Or.inl ⟨phase, ?_, rfl, Option.some.inj (hw'.trans hw.symm)⟩)
    exact hp.imp (fun h => h.1) (fun h => h.1)
  | move hs hobj hm =>
    obtain rfl := Option.some.inj (hw.trans hobj)
    exact Or.inr (Or.inr ⟨_, _, _, _, hs, hm, rfl, Option.some.inj hw'⟩)

theorem Stored.phase {api : Api} {now : Int} {m caller m' : Memory} {phase : DependencyPhase}
    (h : Stored api now m phase caller m') : m'.phase = phase := by
  rcases h.2 with rfl | ⟨_, rfl⟩ <;> rfl

/-- A Reconcile that completes its evaluation makes a move. A refused patch undoes it, and a lost
status write leaves the memory behind. -/
theorem Advance.seen {api : Api} {now : Int} {c : Cluster} {req : NamespacedName}
    {wd : WorkloadDependency} {w w' : Option WorkloadObject} {m' : Memory} {ps : List Patch}
    {s : Sighting} (h : Advance api now c req wd w m' w' ps) (hs : sighting api c req = some s) :
    w = some s.dependent ∧ ∃ d write, Move wd s.dependent now s.ev.allOk d write ∧
      ((api.patch ≠ .ok ∧ d.patch wd.status.savedReplicas s.dependent ≠ none ∧
          m' = wd.memory ∧ w' = w) ∨
        (w' = some (d.object wd.status.savedReplicas s.dependent) ∧
          ((m' = wd.memory ∧ (write = none ∨ api.persistsStatus = false)) ∨
            ∃ phase caller, write = some (phase, caller) ∧
              Stored api now wd.memory phase caller m'))) := by
  cases h with
  | still hnone => cases hs.symm.trans hnone
  | report hnone => cases hs.symm.trans hnone
  | refused hs' hw hm hp hd =>
    obtain rfl := Option.some.inj (hs.symm.trans hs')
    exact ⟨hw, _, _, hm, Or.inl ⟨hp, hd, rfl, rfl⟩⟩
  | act hs' hw hm _ hn =>
    obtain rfl := Option.some.inj (hs.symm.trans hs')
    exact ⟨hw, _, _, hm, Or.inr ⟨rfl, Or.inl ⟨rfl, hn⟩⟩⟩
  | move hs' hw hm _ hst =>
    obtain rfl := Option.some.inj (hs.symm.trans hs')
    exact ⟨hw, _, _, hm, Or.inr ⟨rfl, Or.inr ⟨_, _, rfl, hst⟩⟩⟩

theorem Advance.seen_ok {api : Api} {now : Int} {c : Cluster} {req : NamespacedName}
    {wd : WorkloadDependency} {w w' : Option WorkloadObject} {m' : Memory} {ps : List Patch}
    {s : Sighting} (h : Advance api now c req wd w m' w' ps) (hs : sighting api c req = some s)
    (hok : api.AllOk) :
    w = some s.dependent ∧ ∃ d write, Move wd s.dependent now s.ev.allOk d write ∧
      w' = some (d.object wd.status.savedReplicas s.dependent) ∧
      m' = write.elim wd.memory (fun q => Memory.write now q.1 q.2 q.2) := by
  obtain ⟨hw, d, write, hm, hrest⟩ := h.seen hs
  refine ⟨hw, d, write, hm, ?_⟩
  rcases hrest with ⟨hp, _⟩ | ⟨hw', ⟨hm', hn⟩ | ⟨phase, caller, rfl, hst⟩⟩
  · exact absurd hok.patch hp
  · obtain rfl := hn.resolve_right (by simp [persistsStatus_of_ok (hok.statusUpdate 0)])
    exact ⟨hw', hm'⟩
  · exact ⟨hw', hst.eq_write (hok.statusUpdate 0)⟩

/-- With every call succeeding, a Reconcile of a stored object whose dependent exists makes one
move and stores what it asks for. -/
theorem reconcile_moves {api : Api} {c : Cluster} {req : NamespacedName}
    {wd : WorkloadDependency} {obj : WorkloadObject} (now : Int) (hok : api.AllOk)
    (h : c.getWD req = some wd) (hd : wd.deletionTimestamp = none)
    (hf : wd.containsFinalizer = true) (hp : wd.isPaused = false)
    (hw : c.dependent wd = some obj) :
    ∃ ev wd' d write, sighting api c req = some ⟨obj, ev⟩ ∧
      (c.reconciled api now req).getWD req = some wd' ∧ wd.SameSpec wd' ∧
      Move wd obj now ev.allOk d write ∧
      (c.reconciled api now req).dependent wd = some (d.object wd.status.savedReplicas obj) ∧
      wd'.memory = write.elim wd.memory (fun q => Memory.write now q.1 q.2 q.2) := by
  obtain ⟨ev, hs⟩ := sighting_of_allOk hok h hd hf hp hw
  obtain ⟨wd', ho, hspec, hadv⟩ := (reconcile_transition now h hok.written).advance hd
  obtain ⟨_, d, write, hm, hw', hm'⟩ := hadv.seen_ok hs hok
  exact ⟨ev, wd', d, write, hs, ho, hspec, hm, hw', hm'⟩

/-- Every workload patch comes from a move or from undoing a suspension at deletion. -/
theorem Transition.patch_cases {api : Api} {now : Int} {c : Cluster} {req : NamespacedName}
    {wd : WorkloadDependency} {w w' : Option WorkloadObject} {o : Option WorkloadDependency}
    {ps : List Patch} {p : Patch} (h : Transition api now c req wd w o w' ps) (hp : p ∈ ps) :
    (∃ s d write, sighting api c req = some s ∧ w = some s.dependent ∧
      Move wd s.dependent now s.ev.allOk d write ∧
      p ∈ d.patches api wd.status.savedReplicas ⟨wd.dependentKey, s.dependent⟩) ∨
    (sighting api c req = none ∧ ∃ obj,
      p ∈ Deed.restore.patches api wd.status.savedReplicas ⟨wd.dependentKey, obj⟩) := by
  cases h with
  | idle => cases hp
  | finalize => cases hp
  | report => cases hp
  | refused hs hw hm => exact Or.inl ⟨_, _, _, hs, hw, hm, hp⟩
  | act hs hw hm => exact Or.inl ⟨_, _, _, hs, hw, hm, hp⟩
  | move hs hw hm => exact Or.inl ⟨_, _, _, hs, hw, hm, hp⟩
  | undoFailed _ hs => exact Or.inr ⟨hs, _, hp⟩
  | undone _ hs => exact Or.inr ⟨hs, _, hp⟩
  | dropped => cases hp

theorem reconcile_effects_absent {api : Api} {c : Cluster} {req : NamespacedName} (now : Int)
    (h : c.getWD req = none) : (reconcile api now c req).effects = [] := by
  unfold reconcile
  cases api.getWD <;> simp [h, Outcome.fail]

theorem reconcile_absent {api : Api} {c : Cluster} {req : NamespacedName} (now : Int)
    (h : c.getWD req = none) : c.reconciled api now req = c := by
  unfold Cluster.reconciled
  rw [reconcile_effects_absent now h]
  rfl

end Klink
