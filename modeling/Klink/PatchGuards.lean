import Klink.ReconcileTransitions

/-! # What justifies a workload write

Every patch of a workload that a Reconcile can send, for every stored object, every cluster
and every answer of the API server, with the guards that hold where it is sent.
-/
namespace Klink

section Sources

variable {api : Api} {now : Int} {c : Cluster} {req : NamespacedName} {wd : WorkloadDependency}

inductive PatchSource (api : Api) (now : Int) (c : Cluster) (req : NamespacedName)
    (wd : WorkloadDependency) : List Patch → Prop where
  | silent : PatchSource api now c req wd []
  | move {s d write} : sighting api c req = some s → c.dependent wd = some s.dependent →
      Move wd s.dependent now s.ev.allOk d write → PatchSource api now c req wd
        (d.patches api wd.status.savedReplicas ⟨wd.dependentKey, s.dependent⟩)
  | undo {obj} : wd.deletionTimestamp.isSome = true → wd.holdsReplicas = true →
      c.dependent wd = some obj → PatchSource api now c req wd
        (Deed.restore.patches api wd.status.savedReplicas ⟨wd.dependentKey, obj⟩)

theorem ensureFinalizer_patches (api : Api) (now : Int) (c : Cluster) (wd : WorkloadDependency) :
    (ensureFinalizer api now c wd).patches = [] := by
  have hexit : FinalizerExit api now c wd (ensureFinalizer api now c wd) :=
    ensureFinalizer_exit api now c wd
  generalize ensureFinalizer api now c wd = o at hexit ⊢
  cases hexit with
  | turnedAway => exact patches_setStatus api now wd .unknown _ _
  | sent => rfl

theorem handleDeletion_patches (hd : wd.deletionTimestamp.isSome = true) :
    PatchSource api now c req wd (handleDeletion api c wd).patches := by
  rcases (handleDeletion_exit api c wd).patches with hnone | ⟨hh, _, obj, hw, hps⟩
  · rw [hnone]
    exact .silent
  · rw [hps]
    exact .undo hd hh hw

theorem reconcile_patchSource (now : Int) (h : c.getWD req = some wd) :
    PatchSource api now c req wd (reconcile api now c req).patches := by
  have hexit : Exit api now c req wd (reconcile api now c req) := reconcile_exit now h
  generalize reconcile api now c req = o at hexit ⊢
  cases hexit with
  | failed => exact .silent
  | deletion hd => exact handleDeletion_patches hd
  | unfinalized =>
    rw [ensureFinalizer_patches]
    exact .silent
  | @reported phase msg =>
    have hnone : (setStatus api now wd phase msg none).patches = [] :=
      patches_setStatus api now wd phase msg none
    rw [hnone]
    exact .silent
  | @dispatched obj ev hs hw =>
    obtain ⟨d, write, hm, _, hpatches⟩ := dispatch_spec api now wd ⟨wd.dependentKey, obj⟩ ev
    rw [hpatches]
    exact .move hs hw hm

theorem Deed.stored_of_mem_patches {d : Deed} {saved : Option Int32} {obj : WorkloadObject}
    {p : Patch} (hw : c.dependent wd = some obj)
    (h : p ∈ d.patches api saved ⟨wd.dependentKey, obj⟩) :
    c.workload p.after.kind p.key = some p.before ∧ p.result = api.patch := by
  obtain ⟨a, ha, rfl⟩ := Deed.mem_patches.mp h
  have hkind : a.kind = wd.dependentKind := (Deed.patch_kind ha).trans (c.workload_kind hw)
  dsimp only
  rw [hkind]
  exact ⟨hw, rfl⟩

theorem stored_of_mem_patches {p : Patch} (h : p ∈ (reconcile api now c req).patches) :
    c.workload p.after.kind p.key = some p.before ∧ p.result = api.patch := by
  cases hwd : c.getWD req with
  | none =>
    have hnone : (reconcile api now c req).effects = [] := reconcile_effects_absent now hwd
    rw [Outcome.patches, hnone] at h
    cases h
  | some wd =>
    have hsource : PatchSource api now c req wd (reconcile api now c req).patches :=
      reconcile_patchSource now hwd
    generalize (reconcile api now c req).patches = ps at hsource h
    cases hsource with
    | silent => cases h
    | move _ hw _ => exact Deed.stored_of_mem_patches hw h
    | undo _ _ hw => exact Deed.stored_of_mem_patches hw h

theorem patches_unseen (h : c.getWD req = some wd) (hs : sighting api c req = none)
    (hd : wd.deletionTimestamp = none) : (reconcile api now c req).patches = [] := by
  have hsource : PatchSource api now c req wd (reconcile api now c req).patches :=
    reconcile_patchSource now h
  generalize (reconcile api now c req).patches = ps at hsource
  cases hsource with
  | silent => rfl
  | move hs' => cases hs.symm.trans hs'
  | undo hdel =>
    rw [hd] at hdel
    cases hdel

end Sources

theorem suspendPatch_down {w a : WorkloadObject} (h : w.suspendPatch = some a) :
    a.isSuspended = true ∨ (a.kind ≠ .cronJob ∧ a.getReplicas = 0) := by
  rcases suspendPatch_form h with ⟨hk, rfl⟩ | ⟨hk, rfl⟩
  · right
    rw [w.setReplicas_kind]
    exact ⟨hk, WorkloadObject.getReplicas_setReplicas_of_ne hk 0⟩
  · left
    cases w with
    | cronJob => rfl
    | _ => cases hk

structure SuspensionDue (now : Int) (c : Cluster) (wd : WorkloadDependency)
    (w : WorkloadObject) : Prop where
  living : wd.deletionTimestamp = none
  finalizer : wd.containsFinalizer = true
  unpaused : wd.isPaused = false
  notGate : wd.spec.mode ≠ .gate
  notObserve : wd.spec.mode ≠ .observe
  failing : ∃ dep ∈ wd.spec.dependsOn, EntryFails c wd dep
  settled : w.isProgressing = false
  unreleased : wd.status.phase ≠ .released
  due : (wd.status.phase = .suspended ∧ wd.spec.mode = .strict) ∨
    ∃ since, wd.status.degradedSince = some since ∧ degradedWindow wd ≤ now - since

inductive RestoreDue (now : Int) (c : Cluster) (wd : WorkloadDependency) : Prop where
  | deletion : wd.deletionTimestamp.isSome = true → RestoreDue now c wd
  | recovery {since} : (∀ dep ∈ wd.spec.dependsOn, ¬ EntryFails c wd dep) →
      wd.status.healthySince = some since → recoveryWindow wd ≤ now - since → RestoreDue now c wd
  | release {since} : (∃ dep ∈ wd.spec.dependsOn, EntryFails c wd dep) →
      0 < wd.spec.onDegraded.maxSuspendDuration → wd.status.suspendedAt = some since →
      wd.spec.onDegraded.maxSuspendDuration ≤ now - since → RestoreDue now c wd

/-- A patch of the resolved dependent that changes one field, with its reason. -/
structure Patch.Justified (now : Int) (c : Cluster) (wd : WorkloadDependency) (p : Patch) :
    Prop where
  key : p.key = wd.dependentKey
  dependent : c.dependent wd = some p.before
  field : (p.before.kind ≠ .cronJob ∧ ∃ n, p.after = p.before.setReplicas n) ∨
    (p.before.kind = .cronJob ∧ ∃ b, p.after = p.before.setSuspend b)
  down : p.takesDown → SuspensionDue now c wd p.before
  up : ¬ p.takesDown → wd.status.phase = .suspended ∧ RestoreDue now c wd ∧
    (p.before.kind ≠ .cronJob →
      ∃ n, wd.status.savedReplicas = some n ∧ p.after = p.before.setReplicas n) ∧
    (p.before.kind = .cronJob → p.after = p.before.setSuspend false)

section Reasons

variable {api : Api} {now : Int} {c : Cluster} {req : NamespacedName} {wd : WorkloadDependency}

theorem Move.suspensionDue {s : Sighting} {write : Option (DependencyPhase × Memory)}
    (h : c.getWD req = some wd) (hs : sighting api c req = some s)
    (hm : Move wd s.dependent now s.ev.allOk .suspend write) :
    SuspensionDue now c wd s.dependent := by
  obtain ⟨hlive, hfin, hpause⟩ := sighting_spec hs h
  have hfail : s.ev.allOk = false → ∃ dep ∈ wd.spec.dependsOn, EntryFails c wd dep := by
    intro hno
    by_contra hall
    have hok := (evaluateDependencies_allOk (sighting_evaluation hs h)).mpr (by simpa using hall)
    simp [hno] at hok
  have hmode : wd.enforces → wd.spec.mode ≠ .gate ∧ wd.spec.mode ≠ .observe := by
    rintro (hstrict | hsoft)
    · simp [hstrict]
    · simp [hsoft]
  generalize hok : s.ev.allOk = ok at hm hfail
  generalize hw : s.dependent = w at hm
  cases hm with
  | enforce he hg hp _ hstrict _ =>
    exact ⟨hlive, hfin, hpause, (hmode he).1, (hmode he).2, hfail rfl, hg, by simp [hp],
      Or.inl ⟨hp, hstrict⟩⟩
  | suspend he hg _ hr hsince hlong =>
    exact ⟨hlive, hfin, hpause, (hmode he).1, (hmode he).2, hfail rfl, hg, hr,
      Or.inr ⟨_, hsince, le_sub_of_le_timeSince (degradedWindow_pos wd) hlong⟩⟩

theorem Move.restoreDue {s : Sighting} {write : Option (DependencyPhase × Memory)}
    (h : c.getWD req = some wd) (hs : sighting api c req = some s)
    (hm : Move wd s.dependent now s.ev.allOk .restore write) :
    wd.status.phase = .suspended ∧ RestoreDue now c wd := by
  have hverdict := evaluateDependencies_allOk (sighting_evaluation hs h)
  generalize hok : s.ev.allOk = ok at hm hverdict
  cases hm with
  | release _ _ hp hsince hpos hlong =>
    refine ⟨hp, .release ?_ hpos hsince (le_sub_of_le_timeSince hpos hlong)⟩
    by_contra hall
    exact absurd (hverdict.mpr (by simpa using hall)) (by decide)
  | recover _ hp hsince hlong =>
    exact ⟨hp, .recovery (hverdict.mp rfl) hsince
      (le_sub_of_le_timeSince (recoveryWindow_pos wd) hlong)⟩

theorem suspend_justified {obj : WorkloadObject} {p : Patch} (hw : c.dependent wd = some obj)
    (hdue : SuspensionDue now c wd obj)
    (hp : p ∈ Deed.suspend.patches api wd.status.savedReplicas ⟨wd.dependentKey, obj⟩) :
    p.Justified now c wd := by
  obtain ⟨a, ha, rfl⟩ := Deed.mem_patches.mp hp
  have hdown : Patch.takesDown ⟨wd.dependentKey, obj, a, api.patch⟩ := suspendPatch_down ha
  refine ⟨rfl, hw, ?_, fun _ => hdue, fun hup => absurd hdown hup⟩
  rcases suspendPatch_form ha with ⟨hk, rfl⟩ | ⟨hk, rfl⟩
  · exact Or.inl ⟨hk, 0, rfl⟩
  · exact Or.inr ⟨hk, true, rfl⟩

theorem restore_justified {obj : WorkloadObject} {p : Patch} (hw : c.dependent wd = some obj)
    (hphase : wd.status.phase = .suspended) (hdue : RestoreDue now c wd)
    (hp : p ∈ Deed.restore.patches api wd.status.savedReplicas ⟨wd.dependentKey, obj⟩) :
    p.Justified now c wd := by
  have hup := Deed.restore_up hp
  obtain ⟨a, ha, rfl⟩ := Deed.mem_patches.mp hp
  rcases restorePatch_form ha with ⟨hk, n, hn, _, rfl⟩ | ⟨hk, rfl⟩
  · exact ⟨rfl, hw, Or.inl ⟨hk, n, rfl⟩, fun hdown => absurd hdown hup,
      fun _ => ⟨hphase, hdue, fun _ => ⟨n, hn, rfl⟩, fun hcron => absurd hcron hk⟩⟩
  · exact ⟨rfl, hw, Or.inr ⟨hk, false, rfl⟩, fun hdown => absurd hdown hup,
      fun _ => ⟨hphase, hdue, fun hne => absurd hk hne, fun _ => rfl⟩⟩

theorem PatchSource.justified {ps : List Patch} {p : Patch} (h : c.getWD req = some wd)
    (hsource : PatchSource api now c req wd ps) (hp : p ∈ ps) : p.Justified now c wd := by
  cases hsource with
  | silent => cases hp
  | @move s d write hs hw hm =>
    cases d with
    | keep => cases hp
    | suspend => exact suspend_justified hw (hm.suspensionDue h hs) hp
    | restore =>
      obtain ⟨hphase, hdue⟩ := hm.restoreDue h hs
      exact restore_justified hw hphase hdue hp
  | undo hd hh hw =>
    have hphase : wd.status.phase = .suspended := by
      unfold WorkloadDependency.holdsReplicas at hh
      split at hh
      · simp only [decide_eq_true_eq] at hh
        exact hh.1
      · cases hh
    exact restore_justified hw hphase (.deletion hd) hp

theorem PatchSource.length_le_one {ps : List Patch} (h : PatchSource api now c req wd ps) :
    ps.length ≤ 1 := by
  have hdeed : ∀ (d : Deed) (w : WorkloadAccessor),
      (d.patches api wd.status.savedReplicas w).length ≤ 1 := by
    intro d w
    unfold Deed.patches
    cases d.patch wd.status.savedReplicas w.obj <;> simp
  cases h with
  | silent => simp
  | move => exact hdeed _ _
  | undo => exact hdeed _ _

end Reasons

/-- Every workload write of a Reconcile is justified and confined. -/
theorem reconcile_writes_justified (api : Api) (now : Int) (c : Cluster) (req : NamespacedName) :
    (reconcile api now c req).patches.length ≤ 1 ∧
      ∀ p ∈ (reconcile api now c req).patches,
        ∃ wd, c.getWD req = some wd ∧ p.Justified now c wd := by
  cases h : c.getWD req with
  | none =>
    have hnone : (reconcile api now c req).patches = [] := by
      unfold reconcile
      cases api.getWD <;> simp [h, Outcome.fail, Outcome.patches]
    simp [hnone]
  | some wd =>
    have hsource : PatchSource api now c req wd (reconcile api now c req).patches :=
      reconcile_patchSource now h
    exact ⟨hsource.length_le_one, fun p hp => ⟨wd, rfl, hsource.justified h hp⟩⟩

end Klink
