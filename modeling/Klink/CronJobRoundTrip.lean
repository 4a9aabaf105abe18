import Klink.HealthHistory
import Klink.PatchGuards
import Klink.SharedDependents

/-! # Suspending and resuming a CronJob

For a CronJob nothing is saved: the phase alone says that klink holds it. A CronJob that was
suspended before klink came to suspend it is resumed at the end of the outage all the same.
-/
namespace Klink

open TransitionSystem

/-- A strict or soft, unpaused object whose dependent is a CronJob that nobody but klink
changes. -/
def cronJobLife (k : NamespacedName) (cj : CronJob) : Life where
  key := k
  start wd w := wd.Created ∧ wd.Active ∧ w = some (.cronJob cj)
  calls _ := Api.AllOk
  edit := KeptOrDeleted
  touch obj o := o = some obj
  fresh _ _ h := h.1
  written _ _ := Api.AllOk.written
  untouched _ _ := KeptOrDeleted.untouched

theorem cronJobLife_idles (k : NamespacedName) (cj : CronJob) : (cronJobLife k cj).Idles :=
  ⟨fun _ => Or.inl rfl, fun _ => rfl⟩

inductive Deed.Leads : Deed → DependencyPhase → DependencyPhase → Prop where
  | keep {before after} : (after = .suspended ↔ before = .suspended) → Leads .keep before after
  | suspend {before} : Leads .suspend before .suspended
  | recover : Leads .restore .suspended .healthy
  | release : Leads .restore .suspended .released

section Deeds

variable {wd : WorkloadDependency} {obj : WorkloadObject} {now : Int} {ok : Bool} {d : Deed}

theorem Move.leads {phase : DependencyPhase} {caller : Memory}
    (hm : Move wd obj now ok d (some (phase, caller))) (he : wd.enforces)
    (hg : obj.isProgressing = false) : d.Leads wd.status.phase phase := by
  cases hm with
  | defer h => cases hg.symm.trans h
  | watch h => exact absurd he h
  | stayReleased _ _ hp => exact .keep (by simp [hp])
  | release _ _ hp => rw [hp]; exact .release
  | stay _ _ hp => exact .keep (by simp [hp])
  | enforce => exact .suspend
  | healthy _ hp => exact .keep (by simp [hp])
  | startRecovery _ hp => exact .keep (by simp [hp])
  | recover _ hp => rw [hp]; exact .recover
  | degrade _ _ hp => exact .keep (by simp [hp])
  | suspend => exact .suspend

theorem Move.givesBack {api : Api} {c : Cluster} {req : NamespacedName}
    {write : Option (DependencyPhase × Memory)} (hm : Move wd obj now ok .restore write)
    (hf : found api c req = some ok) : GivesBack api now c req wd := by
  cases hm with
  | release _ _ _ hs h0 hw => exact Or.inr (Or.inr ⟨hf, _, hs, h0, hw⟩)
  | recover _ _ hs hw => exact Or.inr (Or.inl ⟨hf, _, hs, hw⟩)

theorem Deed.cronJob_suspended (hk : obj.kind = .cronJob) (saved : Option Int32) :
    (Deed.suspend.object saved obj).isSuspended = true := by
  cases obj with
  | cronJob cj =>
    cases hs : (WorkloadObject.cronJob cj).isSuspended with
    | true => simp [object, patch, WorkloadObject.suspendPatch, hs]
    | false => simp [object, patch, WorkloadObject.suspendPatch, hs]; rfl
  | _ => cases hk

theorem Deed.cronJob_resumed (hk : obj.kind = .cronJob) (saved : Option Int32) :
    (Deed.restore.object saved obj).isSuspended = false := by
  cases obj with
  | cronJob cj =>
    cases hs : (WorkloadObject.cronJob cj).isSuspended with
    | true => simp [object, patch, WorkloadObject.restorePatch, hs]; rfl
    | false => simp [object, patch, WorkloadObject.restorePatch, hs]
  | _ => cases hk

theorem Deed.cronJob_suspend_patches (hk : obj.kind = .cronJob) (api : Api)
    (key : NamespacedName) (saved : Option Int32) :
    (obj.isSuspended = true → Deed.suspend.patches api saved ⟨key, obj⟩ = []) ∧
      (obj.isSuspended = false →
        ∃ p ∈ Deed.suspend.patches api saved ⟨key, obj⟩, p.takesDown) := by
  cases obj with
  | cronJob cj =>
    constructor
    · intro hs
      simp [patches, patch, WorkloadObject.suspendPatch, hs]
    · intro hs
      have hpatch : (WorkloadObject.cronJob cj).suspendPatch =
          some ((WorkloadObject.cronJob cj).setSuspend true) := by
        simp [WorkloadObject.suspendPatch, hs]
      exact ⟨_, Deed.mem_patches.mpr ⟨_, hpatch, rfl⟩, suspendPatch_down hpatch⟩
  | _ => cases hk

theorem WorkloadObject.cronJob_not_progressing (hk : obj.kind = .cronJob) :
    obj.isProgressing = false := by
  cases obj with
  | cronJob => rfl
  | _ => cases hk

end Deeds

/-- A Reconcile of an object with a CronJob, every call succeeding: one deed, the phase it leads
to, and nothing saved. -/
theorem Transition.cronJob {api : Api} {now : Int} {c : Cluster} {req : NamespacedName}
    {wd : WorkloadDependency} {obj : WorkloadObject} {o : Option WorkloadDependency}
    {w' : Option WorkloadObject} {ps : List Patch}
    (h : Transition api now c req wd (some obj) o w' ps) (hg : c.getWD req = some wd)
    (hok : api.AllOk) (hk : obj.kind = .cronJob) (hs : wd.status.savedReplicas = none)
    (ha : wd.deletionTimestamp = none → wd.Active)
    (hb : wd.deletionTimestamp = none → wd.containsFinalizer = false →
      wd.status.phase ≠ .suspended) :
    ∃ d : Deed, w' = some (d.object none obj) ∧
      ps = d.patches api none ⟨wd.dependentKey, obj⟩ ∧
      (d = .restore → wd.deletionTimestamp = none ∧ wd.status.phase = .suspended ∧
        GivesBack api now c req wd) ∧
      ∀ wd', o = some wd' → wd'.status.savedReplicas = none ∧
        d.Leads wd.status.phase wd'.status.phase := by
  have hkept : ∀ wd' : WorkloadDependency, wd'.memory = wd.memory →
      wd'.status.savedReplicas = none ∧ Deed.keep.Leads wd.status.phase wd'.status.phase := by
    intro wd' hm
    have hphase : wd'.status.phase = wd.status.phase := congrArg Memory.phase hm
    refine ⟨(congrArg Memory.savedReplicas hm).trans hs, .keep ?_⟩
    rw [hphase]
  cases h with
  | idle hf => exact absurd hok hf
  | finalize =>
    refine ⟨.keep, rfl, rfl, nofun, ?_⟩
    rintro _ ⟨⟩
    exact hkept _ wd.addFinalizer_memory
  | @report wd' phase hd _ hp _ hst =>
    refine ⟨.keep, rfl, rfl, nofun, ?_⟩
    rintro _ ⟨⟩
    have hphase : wd'.status.phase = phase := hst.phase
    constructor
    · exact (hst.savedReplicas (hok.statusUpdate 0)).trans hs
    · refine .keep ?_
      rcases hp with ⟨rfl, hf | hw⟩ | ⟨_, _, hpaused⟩
      · simp [hphase, hb hd hf]
      · cases hw
      · rw [(ha hd).unpaused] at hpaused
        cases hpaused
  | refused _ _ _ hp => exact absurd hok.patch hp
  | act _ hw hm _ hn =>
    obtain rfl := hn.resolve_right (by simp [persistsStatus_of_ok (hok.statusUpdate 0)])
    obtain rfl := hm.keep_of_no_write
    obtain rfl := Option.some.inj hw
    refine ⟨.keep, rfl, rfl, nofun, ?_⟩
    rintro _ ⟨⟩
    exact hkept _ rfl
  | @move s d phase caller wd' hsight hw hm _ _ hst =>
    obtain rfl := Option.some.inj hw
    have hlive := (sighting_spec hsight hg).1
    have hleads := hm.leads (ha hlive).enforces (WorkloadObject.cronJob_not_progressing hk)
    have hfound := found_eq_of_sighting hsight
    refine ⟨d, by rw [hs], by rw [hs], ?_, ?_⟩
    · rintro rfl
      refine ⟨hlive, ?_, hm.givesBack hfound⟩
      generalize wd.status.phase = before at hleads
      cases hleads <;> rfl
    · rintro _ ⟨⟩
      have hphase : wd'.status.phase = phase := hst.phase
      constructor
      · exact (hst.savedReplicas (hok.statusUpdate 0)).trans (hm.unsaved hk hs)
      · rw [hphase]
        exact hleads
  | undoFailed _ _ hh => simp [WorkloadDependency.holdsReplicas_of_none hs] at hh
  | undone _ _ hh => simp [WorkloadDependency.holdsReplicas_of_none hs] at hh
  | dropped =>
    refine ⟨.keep, rfl, rfl, nofun, ?_⟩
    intro wd' ho
    exact hkept wd' (WorkloadDependency.withoutFinalizer_memory ho)

def Life.Run.Resumes {L : Life} (r : L.Run) (i : ℕ) : Prop :=
  ∃ api wd, r.call i = some api ∧ r.object i = some wd ∧ wd.deletionTimestamp = none ∧
    wd.status.phase = .suspended ∧ GivesBack api (r.clock i) (r.cluster i) L.key wd

section Runs

variable {k : NamespacedName} {cj : CronJob} {r : (cronJobLife k cj).Run} {i : ℕ}
  {wd : WorkloadDependency}

theorem cronJobLife_active (h : r.object i = some wd) (hd : wd.deletionTimestamp = none) :
    wd.Active :=
  r.active (fun _ _ hs => hs.2.1) (fun _ _ he ha => he.active ha) h hd

theorem cronJobLife_unsuspended (h : r.object i = some wd) (hd : wd.deletionTimestamp = none)
    (hf : wd.containsFinalizer = false) : wd.status.phase ≠ .suspended := by
  intro hp
  simp [r.finalizer_of_suspended h hd hp] at hf

theorem cronJobLife_step {api : Api} {obj : WorkloadObject} {o : Option WorkloadDependency}
    {w' : Option WorkloadObject} (hc : r.call i = some api) (hcall : api.AllOk)
    (h : r.object i = some wd) (hk : obj.kind = .cronJob) (hs : wd.status.savedReplicas = none)
    (ht : Transition api (r.clock i) (r.cluster i) k wd (some obj) o w' (r.patches i)) :
    ∃ d : Deed, w' = some (d.object none obj) ∧
      r.patches i = d.patches api none ⟨wd.dependentKey, obj⟩ ∧ (d = .restore → r.Resumes i) ∧
      ∀ wd', o = some wd' → wd'.status.savedReplicas = none ∧
        d.Leads wd.status.phase wd'.status.phase := by
  obtain ⟨d, hw', hps, hd, ho⟩ :=
    ht.cronJob h hcall hk hs (cronJobLife_active h) (cronJobLife_unsuspended h)
  refine ⟨d, hw', hps, ?_, ho⟩
  intro hr
  obtain ⟨hlive, hp, hb⟩ := hd hr
  exact ⟨api, wd, hc, h, hlive, hp, hb⟩

theorem cronJobLife_induct {I : ℕ → DependencyPhase → WorkloadObject → Prop}
    (start : I 0 .unset (.cronJob cj))
    (deed : ∀ i api key obj (d : Deed) before after, obj.kind = .cronJob → I i before obj →
      d.Leads before after → r.patches i = d.patches api none ⟨key, obj⟩ →
      (d = .restore → r.Resumes i) → I (i + 1) after (d.object none obj))
    (idle : ∀ i phase obj, I i phase obj → r.patches i = [] → I (i + 1) phase obj)
    (i : ℕ) {wd : WorkloadDependency} (h : r.object i = some wd) :
    wd.status.savedReplicas = none ∧ ∃ obj, (r.cluster i).dependent wd = some obj ∧
      obj.kind = .cronJob ∧ I i wd.status.phase obj := by
  refine r.induct_all (I := fun i wd w => wd.status.savedReplicas = none ∧
    ∃ obj, w = some obj ∧ obj.kind = .cronJob ∧ I i wd.status.phase obj) ?_ ?_ ?_ i h
  · rintro wd w ⟨hcr, _, rfl⟩
    refine ⟨hcr.unsaved, _, rfl, rfl, ?_⟩
    rw [hcr.phase]
    exact start
  · rintro i api wd wd' w' hc ho _ hcall ⟨hs, obj, hobj, hk, hi⟩ ht
    rw [hobj] at ht
    obtain ⟨d, rfl, hps, hres, hwd'⟩ := cronJobLife_step hc hcall ho hk hs ht
    obtain ⟨hs', hl⟩ := hwd' wd' rfl
    exact ⟨hs', _, rfl, (Deed.object_kind ..).trans hk,
      deed i api wd.dependentKey obj d _ _ hk hi hl hps hres⟩
  · rintro i wd wd' w' hc _ _ ⟨hs, obj, hobj, hk, hi⟩ he ht
    rw [hobj] at ht
    have hm := ((cronJobLife k cj).untouched _ _ he).memory
    have hps : r.patches i = [] := by
      unfold Life.Run.patches
      rw [hc]
    have hphase : wd'.status.phase = wd.status.phase := congrArg Memory.phase hm
    refine ⟨(congrArg Memory.savedReplicas hm).trans hs, obj, ht, hk, ?_⟩
    rw [hphase]
    exact idle i _ obj hi hps

theorem cronJobLife_unsaved (h : r.object i = some wd) :
    wd.status.savedReplicas = none ∧
      ∃ obj, (r.cluster i).dependent wd = some obj ∧ obj.kind = .cronJob := by
  obtain ⟨hs, obj, hobj, hk, _⟩ := cronJobLife_induct (r := r) (I := fun _ _ _ => True) trivial
    (fun _ _ _ _ _ _ _ _ _ _ _ _ => trivial) (fun _ _ _ _ _ => trivial) i h
  exact ⟨hs, obj, hobj, hk⟩

theorem Move.restore_write {w : WorkloadObject} {now : Int} {ok : Bool}
    {write : Option (DependencyPhase × Memory)} (hm : Move wd w now ok .restore write) :
    ∃ phase caller, write = some (phase, caller) ∧ (phase = .healthy ∨ phase = .released) := by
  cases hm with
  | release => exact ⟨_, _, rfl, Or.inr rfl⟩
  | recover => exact ⟨_, _, rfl, Or.inl rfl⟩

theorem Life.Run.Resumes.runs (hr : r.Resumes i) :
    ∃ wd' obj', r.object (i + 1) = some wd' ∧ (r.cluster (i + 1)).dependent wd' = some obj' ∧
      (wd'.status.phase = .healthy ∨ wd'.status.phase = .released) ∧
      obj'.isSuspended = false := by
  obtain ⟨api, wd, hc, h, hlive, hp, hb⟩ := hr
  obtain ⟨_, obj, hobj, hk⟩ := cronJobLife_unsaved h
  obtain ⟨hcall, ht⟩ := r.transition hc h
  obtain ⟨wd', ho', hspec, hadv⟩ := ht.advance hlive
  obtain ⟨s, hs⟩ := Option.ne_none_iff_exists'.mp (hb.sees hlive)
  obtain ⟨hw, d, write, hm, hw', hm'⟩ := hadv.seen_ok hs hcall
  have hsight : s.dependent = obj := Option.some.inj (hw.symm.trans hobj)
  have hg : s.dependent.isProgressing = false := by
    rw [hsight]
    exact WorkloadObject.cronJob_not_progressing hk
  obtain rfl := hb.restores hlive hs (cronJobLife_active h hlive).enforces hp hg hm
  obtain ⟨phase, caller, rfl, hphase⟩ := hm.restore_write
  rw [← hspec.target.dependent] at hw'
  refine ⟨wd', _, ho', hw', ?_, ?_⟩
  · rw [show wd'.status.phase = phase from congrArg Memory.phase hm']
    exact hphase
  · exact Deed.cronJob_resumed (by rw [hsight]; exact hk) _

theorem cronJobLife_resumes {p : Patch} (hp : p ∈ r.patches i) (hup : ¬ p.takesDown) :
    r.Resumes i := by
  obtain ⟨api, hc⟩ := call_of_patch hp
  obtain ⟨wd, h⟩ := object_of_patch hp
  obtain ⟨hs, obj, hobj, hk⟩ := cronJobLife_unsaved h
  obtain ⟨hcall, ht⟩ := r.transition hc h
  rw [hobj] at ht
  obtain ⟨d, _, hps, hres, _⟩ := cronJobLife_step hc hcall h hk hs ht
  rw [hps] at hp
  cases d with
  | keep => cases hp
  | restore => exact hres rfl
  | suspend =>
    obtain ⟨a, ha, rfl⟩ := Deed.mem_patches.mp hp
    exact absurd (suspendPatch_down ha) hup

def Life.Run.HeldSince {L : Life} (r : L.Run) (i : ℕ) : Prop :=
  ∃ j < i, (∃ q ∈ r.patches j, q.takesDown) ∧ ∀ l, j < l → l < i → r.patches l = []

theorem Life.Run.HeldSince.later (h : r.HeldSince i) (hi : r.patches i = []) :
    r.HeldSince (i + 1) := by
  obtain ⟨j, hj, hq, hl⟩ := h
  refine ⟨j, by omega, hq, ?_⟩
  intro l hjl hli
  rcases Nat.lt_succ_iff_lt_or_eq.mp hli with hlt | rfl
  · exact hl l hjl hlt
  · exact hi

/-- What holds of a CronJob that klink finds running: it is suspended exactly in phase Suspended,
and then by klink. -/
structure Life.Run.Holding {L : Life} (r : L.Run) (i : ℕ) (phase : DependencyPhase)
    (obj : WorkloadObject) : Prop where
  flag : obj.isSuspended = true ↔ phase = .suspended
  held : phase = .suspended → r.HeldSince i

theorem Life.Run.Holding.deed {api : Api} {key : NamespacedName} {obj : WorkloadObject} {d : Deed}
    {before after : DependencyPhase} (h : r.Holding i before obj) (hk : obj.kind = .cronJob)
    (hl : d.Leads before after) (hps : r.patches i = d.patches api none ⟨key, obj⟩) :
    r.Holding (i + 1) after (d.object none obj) := by
  cases hl with
  | keep hsame => exact ⟨h.flag.trans hsame.symm, fun ha => (h.held (hsame.mp ha)).later hps⟩
  | suspend =>
    refine ⟨by simp [Deed.cronJob_suspended hk], fun _ => ?_⟩
    obtain ⟨hdown, hrunning⟩ := Deed.cronJob_suspend_patches hk api key none
    cases hs : obj.isSuspended with
    | true => exact (h.held (h.flag.mp hs)).later (hps.trans (hdown hs))
    | false =>
      refine ⟨i, by omega, ?_, fun l hil hli => by omega⟩
      rw [hps]
      exact hrunning hs
  | recover => exact ⟨by simp [Deed.cronJob_resumed hk], nofun⟩
  | release => exact ⟨by simp [Deed.cronJob_resumed hk], nofun⟩

theorem cronJobLife_holding (hcj : (WorkloadObject.cronJob cj).isSuspended = false)
    (h : r.object i = some wd) :
    ∃ obj, (r.cluster i).dependent wd = some obj ∧ r.Holding i wd.status.phase obj := by
  have hstart : r.Holding 0 .unset (.cronJob cj) := ⟨by simp [hcj], nofun⟩
  obtain ⟨_, obj, hobj, _, hi⟩ := cronJobLife_induct (I := r.Holding) hstart
    (fun _ _ _ _ _ _ _ hk hi hl hps _ => hi.deed hk hl hps)
    (fun _ _ _ hi hps => ⟨hi.flag, fun hp => (hi.held hp).later hps⟩) i h
  exact ⟨obj, hobj, hi⟩

theorem cronJobLife_down (hcj : (WorkloadObject.cronJob cj).isSuspended = true)
    (hr : ∀ i, ¬ r.Resumes i) (h : r.object i = some wd) :
    ∃ obj, (r.cluster i).dependent wd = some obj ∧ obj.isSuspended = true := by
  have hdeed : ∀ i (d : Deed) before after obj, obj.kind = .cronJob → obj.isSuspended = true →
      d.Leads before after → (d = .restore → r.Resumes i) →
      (d.object none obj).isSuspended = true := by
    intro i d before after obj hk hi hl hres
    cases hl with
    | keep => exact hi
    | suspend => exact Deed.cronJob_suspended hk none
    | recover => exact absurd (hres rfl) (hr i)
    | release => exact absurd (hres rfl) (hr i)
  obtain ⟨_, obj, hobj, _, hi⟩ := cronJobLife_induct (r := r)
    (I := fun _ _ obj => obj.isSuspended = true) hcj
    (fun i _ _ obj d _ _ hk hi hl _ hres => hdeed i d _ _ obj hk hi hl hres)
    (fun _ _ _ hi _ => hi) i h
  exact ⟨obj, hobj, hi⟩

end Runs

/-- The round trip closes, and whoever resumes the CronJob has suspended it, exactly when the
CronJob was running at the start or is never resumed. -/
theorem cronJob_round_trip_iff {k : NamespacedName} {cj : CronJob} (r : (cronJobLife k cj).Run) :
    ((∀ i wd obj, r.object i = some wd → (r.cluster i).dependent wd = some obj →
        (wd.status.phase = .healthy ∨ wd.status.phase = .released) →
        obj.isSuspended = (WorkloadObject.cronJob cj).isSuspended) ∧
      ∀ i p, p ∈ r.patches i → ¬ p.takesDown → r.HeldSince i) ↔
    ((WorkloadObject.cronJob cj).isSuspended = false ∨ ∀ i, ¬ r.Resumes i) := by
  cases hcj : (WorkloadObject.cronJob cj).isSuspended with
  | false =>
    refine ⟨fun _ => Or.inl rfl, fun _ => ⟨?_, ?_⟩⟩
    · intro i wd obj h hobj hp
      obtain ⟨obj', hobj', hi⟩ := cronJobLife_holding hcj h
      obtain rfl := Option.some.inj (hobj.symm.trans hobj')
      rw [← Bool.not_eq_true, hi.flag]
      rcases hp with hp | hp <;> simp [hp]
    · intro i p hp hup
      obtain ⟨_, wd, _, h, _, hphase, _⟩ := cronJobLife_resumes hp hup
      obtain ⟨_, _, hi⟩ := cronJobLife_holding hcj h
      exact hi.held hphase
  | true =>
    constructor
    · rintro ⟨hflag, _⟩
      refine Or.inr (fun i hr => ?_)
      obtain ⟨wd', obj', h', hobj', hp, hrun⟩ := hr.runs
      rw [hflag (i + 1) wd' obj' h' hobj' hp] at hrun
      cases hrun
    · rintro (hf | hr)
      · cases hf
      · constructor
        · intro i wd obj h hobj _
          obtain ⟨obj', hobj', hdown⟩ := cronJobLife_down hcj hr h
          obtain rfl := Option.some.inj (hobj.symm.trans hobj')
          exact hdown
        · intro i p hp hup
          exact absurd (cronJobLife_resumes hp hup) (hr i)

def idledCronJob : World :=
  demoWorld (demoObject "CronJob" .strict 0) (.cronJob ⟨some true⟩)

def idledScript : List (World → Happening) :=
  [runs demoKey .good, runs demoKey .good, waits (31 * second), runs demoKey .good,
    sets dbKey (demoDb 1), runs demoKey .good, waits (61 * second), runs demoKey .good]

theorem idledScript_playable :
    Playable (cronJobLife demoKey ⟨some true⟩).rules.system idledCronJob idledScript := by
  have hL := cronJobLife_idles demoKey ⟨some true⟩
  have hr : ∀ s, (cronJobLife demoKey ⟨some true⟩).rules.enabled s (runs demoKey .good s) :=
    fun _ => Life.enabled_runs (fun _ => Api.good_allOk)
  exact ⟨hr _, hr _, hL.enabled_waits (by decide), hr _, hL.enabled_sets (by decide), hr _,
    hL.enabled_waits (by decide), hr _, trivial⟩

theorem idledCronJob_start :
    (cronJobLife demoKey ⟨some true⟩).rules.start idledCronJob.cluster :=
  ⟨demoObject "CronJob" .strict 0, by decide, ⟨rfl, rfl⟩, ⟨Or.inl rfl, rfl⟩, by decide⟩

def idledRun : (cronJobLife demoKey ⟨some true⟩).Run :=
  Life.scripted _ (cronJobLife_idles _ _) idledCronJob idledCronJob_start idledScript
    idledScript_playable

/-- The suspended CronJob runs when the outage is over. -/
theorem suspended_cronJob_resumed :
    (idledRun.object 8).map (fun wd => wd.status.phase) = some .healthy ∧
      (idledRun.object 8).bind (idledRun.cluster 8).dependent =
        some (.cronJob ⟨some false⟩) ∧
      ∀ i < 8, ∀ p ∈ idledRun.patches i, p.after.isSuspended = false := by
  decide

end Klink
