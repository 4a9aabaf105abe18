import Klink.ConditionHistory
import Klink.ManualOverride
import Klink.RequeueTimers
import Klink.SuspensionBound
import Klink.WatchMapping

/-! # Two Reconciles at one instant

Run twice at the same clock value, Reconcile is to find nothing left to do. The first run may
store a timestamp that the API server truncates to the second, and the second run reads it back:
a window shorter than the fraction it lost is over at once.
-/
namespace Klink

/-- The Reconcile sends no patch and leaves the stored status as it is. -/
structure AtRest (api : Api) (now : Int) (c : Cluster) (req : NamespacedName) : Prop where
  patches : (reconcile api now c req).patches = []
  status : ((c.reconciled api now req).getWD req).map (·.status) =
    (c.getWD req).map (·.status)

theorem Memory.write_again (now : Int) (phase : DependencyPhase) (caller base : Memory) :
    Memory.write now phase (Memory.write now phase caller base)
      (Memory.write now phase caller base) = Memory.write now phase caller base := by
  have htrunc : truncateTime ∘ truncateTime = truncateTime := funext truncateTime_idem
  by_cases hp : phase = .suspended
  · simp [Memory.write, hp, htrunc]
  · simp [Memory.write, hp, htrunc]

section Rewriting

variable {now : Int} {wd caller : WorkloadDependency} {phase : DependencyPhase} {msg : String}

def WorkloadDependency.written (now : Int) (wd caller : WorkloadDependency)
    (phase : DependencyPhase) (msg : String) : WorkloadDependency :=
  (applyFields now caller.status phase msg caller).withStatusOf wd

theorem written_sameObject : wd.SameObject (wd.written now caller phase msg) := rfl

theorem written_memory :
    (wd.written now caller phase msg).memory =
      Memory.write now phase caller.memory caller.memory :=
  applyFields_memory now caller.status phase msg caller

theorem written_message : (wd.written now caller phase msg).status.message = msg := by
  unfold WorkloadDependency.written applyFields setCondition
  cases conditionSpec phase <;> rfl

theorem written_conditions :
    (wd.written now caller phase msg).status.conditions =
      (conditionsAfter now caller.generation phase msg caller.status.conditions).map
        Condition.stored :=
  congrArg (List.map Condition.stored) (applyFields_conditions now caller.status phase msg caller)

theorem WorkloadDependencyStatus.ext_memory {st st' : WorkloadDependencyStatus}
    (hm : st'.memory = st.memory) (hmsg : st'.message = st.message)
    (hc : st'.conditions = st.conditions) : st' = st := by
  obtain ⟨_, _, _, _, _, _, _⟩ := st
  obtain ⟨_, _, _, _, _, _, _⟩ := st'
  cases hm
  cases hmsg
  cases hc
  rfl

theorem written_again {caller' : WorkloadDependency} (hf : wd.SameObject caller)
    (hf' : (wd.written now caller phase msg).SameObject caller')
    (hc : caller'.status.conditions = (wd.written now caller phase msg).status.conditions)
    (hm : caller'.memory = (wd.written now caller phase msg).memory) :
    ((wd.written now caller phase msg).written now caller' phase msg).status =
      (wd.written now caller phase msg).status := by
  have hgen : caller'.generation = caller.generation := by
    rw [← hf', ← hf]
    rfl
  apply WorkloadDependencyStatus.ext_memory
  · change WorkloadDependency.memory _ = WorkloadDependency.memory _
    rw [written_memory, hm, written_memory, Memory.write_again]
  · rw [written_message, written_message]
  · rw [written_conditions, hc, written_conditions, hgen, conditionsAfter_again]

end Rewriting

section Stores

variable {api : Api} {now : Int} {c : Cluster} {req : NamespacedName}
  {wd caller : WorkloadDependency} {phase : DependencyPhase} {msg : String}
  {result : Option Result}

theorem setStatus_written (hok : api.statusUpdate 0 = .ok) (h : c.getWD req = some wd)
    (hf : wd.SameObject caller) :
    (c.applyAll (setStatus api now caller phase msg result).effects).getWD req =
      some (wd.written now caller phase msg) := by
  rw [applyAll_setStatus, statusAttempt_ok hok]
  apply Cluster.getWD_putStatus_self h
  rw [applyFields_key, hf.key, c.getWD_key h]

theorem AtRest.of_report (hok : api.statusUpdate 0 = .ok)
    (h : c.getWD req = some (wd.written now caller phase msg)) (hf : wd.SameObject caller)
    (ho : reconcile api now c req =
      setStatus api now (wd.written now caller phase msg) phase msg result) :
    AtRest api now c req := by
  constructor
  · rw [ho]
    exact patches_setStatus api now _ phase msg result
  · rw [Cluster.reconciled, ho, setStatus_written hok h (.refl _), h]
    exact congrArg some (written_again hf (.refl _) rfl rfl)

end Stores

def SlashFree (key : NamespacedName) : Prop := '/' ∉ key.ns.toList ∧ '/' ∉ key.name.toList

def Cluster.SlashFree (c : Cluster) : Prop :=
  ∀ kind key w, c.workload kind key = some w → Klink.SlashFree key

section Evaluation

variable {api api' : Api} {now : Int} {c c' : Cluster} {req : NamespacedName}
  {wd wd' : WorkloadDependency}

/-- The lookup of a name that is not the dependent's own does not see the object's status. -/
theorem downStatus_confined {key : NamespacedName} (hc : Confined c req wd c')
    (h : c.getWD req = some wd) (h' : c'.getWD req = some wd') (hspec : wd.SameSpec wd')
    (hkey : Klink.SlashFree key) (hne : key ≠ wd.dependentKey) (call : CallResult) :
    downStatus call c' key.name key.ns = downStatus call c key.name key.ns := by
  have hown : ∀ wd₁ : WorkloadDependency, wd₁.dependentKey = wd.dependentKey →
      indexDependentName wd₁ ≠ key.ns ++ "/" ++ key.name := by
    intro wd₁ hd hi
    exact hne ((index_split hkey.1 hkey.2 hi).symm.trans hd)
  have hmem : ∀ wd₁ : WorkloadDependency, indexDependentName wd₁ = key.ns ++ "/" ++ key.name →
      (wd₁ ∈ c'.wds.items ↔ wd₁ ∈ c.wds.items) := by
    intro wd₁ hi
    have hget : ∀ c : Cluster, wd₁ ∈ c.wds.items ↔ c.getWD wd₁.key = some wd₁ := by
      intro c
      rw [Cluster.getWD, c.wds.get?_eq_some_iff]
      simp
    rw [hget, hget]
    by_cases hk : wd₁.key = req
    · rw [hk, h, h']
      constructor
      · intro he
        cases Option.some.inj he
        exact absurd hi (hown wd' hspec.dependentKey)
      · intro he
        cases Option.some.inj he
        exact absurd hi (hown wd rfl)
    · rw [hc.getWD hk]
  have hany : ∀ p : WorkloadDependency → Bool,
      (∀ wd₁, p wd₁ = true → indexDependentName wd₁ = key.ns ++ "/" ++ key.name) →
      c'.wds.items.any p = c.wds.items.any p := by
    intro p hp
    rw [Bool.eq_iff_iff, List.any_eq_true, List.any_eq_true]
    constructor
    · rintro ⟨wd₁, hin, hpw⟩
      exact ⟨wd₁, (hmem wd₁ (hp wd₁ hpw)).mp hin, hpw⟩
    · rintro ⟨wd₁, hin, hpw⟩
      exact ⟨wd₁, (hmem wd₁ (hp wd₁ hpw)).mpr hin, hpw⟩
  unfold downStatus isSuspendedByKlink
  rw [hany _ (fun wd₁ hpw => (of_decide_eq_true hpw).1)]

/-- A Reconcile that follows sees its dependencies as the first one did, the dependent not being
among them. -/
theorem evaluateDependencies_again (hok : api.AllOk) (hok' : api'.AllOk)
    (hc : Confined c req wd c') (h : c.getWD req = some wd) (h' : c'.getWD req = some wd')
    (hspec : wd.SameSpec wd') (hnames : c.SlashFree)
    (hself : ∀ dep ∈ wd.spec.dependsOn, wd.dependsOnKey dep ≠ wd.dependentKey) :
    evaluateDependencies api' c' wd' = evaluateDependencies api c wd := by
  unfold evaluateDependencies
  rw [hspec.spec]
  apply evaluateFrom_congr (congrArg NamespacedName.ns hspec.key)
  · intro i
    rw [hok.getDependency, hok'.getDependency]
  · intro i
    rw [hok.listIndex, hok'.listIndex]
  · intro dep hdep
    exact hc.workload (Or.inr (hself dep hdep))
  · intro dep hdep hfound call
    obtain ⟨w, hw⟩ := Option.ne_none_iff_exists'.mp hfound
    exact downStatus_confined hc h h' hspec (hnames _ _ w hw) (hself dep hdep) call

end Evaluation

/-- What the first run stores does not run out within the fraction of a second it loses: neither
a window it opens, nor the time of a suspension that is said to have begun before. -/
structure Lasting (now : Int) (wd : WorkloadDependency) (w : WorkloadObject) (ok : Bool) :
    Prop where
  opened : ∀ win : Window, win.Awaited now wd w ok → win.began wd = none →
    now - truncateTime now < win.length wd
  entered : wd.enforces → Window.degraded.Applies wd w ok →
    (∃ since, wd.status.degradedSince = some since ∧ degradedWindow wd ≤ timeSince now since) →
    ∀ since, wd.status.suspendedAt = some since → 0 < wd.spec.onDegraded.maxSuspendDuration →
      timeSince now (truncateTime since) < wd.spec.onDegraded.maxSuspendDuration

theorem timeSince_truncateTime (now : Int) :
    timeSince now (truncateTime now) = now - truncateTime now := by
  unfold timeSince truncateTime minDuration maxDuration second
  omega

theorem sub_truncateTime_lt (now : Int) : now - truncateTime now < second := by
  have := lt_truncateTime_add now
  omega

theorem needsEnforce_of_isDown {w : WorkloadObject} (h : w.isDown = true) :
    needsEnforce w = false := by
  by_cases hk : w.kind = .cronJob
  · rw [needsEnforce_cronJob hk, h]
    rfl
  · rw [WorkloadObject.isDown_eq hk, decide_eq_true_eq] at h
    rw [needsEnforce_eq hk, h]
    rfl

section Moves

variable {now : Int} {wd wd' : WorkloadDependency} {w : WorkloadObject} {ok : Bool} {d : Deed}
  {phase : DependencyPhase} {caller : Memory}

theorem Move.kept {since : Int} (he : wd.enforces) (hg : w.isProgressing = false)
    (hp : wd.status.phase = .suspended) (hs : wd.status.suspendedAt = some since)
    (ht : 0 < wd.spec.onDegraded.maxSuspendDuration →
      timeSince now since < wd.spec.onDegraded.maxSuspendDuration)
    (hn : wd.spec.mode = .strict → needsEnforce w = false) :
    ∃ write, Move wd w now false .keep write ∧
      (write = none ∨ write = some (.suspended, wd.memory)) := by
  by_cases h0 : 0 < wd.spec.onDegraded.maxSuspendDuration
  · exact ⟨none, .hold he hg hp hs h0 (ht h0), Or.inl rfl⟩
  · exact ⟨_, .stay he hg hp (Or.inr (Int.not_lt.mp h0)) hn, Or.inr rfl⟩

theorem Move.stamp_written (hm : Move wd w now ok d (some (.suspended, caller)))
    (hm' : wd'.memory = Memory.write now .suspended caller caller) :
    wd'.status.suspendedAt = some (truncateTime (wd.status.suspendedAt.getD now)) := by
  have hat := congrArg Memory.suspendedAt hm'
  change wd'.status.suspendedAt = some (truncateTime (caller.suspendedAt.getD now)) at hat
  rw [hm.suspended_stamp] at hat
  exact hat

theorem Move.healthy_again (he : wd.enforces) (hp : wd.status.phase = .healthy)
    (hd : wd.status.degradedSince = none) (hh : wd.status.healthySince = none) :
    Move wd w now true .keep (some (.healthy, wd.memory)) := by
  have hsame : wd.memory.clearDegraded.withHealthySince none = wd.memory := by
    unfold WorkloadDependency.memory WorkloadDependencyStatus.memory Memory.clearDegraded
      Memory.withHealthySince
    rw [hd, hh]
  rw [← hsame]
  exact .healthy he (by simp [hp])

/-- After a move that stores something, the next move at the same instant does nothing new. -/
theorem Move.settles (hm : Move wd w now ok d (some (phase, caller))) (he : wd.enforces)
    (hl : Lasting now wd w ok)
    (hmax : 0 < wd.spec.onDegraded.maxSuspendDuration →
      second ≤ wd.spec.onDegraded.maxSuspendDuration)
    (hspec : wd.SameSpec wd') (hm' : wd'.memory = Memory.write now phase caller caller) :
    ∃ write, Move wd' (d.object wd.status.savedReplicas w) now ok .keep write ∧
      (write = none ∨ write = some (phase, wd'.memory)) := by
  have he' : wd'.enforces := hspec.enforces.mpr he
  have hphase : wd'.status.phase = phase := congrArg Memory.phase hm'
  have hg' : (d.object wd.status.savedReplicas w).isProgressing = w.isProgressing :=
    d.object_progressing _ w
  -- a stamp of this instant has lost less than a second
  have hfresh : 0 < wd.spec.onDegraded.maxSuspendDuration →
      timeSince now (truncateTime now) < wd.spec.onDegraded.maxSuspendDuration := by
    intro h0
    rw [timeSince_truncateTime]
    exact (sub_truncateTime_lt now).trans_le (hmax h0)
  have hunset : wd.status.suspendedAt = none ∨ wd.spec.onDegraded.maxSuspendDuration ≤ 0 →
      0 < wd'.spec.onDegraded.maxSuspendDuration →
      timeSince now (truncateTime (wd.status.suspendedAt.getD now)) <
        wd'.spec.onDegraded.maxSuspendDuration := by
    intro hs h0
    rw [hspec.spec] at h0 ⊢
    rw [hs.resolve_right (Int.not_le.mpr h0)]
    exact hfresh h0
  have hdown : wd'.spec.mode = .strict →
      needsEnforce (Deed.suspend.object wd.status.savedReplicas w) = false :=
    fun _ => needsEnforce_of_isDown (Deed.object_suspend_isDown _ w)
  have hstamp : phase = .suspended →
      wd'.status.suspendedAt = some (truncateTime (wd.status.suspendedAt.getD now)) := by
    rintro rfl
    exact hm.stamp_written hm'
  cases hm with
  | defer hg => exact ⟨_, .defer hg, Or.inr rfl⟩
  | watch hn => exact absurd he hn
  | stayReleased _ hg => exact ⟨_, .stayReleased he' hg hphase, Or.inr rfl⟩
  | release _ hg => exact ⟨_, .stayReleased he' (hg'.trans hg) hphase, Or.inr rfl⟩
  | stay _ hg _ hs hn =>
    refine Move.kept he' hg hphase (hstamp rfl) (hunset hs) ?_
    rw [hspec.spec]
    exact hn
  | enforce _ hg _ hs => exact Move.kept he' (hg'.trans hg) hphase (hstamp rfl) (hunset hs) hdown
  | healthy =>
    exact ⟨_, .healthy_again he' hphase (congrArg Memory.degradedSince hm')
      (congrArg Memory.healthySince hm'), Or.inr rfl⟩
  | startRecovery _ hp hs =>
    have hlt := hl.opened .recovery ⟨he, ⟨rfl, hp⟩, fun _ h => by cases hs.symm.trans h⟩ hs
    refine ⟨none, .awaitRecovery he' hphase (congrArg Memory.healthySince hm') ?_, Or.inl rfl⟩
    rw [timeSince_truncateTime]
    exact hlt.trans_eq (Window.length_congr hspec.spec .recovery).symm
  | recover =>
    exact ⟨_, .healthy_again he' hphase (congrArg Memory.degradedSince hm')
      (congrArg Memory.healthySince hm'), Or.inr rfl⟩
  | degrade _ hg hp hr hs =>
    have hlt := hl.opened .degraded ⟨he, ⟨rfl, hg, hp, hr⟩, fun _ h => by cases hs.symm.trans h⟩ hs
    refine ⟨none, .awaitWindow he' hg (by simp [hphase]) (by simp [hphase])
      (congrArg Memory.degradedSince hm') ?_, Or.inl rfl⟩
    rw [timeSince_truncateTime]
    exact hlt.trans_eq (Window.length_congr hspec.spec .degraded).symm
  | suspend _ hg hp hr hs ht =>
    refine Move.kept he' (hg'.trans hg) hphase (hstamp rfl) ?_ hdown
    cases hsus : wd.status.suspendedAt with
    | none =>
      rw [hspec.spec]
      exact hfresh
    | some since =>
      rw [hspec.spec]
      exact hl.entered he ⟨rfl, hg, hp, hr⟩ ⟨_, hs, ht⟩ since hsus

end Moves

section Runs

variable {api api' : Api} {now : Int} {c : Cluster} {req : NamespacedName}
  {wd wd₁ : WorkloadDependency} {w : WorkloadAccessor} {ev : Evaluation} {d : Deed} {o : Outcome}
  {write : Option (DependencyPhase × Memory)}

inductive Leaves (now : Int) (wd : WorkloadDependency) (w : WorkloadAccessor) (ev : Evaluation)
    (wd₁ : WorkloadDependency) : Option (DependencyPhase × Memory) → Prop where
  | same : wd₁ = wd → Leaves now wd w ev wd₁ none
  | written {phase caller} : wd.SameObject caller →
      caller.status.conditions = wd.status.conditions →
      (wd.enforces ∨ phase = wd.watchPhase w.obj ev.allOk) →
      wd₁ = wd.written now caller phase (wd.reportMsg w ev phase) →
      Leaves now wd w ev wd₁ (some (phase, caller.memory))

theorem Delivers.leaves {obj : WorkloadObject}
    (hdel : Delivers api now wd ⟨wd.dependentKey, obj⟩ ev d o write) (hok : api.AllOk)
    (h : c.getWD req = some wd) (hw : c.dependent wd = some obj) :
    (c.applyAll o.effects).dependent wd = some (d.object wd.status.savedReplicas obj) ∧
      ∃ wd₁, (c.applyAll o.effects).getWD req = some wd₁ ∧
        Leaves now wd ⟨wd.dependentKey, obj⟩ ev wd₁ write := by
  cases hdel with
  | refused hp => exact absurd hok.patch hp
  | waited hd _ ho =>
    rw [hd, ho]
    exact ⟨hw, wd, h, .same rfl⟩
  | wrote _ hf hc hp hes _ _ ho =>
    have hget : (d.place wd.status.savedReplicas ⟨wd.dependentKey, obj⟩ c).getWD req = some wd :=
      (Cluster.getWD_putPatch _ _ _ _).trans h
    have hobj : (d.place wd.status.savedReplicas ⟨wd.dependentKey, obj⟩ c).dependent wd =
        some (d.object wd.status.savedReplicas obj) :=
      Cluster.dependent_putPatch hw (fun _ ha => Deed.patch_kind ha)
    rw [ho, Outcome.prepend, Cluster.applyAll_append, hes]
    refine ⟨?_, _, setStatus_written (hok.statusUpdate 0) hget hf, .written hf hc hp rfl⟩
    rw [applyAll_setStatus]
    exact (Cluster.workload_storeAttempt _ _ _ _).trans hobj

theorem Leaves.sameSpec (hl : Leaves now wd w ev wd₁ write) : wd.SameSpec wd₁ := by
  cases hl with
  | same heq =>
    rw [heq]
    exact (WorkloadDependency.SameObject.refl wd).sameSpec
  | written _ _ _ heq =>
    rw [heq]
    exact written_sameObject.sameSpec

theorem Leaves.memory (hl : Leaves now wd w ev wd₁ write) :
    wd₁.memory = write.elim wd.memory (fun q => Memory.write now q.1 q.2 q.2) := by
  cases hl with
  | same heq => rw [heq]; rfl
  | written _ _ _ heq =>
    rw [heq]
    exact written_memory

theorem reconcile_again {obj : WorkloadObject} (now : Int) (hok : api.AllOk) (hok' : api'.AllOk)
    (h : c.getWD req = some wd) (hd : wd.deletionTimestamp = none)
    (hf : wd.containsFinalizer = true) (hp : wd.isPaused = false)
    (hw : c.dependent wd = some obj) (hnames : c.SlashFree)
    (hself : ∀ dep ∈ wd.spec.dependsOn, wd.dependsOnKey dep ≠ wd.dependentKey) :
    ∃ ev d write wd₁, (ev.allOk = true ↔ AllWell c wd) ∧ Move wd obj now ev.allOk d write ∧
      Leaves now wd ⟨wd.dependentKey, obj⟩ ev wd₁ write ∧
      (c.reconciled api now req).getWD req = some wd₁ ∧
      sighting api' (c.reconciled api now req) req =
        some ⟨d.object wd.status.savedReplicas obj, ev⟩ := by
  obtain ⟨ev, hs⟩ := sighting_of_allOk hok h hd hf hp hw
  obtain ⟨_, hev, d, write, hm, hdel⟩ := reconcile_delivers now h hs
  obtain ⟨hw₁, wd₁, h₁, hl⟩ := hdel.leaves hok h hw
  have h₁ : (c.reconciled api now req).getWD req = some wd₁ := h₁
  have hspec := hl.sameSpec
  have hw' : (c.reconciled api now req).dependent wd₁ =
      some (d.object wd.status.savedReplicas obj) := (hspec.target.dependent _).trans hw₁
  obtain ⟨ev', hs'⟩ := sighting_of_allOk hok' h₁ (hspec.deletionTimestamp.trans hd)
    (hspec.finalizer hf) (hspec.isPaused.trans hp) hw'
  have hsame := evaluateDependencies_again hok hok' (reconcile_confined now h hok.written) h h₁
    hspec hnames hself
  rw [sighting_evaluation hs' h₁, sighting_evaluation hs h] at hsame
  obtain rfl := Except.ok.inj hsame
  exact ⟨ev', d, write, wd₁, hev, hm, hl, h₁, hs'⟩

theorem Leaves.atRest {write' : Option (DependencyPhase × Memory)}
    {obj : WorkloadObject} (hl : Leaves now wd w ev wd₁ write) (hok : api.AllOk)
    (h : c.getWD req = some wd₁) (hw : c.dependent wd₁ = some obj)
    (hkey : w.key = wd₁.dependentKey) (hg : obj.isProgressing = w.obj.isProgressing)
    (hdel : Delivers api now wd₁ ⟨wd₁.dependentKey, obj⟩ ev .keep (reconcile api now c req) write')
    (hwrite : write' = none ∨
      ∃ phase caller, write = some (phase, caller) ∧ write' = some (phase, wd₁.memory)) :
    AtRest api now c req := by
  have hpatches := hdel.realises.2
  obtain ⟨_, wd₂, h₂, hl₂⟩ := hdel.leaves hok h hw
  refine ⟨hpatches, ?_⟩
  rw [Cluster.reconciled, h₂, h]
  apply congrArg some
  rcases hwrite with rfl | ⟨phase, caller, rfl, rfl⟩
  · cases hl₂ with
    | same heq => rw [heq]
  · generalize hmem : wd₁.memory = m at hl₂
    cases hl₂ with
    | @written _ caller₂ hf₂ hc₂ _ heq₂ =>
      cases hl with
      | @written _ caller₁ hf hc _ heq =>
        have hmsg : wd₁.reportMsg ⟨wd₁.dependentKey, obj⟩ ev phase = wd.reportMsg w ev phase := by
          refine reportMsg_congr ?_ hkey.symm hg ev phase
          rw [heq]
          rfl
        rw [heq₂, hmsg]
        subst heq
        exact written_again hf hf₂ hc₂ hmem.symm

theorem Move.watches {obj : WorkloadObject} {ok : Bool} (hm : Move wd obj now ok d write)
    (hn : ¬ wd.enforces) : d = .keep ∧ ∃ phase, write = some (phase, wd.memory) := by
  cases hm with
  | defer => exact ⟨rfl, _, rfl⟩
  | watch => exact ⟨rfl, _, rfl⟩
  | stayReleased he => exact absurd he hn
  | release he => exact absurd he hn
  | hold he => exact absurd he hn
  | stay he => exact absurd he hn
  | enforce he => exact absurd he hn
  | healthy he => exact absurd he hn
  | startRecovery he => exact absurd he hn
  | awaitRecovery he => exact absurd he hn
  | recover he => exact absurd he hn
  | degrade he => exact absurd he hn
  | awaitWindow he => exact absurd he hn
  | suspend he => exact absurd he hn

theorem Leaves.rests {obj : WorkloadObject} {c₁ : Cluster}
    (hl : Leaves now wd ⟨wd.dependentKey, obj⟩ ev wd₁ write) (hm : Move wd obj now ev.allOk d write)
    (hok : api.AllOk) (hlast : Lasting now wd obj ev.allOk)
    (hmax : 0 < wd.spec.onDegraded.maxSuspendDuration →
      second ≤ wd.spec.onDegraded.maxSuspendDuration)
    (h₁ : c₁.getWD req = some wd₁)
    (hs : sighting api c₁ req = some ⟨d.object wd.status.savedReplicas obj, ev⟩) :
    AtRest api now c₁ req := by
  have hspec := hl.sameSpec
  obtain ⟨hw₁, _, d₂, write₂, hm₂, hdel₂⟩ := reconcile_delivers now h₁ hs
  have hg : (d.object wd.status.savedReplicas obj).isProgressing = obj.isProgressing :=
    d.object_progressing _ obj
  by_cases he : wd.enforces
  · have he₁ := hspec.enforces.mpr he
    cases write with
    | none =>
      obtain rfl : wd₁ = wd := by
        cases hl with
        | same heq => exact heq
      obtain rfl := hm.keep_of_no_write
      obtain ⟨rfl, rfl⟩ := hm₂.unique he₁ hm
      exact hl.atRest hok h₁ hw₁ rfl hg hdel₂ (Or.inl rfl)
    | some q =>
      obtain ⟨phase, caller⟩ := q
      obtain ⟨write', hm', hwrite⟩ := hm.settles he hlast hmax hspec hl.memory
      obtain ⟨rfl, rfl⟩ := hm₂.unique he₁ hm'
      refine hl.atRest hok h₁ hw₁ hspec.dependentKey.symm hg hdel₂ ?_
      rcases hwrite with hnone | hsome
      · exact Or.inl hnone
      · exact Or.inr ⟨phase, caller, rfl, hsome⟩
  · obtain ⟨rfl, phase, rfl⟩ := hm.watches he
    obtain ⟨rfl, phase₂, rfl⟩ := hm₂.watches (fun h => he (hspec.enforces.mp h))
    have hphase : phase₂ = phase := by
      have h₁ : phase = wd.watchPhase obj ev.allOk := by
        generalize wd.memory = m at hl
        cases hl with
        | written _ _ hp => exact hp.resolve_left he
      have h₂ : phase₂ = wd₁.watchPhase obj ev.allOk := by
        generalize wd₁.memory = m at hdel₂
        cases hdel₂ with
        | refused hp => exact absurd hok.patch hp
        | wrote _ _ _ hp => exact hp.resolve_left (fun h => he (hspec.enforces.mp h))
      rw [h₁, h₂]
      unfold WorkloadDependency.watchPhase
      rw [hspec.spec]
    subst hphase
    exact hl.atRest hok h₁ hw₁ hspec.dependentKey.symm hg hdel₂ (Or.inr ⟨phase₂, _, rfl, rfl⟩)

theorem Window.Applies.phase_ne {win : Window} {obj : WorkloadObject} {ok : Bool}
    (h : win.Applies wd obj ok) : wd.status.phase ≠ win.endPhase := by
  cases win with
  | degraded => exact h.2.2.1
  | recovery => simp [h.2, Window.endPhase]
  | maxSuspend => simp [h.2.2.1, Window.endPhase]

theorem AtRest.not_over {win : Window} {obj : WorkloadObject} {since : Int}
    (hr : AtRest api now c req) (hok : api.AllOk) (h : c.getWD req = some wd)
    (hs : sighting api c req = some ⟨obj, ev⟩) (he : wd.enforces)
    (ha : win.Applies wd obj ev.allOk) (hb : win.began wd = some since) :
    timeSince now since < win.length wd := by
  by_contra hover
  obtain ⟨hw, _, d, write, hm, hdel⟩ := reconcile_delivers now h hs
  obtain ⟨caller, hclose⟩ := ha.closes he hb (Int.not_lt.mp hover)
  obtain ⟨rfl, rfl⟩ := hm.unique he hclose
  obtain ⟨_, wd₂, h₂, hl₂⟩ := hdel.leaves hok h hw
  have hstatus := hr.status
  rw [Cluster.reconciled, h₂, h] at hstatus
  have hphase : wd₂.status.phase = wd.status.phase :=
    congrArg WorkloadDependencyStatus.phase (Option.some.inj hstatus)
  exact ha.phase_ne (hphase.symm.trans (congrArg Memory.phase hl₂.memory))

theorem AtRest.lasting {obj : WorkloadObject} {c₁ : Cluster} (hr : AtRest api now c₁ req)
    (hl : Leaves now wd ⟨wd.dependentKey, obj⟩ ev wd₁ write) (hm : Move wd obj now ev.allOk d write)
    (hok : api.AllOk) (h₁ : c₁.getWD req = some wd₁)
    (hs : sighting api c₁ req = some ⟨d.object wd.status.savedReplicas obj, ev⟩) :
    Lasting now wd obj ev.allOk := by
  have hspec := hl.sameSpec
  constructor
  · intro win ha hb
    obtain ⟨phase, caller, hopen, _, hnext⟩ := ha.opens hb
    obtain ⟨rfl, rfl⟩ := hm.unique ha.enforces hopen
    obtain ⟨happlies, hbegan⟩ :=
      hnext wd₁ hspec.spec (congrArg Memory.phase hl.memory) ⟨_, hl.memory⟩
    have hlt := hr.not_over hok h₁ hs (hspec.enforces.mpr ha.enforces) happlies hbegan
    rw [timeSince_truncateTime, Window.length_congr hspec.spec] at hlt
    exact hlt
  · rintro he ⟨hbad, hg, hp, hrel⟩ ⟨since, hsince, hlong⟩ at₀ hat h0
    rw [hbad] at hm
    obtain ⟨rfl, rfl⟩ := hm.unique he (.suspend he hg hp hrel hsince hlong)
    have hstamp : wd₁.status.suspendedAt = some (truncateTime at₀) := by
      rw [hm.stamp_written hl.memory, hat]
      rfl
    have happlies : Window.maxSuspend.Applies wd₁
        (Deed.suspend.object wd.status.savedReplicas obj) ev.allOk := by
      refine ⟨hbad, (Deed.object_progressing _ obj _).trans hg,
        congrArg Memory.phase hl.memory, ?_, by simp [hstamp]⟩
      rw [hspec.spec]
      exact h0
    have hlt := hr.not_over hok h₁ hs (hspec.enforces.mpr he) happlies hstamp
    rw [Window.length_congr hspec.spec] at hlt
    exact hlt

theorem reconcile_paused (now : Int) (hok : api.AllOk) (h : c.getWD req = some wd)
    (hd : wd.deletionTimestamp = none) (hf : wd.containsFinalizer = true)
    (hp : wd.isPaused = true) :
    reconcile api now c req = setStatus api now wd .paused pausedMsg none := by
  simp [reconcile, hok.getWD, h, hd, hf, hp]

theorem reconcile_unknown (now : Int) (hok : api.AllOk) (h : c.getWD req = some wd)
    (hd : wd.deletionTimestamp = none) (hf : wd.containsFinalizer = true)
    (hp : wd.isPaused = false) (hw : c.dependent wd = none) :
    reconcile api now c req = setStatus api now wd .unknown
      ("dependent " ++ wd.spec.dependent.kind ++ "/" ++ wd.spec.dependent.name ++ " not found")
      none := by
  have hw : c.workload (WorkloadKind.ofString wd.spec.dependent.kind)
    ⟨wd.dependentNs, wd.spec.dependent.name⟩ = none := hw
  simp [reconcile, hok.getWD, h, hd, hf, hp, reconcileActive, getWorkload, hok.getDependent, hw]

theorem report_rests {phase : DependencyPhase} {msg : String} (hok : api.AllOk) (hok' : api'.AllOk)
    (h : c.getWD req = some wd)
    (ho : reconcile api now c req = setStatus api now wd phase msg none)
    (ho' : (c.reconciled api now req).getWD req = some (wd.written now wd phase msg) →
      reconcile api' now (c.reconciled api now req) req =
        setStatus api' now (wd.written now wd phase msg) phase msg none) :
    AtRest api' now (c.reconciled api now req) req := by
  have h₁ : (c.reconciled api now req).getWD req = some (wd.written now wd phase msg) := by
    rw [Cluster.reconciled, ho]
    exact setStatus_written (hok.statusUpdate 0) h (.refl wd)
  exact .of_report (hok'.statusUpdate 0) h₁ (.refl wd) (ho' h₁)

end Runs

def LastingIn (now : Int) (c : Cluster) (wd : WorkloadDependency) : Prop :=
  wd.isPaused = false → ∀ w ok, c.dependent wd = some w → (ok = true ↔ AllWell c wd) →
    Lasting now wd w ok

/-- A second run at the same instant has nothing left to do exactly when nothing that the first
one stored has run out. -/
theorem instant_idempotent_iff {api api' : Api} {c : Cluster} {req : NamespacedName}
    {wd : WorkloadDependency} (now : Int) (h : c.getWD req = some wd)
    (hd : wd.deletionTimestamp = none) (hf : wd.containsFinalizer = true)
    (hself : ∀ dep ∈ wd.spec.dependsOn, wd.dependsOnKey dep ≠ wd.dependentKey)
    (hmax : wd.spec.onDegraded.maxSuspendDuration = 0 ∨
      second ≤ wd.spec.onDegraded.maxSuspendDuration)
    (hnames : c.SlashFree) (hok : api.AllOk) (hok' : api'.AllOk) :
    AtRest api' now (c.reconciled api now req) req ↔ LastingIn now c wd := by
  cases hp : wd.isPaused with
  | true =>
    constructor
    · intro _ hn
      cases hp.symm.trans hn
    · intro _
      apply report_rests hok hok' h (reconcile_paused now hok h hd hf hp)
      intro h₁
      exact reconcile_paused now hok' h₁ hd hf hp
  | false =>
    cases hw : c.dependent wd with
    | none =>
      constructor
      · intro _ _ w _ hw'
        cases hw.symm.trans hw'
      · intro _
        have ho := reconcile_unknown now hok h hd hf hp hw
        apply report_rests hok hok' h ho
        intro h₁
        apply reconcile_unknown now hok' h₁ hd hf hp
        rw [Cluster.reconciled, ho, applyAll_setStatus]
        exact (Cluster.workload_storeAttempt _ _ _ _).trans hw
    | some obj =>
      obtain ⟨ev, d, write, wd₁, hev, hm, hl, h₁, hs⟩ :=
        reconcile_again now hok hok' h hd hf hp hw hnames hself
      constructor
      · intro hr _ w ok hw' hok₁
        obtain rfl := Option.some.inj (hw.symm.trans hw')
        obtain rfl : ok = ev.allOk := by
          rw [Bool.eq_iff_iff, hok₁, hev]
        exact hr.lasting hl hm hok' h₁ hs
      · intro hlast
        have hpos : 0 < wd.spec.onDegraded.maxSuspendDuration →
            second ≤ wd.spec.onDegraded.maxSuspendDuration := by
          intro h0
          omega
        exact hl.rests hm hok' (hlast hp obj ev.allOk hw hev) hpos h₁ hs

theorem demoWorld_slashFree (wd : WorkloadDependency) (web : WorkloadObject) :
    (demoWorld wd web).cluster.SlashFree := by
  intro kind key w hw
  by_cases hdb : key = dbKey
  · rw [hdb]
    exact ⟨by decide, by decide⟩
  · by_cases hweb : key = webKey
    · rw [hweb]
      exact ⟨by decide, by decide⟩
    · have hnone : (demoWorld wd web).cluster.workload kind key = none := by
        unfold demoWorld
        rw [Cluster.workload_putWorkload_ne _ (Or.inr hdb),
          Cluster.workload_putWorkload_ne _ (Or.inr hweb)]
        cases kind <;> rfl
      cases hw.symm.trans hnone

def hastyObject (window : Int) : WorkloadDependency :=
  { demoObject "Deployment" .strict 0 with
    finalizers := [finalizerName]
    spec := ⟨⟨"Deployment", "web", ""⟩, [⟨"StatefulSet", "db", "", ⟨0, window, 0⟩⟩], ⟨0⟩, .strict,
      none⟩ }

def hastyCluster (window : Int) : Cluster :=
  (demoWorld (hastyObject window) (.deployment ⟨some 3, 3⟩)).cluster

/-- A window of half a second opens 0.7 seconds after the full second, and is over at once. -/
theorem short_window_over_at_once :
    (((hastyCluster 500000000).reconciled .good 700000000 demoKey).getWD demoKey).map
        (·.status.phase) = some .degraded ∧
      (reconcile .good 700000000 ((hastyCluster 500000000).reconciled .good 700000000 demoKey)
        demoKey).patches =
        [⟨webKey, .deployment ⟨some 3, 3⟩, .deployment ⟨some 0, 3⟩, .ok⟩] ∧
      ((((hastyCluster 500000000).reconciled .good 700000000 demoKey).reconciled .good 700000000
        demoKey).getWD demoKey).map (·.status.phase) = some .suspended := by
  decide

theorem instant_idempotent_second :
    (hastyCluster second).getWD demoKey = some (hastyObject second) ∧
    (AtRest .good 700000000 ((hastyCluster second).reconciled .good 700000000 demoKey) demoKey ↔
      LastingIn 700000000 (hastyCluster second) (hastyObject second)) :=
  ⟨by decide, instant_idempotent_iff 700000000 (by decide) rfl (by decide) (by decide) (Or.inl rfl)
    (demoWorld_slashFree _ _) Api.good_allOk Api.good_allOk⟩

end Klink
