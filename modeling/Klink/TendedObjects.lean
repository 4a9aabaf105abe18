import Klink.ControllerLoop

/-! # No object is forgotten

Every way out of a Reconcile but two asks for the next one: a refusal by the cycle check, and the
end of a deletion. Whatever the API server answers, an object that klink is responsible for is
therefore queued, or a timer will queue it within the longest time that its spec makes klink wait.
-/
namespace Klink

open LevelTriggered TransitionSystem

def WorkloadDependency.Refused (wd : WorkloadDependency) : Prop :=
  wd.containsFinalizer = false ∧ wd.status.phase = .unknown ∧
    ∃ cycle, wd.status.message = "dependency cycle detected: " ++ formatCycle cycle

/-- Klink has let the object in, or still has to decide about it. -/
def WorkloadDependency.NeedsCare (wd : WorkloadDependency) : Prop :=
  wd.containsFinalizer = true ∨ (wd.deletionTimestamp = none ∧ ¬ wd.Refused)

def longestWait (wd : WorkloadDependency) : Int :=
  max (30 * second) (max (degradedWindow wd)
    (max (recoveryWindow wd) wd.spec.onDegraded.maxSuspendDuration)) + second

theorem Window.length_le (win : Window) (wd : WorkloadDependency) :
    win.length wd + second ≤ longestWait wd := by
  unfold longestWait
  cases win with
  | degraded =>
    change degradedWindow wd + second ≤ _
    omega
  | recovery =>
    change recoveryWindow wd + second ≤ _
    omega
  | maxSuspend =>
    change wd.spec.onDegraded.maxSuspendDuration + second ≤ _
    omega

theorem le_longestWait {d : Int} (wd : WorkloadDependency) (h : d ≤ 30 * second) :
    d ≤ longestWait wd := by
  unfold longestWait
  unfold second at *
  omega

theorem longestWait_congr {wd wd' : WorkloadDependency} (h : wd'.spec = wd.spec) :
    longestWait wd' = longestWait wd := by
  unfold longestWait degradedWindow recoveryWindow
  rw [h]

/-! ## Timestamps lie in the past -/

structure Memory.Past (m : Memory) (now : Int) : Prop where
  degraded : ∀ t, m.degradedSince = some t → t ≤ now
  suspended : ∀ t, m.suspendedAt = some t → t ≤ now
  healthy : ∀ t, m.healthySince = some t → t ≤ now

section Stamps

variable {now now' : Int} {m caller base : Memory} {phase : DependencyPhase}
  {wd : WorkloadDependency} {w : WorkloadObject} {ok : Bool} {d : Deed}

theorem Memory.Past.empty (now : Int) : Memory.empty.Past now := by
  constructor <;> intro t h <;> cases h

theorem Memory.Past.mono (h : m.Past now) (hle : now ≤ now') : m.Past now' :=
  ⟨fun t ht => (h.degraded t ht).trans hle, fun t ht => (h.suspended t ht).trans hle,
    fun t ht => (h.healthy t ht).trans hle⟩

theorem Memory.Past.write (hc : caller.Past now) (hb : base.Past now) :
    (Memory.write now phase caller base).Past now := by
  have hor : ∀ a b : Option Int, (∀ t, a = some t → t ≤ now) → (∀ t, b = some t → t ≤ now) →
      ∀ t, (a.or b).map truncateTime = some t → t ≤ now := by
    intro a b ha hb t ht
    obtain ⟨t', ht', rfl⟩ := Option.map_eq_some_iff.mp ht
    refine (truncateTime_le t').trans ?_
    cases a with
    | none => exact hb t' ht'
    | some s => exact ha t' ht'
  refine ⟨hor _ _ hc.degraded hb.degraded, ?_, hor _ _ hc.healthy hb.healthy⟩
  intro t ht
  change (if phase = .suspended then some (truncateTime (base.suspendedAt.getD now)) else none) =
    some t at ht
  split at ht
  · obtain rfl := Option.some.inj ht
    refine (truncateTime_le _).trans ?_
    cases hs : base.suspendedAt with
    | none => exact le_refl now
    | some s => exact hb.suspended s hs
  · cases ht

theorem Memory.Past.saving (h : m.Past now) (w : WorkloadObject) : (m.saving w).Past now := by
  obtain ⟨hd, hs, hh⟩ := h
  unfold Memory.saving
  split
  · exact ⟨hd, hs, hh⟩
  · split
    · exact ⟨hd, hs, hh⟩
    · exact ⟨hd, hs, hh⟩

theorem Move.past (hm : Move wd w now ok d (some (phase, caller))) (h : wd.memory.Past now) :
    caller.Past now := by
  have hnone : ∀ t : Int, none = some t → t ≤ now := fun t ht => by cases ht
  have hnow : ∀ t, some now = some t → t ≤ now := fun t ht => le_of_eq (Option.some.inj ht).symm
  cases hm with
  | defer => exact h
  | watch => exact h
  | stayReleased => exact h
  | release => exact ⟨h.degraded, h.suspended, hnone⟩
  | stay => exact h
  | enforce => exact h.saving w
  | healthy => exact ⟨hnone, h.suspended, hnone⟩
  | startRecovery => exact ⟨hnone, h.suspended, hnow⟩
  | recover => exact ⟨hnone, h.suspended, hnone⟩
  | degrade => exact ⟨hnow, h.suspended, hnone⟩
  | suspend => exact h.saving w

theorem Stored.past {api : Api} {m' : Memory} (h : Stored api now m phase caller m')
    (hc : caller.Past now) (hm : m.Past now) : m'.Past now := by
  rcases h.2 with rfl | ⟨_, rfl⟩
  · exact hc.write hc
  · exact hc.write hm

theorem Transition.past {api : Api} {c : Cluster} {req : NamespacedName}
    {wd' : WorkloadDependency} {w w' : Option WorkloadObject} {ps : List Patch}
    (ht : Transition api now c req wd w (some wd') w' ps) (h : wd.memory.Past now) :
    wd'.memory.Past now := by
  generalize ho : some wd' = o at ht
  cases ht with
  | idle => cases ho; exact h
  | finalize =>
    cases ho
    rw [wd.addFinalizer_memory]
    exact h
  | report _ _ _ _ hst => cases ho; exact hst.past h h
  | refused => cases ho; exact h
  | act => cases ho; exact h
  | move _ _ hm _ _ hst => cases ho; exact hst.past (hm.past h) h
  | undoFailed => cases ho; exact h
  | undone =>
    rw [WorkloadDependency.withoutFinalizer_eq ho.symm]
    exact h
  | dropped =>
    rw [WorkloadDependency.withoutFinalizer_eq ho.symm]
    exact h

theorem Transition.spec {api : Api} {c : Cluster} {req : NamespacedName}
    {wd' : WorkloadDependency} {w w' : Option WorkloadObject} {ps : List Patch}
    (ht : Transition api now c req wd w (some wd') w' ps) : wd'.spec = wd.spec := by
  rcases ht.object_cases with hs | ⟨_, _, rfl⟩ | rfl
  · exact hs.sameSpec.spec
  · exact wd.addFinalizer_sameSpec.spec
  · rfl

theorem Memory.Past.waitTime_bounds {win : Window} {since : Int} (h : wd.memory.Past now)
    (hb : wd.Moderate) (ha : win.Awaited now wd w ok) (hs : win.began wd = some since) :
    waitTime now (win.length wd) since = win.length wd - (now - since) + second ∧
      now - since < win.length wd ∧ since ≤ now := by
  have hpast : since ≤ now := by
    cases win with
    | degraded => exact h.degraded since hs
    | recovery => exact h.healthy since hs
    | maxSuspend => exact h.suspended since hs
  have hl := hb.length_lt win
  obtain ⟨heq, hlt⟩ := ha.waitTime_eq hb hs (by unfold second maxDuration; omega)
  exact ⟨heq, hlt, hpast⟩

end Stamps

/-! ## Every Reconcile asks for the next one -/

def Outcome.ReturnsWithin (o : Outcome) (limit : Int) : Prop :=
  o.Repeats ∨ ∃ d, 0 < d ∧ d ≤ limit ∧ o.result = .ok (.after d)

section Verdicts

variable {api : Api} {now limit : Int} {c : Cluster} {req : NamespacedName}
  {wd wd' : WorkloadDependency} {phase : DependencyPhase} {msg : String}

theorem setStatus_returnsWithin (api : Api) (now : Int) (caller : WorkloadDependency)
    (phase : DependencyPhase) (msg : String) {result : Option Result} {d : Int}
    (hres : result.getD (.after (15 * second)) = .after d) (hd : 0 < d) (hle : d ≤ limit) :
    (setStatus api now caller phase msg result).ReturnsWithin limit := by
  rcases setStatus_result api now caller phase msg result with hr | hr | ⟨_, hr⟩
  · exact Or.inl (Or.inl hr)
  · exact Or.inl (Or.inr hr)
  · rw [hres] at hr
    exact Or.inr ⟨d, hd, hle, hr⟩

theorem WorkloadDependency.reportResult_bounds (wd : WorkloadDependency) (w : WorkloadObject)
    (ok : Bool) (phase : DependencyPhase) :
    ∃ d, (wd.reportResult w ok phase).getD (.after (15 * second)) = .after d ∧ 0 < d ∧
      d ≤ longestWait wd := by
  have hfifteen : 0 < 15 * second ∧ 15 * second ≤ longestWait wd :=
    ⟨by decide, le_longestWait wd (by decide)⟩
  have hthirty : 0 < 30 * second ∧ 30 * second ≤ longestWait wd :=
    ⟨by decide, le_longestWait wd (by decide)⟩
  have hwindow : ∀ win : Window, win.length wd ≤ longestWait wd := by
    intro win
    have := win.length_le wd
    unfold second at this
    omega
  unfold reportResult
  split
  · split
    · exact ⟨_, rfl, hfifteen⟩
    · split
      · exact ⟨_, rfl, hfifteen⟩
      · exact ⟨_, rfl, degradedWindow_pos wd, hwindow .degraded⟩
  · cases ok with
    | true => exact ⟨_, rfl, recoveryWindow_pos wd, hwindow .recovery⟩
    | false => exact ⟨_, rfl, hfifteen⟩
  · split
    · exact ⟨_, rfl, hthirty⟩
    · exact ⟨_, rfl, hfifteen⟩
  · exact ⟨_, rfl, hfifteen⟩

theorem dispatched_returns {obj : WorkloadObject} {ev : Evaluation} (h : c.getWD req = some wd)
    (hb : wd.Moderate) (hp : wd.memory.Past now) (hs : sighting api c req = some ⟨obj, ev⟩) :
    (reconcile api now c req).ReturnsWithin (longestWait wd) := by
  obtain ⟨_, _, d, write, hm, hdel⟩ := reconcile_delivers now h hs
  cases hdel with
  | refused _ _ he => exact Or.inl (Or.inl he)
  | @waited since _ hsince ho =>
    obtain ⟨heq, hlt, hpast⟩ := hp.waitTime_bounds hb hm.awaited hsince
    have hle := (wd.window ev.allOk).length_le wd
    right
    refine ⟨waitTime now ((wd.window ev.allOk).length wd) since, ?_, ?_, ?_⟩
    · rw [heq]
      unfold second
      omega
    · rw [heq]
      omega
    · rw [ho]
      rfl
  | @wrote phase wd' es _ _ _ _ _ _ _ ho =>
    obtain ⟨d, hres, hd, hle⟩ := wd.reportResult_bounds obj ev.allOk phase
    have hreturns := setStatus_returnsWithin api now wd' phase
      (wd.reportMsg ⟨wd.dependentKey, obj⟩ ev phase) hres hd hle
    rw [ho]
    exact hreturns

theorem removeFinalizer_returns (h : c.getWD req = some wd)
    (hd : wd.deletionTimestamp.isSome = true) (hu : api.update = .ok) {es : List Effect}
    (he : ∀ k, (c.applyAll es).getWD k = c.getWD k)
    (h' : (c.applyAll (es ++ (removeFinalizerOutcome api wd).effects)).getWD req = some wd') :
    ¬ wd'.NeedsCare := by
  rw [Cluster.applyAll_append, applyAll_removeFinalizer, if_pos hu,
    Cluster.getWD_putObject_removeFinalizer ((he req).trans h) hd] at h'
  rw [WorkloadDependency.withoutFinalizer_eq h']
  rintro (hf | ⟨hn, _⟩)
  · simp [WorkloadDependency.containsFinalizer, WorkloadDependency.removeFinalizer] at hf
  · have hn : wd.deletionTimestamp = none := hn
    simp [hn] at hd

theorem removeFinalizer_repeats (hu : api.update ≠ .ok) {es : List Effect} :
    ((removeFinalizerOutcome api wd).prepend es).Repeats := by
  unfold removeFinalizerOutcome
  cases hr : api.update with
  | ok => exact absurd hr hu
  | conflict => exact Or.inl ⟨_, rfl⟩
  | failed => exact Or.inl ⟨_, rfl⟩

theorem handleDeletion_returns (h : c.getWD req = some wd)
    (hd : wd.deletionTimestamp.isSome = true)
    (h' : (c.applyAll (handleDeletion api c wd).effects).getWD req = some wd')
    (hn : wd'.NeedsCare) : (handleDeletion api c wd).ReturnsWithin (longestWait wd) := by
  have hfive : ∀ es, (⟨es, .ok (.after (5 * second))⟩ : Outcome).ReturnsWithin
      (longestWait wd) := by
    intro es
    exact Or.inr ⟨5 * second, by decide, le_longestWait wd (by decide), rfl⟩
  have hdrop : ∀ es, (∀ k, (c.applyAll es).getWD k = c.getWD k) →
      (c.applyAll ((removeFinalizerOutcome api wd).prepend es).effects).getWD req = some wd' →
      ((removeFinalizerOutcome api wd).prepend es).ReturnsWithin (longestWait wd) := by
    intro es hes hget
    by_cases hu : api.update = .ok
    · exact absurd hn (removeFinalizer_returns h hd hu hes hget)
    · exact Or.inl (removeFinalizer_repeats hu)
  have hexit : DeletionExit api c wd (handleDeletion api c wd) := handleDeletion_exit api c wd
  generalize handleDeletion api c wd = o at hexit h' ⊢
  cases hexit with
  | dropped => exact hdrop [] (fun _ => rfl) h'
  | unread => exact hfive []
  | refused => exact hfive _
  | undone _ _ _ ha =>
    refine hdrop _ ?_ h'
    intro k
    rw [ha.cluster, Cluster.getWD_putPatch]

theorem setStatus_reports {result : Option Result} (h : c.getWD req = some wd)
    (hr : api.statusUpdate 0 = .ok ∨ api.Honest wd)
    (hv : ¬ (setStatus api now wd phase msg result).Repeats)
    (h' : (c.applyAll (setStatus api now wd phase msg result).effects).getWD req = some wd') :
    wd'.status.phase = phase ∧ wd'.status.message = msg ∧ wd'.finalizers = wd.finalizers := by
  have hpersist : api.persistsStatus = true := by
    rcases setStatus_result api now wd phase msg result with hres | hres | ⟨hp, _⟩
    · exact absurd (Or.inl hres) hv
    · exact absurd (Or.inr hres) hv
    · exact hp
  obtain ⟨w, hw⟩ := (statusAttempt_written_iff api now wd phase msg).mpr hpersist
  obtain rfl : w = applyFields now wd.status phase msg wd := by
    rcases statusAttempt_written hr hw with hw | ⟨_, hw⟩
    · exact hw
    · exact hw
  have hk : (applyFields now wd.status phase msg wd).key = req := by
    rw [applyFields_key, c.getWD_key h]
  rw [applyAll_setStatus, hw, Cluster.storeAttempt, Cluster.getWD_putStatus_self h hk] at h'
  rw [← Option.some.inj h']
  refine ⟨?_, ?_, rfl⟩
  · unfold applyFields setCondition
    cases conditionSpec phase <;> rfl
  · unfold applyFields setCondition
    cases conditionSpec phase <;> rfl

theorem ensureFinalizer_returns (h : c.getWD req = some wd)
    (hr : api.statusUpdate 0 = .ok ∨ api.Honest wd) (hf : wd.containsFinalizer = false)
    (h' : (c.applyAll (ensureFinalizer api now c wd).effects).getWD req = some wd')
    (hn : wd'.NeedsCare) : (ensureFinalizer api now c wd).Repeats := by
  have hexit : FinalizerExit api now c wd (ensureFinalizer api now c wd) :=
    ensureFinalizer_exit api now c wd
  generalize ensureFinalizer api now c wd = o at hexit h' ⊢
  cases hexit with
  | @turnedAway cycle _ _ hmsg' =>
    by_contra hv
    obtain ⟨hphase, hmsg, hfin⟩ := setStatus_reports h hr hv h'
    have hf' : wd'.containsFinalizer = false := by
      unfold WorkloadDependency.containsFinalizer at hf ⊢
      rw [hfin]
      exact hf
    rcases hn with hn | ⟨_, hn⟩
    · cases hf'.symm.trans hn
    · exact hn ⟨hf', hphase, cycle, hmsg.trans hmsg'⟩
  | @sent call _ _ hok hbad =>
    by_cases hcall : call = .ok
    · exact Or.inr (hok hcall)
    · exact Or.inl (hbad hcall)

/-- Whatever the API server answers, the Reconcile of an object that still needs care asks for the
next one. -/
theorem reconcile_returnsWithin (h : c.getWD req = some wd)
    (hr : api.statusUpdate 0 = .ok ∨ api.Honest wd) (hb : wd.Moderate) (hp : wd.memory.Past now)
    (h' : (c.reconciled api now req).getWD req = some wd') (hn : wd'.NeedsCare) :
    (reconcile api now c req).ReturnsWithin (longestWait wd) := by
  cases hs : sighting api c req with
  | some s => exact dispatched_returns h hb hp hs
  | none =>
    have hexit : Exit api now c req wd (reconcile api now c req) := reconcile_exit now h
    unfold Cluster.reconciled at h'
    generalize reconcile api now c req = o at hexit h' ⊢
    cases hexit with
    | failed => exact Or.inl (Or.inl ⟨_, rfl⟩)
    | deletion hd => exact handleDeletion_returns h hd h' hn
    | unfinalized _ hf => exact Or.inl (ensureFinalizer_returns h hr hf h' hn)
    | @reported phase msg =>
      have hfifteen : (none : Option Result).getD (.after (15 * second)) =
          .after (15 * second) := rfl
      exact setStatus_returnsWithin api now wd phase msg hfifteen (by decide)
        (le_longestWait wd (by decide))
    | dispatched hs' => cases hs.symm.trans hs'

end Verdicts

/-! ## Over whole runs -/

def Timely (now : Int) (c : Cluster) : Prop :=
  ∀ k wd, c.getWD k = some wd → wd.Moderate ∧ wd.memory.Past now

/-- Durations are moderate, objects are read again as they are stored, and klink alone writes
their status. -/
structure LoopRules.Orderly {Q : Type*} (R : LoopRules Q) : Prop where
  start : ∀ now c, R.start now c → Timely now c
  calls : ∀ c k api wd, R.calls c k api → c.getWD k = some wd →
    api.statusUpdate 0 = .ok ∨ api.Honest wd
  disturbs : ∀ c c' k wd', R.disturbs c c' → c'.getWD k = some wd' →
    c.getWD k = some wd' ∨ (wd'.Moderate ∧
      (wd'.memory = .empty ∨ ∃ wd, c.getWD k = some wd ∧ wd'.memory = wd.memory))

def Cluster.needsCare (c : Cluster) (k : NamespacedName) : Prop :=
  ∃ wd, c.getWD k = some wd ∧ wd.NeedsCare

def Cluster.reach (c : Cluster) (k : NamespacedName) : Int := (c.getWD k).elim 0 longestWait

section Tending

variable {Q : Type*} {R : LoopRules Q} {c : Cluster} {k j : NamespacedName} {api : Api} {now : Int}
  {wd : WorkloadDependency}

theorem WorkloadDependency.Moderate.congr {wd' : WorkloadDependency} (h : wd.Moderate)
    (hs : wd'.spec = wd.spec) : wd'.Moderate := by
  constructor
  · rw [hs]
    exact h.maxSuspend
  · rw [hs]
    exact h.windows

theorem LoopRules.Orderly.others (ho : R.Orderly) (hc : R.calls c k api) (hj : j ≠ k) :
    (c.reconciled api now k).getWD j = c.getWD j := by
  cases hg : c.getWD k with
  | none => rw [reconcile_absent now hg]
  | some wd => exact (reconcile_confined now hg (ho.calls c k api wd hc hg)).getWD hj

theorem LoopRules.Orderly.reconciled (ho : R.Orderly) (hc : R.calls c k api)
    (h : Timely now c) : Timely now (c.reconciled api now k) := by
  intro j wd' hj
  by_cases hk : j = k
  · subst hk
    cases hg : c.getWD j with
    | none =>
      rw [reconcile_absent now hg] at hj
      exact h j wd' hj
    | some wd =>
      have ht := reconcile_transition now hg (ho.calls c j api wd hc hg)
      rw [hj] at ht
      obtain ⟨hb, hp⟩ := h j wd hg
      exact ⟨hb.congr ht.spec, ht.past hp⟩
  · rw [ho.others hc hk] at hj
    exact h j wd' hj

theorem LoopRules.Orderly.timely (ho : R.Orderly) (r : Run R.controller.system) (i : ℕ) :
    Timely (r.state i).clock (r.state i).state := by
  refine state_invariant r ho.start ?_ ?_ ?_ i
  · intro api now c k hc h
    exact ho.reconciled hc h
  · intro now c c' requests hw h k wd' hg'
    rcases ho.disturbs c c' k wd' hw.1 hg' with hg | ⟨hb, hm | ⟨wd, hg, hm⟩⟩
    · exact h k wd' hg
    · refine ⟨hb, ?_⟩
      rw [hm]
      exact .empty now
    · refine ⟨hb, ?_⟩
      rw [hm]
      exact (h k wd hg).2
  · intro now now' c hle h k wd hg
    exact ⟨(h k wd hg).1, (h k wd hg).2.mono hle⟩

theorem LoopRules.Orderly.cares (ho : R.Orderly) :
    Cares R.controller Timely Cluster.needsCare Cluster.reach := by
  have hkept : ∀ c c' : Cluster, ∀ j, c'.getWD j = c.getWD j → c'.needsCare j →
      c.needsCare j ∧ c.reach j = c'.reach j := by
    rintro c c' j hg ⟨wd, hwd, hn⟩
    refine ⟨⟨wd, hg ▸ hwd, hn⟩, ?_⟩
    unfold Cluster.reach
    rw [hg]
  constructor
  -- what there is at the start is listed
  · rintro c k ⟨wd, hg, _⟩
    change c.getWD k ≠ none
    rw [hg]
    exact Option.some_ne_none wd
  -- a Reconcile of the object itself names the next one
  · rintro api now c k hI hc ⟨wd', hg', hn⟩
    have hg' : (c.reconciled api now k).getWD k = some wd' := hg'
    cases hg : c.getWD k with
    | none =>
      rw [reconcile_absent now hg, hg] at hg'
      cases hg'
    | some wd =>
      have hr := ho.calls c k api wd hc hg
      have ht := reconcile_transition now hg hr
      rw [hg'] at ht
      have hreach : (c.reconciled api now k).reach k = longestWait wd := by
        unfold Cluster.reach
        rw [hg']
        exact longestWait_congr ht.spec
      rcases reconcile_returnsWithin hg hr (hI k wd hg).1 (hI k wd hg).2 hg' hn with
        hrep | ⟨d, hd, hle, hres⟩
      · exact Or.inl (hrep.verdict R.requeueing)
      · have hverdict : R.requeueing.verdict (reconcile api now c k).result = .after d := by
          rw [hres]
          exact R.requeueing.after d hd
        refine Or.inr (Or.inr ⟨d, hverdict, ?_⟩)
        change now + d ≤ now + (c.reconciled api now k).reach k
        rw [hreach]
        omega
  -- one of another object leaves it alone, and what others do to it is reported
  · intro api now c k j hc hj hn
    exact Or.inr (hkept c _ j (ho.others hc hj) hn)
  · intro c c' requests j hw hn
    by_cases hg : c'.getWD j = c.getWD j
    · exact Or.inr (hkept c c' j hg hn)
    · exact Or.inl (hw.2.object j hg)

/-- At every moment of every run, with any calls failing, an object that klink is responsible for
is queued or has a timer that runs out within the longest wait its spec asks for. -/
theorem nothing_forgotten (ho : R.Orderly) (r : Run R.controller.system) (i : ℕ)
    (hg : (r.state i).state.getWD k = some wd) (hn : wd.NeedsCare) :
    R.controller.Tended (r.state i) k ((r.state i).clock + longestWait wd) := by
  have ht := ho.cares.tended (ho.timely r) i (k := k) ⟨wd, hg, hn⟩
  unfold Cluster.reach at ht
  rw [hg] at ht
  exact ht

end Tending

theorem storyRules_orderly {c : Cluster}
    (h : ∀ wd ∈ c.wds.items, wd.Moderate ∧ wd.status = .empty) : (storyRules c).Orderly := by
  constructor
  · rintro now c' ⟨_, rfl⟩ k wd hg
    obtain ⟨hb, hs⟩ := h wd (Cluster.mem_wds hg)
    refine ⟨hb, ?_⟩
    unfold WorkloadDependency.memory
    rw [hs]
    exact .empty now
  · intro c k api wd hc _
    exact Api.AllOk.written hc
  · intro c c' k wd' hd hg'
    have hd : c'.wds = c.wds := hd
    left
    unfold Cluster.getWD at hg' ⊢
    rw [← hd]
    exact hg'

theorem quickCluster_orderly : (storyRules quickCluster).Orderly := by
  apply storyRules_orderly
  intro wd hmem
  obtain rfl := List.mem_singleton.mp hmem
  exact ⟨⟨by decide, by decide⟩, rfl⟩

theorem nothing_forgotten_quick :
    ∃ wd t, (quickRun.state 6).state.getWD demoKey = some wd ∧
      (quickRun.state 6).queue.timers demoKey = some t ∧
      t ≤ (quickRun.state 6).clock + longestWait wd := by
  have hstored : ((quickRun.state 6).state.getWD demoKey).map (·.containsFinalizer) =
      some true := by decide +kernel
  obtain ⟨wd, hwd, hf⟩ := Option.map_eq_some_iff.mp hstored
  have hq : demoKey ∉ (quickRun.state 6).queue.waiting := by decide +kernel
  obtain ⟨t, ht, hle⟩ :=
    (nothing_forgotten quickCluster_orderly quickRun 6 hwd (Or.inl hf)).resolve_left hq
  exact ⟨wd, t, hwd, ht, hle⟩

end Klink
