import Klink.ReconcileRuns

/-! # No timer is lost

A Reconcile that waits for a window names the time of its next call. The time is computed in
wrapping 64-bit arithmetic from a stored timestamp, so it can be trusted exactly while what is
left of the window fits a duration.
-/
namespace Klink

def Outcome.Returns (o : Outcome) : Prop :=
  match o.result with
  | .error _ => True
  | .ok r => r.requeue = true ∨ 0 < r.requeueAfter

/-- All configured durations are far from the end of the 64-bit range. -/
structure WorkloadDependency.Moderate (wd : WorkloadDependency) : Prop where
  maxSuspend : wd.spec.onDegraded.maxSuspendDuration < 2 ^ 62
  windows : ∀ dep ∈ wd.spec.dependsOn,
    dep.condition.window < 2 ^ 62 ∧ dep.condition.recoveryWindow < 2 ^ 62

theorem WorkloadDependency.Moderate.length_lt {wd : WorkloadDependency} (h : wd.Moderate)
    (win : Window) : win.length wd < 2 ^ 62 := by
  cases win with
  | maxSuspend => exact h.maxSuspend
  | degraded =>
    change degradedWindow wd < 2 ^ 62
    unfold degradedWindow
    split
    · next hfind => exact (h.windows _ (List.mem_of_find?_eq_some hfind)).1
    · decide
  | recovery =>
    change recoveryWindow wd < 2 ^ 62
    unfold recoveryWindow
    split
    · next hfind => exact (h.windows _ (List.mem_of_find?_eq_some hfind)).2
    · decide

/-- While the window is open, what is left of it is computed without wrapping exactly when it
fits a duration. Otherwise the result is negative. -/
theorem waitTime_cases {now length since : Int} (h0 : 0 < length) (hl : length < 2 ^ 62)
    (ht : timeSince now since < length) :
    (length - (now - since) + second ≤ maxDuration ∧
      waitTime now length since = length - (now - since) + second ∧ now - since < length) ∨
    (maxDuration < length - (now - since) + second ∧ waitTime now length since < 0) := by
  unfold waitTime wrapDuration timeSince minDuration maxDuration second at *
  omega

section Windows

variable {now : Int} {wd : WorkloadDependency} {w : WorkloadObject} {ok : Bool} {win : Window}

def Window.Applies (wd : WorkloadDependency) (w : WorkloadObject) (ok : Bool) : Window → Prop
  | .degraded => ok = false ∧ w.isProgressing = false ∧ wd.status.phase ≠ .suspended ∧
      wd.status.phase ≠ .released
  | .recovery => ok = true ∧ wd.status.phase = .suspended
  | .maxSuspend => ok = false ∧ w.isProgressing = false ∧ wd.status.phase = .suspended ∧
      0 < wd.spec.onDegraded.maxSuspendDuration ∧ wd.status.suspendedAt ≠ none

/-- The window counts, and is about to open or still open. -/
structure Window.Awaited (win : Window) (now : Int) (wd : WorkloadDependency)
    (w : WorkloadObject) (ok : Bool) : Prop where
  enforces : wd.enforces
  applies : win.Applies wd w ok
  running : ∀ since, win.began wd = some since → timeSince now since < win.length wd

def Window.deed : Window → Deed
  | .degraded => .suspend
  | .recovery => .restore
  | .maxSuspend => .restore

def Window.endPhase : Window → DependencyPhase
  | .degraded => .suspended
  | .recovery => .healthy
  | .maxSuspend => .released

theorem Window.Applies.window_eq (h : win.Applies wd w ok) : wd.window ok = win := by
  cases win with
  | degraded => simp [WorkloadDependency.window, h.1, h.2.2.1]
  | recovery => simp [WorkloadDependency.window, h.1]
  | maxSuspend => simp [WorkloadDependency.window, h.1, h.2.2.1]

theorem Window.length_pos (h : win.Applies wd w ok) : 0 < win.length wd := by
  cases win with
  | degraded => exact degradedWindow_pos wd
  | recovery => exact recoveryWindow_pos wd
  | maxSuspend => exact h.2.2.2.1

theorem Window.Awaited.waits {since : Int} (h : win.Awaited now wd w ok)
    (hs : win.began wd = some since) : Move wd w now ok .keep none := by
  have ht := h.running since hs
  cases win with
  | degraded =>
    obtain ⟨rfl, hg, hp, hr⟩ := h.applies
    exact .awaitWindow h.enforces hg hp hr hs ht
  | recovery =>
    obtain ⟨rfl, hp⟩ := h.applies
    exact .awaitRecovery h.enforces hp hs ht
  | maxSuspend =>
    obtain ⟨rfl, hg, hp, hpos, _⟩ := h.applies
    exact .hold h.enforces hg hp hs hpos ht

theorem Window.Awaited.waitTime_eq {since : Int} (h : win.Awaited now wd w ok)
    (hb : wd.Moderate) (hs : win.began wd = some since)
    (hfits : win.length wd - (now - since) + second ≤ maxDuration) :
    waitTime now (win.length wd) since = win.length wd - (now - since) + second ∧
      now - since < win.length wd := by
  rcases waitTime_cases (Window.length_pos h.applies) (hb.length_lt win) (h.running since hs) with
    ⟨_, heq, hlt⟩ | ⟨hover, _⟩
  · exact ⟨heq, hlt⟩
  · omega

theorem Window.Awaited.opens (h : win.Awaited now wd w ok) (hs : win.began wd = none) :
    ∃ phase caller, Move wd w now ok .keep (some (phase, caller)) ∧
      wd.reportResult w ok phase = some (.after (win.length wd)) ∧
      ∀ wd' : WorkloadDependency, wd'.spec = wd.spec → wd'.status.phase = phase →
        (∃ m, wd'.memory = Memory.write now phase caller m) →
        win.Applies wd' w ok ∧ win.began wd' = some (truncateTime now) := by
  cases win with
  | degraded =>
    obtain ⟨rfl, hg, hp, hr⟩ := h.applies
    refine ⟨_, _, .degrade h.enforces hg hp hr hs, ?_, ?_⟩
    · simp [WorkloadDependency.reportResult, hg, (ne_of_enforces h.enforces).2, Window.length]
    · rintro wd' _ hphase ⟨m, hm⟩
      exact ⟨⟨rfl, hg, by simp [hphase], by simp [hphase]⟩, congrArg Memory.degradedSince hm⟩
  | recovery =>
    obtain ⟨rfl, hp⟩ := h.applies
    refine ⟨_, _, .startRecovery h.enforces hp hs, rfl, ?_⟩
    rintro wd' _ hphase ⟨m, hm⟩
    exact ⟨⟨rfl, hphase⟩, congrArg Memory.healthySince hm⟩
  | maxSuspend => exact absurd hs h.applies.2.2.2.2

theorem Window.Applies.closes {since : Int} (h : win.Applies wd w ok) (he : wd.enforces)
    (hs : win.began wd = some since) (ht : win.length wd ≤ timeSince now since) :
    ∃ caller, Move wd w now ok win.deed (some (win.endPhase, caller)) := by
  cases win with
  | degraded =>
    obtain ⟨rfl, hg, hp, hr⟩ := h
    exact ⟨_, .suspend he hg hp hr hs ht⟩
  | recovery =>
    obtain ⟨rfl, hp⟩ := h
    exact ⟨_, .recover he hp hs ht⟩
  | maxSuspend =>
    obtain ⟨rfl, hg, hp, hpos, _⟩ := h
    exact ⟨_, .release he hg hp hs hpos ht⟩

theorem Move.awaited {d : Deed} (hm : Move wd w now ok d none) :
    (wd.window ok).Awaited now wd w ok := by
  have hone : ∀ win : Window, win.Applies wd w ok → wd.enforces →
      (∃ since, win.began wd = some since ∧ timeSince now since < win.length wd) →
      (wd.window ok).Awaited now wd w ok := by
    rintro win ha he ⟨since, hs, ht⟩
    rw [ha.window_eq]
    refine ⟨he, ha, fun since' hs' => ?_⟩
    obtain rfl := Option.some.inj (hs.symm.trans hs')
    exact ht
  cases hm with
  | hold he hg hp hs hpos ht =>
    exact hone .maxSuspend ⟨rfl, hg, hp, hpos, by simp [hs]⟩ he ⟨_, hs, ht⟩
  | awaitRecovery he hp hs ht => exact hone .recovery ⟨rfl, hp⟩ he ⟨_, hs, ht⟩
  | awaitWindow he hg hp hr hs ht => exact hone .degraded ⟨rfl, hg, hp, hr⟩ he ⟨_, hs, ht⟩

theorem WorkloadDependency.reportResult_pos {phase : DependencyPhase} {r : Result}
    (h : wd.reportResult w ok phase = some r) : 0 < r.requeueAfter := by
  have hd := degradedWindow_pos wd
  have hr := recoveryWindow_pos wd
  unfold reportResult at h
  split at h
  · split at h
    · cases h; decide
    · split at h
      · cases h
      · cases h; exact hd
  · cases h
    change 0 < ite _ _ _
    split
    · exact hr
    · decide
  · split at h
    · cases h; decide
    · cases h
  · cases h

end Windows

section Results

variable {api : Api} {now : Int} {wd : WorkloadDependency} {phase : DependencyPhase}
  {msg : String} {result : Option Result}

theorem setStatus_result (api : Api) (now : Int) (wd : WorkloadDependency)
    (phase : DependencyPhase) (msg : String) (result : Option Result) :
    (∃ e, (setStatus api now wd phase msg result).result = .error e) ∨
      (setStatus api now wd phase msg result).result = .ok ⟨true, 0⟩ ∨
      (api.persistsStatus = true ∧ (setStatus api now wd phase msg result).result =
        .ok (result.getD (.after (15 * second)))) := by
  have hw := statusAttempt_written_iff api now wd phase msg
  unfold setStatus
  generalize statusAttempt api now wd phase msg = attempt at hw ⊢
  obtain ⟨effects, w | _ | e⟩ := attempt
  · exact Or.inr (Or.inr ⟨hw.mp ⟨w, rfl⟩, rfl⟩)
  · exact Or.inr (Or.inl rfl)
  · exact Or.inl ⟨e, rfl⟩

theorem setStatus_returns (h : ∀ r, result = some r → 0 < r.requeueAfter) :
    (setStatus api now wd phase msg result).Returns := by
  unfold Outcome.Returns
  rcases setStatus_result api now wd phase msg result with ⟨e, hr⟩ | hr | ⟨_, hr⟩
  · rw [hr]
    trivial
  · rw [hr]
    exact Or.inl rfl
  · rw [hr]
    right
    cases result with
    | none => decide
    | some r => exact h r rfl

theorem setStatus_after {delay : Int}
    (h : (setStatus api now wd phase msg result).result = .ok (.after delay)) :
    api.persistsStatus = true ∧ result.getD (.after (15 * second)) = .after delay := by
  rcases setStatus_result api now wd phase msg result with ⟨e, hr⟩ | hr | ⟨hp, hr⟩
  · cases hr.symm.trans h
  · cases hr.symm.trans h
  · exact ⟨hp, Except.ok.inj (hr.symm.trans h)⟩

end Results

def AllWell (c : Cluster) (wd : WorkloadDependency) : Prop :=
  ∀ dep ∈ wd.spec.dependsOn, ¬ EntryFails c wd dep

theorem AllWell.congr {c : Cluster} {wd wd' : WorkloadDependency} (h : wd.SameSpec wd') :
    AllWell c wd' ↔ AllWell c wd := by
  have hns : wd'.ns = wd.ns := congrArg NamespacedName.ns h.key
  unfold AllWell
  simp only [h.spec, EntryFails.congr hns]

def Awaits (now : Int) (c : Cluster) (wd : WorkloadDependency) (win : Window) : Prop :=
  wd.isPaused = false ∧ ∃ w ok, c.dependent wd = some w ∧ (ok = true ↔ AllWell c wd) ∧
    win.Awaited now wd w ok

/-- The window is over: its deed is done on the dependent and its phase is stored. -/
def Ends (win : Window) (c c' : Cluster) (req : NamespacedName) (wd : WorkloadDependency) : Prop :=
  ∃ wd₁ w wd', c.getWD req = some wd₁ ∧ c.dependent wd = some w ∧ c'.getWD req = some wd' ∧
    wd'.status.phase = win.endPhase ∧
    c'.dependent wd = some (win.deed.object wd₁.status.savedReplicas w)

section Timers

variable {api : Api} {now : Int} {c : Cluster} {req : NamespacedName} {wd : WorkloadDependency}
  {win : Window}

theorem reconcile_delivers {obj : WorkloadObject} {ev : Evaluation} (now : Int)
    (h : c.getWD req = some wd) (hs : sighting api c req = some ⟨obj, ev⟩) :
    c.dependent wd = some obj ∧ (ev.allOk = true ↔ AllWell c wd) ∧
      ∃ d write, Move wd obj now ev.allOk d write ∧
        Delivers api now wd ⟨wd.dependentKey, obj⟩ ev d (reconcile api now c req) write := by
  have hexit : Exit api now c req wd (reconcile api now c req) := reconcile_exit now h
  have hev := evaluateDependencies_allOk (sighting_evaluation hs h)
  generalize reconcile api now c req = o at hexit ⊢
  cases hexit with
  | failed _ hn => cases hs.symm.trans hn
  | deletion _ hn => cases hs.symm.trans hn
  | unfinalized _ _ hn => cases hs.symm.trans hn
  | reported _ hn => cases hs.symm.trans hn
  | dispatched hs' hw =>
    cases Option.some.inj (hs.symm.trans hs')
    exact ⟨hw, hev, dispatch_delivers api now wd ⟨wd.dependentKey, obj⟩ ev⟩

theorem sighting_allOk {obj : WorkloadObject} {ev : Evaluation} {ok : Bool}
    (h : c.getWD req = some wd) (hs : sighting api c req = some ⟨obj, ev⟩)
    (hok : ok = true ↔ AllWell c wd) : ev.allOk = ok := by
  rw [Bool.eq_iff_iff, hok]
  exact evaluateDependencies_allOk (sighting_evaluation hs h)

theorem Delivers.returns {w : WorkloadAccessor} {ev : Evaluation} {d : Deed} {o : Outcome}
    {write : Option (DependencyPhase × Memory)} (h : Delivers api now wd w ev d o write)
    (hwait : ∀ since, write = none → (wd.window ev.allOk).began wd = some since →
      0 < waitTime now ((wd.window ev.allOk).length wd) since) : o.Returns := by
  unfold Outcome.Returns
  cases h with
  | refused _ _ he =>
    obtain ⟨e, he⟩ := he
    rw [he]
    trivial
  | waited _ hs ho =>
    rw [ho]
    exact Or.inr (hwait _ rfl hs)
  | wrote _ _ _ _ _ _ _ ho =>
    rw [ho]
    exact setStatus_returns (fun r hr => WorkloadDependency.reportResult_pos hr)

def Punctual (now : Int) (c : Cluster) (wd : WorkloadDependency) : Prop :=
  ∀ win since, Awaits now c wd win → win.began wd = some since →
    win.length wd - (now - since) + second ≤ maxDuration

theorem reconcile_returns (h : c.getWD req = some wd) (hd : wd.deletionTimestamp = none)
    (hf : wd.containsFinalizer = true) (hb : wd.Moderate) (hp : Punctual now c wd) :
    (reconcile api now c req).Returns := by
  cases hs : sighting api c req with
  | some s =>
    obtain ⟨obj, ev⟩ := s
    obtain ⟨hw, hev, d, write, hm, hdel⟩ := reconcile_delivers now h hs
    apply hdel.returns
    rintro since rfl hsince
    have ha := hm.awaited
    have hfits := hp _ since ⟨(sighting_spec hs h).2.2, obj, _, hw, hev, ha⟩ hsince
    obtain ⟨heq, hlt⟩ := ha.waitTime_eq hb hsince hfits
    rw [heq]
    unfold second
    omega
  | none =>
    have hexit : Exit api now c req wd (reconcile api now c req) := reconcile_exit now h
    generalize reconcile api now c req = o at hexit ⊢
    cases hexit with
    | failed => trivial
    | deletion hdel => simp [hd] at hdel
    | unfinalized _ hnf => cases hf.symm.trans hnf
    | reported => exact setStatus_returns nofun
    | dispatched hs' => cases hs.symm.trans hs'

theorem Awaits.sees {delay : Int} (ha : Awaits now c wd win) (h : c.getWD req = some wd)
    (hd : wd.deletionTimestamp = none) (hf : wd.containsFinalizer = true)
    (hres : (reconcile api now c req).result = .ok (.after delay)) :
    ∃ s, sighting api c req = some s := by
  obtain ⟨hp, w, ok, hw, _⟩ := ha
  have hexit : Exit api now c req wd (reconcile api now c req) := reconcile_exit now h
  generalize reconcile api now c req = o at hexit hres
  cases hexit with
  | failed => cases hres
  | deletion hdel => simp [hd] at hdel
  | unfinalized _ hnf => cases hf.symm.trans hnf
  | reported _ _ hwhy =>
    rcases hwhy with ⟨_, hn | hn⟩ | ⟨_, _, hn⟩
    · cases hf.symm.trans hn
    · cases hw.symm.trans hn
    · cases hp.symm.trans hn
  | dispatched hs => exact ⟨_, hs⟩

structure Timed (now delay : Int) (c c' : Cluster) (req : NamespacedName)
    (wd wd' : WorkloadDependency) (win : Window) (w : WorkloadObject) (ok : Bool) : Prop where
  stored : c'.getWD req = some wd'
  same : wd.SameSpec wd'
  dependent : c'.dependent wd = some w
  health : ok = true ↔ AllWell c wd
  applies : win.Applies wd' w ok
  began : ∃ since, win.began wd' = some since ∧ since + win.length wd ≤ now + delay

section Waiting

variable {obj : WorkloadObject} {ev : Evaluation} {delay since : Int}

theorem Window.Awaited.reconcile_waits (ha : win.Awaited now wd obj ev.allOk)
    (h : c.getWD req = some wd) (hs : sighting api c req = some ⟨obj, ev⟩)
    (hb : win.began wd = some since) :
    reconcile api now c req = .wait (waitTime now (win.length wd) since) := by
  obtain ⟨_, _, d, write, hm, hdel⟩ := reconcile_delivers now h hs
  obtain ⟨rfl, rfl⟩ := hm.unique ha.enforces (ha.waits hb)
  cases hdel with
  | refused _ hsent => exact absurd rfl hsent
  | waited _ hsince ho =>
    rw [ha.applies.window_eq] at hsince ho
    obtain rfl := Option.some.inj (hb.symm.trans hsince)
    exact ho

theorem Window.Awaited.timed_running (ha : win.Awaited now wd obj ev.allOk)
    (h : c.getWD req = some wd) (hs : sighting api c req = some ⟨obj, ev⟩) (hm : wd.Moderate)
    (hb : win.began wd = some since)
    (hfits : win.length wd - (now - since) + second ≤ maxDuration)
    (hres : (reconcile api now c req).result = .ok (.after delay)) :
    Timed now delay c (c.reconciled api now req) req wd wd win obj ev.allOk := by
  obtain ⟨hw, hok, _⟩ := reconcile_delivers now h hs
  have ho := ha.reconcile_waits h hs hb
  rw [ho] at hres
  have hdelay : waitTime now (win.length wd) since = delay :=
    congrArg Result.requeueAfter (Except.ok.inj hres)
  have hsame : c.reconciled api now req = c := by
    rw [Cluster.reconciled, ho]
    rfl
  rw [hsame]
  refine ⟨h, (WorkloadDependency.SameObject.refl wd).sameSpec, hw, hok, ha.applies, since, hb, ?_⟩
  obtain ⟨heq, _⟩ := ha.waitTime_eq hm hb hfits
  rw [← hdelay, heq]
  unfold second
  omega

theorem Window.Awaited.timed_opening (ha : win.Awaited now wd obj ev.allOk)
    (h : c.getWD req = some wd) (hd : wd.deletionTimestamp = none)
    (hs : sighting api c req = some ⟨obj, ev⟩) (hb : win.began wd = none)
    (hr : api.statusUpdate 0 = .ok ∨ api.Honest wd)
    (hres : (reconcile api now c req).result = .ok (.after delay)) :
    ∃ wd', Timed now delay c (c.reconciled api now req) req wd wd' win obj ev.allOk := by
  obtain ⟨hw, hok, d, write, hm, hdel⟩ := reconcile_delivers now h hs
  obtain ⟨phase, caller, hopen, hresult, hnext⟩ := ha.opens hb
  obtain ⟨rfl, rfl⟩ := hm.unique ha.enforces hopen
  have hlen : win.length wd = delay ∧ api.persistsStatus = true := by
    cases hdel with
    | refused _ hsent => exact absurd rfl hsent
    | wrote _ _ _ _ _ _ _ ho =>
      rw [ho] at hres
      obtain ⟨hpersist, hafter⟩ := setStatus_after hres
      change (wd.reportResult obj ev.allOk phase).getD _ = _ at hafter
      rw [hresult] at hafter
      exact ⟨congrArg Result.requeueAfter hafter, hpersist⟩
  obtain ⟨wd', ho', hspec, hadv⟩ := (reconcile_transition now h hr).advance hd
  obtain ⟨_, d₂, write₂, hm₂, hrest⟩ := hadv.seen hs
  obtain ⟨rfl, rfl⟩ := hm₂.unique ha.enforces hopen
  rcases hrest with ⟨_, hsent, _⟩ | ⟨hw₂, ⟨_, hlost⟩ | ⟨_, _, heq, hst⟩⟩
  · exact absurd rfl hsent
  · simp [hlen.2] at hlost
  · cases heq
    have hmem : ∃ m, wd'.memory = Memory.write now phase caller m := by
      rcases hst.2 with hst | ⟨_, hst⟩
      · exact ⟨_, hst⟩
      · exact ⟨_, hst⟩
    obtain ⟨happlies, hbegan⟩ := hnext wd' hspec.spec hst.phase hmem
    refine ⟨wd', ho', hspec, hw₂, hok, happlies, _, hbegan, ?_⟩
    have := hlen.1
    unfold truncateTime second
    omega

end Waiting

theorem Awaits.timed {delay : Int} (ha : Awaits now c wd win) (h : c.getWD req = some wd)
    (hd : wd.deletionTimestamp = none) (hf : wd.containsFinalizer = true) (hb : wd.Moderate)
    (hr : api.statusUpdate 0 = .ok ∨ api.Honest wd) (hp : Punctual now c wd)
    (hres : (reconcile api now c req).result = .ok (.after delay)) :
    ∃ wd' w ok, Timed now delay c (c.reconciled api now req) req wd wd' win w ok := by
  obtain ⟨⟨obj, ev⟩, hs⟩ := ha.sees h hd hf hres
  have hfits := hp win
  obtain ⟨_, w, ok, hw, hok, hawait⟩ := id ha
  obtain rfl := Option.some.inj ((reconcile_delivers now h hs).1.symm.trans hw)
  obtain rfl := sighting_allOk h hs hok
  cases hb' : win.began wd with
  | some since =>
    exact ⟨wd, _, _, hawait.timed_running h hs hb hb' (hfits since ha hb') hres⟩
  | none =>
    obtain ⟨wd', ht⟩ := hawait.timed_opening h hd hs hb' hr hres
    exact ⟨wd', _, _, ht⟩

theorem Window.length_congr {wd' : WorkloadDependency} (h : wd'.spec = wd.spec) (win : Window) :
    win.length wd' = win.length wd := by
  cases win with
  | degraded => exact congrArg (fun spec => degradedWindow { wd with spec := spec }) h
  | recovery => exact congrArg (fun spec => recoveryWindow { wd with spec := spec }) h
  | maxSuspend => exact congrArg (fun spec => spec.onDegraded.maxSuspendDuration) h

/-- A Reconcile at the named time or later, in the same situation, ends the window. -/
theorem Timed.ends {c₁ c' : Cluster} {wd₁ : WorkloadDependency} {w : WorkloadObject} {ok : Bool}
    {now' delay : Int} (ht : Timed now delay c c₁ req wd wd₁ win w ok) (hok : api.AllOk)
    (hd : wd.deletionTimestamp = none) (hf : wd.containsFinalizer = true)
    (hu : wd.isPaused = false) (he : wd.enforces) (hb : wd.Moderate) (hlate : now + delay ≤ now')
    (hstored : c'.getWD req = c₁.getWD req) (hdep : c'.dependent wd = c₁.dependent wd)
    (hwell : AllWell c' wd ↔ AllWell c wd) :
    Ends win c' (c'.reconciled api now' req) req wd := by
  have h₁ : c'.getWD req = some wd₁ := hstored.trans ht.stored
  have hw : c'.dependent wd = some w := hdep.trans ht.dependent
  have hw₁ : c'.dependent wd₁ = some w := (ht.same.target.dependent c').trans hw
  obtain ⟨ev, wd', d, write, hs, ho', hspec', hm, hw', hm'⟩ := reconcile_moves now' hok h₁
    (ht.same.deletionTimestamp.trans hd) (ht.same.finalizer hf) (ht.same.isPaused.trans hu) hw₁
  have hev : ev.allOk = ok :=
    sighting_allOk h₁ hs (ht.health.trans (hwell.symm.trans (AllWell.congr ht.same).symm))
  rw [hev] at hm
  obtain ⟨since, hbegan, hover⟩ := ht.began
  have hlong : win.length wd₁ ≤ timeSince now' since := by
    rw [Window.length_congr ht.same.spec]
    apply le_timeSince (by omega)
    have := hb.length_lt win
    unfold maxDuration
    omega
  obtain ⟨caller, hclose⟩ := ht.applies.closes (ht.same.enforces.mpr he) hbegan hlong
  obtain ⟨rfl, rfl⟩ := hm.unique (ht.same.enforces.mpr he) hclose
  refine ⟨wd₁, w, wd', h₁, hw, ho', congrArg Memory.phase hm', ?_⟩
  rw [← ht.same.target.dependent]
  exact hw'

end Timers

/-- Every Reconcile names a next one, and a wait is over at the named time, exactly when nothing
the object waits for is too far ahead to be counted. -/
theorem no_timer_lost_iff {c : Cluster} {req : NamespacedName} {wd : WorkloadDependency}
    (now : Int) (h : c.getWD req = some wd) (hd : wd.deletionTimestamp = none)
    (hf : wd.containsFinalizer = true) (hb : wd.Moderate) :
    (∀ api : Api, (reconcile api now c req).Returns ∧
      ∀ win delay, Awaits now c wd win → (api.statusUpdate 0 = .ok ∨ api.Honest wd) →
        (reconcile api now c req).result = .ok (.after delay) →
        ∀ (api' : Api) (now' : Int) (c' : Cluster), api'.AllOk → now + delay ≤ now' →
          c'.getWD req = (c.reconciled api now req).getWD req →
          c'.dependent wd = (c.reconciled api now req).dependent wd →
          (AllWell c' wd ↔ AllWell c wd) → Ends win c' (c'.reconciled api' now' req) req wd) ↔
    Punctual now c wd := by
  constructor
  · intro hall win since ha hs
    by_contra hfar
    obtain ⟨hp, w, ok, hw, hok, hawait⟩ := ha
    obtain ⟨ev, hsight⟩ := sighting_of_allOk Api.good_allOk h hd hf hp hw
    obtain rfl := sighting_allOk h hsight hok
    have hret := (hall .good).1
    rw [hawait.reconcile_waits h hsight hs] at hret
    rcases waitTime_cases (Window.length_pos hawait.applies) (hb.length_lt win)
      (hawait.running since hs) with ⟨hfits, _⟩ | ⟨_, hneg⟩
    · exact hfar hfits
    · rcases hret with hret | hret
      · cases hret
      · exact absurd hret (Int.not_lt.mpr (Int.le_of_lt hneg))
  · intro hp api
    refine ⟨reconcile_returns h hd hf hb hp, ?_⟩
    intro win delay ha hr hres api' now' c' hok hlate hstored hdep hwell
    obtain ⟨wd₁, w, ok, ht⟩ := ha.timed h hd hf hb hr hp hres
    obtain ⟨hu, _, _, _, _, hawait⟩ := ha
    exact ht.ends hok hd hf hu hawait.enforces hb hlate hstored hdep hwell

def timedObject (since : Int) : WorkloadDependency :=
  { demoObject "Deployment" .strict (3600 * second) with
    finalizers := [finalizerName]
    status := { WorkloadDependencyStatus.empty with
      phase := .suspended, savedReplicas := some 3, suspendedAt := some since } }

def timedCluster (since : Int) : Cluster :=
  (demoWorld (timedObject since) (.deployment ⟨some 0, 0⟩)).cluster

theorem timedObject_moderate (since : Int) : (timedObject since).Moderate := by
  constructor
  · change 3600 * second < 2 ^ 62
    decide
  · intro dep hdep
    obtain rfl := List.mem_singleton.mp hdep
    decide

/-- With a timestamp about 295 years ahead the named time is negative, and nobody comes back. -/
theorem far_timer_lost :
    (reconcile .good 0 (timedCluster (9300000000 * second)) demoKey).result =
      .ok (.after (3601 * second - 2 ^ 63)) ∧
    ¬ (reconcile .good 0 (timedCluster (9300000000 * second)) demoKey).Returns := by
  have hres : (reconcile .good 0 (timedCluster (9300000000 * second)) demoKey).result =
      .ok (.after (3601 * second - 2 ^ 63)) := by decide
  refine ⟨hres, ?_⟩
  unfold Outcome.Returns
  rw [hres]
  decide

theorem no_timer_lost_hour :
    (timedCluster 0).getWD demoKey = some (timedObject 0) ∧
    ((∀ api : Api, (reconcile api 0 (timedCluster 0) demoKey).Returns ∧
      ∀ win delay, Awaits 0 (timedCluster 0) (timedObject 0) win →
        (api.statusUpdate 0 = .ok ∨ api.Honest (timedObject 0)) →
        (reconcile api 0 (timedCluster 0) demoKey).result = .ok (.after delay) →
        ∀ (api' : Api) (now' : Int) (c' : Cluster), api'.AllOk → 0 + delay ≤ now' →
          c'.getWD demoKey = ((timedCluster 0).reconciled api 0 demoKey).getWD demoKey →
          c'.dependent (timedObject 0) =
            ((timedCluster 0).reconciled api 0 demoKey).dependent (timedObject 0) →
          (AllWell c' (timedObject 0) ↔ AllWell (timedCluster 0) (timedObject 0)) →
          Ends win c' (c'.reconciled api' now' demoKey) demoKey (timedObject 0)) ↔
    Punctual 0 (timedCluster 0) (timedObject 0)) :=
  ⟨by decide, no_timer_lost_iff 0 (by decide) rfl (by decide) (timedObject_moderate 0)⟩

end Klink
