import Klink.TendedObjects

/-! # How long klink takes

Where a queued object is handled, and a due timer fires, within some latency, every window ends in
time: the deed is done at the latest a fixed number of latencies after the longest wait of the spec
and the window itself. Changes of the dependent are noticed through the watch, without any timer.
-/
namespace Klink

open LevelTriggered TransitionSystem

section Waiting

variable {api : Api} {now : Int} {c : Cluster} {req : NamespacedName} {wd : WorkloadDependency}
  {w : WorkloadObject} {ok : Bool} {win : Window}

theorem Memory.Past.began {since : Int} (h : wd.memory.Past now)
    (hs : win.began wd = some since) : since ≤ now := by
  cases win with
  | degraded => exact h.degraded since hs
  | recovery => exact h.healthy since hs
  | maxSuspend => exact h.suspended since hs

theorem setStatus_result_ok (hok : api.statusUpdate 0 = .ok) (now : Int)
    (caller : WorkloadDependency) (phase : DependencyPhase) (msg : String)
    (result : Option Result) :
    (setStatus api now caller phase msg result).result =
      .ok (result.getD (.after (15 * second))) := by
  have hwritten := statusAttempt_ok hok now caller phase msg
  unfold setStatus
  generalize statusAttempt api now caller phase msg = attempt at hwritten ⊢
  obtain ⟨effects, a⟩ := attempt
  obtain rfl : a = _ := hwritten
  rfl

structure StillOpen (now : Int) (win : Window) (c c' : Cluster) (req : NamespacedName)
    (wd wd' : WorkloadDependency) (w : WorkloadObject) (ok : Bool) (since : Int)
    (result : Except ApiError Result) : Prop where
  stored : c'.getWD req = some wd'
  same : wd.SameSpec wd'
  dependent : c'.dependent wd = some w
  applies : win.Applies wd' w ok
  began : win.began wd' = some since
  running : ∀ t, win.began wd = some t → t = since ∧ now < since + win.length wd
  timer : ∃ delay, 0 < delay ∧ result = .ok (.after delay) ∧
    now + delay ≤ since + win.length wd + second
  soon : now < since + win.length wd + second

theorem Window.Awaited.stillOpen (ha : win.Awaited now wd w ok) (hok : api.AllOk)
    (h : c.getWD req = some wd) (hd : wd.deletionTimestamp = none)
    (hf : wd.containsFinalizer = true) (hu : wd.isPaused = false)
    (hw : c.dependent wd = some w) (hwell : ok = true ↔ AllWell c wd) (hb : wd.Moderate)
    (hp : wd.memory.Past now) :
    ∃ wd' since, StillOpen now win c (c.reconciled api now req) req wd wd' w ok since
      (reconcile api now c req).result := by
  obtain ⟨ev, wd', d, write, hs, hget, hspec, hm, hw', hmem⟩ :=
    reconcile_moves now hok h hd hf hu hw
  obtain rfl := sighting_allOk h hs hwell
  have hpos := Window.length_pos ha.applies
  cases hbegan : win.began wd with
  | some since =>
    obtain ⟨heq, hlt, _⟩ := hp.waitTime_bounds hb ha hbegan
    have ho := ha.reconcile_waits h hs hbegan
    have hsame : c.reconciled api now req = c := by
      rw [Cluster.reconciled, ho]
      rfl
    refine ⟨wd, since, ?_⟩
    rw [hsame, ho]
    refine ⟨h, (WorkloadDependency.SameObject.refl wd).sameSpec, hw, ha.applies, hbegan, ?_, ?_, ?_⟩
    · intro t ht
      exact ⟨Option.some.inj (ht.symm.trans hbegan), by omega⟩
    · refine ⟨_, ?_, rfl, ?_⟩
      · rw [heq]
        unfold second
        omega
      · rw [heq]
        omega
    · unfold second
      omega
  | none =>
    obtain ⟨phase, caller, hopen, hresult, hnext⟩ := ha.opens hbegan
    obtain ⟨rfl, rfl⟩ := hm.unique ha.enforces hopen
    have hphase : wd'.status.phase = phase := congrArg Memory.phase hmem
    obtain ⟨happlies, hbegan'⟩ := hnext wd' hspec.spec hphase ⟨caller, hmem⟩
    have hnow := lt_truncateTime_add now
    have hwaits : (reconcile api now c req).result = .ok (.after (win.length wd)) := by
      obtain ⟨_, _, d, write, hm', hdel⟩ := reconcile_delivers now h hs
      obtain ⟨rfl, rfl⟩ := hm'.unique ha.enforces hopen
      cases hdel with
      | refused _ hsent => exact absurd rfl hsent
      | wrote _ _ _ _ _ _ _ ho =>
        rw [ho]
        refine (setStatus_result_ok (hok.statusUpdate 0) _ _ _ _ _).trans ?_
        rw [hresult]
        rfl
    refine ⟨wd', truncateTime now, hget, hspec, hw', happlies, hbegan', ?_, ?_, ?_⟩
    · intro t ht
      cases hbegan.symm.trans ht
    · exact ⟨win.length wd, hpos, hwaits, by omega⟩
    · omega

/-- A Reconcile in the state in which a window counts ends it, or leaves it open. -/
theorem Window.Applies.reconciled (ha : win.Applies wd w ok) (he : wd.enforces) (hok : api.AllOk)
    (h : c.getWD req = some wd) (hd : wd.deletionTimestamp = none)
    (hf : wd.containsFinalizer = true) (hu : wd.isPaused = false)
    (hw : c.dependent wd = some w) (hwell : ok = true ↔ AllWell c wd) (hb : wd.Moderate)
    (hp : wd.memory.Past now) :
    Ends win c (c.reconciled api now req) req wd ∨
      ∃ wd' since, StillOpen now win c (c.reconciled api now req) req wd wd' w ok since
        (reconcile api now c req).result := by
  by_cases hover : ∃ since, win.began wd = some since ∧ win.length wd ≤ timeSince now since
  · left
    obtain ⟨since, hs, ht⟩ := hover
    obtain ⟨ev, wd', d, write, hsight, hget, _, hm, hw', hmem⟩ :=
      reconcile_moves now hok h hd hf hu hw
    obtain rfl := sighting_allOk h hsight hwell
    obtain ⟨caller, hclose⟩ := ha.closes he hs ht
    obtain ⟨rfl, rfl⟩ := hm.unique he hclose
    exact ⟨wd, w, wd', h, hw, hget, congrArg Memory.phase hmem, hw'⟩
  · right
    have hawait : win.Awaited now wd w ok := by
      refine ⟨he, ha, ?_⟩
      intro since hs
      by_contra ht
      exact hover ⟨since, hs, Int.not_lt.mp ht⟩
    exact hawait.stillOpen hok h hd hf hu hw hwell hb hp

end Waiting

/-- From step `i` to step `j` nobody but klink touches the object or its dependent, the calls made
for the object succeed, and its dependencies stay well, or stay not well. -/
structure Steady {Q : Type*} {R : LoopRules Q} (r : Run R.controller.system) (k : NamespacedName)
    (wd : WorkloadDependency) (ok : Bool) (i j : ℕ) : Prop where
  calls : ∀ l api, i ≤ l → l < j → r.event l = .handle k api → api.AllOk
  object : ∀ l, i ≤ l → l < j → ¬ HandledAt r k l →
    (r.state (l + 1)).state.getWD k = (r.state l).state.getWD k
  dependent : ∀ l, i ≤ l → l < j → ¬ HandledAt r k l →
    (r.state (l + 1)).state.dependent wd = (r.state l).state.dependent wd
  health : ∀ l, i ≤ l → l < j → (ok = true ↔ AllWell (r.state l).state wd)

/-- From step `i` to step `j` nobody but klink touches the object or its dependent, and the calls
made for the object succeed. Its dependencies may come and go. -/
structure LeftToKlink {Q : Type*} {R : LoopRules Q} (r : Run R.controller.system)
    (k : NamespacedName) (wd : WorkloadDependency) (i j : ℕ) : Prop where
  calls : ∀ l api, i ≤ l → l < j → r.event l = .handle k api → api.AllOk
  object : ∀ l, i ≤ l → l < j → ¬ HandledAt r k l →
    (r.state (l + 1)).state.getWD k = (r.state l).state.getWD k
  dependent : ∀ l, i ≤ l → l < j → ¬ HandledAt r k l →
    (r.state (l + 1)).state.dependent wd = (r.state l).state.dependent wd

def Counts {Q : Type*} {R : LoopRules Q} (r : Run R.controller.system) (k : NamespacedName)
    (wd : WorkloadDependency) (w : WorkloadObject) (ok : Bool) (win : Window) (l : ℕ)
    (wd₁ : WorkloadDependency) : Prop :=
  (r.state l).state.getWD k = some wd₁ ∧ wd.SameSpec wd₁ ∧
    (r.state l).state.dependent wd = some w ∧ win.Applies wd₁ w ok

/-- Klink has let the object in, it is neither paused nor on its way out, and its mode acts. -/
structure WorkloadDependency.Acting (wd : WorkloadDependency) : Prop where
  living : wd.deletionTimestamp = none
  finalizer : wd.containsFinalizer = true
  unpaused : wd.isPaused = false
  enforces : wd.enforces

section Windows

variable {Q : Type*} {R : LoopRules Q} {r : Run R.controller.system} {k : NamespacedName}
  {wd wd₁ : WorkloadDependency} {w : WorkloadObject} {ok : Bool} {win : Window} {i j l : ℕ}

theorem WorkloadDependency.Acting.congr (h : wd.Acting) (hs : wd.SameSpec wd₁) : wd₁.Acting :=
  ⟨hs.deletionTimestamp.trans h.living, hs.finalizer h.finalizer,
    hs.isPaused.trans h.unpaused, hs.enforces.mpr h.enforces⟩

theorem WorkloadDependency.SameSpec.trans {wd₂ : WorkloadDependency} (h : wd.SameSpec wd₁)
    (h' : wd₁.SameSpec wd₂) (hf : wd.containsFinalizer = true) : wd.SameSpec wd₂ := by
  refine ⟨h'.spec.trans h.spec, h'.annotationPaused.trans h.annotationPaused,
    h'.deletionTimestamp.trans h.deletionTimestamp, h'.key.trans h.key,
    h'.dependentKey.trans h.dependentKey, ?_⟩
  have hf₁ := h.finalizer hf
  left
  rcases h'.finalizers with h' | ⟨hn, _⟩
  · rcases h.finalizers with h | ⟨hn, _⟩
    · exact h'.trans h
    · cases hf.symm.trans hn
  · cases hf₁.symm.trans hn

theorem LeftToKlink.steady (h : LeftToKlink r k wd i j) {i' j' : ℕ} (hi : i ≤ i') (hj : j' ≤ j)
    (health : ∀ l, i' ≤ l → l < j' → (ok = true ↔ AllWell (r.state l).state wd)) :
    Steady r k wd ok i' j' := by
  refine ⟨?_, ?_, ?_, health⟩
  · intro l api hil hlj
    exact h.calls l api (hi.trans hil) (hlj.trans_le hj)
  · intro l hil hlj
    exact h.object l (hi.trans hil) (hlj.trans_le hj)
  · intro l hil hlj
    exact h.dependent l (hi.trans hil) (hlj.trans_le hj)

theorem Counts.succ (hc : Counts r k wd w ok win l wd₁) (ho : R.Orderly) (hact : wd.Acting)
    (hst : Steady r k wd ok i j) (hil : i ≤ l) (hlj : l < j) :
    (¬ HandledAt r k l ∧ Counts r k wd w ok win (l + 1) wd₁) ∨
    (HandledAt r k l ∧ (Ends win (r.state l).state (r.state (l + 1)).state k wd ∨
      ∃ wd₂ since api, r.event l = .handle k api ∧ Counts r k wd w ok win (l + 1) wd₂ ∧
        StillOpen (r.state l).clock win (r.state l).state (r.state (l + 1)).state k wd₁ wd₂ w ok
          since (reconcile api (r.state l).clock (r.state l).state k).result)) := by
  obtain ⟨hg, hs, hw, ha⟩ := hc
  by_cases hh : HandledAt r k l
  · right
    refine ⟨hh, ?_⟩
    obtain ⟨api, he⟩ := hh
    have hnext : (r.state (l + 1)).state =
        (r.state l).state.reconciled api (r.state l).clock k := by
      rw [r.step l, he]
      rfl
    have hact₁ := hact.congr hs
    have hsame := hs.target.dependent
    obtain ⟨hb, hp⟩ := ho.timely r l k wd₁ hg
    have hwell : ok = true ↔ AllWell (r.state l).state wd₁ :=
      (hst.health l hil hlj).trans (AllWell.congr hs).symm
    rw [hnext]
    rcases ha.reconciled hact₁.enforces (hst.calls l api hil hlj he) hg hact₁.living
      hact₁.finalizer hact₁.unpaused ((hsame _).trans hw) hwell hb hp with
      hends | ⟨wd₂, since, hopen⟩
    · left
      obtain ⟨wd', w', wd'', hg', hw', hg'', hphase, hafter⟩ := hends
      exact ⟨wd', w', wd'', hg', (hsame _).symm.trans hw', hg'', hphase,
        (hsame _).symm.trans hafter⟩
    · right
      refine ⟨wd₂, since, api, he, ⟨?_, hs.trans hopen.same hact.finalizer, ?_, hopen.applies⟩,
        hopen⟩
      · rw [hnext]
        exact hopen.stored
      · rw [hnext]
        exact (hsame _).symm.trans hopen.dependent
  · left
    refine ⟨hh, (hst.object l hil hlj hh).trans hg, hs, (hst.dependent l hil hlj hh).trans hw, ha⟩

def Timing (r : Run R.controller.system) (k : NamespacedName) (wd : WorkloadDependency)
    (w : WorkloadObject) (ok : Bool) (win : Window) (since : Int) (l : ℕ) : Prop :=
  (∃ wd₁, Counts r k wd w ok win l wd₁ ∧ win.began wd₁ = some since) ∧
    R.controller.Tended (r.state l) k (since + win.length wd + second)

theorem Timing.start {since : Int} {api : Api} {wd₂ : WorkloadDependency}
    (he : r.event l = .handle k api) (hc : Counts r k wd w ok win (l + 1) wd₂)
    (hs : wd.SameSpec wd₁)
    (ho : StillOpen (r.state l).clock win (r.state l).state (r.state (l + 1)).state k wd₁ wd₂ w ok
      since (reconcile api (r.state l).clock (r.state l).state k).result) :
    Timing r k wd w ok win since (l + 1) := by
  refine ⟨⟨wd₂, hc, ho.began⟩, ?_⟩
  obtain ⟨delay, hpos, hres, hd⟩ := ho.timer
  have hverdict : R.requeueing.verdict
      (reconcile api (r.state l).clock (r.state l).state k).result = .after delay := by
    rw [hres]
    exact R.requeueing.after delay hpos
  rw [r.step l, he]
  apply Handled.Returns.tended
  rw [Window.length_congr hs.spec] at hd
  exact Or.inr (Or.inr ⟨delay, hverdict, hd⟩)

/-- The open window stays timed until a Reconcile ends it. -/
theorem Timing.until {since : Int} {m : ℕ} (ho : R.Orderly) (hact : wd.Acting)
    (hst : Steady r k wd ok i j) (him : i ≤ m) (h : Timing r k wd w ok win since m)
    (hn : ∀ l wd₁, m ≤ l → l < j → HandledAt r k l → Counts r k wd w ok win l wd₁ →
      ¬ Ends win (r.state l).state (r.state (l + 1)).state k wd) (hml : m ≤ l) (hlj : l ≤ j) :
    Timing r k wd w ok win since l := by
  induction hml with
  | refl => exact h
  | @step l hml ih =>
    obtain ⟨⟨wd₁, hc, hb⟩, ht⟩ := ih (Nat.le_of_succ_le hlj)
    rcases hc.succ ho hact hst (him.trans hml) hlj with
      ⟨hh, hc'⟩ | ⟨hh, hends | ⟨wd₂, since', api, he, hc', hopen⟩⟩
    · exact ⟨⟨wd₁, hc', hb⟩, tended_succ ht hh⟩
    · exact absurd hends (hn l wd₁ hml hlj hh hc)
    · obtain rfl := (hopen.running since hb).1
      exact .start he hc' hc.2.1 hopen

theorem Counts.until (ho : R.Orderly) (hact : wd.Acting) (hst : Steady r k wd ok i j)
    (h : Counts r k wd w ok win i wd₁) (hil : i ≤ l) (hlj : l ≤ j)
    (hn : ∀ l', i ≤ l' → l' < l → ¬ HandledAt r k l') : Counts r k wd w ok win l wd₁ := by
  induction hil with
  | refl => exact h
  | @step l hil ih =>
    have hc := ih (Nat.le_of_succ_le hlj) (fun l' hl hl' => hn l' hl (Nat.lt_succ_of_lt hl'))
    rcases hc.succ ho hact hst hil hlj with ⟨_, hc'⟩ | ⟨hh, _⟩
    · exact hc'
    · exact absurd hh (hn l hil (Nat.lt_succ_self l))

variable {latency : Int}

theorem WorkloadDependency.Acting.seen (hact : wd.Acting) (ho : R.Orderly)
    (hserved : Served r latency) (hg : (r.state i).state.getWD k = some wd) (hij : i ≤ j)
    (hlate : (r.state i).clock + longestWait wd + 2 * latency < (r.state j).clock) :
    ∃ m, i ≤ m ∧ m < j ∧ HandledAt r k m ∧
      (r.state m).clock ≤ (r.state i).clock + longestWait wd + 2 * latency ∧
      ∀ l, i ≤ l → l < m → ¬ HandledAt r k l := by
  have htended := ho.cares.tended (ho.timely r) i (k := k) ⟨wd, hg, Or.inl hact.finalizer⟩
  have hreach : (r.state i).state.reach k = longestWait wd := by
    unfold Cluster.reach
    rw [hg]
    rfl
  rw [hreach] at htended
  have hwait : 0 < longestWait wd := by
    have := le_longestWait (d := 1) wd (by decide)
    omega
  obtain ⟨j', hij', hj', hpast, hfirst⟩ := exists_first_past hij hlate
  obtain ⟨m', him', hmj', hh'⟩ := hserved.handled_by htended hij' (by omega)
  obtain ⟨m, him, hmm', hh, hnone⟩ := exists_first_handled him' hh'
  exact ⟨m, him, by omega, hh, hfirst m him (by omega), hnone⟩

theorem Counts.ends (h : Counts r k wd w ok win i wd) (ho : R.Orderly)
    (hserved : Served r latency) (hact : wd.Acting) (hij : i ≤ j) (hst : Steady r k wd ok i j)
    (hlate : (r.state i).clock + longestWait wd + win.length wd + second + 5 * latency <
      (r.state j).clock) :
    ∃ l wd₁, i ≤ l ∧ l < j ∧ HandledAt r k l ∧ Counts r k wd w ok win l wd₁ ∧
      Ends win (r.state l).state (r.state (l + 1)).state k wd := by
  by_contra hnever
  have hn : ∀ l wd₁, i ≤ l → l < j → HandledAt r k l → Counts r k wd w ok win l wd₁ →
      ¬ Ends win (r.state l).state (r.state (l + 1)).state k wd :=
    fun l wd₁ hil hlj hh hc he => hnever ⟨l, wd₁, hil, hlj, hh, hc, he⟩
  have h0 := hserved.nonneg
  have hpos := Window.length_pos h.2.2.2
  have hsec : 0 < second := by decide
  obtain ⟨m, him, hmj, hh, hclock, hnone⟩ := hact.seen ho hserved h.1 hij (by omega)
  have hcounts : Counts r k wd w ok win m wd :=
    Counts.until ho hact hst h him (Nat.le_of_lt hmj) hnone
  rcases hcounts.succ ho hact hst him hmj with
    ⟨hnot, _⟩ | ⟨_, hends | ⟨wd₂, since, api, he, hc, hopen⟩⟩
  · exact hnot hh
  · exact hn m wd him hmj hh hcounts hends
  -- from there on the window is timed, and a Reconcile comes after its end
  have htiming : ∀ l, m + 1 ≤ l → l ≤ j → Timing r k wd w ok win since l := by
    intro l hml hlj
    exact Timing.until ho hact hst (Nat.le_succ_of_le him)
      (.start he hc (WorkloadDependency.SameObject.refl wd).sameSpec hopen)
      (fun l wd₁ hl hlj => hn l wd₁ (by omega) hlj) hml hlj
  have hsame : (r.state (m + 1)).clock = (r.state m).clock := hh.clock
  have hsince : since ≤ (r.state m).clock := by
    have hp := (ho.timely r (m + 1) k wd₂ hc.1).2
    rw [hsame] at hp
    exact hp.began hopen.began
  have hsoon := hopen.soon
  have hnext : m + 1 ≤ j := hmj
  have htended : ∀ l, m + 1 ≤ l → l < j →
      R.controller.Tended (r.state l) k (since + win.length wd + second) :=
    fun l hl hlj => (htiming l hl (Nat.le_of_lt hlj)).2
  obtain ⟨l, hml, hlj, hhl, hdue⟩ :=
    hserved.handled_after hnext htended (by omega) (by omega)
  obtain ⟨⟨wd₃, hc₃, hb₃⟩, _⟩ := htiming l hml (Nat.le_of_lt hlj)
  rcases hc₃.succ ho hact hst (by omega) hlj with
    ⟨hnot, _⟩ | ⟨_, hends | ⟨_, _, _, _, _, hopen₃⟩⟩
  · exact hnot hhl
  · exact hn l wd₃ (by omega) hlj hhl hc₃ hends
  · obtain ⟨hsince₃, hlt⟩ := hopen₃.running since hb₃
    rw [Window.length_congr hc₃.2.1.spec] at hlt
    omega

theorem Steady.untouched {m : ℕ} (hst : Steady r k wd ok i j)
    (hg : (r.state i).state.getWD k = some wd₁) (hw : (r.state i).state.dependent wd = some w)
    (hil : i ≤ l) (hlm : l ≤ m) (hmj : m ≤ j)
    (hn : ∀ l, i ≤ l → l < m → ¬ HandledAt r k l) :
    (r.state l).state.getWD k = some wd₁ ∧ (r.state l).state.dependent wd = some w := by
  induction hil with
  | refl => exact ⟨hg, hw⟩
  | @step l hil ih =>
    obtain ⟨hgl, hwl⟩ := ih (Nat.le_of_succ_le hlm)
    have hnot := hn l hil hlm
    have hlj : l < j := Nat.lt_of_lt_of_le hlm hmj
    exact ⟨(hst.object l hil hlj hnot).trans hgl, (hst.dependent l hil hlj hnot).trans hwl⟩

/-- Strict mode does not wait for its timer: a dependent that others scale up again is scaled down
as soon as the queue is worked off. -/
theorem override_reverted_in_time (hserved : Served r latency) (hact : wd.Acting)
    (hstrict : wd.spec.mode = .strict) (hmax : wd.spec.onDegraded.maxSuspendDuration ≤ 0)
    (hphase : wd.status.phase = .suspended) {after : Cluster} {requests : List NamespacedName}
    (he : r.event i = .change after requests) (hg : after.getWD k = some wd)
    (hw : after.dependent wd = some w) (hchange : (r.state i).state.dependent wd ≠ some w)
    (hneeds : needsEnforce w = true) (hgoing : w.isProgressing = false) (hij : i + 1 ≤ j)
    (hst : Steady r k wd false (i + 1) j)
    (hlate : (r.state i).clock + latency < (r.state j).clock) :
    ∃ l w', i < l ∧ l < j ∧ HandledAt r k l ∧
      (r.state (l + 1)).state.dependent wd = some w' ∧ w'.isDown = true := by
  have hv := r.valid i
  rw [he] at hv
  have hafter : (r.state (i + 1)).state = after ∧
      (r.state (i + 1)).clock = (r.state i).clock := by
    rw [r.step i, he]
    exact ⟨rfl, rfl⟩
  have hqueued : R.controller.Queued (r.state (i + 1)) k := by
    have hrequest : k ∈ requests := by
      apply hv.2.workload wd.target
      · intro hsame
        exact hchange (hsame.symm.trans hw)
      · exact WorkloadDependency.RefersTo.found (Or.inl rfl) hg
    rw [r.step i, he]
    exact R.queue.add_queued requests _ k hrequest
  obtain ⟨l', hil', hlj', hh'⟩ := hserved.handled (i + 1) j k hqueued hij (by omega)
  obtain ⟨l, hil, hll', hh, hfirst⟩ := exists_first_handled hil' hh'
  rw [← hafter.1] at hg hw
  obtain ⟨hgl, hwl⟩ := hst.untouched hg hw hil (le_refl l) (by omega) hfirst
  obtain ⟨api, hcall⟩ := id hh
  obtain ⟨ev, wd', d, write, hs, _, _, hm, hdown, _⟩ := reconcile_moves (r.state l).clock
    (hst.calls l api hil (by omega) hcall) hgl hact.living hact.finalizer hact.unpaused hwl
  obtain hev : ev.allOk = false := sighting_allOk hgl hs (hst.health l hil (by omega))
  rw [hev] at hm
  obtain ⟨rfl, _⟩ := hm.unique hact.enforces
    (.enforce hact.enforces hgoing hphase (Or.inr hmax) hstrict hneeds)
  refine ⟨l, _, hil, by omega, hh, ?_, Deed.object_suspend_isDown wd.status.savedReplicas w⟩
  rw [r.step l, hcall]
  exact hdown

/-- One step of the steady time: nothing happens to the object, or a Reconcile makes its move. -/
theorem Steady.step (hst : Steady r k wd ok i j) (hact : wd.Acting) (hil : i ≤ l) (hlj : l < j)
    (hg : (r.state l).state.getWD k = some wd₁) (hs : wd.SameSpec wd₁)
    (hw : (r.state l).state.dependent wd = some w) :
    (¬ HandledAt r k l ∧ (r.state (l + 1)).state.getWD k = some wd₁ ∧
      (r.state (l + 1)).state.dependent wd = some w) ∨
    (HandledAt r k l ∧ ∃ wd₂ d write, Move wd₁ w (r.state l).clock ok d write ∧
      (r.state (l + 1)).state.getWD k = some wd₂ ∧ wd.SameSpec wd₂ ∧
      wd₂.memory = write.elim wd₁.memory (fun q => Memory.write (r.state l).clock q.1 q.2 q.2) ∧
      (r.state (l + 1)).state.dependent wd =
        some (d.object wd₁.status.savedReplicas w)) := by
  by_cases hh : HandledAt r k l
  · right
    refine ⟨hh, ?_⟩
    obtain ⟨api, he⟩ := hh
    have hact₁ := hact.congr hs
    have hsame := hs.target.dependent
    obtain ⟨ev, wd₂, d, write, hsight, hget, hspec, hm, hw', hmem⟩ :=
      reconcile_moves (r.state l).clock (hst.calls l api hil hlj he) hg hact₁.living
        hact₁.finalizer hact₁.unpaused ((hsame _).trans hw)
    obtain rfl := sighting_allOk hg hsight ((hst.health l hil hlj).trans (AllWell.congr hs).symm)
    have hnext : (r.state (l + 1)).state =
        (r.state l).state.reconciled api (r.state l).clock k := by
      rw [r.step l, he]
      rfl
    rw [hnext]
    exact ⟨wd₂, d, write, hm, hget, hs.trans hspec hact.finalizer, hmem,
      (hsame _).symm.trans hw'⟩
  · left
    exact ⟨hh, (hst.object l hil hlj hh).trans hg, (hst.dependent l hil hlj hh).trans hw⟩

def Holds (r : Run R.controller.system) (k : NamespacedName) (wd : WorkloadDependency)
    (w : WorkloadObject) (phase : DependencyPhase) (l : ℕ) : Prop :=
  ∃ wd₁, (r.state l).state.getWD k = some wd₁ ∧ wd.SameSpec wd₁ ∧
    (r.state l).state.dependent wd = some w ∧ wd₁.status.phase = phase

end Windows

section Story

instance (c : Cluster) (wd : WorkloadDependency) : Decidable (AllWell c wd) :=
  inferInstanceAs (Decidable (∀ dep ∈ wd.spec.dependsOn, ¬ EntryFails c wd dep))

variable {c : Cluster} {r : Run (storySystem c)}

theorem story_timers (h : ∀ k, (r.state 0).queue.timers k = none) {k : NamespacedName}
    (hk : k ∉ c.keys) (n : ℕ) : (r.state n).queue.timers k = none := by
  induction n with
  | zero => exact h k
  | succ n ih =>
    have hv := r.valid n
    rw [r.step n]
    cases he : r.event n with
    | handle j api =>
      rw [he] at hv
      have hj : j ∈ c.keys := of_decide_eq_true hv.2
      have hne : k ≠ j := by
        rintro rfl
        exact hk hj
      change ((plainQueue NamespacedName).settle
        (takeResult (reconcile api (r.state n).clock (r.state n).state j).result) j _ _).timers k =
          none
      cases takeResult (reconcile api (r.state n).clock (r.state n).state j).result with
      | retry => exact ih
      | after d => exact (Function.update_of_ne hne _ _).trans ih
      | done => exact ih
    | change c requests => exact ih
    | pass t => exact ih
    | turn q =>
      rw [he] at hv
      obtain ⟨j, t, hj, _, rfl⟩ := hv.1
      have hne : k ≠ j := by
        rintro rfl
        cases ih.symm.trans hj
      exact (Function.update_of_ne hne _ _).trans ih

theorem story_prompt (h : ∀ k, (r.state 0).queue.timers k = none) : Prompt (relaxed r) := by
  intro n time he hlt
  have hn := (r.valid n).2
  have he : r.event n = .pass time := he
  have hlt : (r.state n).clock < time := hlt
  rw [he] at hn
  have hlate : decide (time ≤ (r.state n).clock) = false := by simpa using hlt
  obtain ⟨hq, ht⟩ : (r.state n).queue.waiting.isEmpty = true ∧ ∀ k ∈ c.keys,
      ((r.state n).queue.timers k).all (fun t => decide (time ≤ t)) = true := by
    simpa [onTime, hlate] using hn
  constructor
  · intro k hk
    have hk : k ∈ (r.state n).queue.waiting := hk
    rw [List.isEmpty_iff.mp hq] at hk
    cases hk
  · intro k t hk
    have hk : (r.state n).queue.timers k = some t := hk
    by_cases hkey : k ∈ c.keys
    · have ht := ht k hkey
      rw [hk] at ht
      exact of_decide_eq_true ht
    · cases (story_timers h hkey n).symm.trans hk

theorem storyPlay_prompt {ts : List Turn} (h : possible c (storyStart c) ts = true) :
    Prompt (relaxed (storyPlay h)) := story_prompt (fun _ => rfl)

def keptAt (r : Run (storySystem c)) (k : NamespacedName) (wd : WorkloadDependency) (l : ℕ) :
    Bool :=
  match r.event l with
  | .handle j _ => decide (j = k) || kept
  | _ => kept
where
  kept : Bool := decide ((r.state (l + 1)).state.getWD k = (r.state l).state.getWD k ∧
    (r.state (l + 1)).state.dependent wd = (r.state l).state.dependent wd)

theorem kept_of_keptAt {k : NamespacedName} {wd : WorkloadDependency} {l : ℕ}
    (h : keptAt r k wd l = true) (hh : ¬ HandledAt (relaxed r) k l) :
    (r.state (l + 1)).state.getWD k = (r.state l).state.getWD k ∧
      (r.state (l + 1)).state.dependent wd = (r.state l).state.dependent wd := by
  have hkept : keptAt.kept r k wd l = true := by
    unfold keptAt at h
    cases he : r.event l with
    | handle j api =>
      rw [he] at h
      have hne : decide (j = k) = false := by
        apply decide_eq_false
        rintro rfl
        exact hh ⟨api, he⟩
      simpa [hne] using h
    | change c requests => simpa [he] using h
    | pass t => simpa [he] using h
    | turn q => simpa [he] using h
  exact of_decide_eq_true hkept

theorem story_leftToKlink {k : NamespacedName} {wd : WorkloadDependency} {i j : ℕ}
    (hkept : ∀ l < j, i ≤ l → keptAt r k wd l = true) : LeftToKlink (relaxed r) k wd i j := by
  refine ⟨?_, ?_, ?_⟩
  · intro l api _ _ he
    have hv := (relaxed r).valid l
    rw [he] at hv
    exact hv.2
  · intro l hil hlj hh
    exact (kept_of_keptAt (hkept l hlj hil) hh).1
  · intro l hil hlj hh
    exact (kept_of_keptAt (hkept l hlj hil) hh).2

theorem story_steady {k : NamespacedName} {wd : WorkloadDependency} {ok : Bool} {i j : ℕ}
    (hkept : ∀ l < j, i ≤ l → keptAt r k wd l = true)
    (hwell : ∀ l < j, i ≤ l → decide (AllWell (r.state l).state wd) = ok) :
    Steady (relaxed r) k wd ok i j := by
  refine (story_leftToKlink hkept).steady (le_refl i) (le_refl j) ?_
  intro l hil hlj
  rw [← hwell l hlj hil]
  exact decide_eq_true_iff

structure Standing where
  deletionTimestamp : Option Int
  finalizer : Bool
  paused : Bool
  spec : WorkloadDependencySpec
  phase : DependencyPhase
  dependent : Option WorkloadObject
  deriving DecidableEq

def standing (c : Cluster) (wd : WorkloadDependency) : Standing :=
  ⟨wd.deletionTimestamp, wd.containsFinalizer, wd.isPaused, wd.spec, wd.status.phase,
    c.dependent wd⟩

theorem standing_acting {c : Cluster} {wd : WorkloadDependency} {phase : DependencyPhase}
    {w : Option WorkloadObject}
    (h : standing c wd = ⟨none, true, false, quickObject.spec, phase, w⟩) :
    wd.Acting ∧ wd.spec = quickObject.spec ∧ wd.status.phase = phase ∧ c.dependent wd = w := by
  simp only [standing, Standing.mk.injEq] at h
  obtain ⟨hd, hf, hp, hs, hphase, hw⟩ := h
  refine ⟨⟨hd, hf, hp, ?_⟩, hs, hphase, hw⟩
  unfold WorkloadDependency.enforces
  rw [hs]
  exact Or.inl rfl

theorem override_reverted_in_time_quick :
    ∃ wd l w', (quickRun.state 7).state.getWD demoKey = some wd ∧
      (quickRun.state 7).state.dependent wd = some (.deployment ⟨some 2, 0⟩) ∧
      6 < l ∧ l < 10 ∧ (quickRun.state (l + 1)).state.dependent wd = some w' ∧
      w'.isDown = true := by
  have hstate : ((quickRun.state 7).state.getWD demoKey).map
      (standing (quickRun.state 7).state) = some ⟨none, true, false, quickObject.spec, .suspended,
        some (.deployment ⟨some 2, 0⟩)⟩ := by
    decide +kernel
  have hbefore : ((quickRun.state 7).state.getWD demoKey).all (fun wd =>
      decide ((quickRun.state 6).state.dependent wd ≠ some (.deployment ⟨some 2, 0⟩))) = true := by
    decide +kernel
  have hcalm : ∀ l < 10, 7 ≤ l → ((quickRun.state 7).state.getWD demoKey).all (fun wd =>
      keptAt (storyPlay quickTurns_possible) demoKey wd l &&
        !decide (AllWell (quickRun.state l).state wd)) = true := by decide +kernel
  obtain ⟨wd, hwd, hst⟩ := Option.map_eq_some_iff.mp hstate
  obtain ⟨hact, hs, hphase, hw⟩ := standing_acting hst
  rw [hwd] at hbefore hcalm
  have hsick : ∀ l < 10, 7 ≤ l → decide (AllWell (quickRun.state l).state wd) = false := by
    intro l hlj hil
    simpa using (Bool.and_eq_true_iff.mp (hcalm l hlj hil)).2
  have hsteady : Steady quickRun demoKey wd false 7 10 :=
    story_steady (fun l hlj hil => (Bool.and_eq_true_iff.mp (hcalm l hlj hil)).1) hsick
  obtain ⟨l, w', hil, hlj, _, hw', hdown⟩ := override_reverted_in_time (i := 6) (j := 10)
    (storyPlay_prompt quickTurns_possible).served hact (congrArg WorkloadDependencySpec.mode hs)
    (by rw [hs]; decide) hphase rfl hwd hw (of_decide_eq_true hbefore) (by decide) rfl (by decide)
    hsteady (by decide +kernel)
  exact ⟨wd, l, w', hwd, hw, hil, hlj, hw', hdown⟩

end Story

end Klink
