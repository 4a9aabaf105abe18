import Klink.InstantIdempotence
import Klink.LevelTriggered

/-! # The controller around Reconcile

`SetupWithManager` watches the WorkloadDependencies themselves and, through
`findWDsForWorkload`, the four kinds of workloads. The work queue with its timers and retries is
not klink's own, and any queue of a level-triggered loop will do.
-/
namespace Klink

open LevelTriggered TransitionSystem

def Outcome.Repeats (o : Outcome) : Prop :=
  (∃ e, o.result = .error e) ∨ o.result = .ok ⟨true, 0⟩

/-- How the results of a Reconcile are taken by whoever calls it. -/
structure Requeueing where
  verdict : Except ApiError Result → Verdict
  error : ∀ e, verdict (.error e) = .retry
  requeue : verdict (.ok ⟨true, 0⟩) = .retry
  after : ∀ d, 0 < d → verdict (.ok (.after d)) = .after d

theorem Outcome.Repeats.verdict {o : Outcome} (h : o.Repeats) (V : Requeueing) :
    V.verdict o.result = .retry := by
  rcases h with ⟨e, h⟩ | h
  · rw [h]
    exact V.error e
  · rw [h]
    exact V.requeue

def Effect.requests (c : Cluster) (e : Effect) : List NamespacedName :=
  match e with
  | .patch k _ after .ok =>
    if c.workload after.kind k = some after then []
    else findWDsForWorkload .ok .ok (c.apply e) k.ns k.name
  | .statusUpdate wd .ok => if (c.apply e).getWD wd.key = c.getWD wd.key then [] else [wd.key]
  | .update wd .ok => if (c.apply e).getWD wd.key = c.getWD wd.key then [] else [wd.key]
  | _ => []

def Cluster.requests (c : Cluster) : List Effect → List NamespacedName
  | [] => []
  | e :: es => e.requests c ++ (c.apply e).requests es

/-- What the watches have to report of a change that others make. -/
structure Reported (c c' : Cluster) (requests : List NamespacedName) : Prop where
  object : ∀ k, c'.getWD k ≠ c.getWD k → k ∈ requests
  workload : ∀ t : Target, c'.workload t.kind t.key ≠ c.workload t.kind t.key →
    findWDsForWorkload .ok .ok c' t.key.ns t.key.name ⊆ requests

/-- What surrounds klink: the work queue and what it makes of results, the state of the cluster
when the operator comes up, the answers of the API server and what others do. -/
structure LoopRules (Q : Type*) where
  queue : WorkQueue Q NamespacedName
  requeueing : Requeueing
  start : Int → Cluster → Prop
  calls : Cluster → NamespacedName → Api → Prop
  disturbs : Cluster → Cluster → Prop

def LoopRules.controller {Q : Type*} (R : LoopRules Q) :
    Controller Cluster NamespacedName Api Q where
  queue := R.queue
  init := R.start
  listed c k := c.getWD k ≠ none
  calls := R.calls
  handle api now c k := ⟨c.reconciled api now k, c.requests (reconcile api now c k).effects,
    R.requeueing.verdict (reconcile api now c k).result⟩
  watch c c' requests := R.disturbs c c' ∧ Reported c c' requests

structure View where
  wd : WorkloadDependency
  dependent : Option WorkloadObject
  dependencies : List (Option WorkloadObject)

def Cluster.view (c : Cluster) (k : NamespacedName) : Option View :=
  (c.getWD k).map (fun wd => ⟨wd, c.dependent wd, wd.spec.dependsOn.map (c.dependency wd)⟩)

section Views

variable {c c' : Cluster} {k : NamespacedName} {wd : WorkloadDependency} {v : View}

theorem Cluster.view_eq_some :
    c.view k = some v ↔ c.getWD k = some v.wd ∧ v.dependent = c.dependent v.wd ∧
      v.dependencies = v.wd.spec.dependsOn.map (c.dependency v.wd) := by
  unfold Cluster.view
  rw [Option.map_eq_some_iff]
  constructor
  · rintro ⟨wd, hwd, rfl⟩
    exact ⟨hwd, rfl, rfl⟩
  · rintro ⟨hwd, hd, hds⟩
    refine ⟨v.wd, hwd, ?_⟩
    rw [← hd, ← hds]

theorem Cluster.view_congr (hg : c'.getWD k = c.getWD k)
    (hw : ∀ wd, c.getWD k = some wd → ∀ t : Target, wd.RefersTo t.key →
      c'.workload t.kind t.key = c.workload t.kind t.key) : c'.view k = c.view k := by
  unfold Cluster.view
  rw [hg]
  cases hwd : c.getWD k with
  | none => rfl
  | some wd =>
    have hdep : c'.dependent wd = c.dependent wd := hw wd hwd wd.target (Or.inl rfl)
    have hdeps : wd.spec.dependsOn.map (c'.dependency wd) =
        wd.spec.dependsOn.map (c.dependency wd) := by
      apply List.map_congr_left
      intro dep hmem
      exact hw wd hwd ⟨WorkloadKind.ofString dep.kind, wd.dependsOnKey dep⟩
        (Or.inr ⟨dep, hmem, rfl⟩)
    simp only [Option.map_some]
    rw [hdep, hdeps]

theorem Cluster.view_eq_of_workloads (hg : c'.getWD k = c.getWD k)
    (hw : ∀ kind key, c'.workload kind key = c.workload kind key) : c'.view k = c.view k :=
  Cluster.view_congr hg (fun _ _ t _ => hw t.kind t.key)

/-- A write that changes the view of an object asks for its Reconcile. -/
theorem Effect.requests_view (e : Effect) (h : (c.apply e).view k ≠ c.view k) :
    k ∈ e.requests c := by
  have hown : ∀ (c' : Cluster) (wd : WorkloadDependency), c.apply e = c' →
      (k ≠ wd.key → c'.getWD k = c.getWD k) →
      (∀ kind key, c'.workload kind key = c.workload kind key) →
      k ∈ if (c.apply e).getWD wd.key = c.getWD wd.key then [] else [wd.key] := by
    rintro c' wd rfl hne hwork
    have hk : k = wd.key := by
      by_contra hk
      exact h (Cluster.view_eq_of_workloads (hne hk) hwork)
    rw [← hk, if_neg]
    · exact List.mem_singleton_self k
    · intro hsame
      exact h (Cluster.view_eq_of_workloads hsame hwork)
  cases e with
  | patch key before after result =>
    cases result with
    | ok =>
      change (c.putWorkload key after).view k ≠ c.view k at h
      change k ∈ ite (c.workload after.kind key = some after) _ _
      have hg : (c.putWorkload key after).getWD k = c.getWD k := c.getWD_putWorkload _ _ _
      have hother : ∀ t : Target, c.workload after.kind key = some after ∨ t.key ≠ key →
          (c.putWorkload key after).workload t.kind t.key = c.workload t.kind t.key := by
        intro t ht
        by_cases hk : t.kind ≠ after.kind ∨ t.key ≠ key
        · exact c.workload_putWorkload_ne hk
        · obtain ⟨hkind, hkey⟩ := not_or.mp hk
          rw [not_not.mp hkind, not_not.mp hkey, c.workload_putWorkload_self]
          exact (ht.resolve_right hkey).symm
      rw [if_neg]
      · by_contra hnot
        apply h
        refine Cluster.view_congr hg ?_
        intro wd hwd t ht
        apply hother
        right
        rintro rfl
        exact hnot (ht.found (hg.trans hwd))
      · intro hsame
        exact h (Cluster.view_eq_of_workloads hg
          (fun kind key => hother ⟨kind, key⟩ (Or.inl hsame)))
    | conflict => exact absurd rfl h
    | failed => exact absurd rfl h
  | statusUpdate wd result =>
    cases result with
    | ok => exact hown _ wd rfl (c.getWD_putStatus_ne) (fun _ _ => rfl)
    | conflict => exact absurd rfl h
    | failed => exact absurd rfl h
  | update wd result =>
    cases result with
    | ok => exact hown _ wd rfl (c.getWD_putObject_ne) (c.workload_putObject wd)
    | conflict => exact absurd rfl h
    | failed => exact absurd rfl h
  | event => exact absurd rfl h
  | recordScaleToZero => exact absurd rfl h
  | recordReplicasRestored => exact absurd rfl h
  | recordPhase => exact absurd rfl h
  | recordReconcileError => exact absurd rfl h
  | sendNotification => exact absurd rfl h

theorem Cluster.requests_view (es : List Effect) (h : (c.applyAll es).view k ≠ c.view k) :
    k ∈ c.requests es := by
  induction es generalizing c with
  | nil => exact absurd rfl h
  | cons e es ih =>
    by_cases hfirst : (c.apply e).view k = c.view k
    · apply List.mem_append_right
      apply ih
      rw [hfirst]
      exact h
    · exact List.mem_append_left _ (e.requests_view hfirst)

theorem Reported.view {requests : List NamespacedName} (hr : Reported c c' requests)
    (h : c'.view k ≠ c.view k) : k ∈ requests := by
  by_cases hg : c'.getWD k = c.getWD k
  · by_contra hnot
    apply h
    refine Cluster.view_congr hg ?_
    intro wd hwd t ht
    by_contra hne
    exact hnot (hr.workload t hne (ht.found (hg.trans hwd)))
  · exact hr.object k hg

end Views

section Current

variable {Q : Type*} {R : LoopRules Q} {r : Run R.controller.system} {i : ℕ}
  {k : NamespacedName}

theorem LoopRules.watches (R : LoopRules Q) : Watches R.controller Cluster.view := by
  constructor
  · intro api now c k j _ h
    exact c.requests_view _ h
  · intro c c' requests hw j h
    exact hw.2.view h

/-- An object that is not queued: the last Reconcile made for it has changed nothing, and met the
object, its dependent and its dependencies as they are now. It did not fail. -/
structure LeftAlone (r : Run R.controller.system) (k : NamespacedName) (wd : WorkloadDependency)
    (j i : ℕ) (api : Api) : Prop where
  before : j < i
  call : r.event j = .handle k api
  last : ∀ l, j < l → l < i → ¬ HandledAt r k l
  object : ∀ l, j ≤ l → l ≤ i → (r.state l).state.getWD k = some wd
  dependent : ∀ l, j ≤ l → l ≤ i → (r.state l).state.dependent wd = (r.state i).state.dependent wd
  dependency : ∀ l, j ≤ l → l ≤ i → ∀ dep ∈ wd.spec.dependsOn,
    (r.state l).state.dependency wd dep = (r.state i).state.dependency wd dep
  settled : ¬ (reconcile api (r.state j).clock (r.state j).state k).Repeats

theorem exists_current {wd : WorkloadDependency} (hq : ¬ R.controller.Queued (r.state i) k)
    (hg : (r.state i).state.getWD k = some wd) : ∃ j, Current r Cluster.view k j i := by
  have hshown : (r.state i).state.view k ≠ none := by
    unfold Cluster.view
    rw [hg]
    exact Option.some_ne_none _
  refine R.watches.current ?_ hq hshown
  intro c k
  by_cases hn : c.getWD k = none
  · right
    unfold Cluster.view
    rw [hn]
    rfl
  · exact Or.inl hn

theorem leftAlone_of_current {j : ℕ} {wd : WorkloadDependency} (h : Current r Cluster.view k j i)
    (hq : ¬ R.controller.Queued (r.state i) k) (hg : (r.state i).state.getWD k = some wd) :
    ∃ api, LeftAlone r k wd j i api := by
  obtain ⟨api, he⟩ := h.handled
  have hnow : (r.state i).state.view k = some ⟨wd, (r.state i).state.dependent wd,
      wd.spec.dependsOn.map ((r.state i).state.dependency wd)⟩ := by
    unfold Cluster.view
    rw [hg]
    rfl
  have hview : ∀ l, j ≤ l → l ≤ i → _ :=
    fun l hl hli => Cluster.view_eq_some.mp ((h.same l hl hli).trans hnow)
  refine ⟨api, h.before, he, h.last, ?_, ?_, ?_, ?_⟩
  · exact fun l hl hli => (hview l hl hli).1
  · exact fun l hl hli => (hview l hl hli).2.1.symm
  · exact fun l hl hli => List.map_inj_left.mp (hview l hl hli).2.2.symm
  · intro hrepeats
    have hqueued : R.controller.Queued (r.state (j + 1)) k := by
      rw [r.step j, he]
      exact queued_of_retry (hrepeats.verdict R.requeueing)
    have hlast : ∀ l, j + 1 ≤ l → l < i → ¬ HandledAt r k l := fun l hl => h.last l hl
    exact hq (queued_until hqueued h.before hlast)

/-- No lost wake-up, whatever fails and in whatever order the queue is worked off: an object out of
the queue is left as its last Reconcile met it. -/
theorem unqueued_is_current (r : Run R.controller.system) {wd : WorkloadDependency}
    (hq : ¬ R.controller.Queued (r.state i) k) (hg : (r.state i).state.getWD k = some wd) :
    ∃ j api, LeftAlone r k wd j i api := by
  obtain ⟨j, hj⟩ := exists_current hq hg
  exact ⟨j, leftAlone_of_current hj hq hg⟩

end Current

/-! Stories in which all calls succeed and time does not pass the timers. In the first one `web`
needs `db`, with windows of one second, and klink has let the object in. -/

section Story

def Cluster.keys (c : Cluster) : List NamespacedName := c.wds.items.map WorkloadDependency.key

abbrev StoryQueue : Type := PlainQueue NamespacedName

abbrev StoryEvent : Type := LevelTriggered.Event Cluster NamespacedName Api StoryQueue

def takeResult : Except ApiError Result → Verdict
  | .error _ => .retry
  | .ok r =>
    if 0 < r.requeueAfter then .after r.requeueAfter
    else if r.requeue then .retry
    else .done

theorem takeResult_error (e : ApiError) : takeResult (.error e) = .retry := rfl

theorem takeResult_requeue : takeResult (.ok ⟨true, 0⟩) = .retry := rfl

theorem takeResult_after (d : Int) (h : 0 < d) : takeResult (.ok (.after d)) = .after d := if_pos h

def storyRules (c : Cluster) : LoopRules StoryQueue where
  queue := plainQueue NamespacedName
  requeueing := ⟨takeResult, takeResult_error, takeResult_requeue, takeResult_after⟩
  start now c' := now = 0 ∧ c' = c
  calls _ _ api := api.AllOk
  disturbs c c' := c'.wds = c.wds

def storyStart (c : Cluster) : Loop Cluster StoryQueue := ⟨c, 0, c.keys, fun _ => none⟩

theorem storyStart_init (c : Cluster) :
    (storyRules c).controller.system.init (storyStart c) := by
  refine ⟨⟨rfl, rfl⟩, ?_⟩
  intro k hk
  obtain ⟨wd, hwd⟩ := Option.ne_none_iff_exists'.mp hk
  rw [← c.getWD_key hwd]
  exact List.mem_map_of_mem (c.mem_wds hwd)

inductive Turn where
  | handle (k : NamespacedName)
  | write (k : NamespacedName) (w : WorkloadObject)
  | pass (d : Int)
  | fire (k : NamespacedName)

def Turn.event (t : Turn) (s : Loop Cluster StoryQueue) : StoryEvent :=
  match t with
  | .handle k => .handle k .good
  | .write k w => .change (s.state.putWorkload k w) s.state.keys
  | .pass d => .pass (s.clock + d)
  | .fire k => .turn (s.queue.fire k)

def onTime (keys : List NamespacedName) (s : Loop Cluster StoryQueue) : StoryEvent → Bool
  | .handle k _ => decide (k ∈ keys)
  | .change _ _ => true
  | .pass t => decide (t ≤ s.clock) ||
      (s.queue.waiting.isEmpty &&
        keys.all (fun k => (s.queue.timers k).all (fun t' => decide (t ≤ t'))))
  | .turn _ => true

def storySystem (c : Cluster) : System (Loop Cluster StoryQueue) StoryEvent where
  init := (storyRules c).controller.system.init
  enabled s e := (storyRules c).controller.enabled s e ∧ onTime c.keys s e = true
  next := (storyRules c).controller.next

def Turn.possible (s : Loop Cluster StoryQueue) : Turn → Bool
  | .handle k => decide (k ∈ s.queue.waiting)
  | .write _ _ => true
  | .pass d => decide (0 ≤ d)
  | .fire k => (s.queue.timers k).any (fun t => decide (t ≤ s.clock))

variable {c : Cluster}

def possible (c : Cluster) (s : Loop Cluster StoryQueue) : List Turn → Bool
  | [] => true
  | t :: ts => t.possible s && onTime c.keys s (t.event s) &&
      possible c ((storyRules c).controller.next s (t.event s)) ts

theorem Turn.possible.enabled {s : Loop Cluster StoryQueue} {t : Turn}
    (h : t.possible s = true) : (storyRules c).controller.enabled s (t.event s) := by
  cases t with
  | handle k =>
    have hq : k ∈ s.queue.waiting := of_decide_eq_true h
    exact ⟨hq, Api.good_allOk⟩
  | write k w =>
    have hwds : (s.state.putWorkload k w).wds = s.state.wds := by
      cases w <;> rfl
    refine ⟨hwds, ?_, ?_⟩
    · intro j hj
      exact absurd (s.state.getWD_putWorkload k j w) hj
    · intro t _ j hj
      obtain ⟨wd, hmem, rfl, _⟩ := mem_findWDsForWorkload.mp hj
      rw [hwds] at hmem
      exact List.mem_map_of_mem hmem
  | pass d =>
    have hd : 0 ≤ d := of_decide_eq_true h
    change s.clock ≤ s.clock + d
    omega
  | fire k =>
    have h : (s.queue.timers k).any (fun t => decide (t ≤ s.clock)) = true := h
    cases ht : s.queue.timers k with
    | none =>
      rw [ht] at h
      cases h
    | some t =>
      rw [ht] at h
      exact ⟨k, t, ht, of_decide_eq_true h, rfl⟩

theorem possible.playable {s : Loop Cluster StoryQueue} {ts : List Turn}
    (h : possible c s ts = true) : Playable (storySystem c) s (ts.map Turn.event) := by
  induction ts generalizing s with
  | nil => trivial
  | cons t ts ih =>
    simp only [possible, Bool.and_eq_true] at h
    exact ⟨⟨Turn.possible.enabled h.1.1, h.1.2⟩, ih h.2⟩

theorem storySystem_idles (s : Loop Cluster StoryQueue) :
    (storySystem c).enabled s (.pass s.clock) ∧ (storySystem c).next s (.pass s.clock) = s := by
  refine ⟨⟨le_refl s.clock, ?_⟩, rfl⟩
  simp [onTime]

def storyPlay {ts : List Turn} (h : possible c (storyStart c) ts = true) : Run (storySystem c) :=
  Run.ofScript (storyStart_init c) (ts.map Turn.event) (possible.playable h)
    (fun s => .pass s.clock) storySystem_idles

def relaxed (r : Run (storySystem c)) : Run (storyRules c).controller.system where
  state := r.state
  event := r.event
  start := r.start
  valid n := (r.valid n).1
  step := r.step

def quickObject : WorkloadDependency where
  name := "web-needs-db"
  ns := "default"
  generation := 1
  deletionTimestamp := none
  finalizers := [finalizerName]
  annotationPaused := none
  spec := ⟨⟨"Deployment", "web", ""⟩, [⟨"StatefulSet", "db", "", ⟨0, second, second⟩⟩], ⟨0⟩,
    .strict, none⟩
  status := .empty

def quickCluster : Cluster := (demoWorld quickObject (.deployment ⟨some 3, 3⟩)).cluster

/-- An outage of `db` has `web` suspended, an override is reverted, and after the recovery klink
looks at the healthy object three times. -/
def quickTurns : List Turn :=
  [.handle demoKey, .handle demoKey, .pass second, .fire demoKey, .handle demoKey, .handle demoKey,
    .write webKey (.deployment ⟨some 2, 0⟩), .handle demoKey, .handle demoKey, .pass (15 * second),
    .fire demoKey, .write dbKey (demoDb 1), .handle demoKey, .handle demoKey, .pass second,
    .fire demoKey, .handle demoKey, .handle demoKey, .pass (15 * second), .fire demoKey,
    .handle demoKey, .pass (15 * second), .fire demoKey, .handle demoKey, .pass (15 * second)]

theorem quickTurns_possible :
    possible quickCluster (storyStart quickCluster) quickTurns = true := by
  decide +kernel

def quickRun : Run (storyRules quickCluster).controller.system :=
  relaxed (storyPlay quickTurns_possible)

end Story

theorem unqueued_is_current_quick :
    ∃ wd, (quickRun.state 6).state.getWD demoKey = some wd ∧ wd.status.phase = .suspended ∧
      ∃ j api, LeftAlone quickRun demoKey wd j 6 api := by
  have hphase : ((quickRun.state 6).state.getWD demoKey).map (·.status.phase) =
      some .suspended := by decide +kernel
  obtain ⟨wd, hwd, hp⟩ := Option.map_eq_some_iff.mp hphase
  have hq : demoKey ∉ (quickRun.state 6).queue.waiting := by decide +kernel
  exact ⟨wd, hwd, hp, unqueued_is_current quickRun hq hwd⟩

/-- What an object, its dependent `w` and its dependencies look like when a Reconcile at `now`
that succeeds leaves all of them as they are. -/
inductive Resting (wd : WorkloadDependency) (w : WorkloadObject) (now : Int) : Bool → Prop where
  | watching {ok} : ¬ wd.enforces → (ok = true → wd.status.phase = .healthy) →
      (ok = false → wd.status.phase = .degraded ∨ wd.status.phase = .observed) →
      Resting wd w now ok
  | healthy : wd.status.phase = .healthy → wd.status.degradedSince = none →
      wd.status.healthySince = none → Resting wd w now true
  | recovering {since} : wd.status.phase = .suspended → wd.status.healthySince = some since →
      timeSince now since < recoveryWindow wd → Resting wd w now true
  | deferred : w.isProgressing = true → wd.status.phase = .degraded → Resting wd w now false
  | degraded {since} : w.isProgressing = false → wd.status.phase ≠ .suspended →
      wd.status.phase ≠ .released → wd.status.degradedSince = some since →
      timeSince now since < degradedWindow wd → Resting wd w now false
  | released : wd.status.phase = .released → Resting wd w now false
  | held {since} : wd.status.phase = .suspended → wd.status.suspendedAt = some since →
      timeSince now since < wd.spec.onDegraded.maxSuspendDuration → Resting wd w now false
  | suspended : wd.status.phase = .suspended → wd.spec.onDegraded.maxSuspendDuration ≤ 0 →
      (wd.spec.mode = .strict → needsEnforce w = false) → Resting wd w now false

section Rest

variable {wd : WorkloadDependency} {w : WorkloadObject} {now : Int} {ok : Bool} {d : Deed}
  {phase : DependencyPhase} {caller : Memory}

theorem Move.resting_waiting (hm : Move wd w now ok d none) : Resting wd w now ok := by
  cases hm with
  | hold _ _ hp hs _ ht => exact .held hp hs ht
  | awaitRecovery _ hp hs ht => exact .recovering hp hs ht
  | awaitWindow _ hg hp hr hs ht => exact .degraded hg hp hr hs ht

theorem Move.resting_written (hm : Move wd w now ok d (some (phase, caller)))
    (hobj : d.object wd.status.savedReplicas w = w)
    (hmem : wd.memory = Memory.write now phase caller caller) : Resting wd w now ok := by
  have hphase : wd.status.phase = phase := congrArg Memory.phase hmem
  cases hm with
  | defer hg => exact .deferred hg hphase
  | watch he hyes hno =>
    refine .watching he ?_ ?_
    · intro hk
      rw [hphase]
      exact hyes hk
    · intro hk
      rw [hphase]
      exact hno hk
  | stayReleased _ _ hp => exact .released hp
  | release _ _ hp => cases hphase.symm.trans hp
  | stay _ _ hp hmax hstrict =>
    have hstamp : wd.status.suspendedAt ≠ none := by
      have hat : wd.status.suspendedAt = some _ := congrArg Memory.suspendedAt hmem
      rw [hat]
      exact Option.some_ne_none _
    exact .suspended hp (hmax.resolve_left hstamp) hstrict
  | enforce _ _ _ _ _ hn =>
    have hdown : w.isDown = true := by
      rw [← hobj]
      exact Deed.object_suspend_isDown _ _
    cases (needsEnforce_of_isDown hdown).symm.trans hn
  | healthy =>
    have hd : wd.status.degradedSince = none := congrArg Memory.degradedSince hmem
    have hh : wd.status.healthySince = none := congrArg Memory.healthySince hmem
    exact .healthy hphase hd hh
  | startRecovery _ _ hn =>
    have hh : wd.status.healthySince = some _ := congrArg Memory.healthySince hmem
    cases hn.symm.trans hh
  | recover _ hp => cases hphase.symm.trans hp
  | degrade _ _ _ _ hn =>
    have hd : wd.status.degradedSince = some _ := congrArg Memory.degradedSince hmem
    cases hn.symm.trans hd
  | suspend _ _ hp => exact absurd hphase hp

variable {Q : Type*} {R : LoopRules Q} {k : NamespacedName} {i : ℕ}

/-- While every call succeeds, an object out of the queue is where it should be: healthy without a
trace, waiting for a window that had not ended, released, or suspended with its dependent down. -/
theorem unqueued_is_settled (r : Run R.controller.system)
    (hok : ∀ c k api, R.calls c k api → api.AllOk) (hq : ¬ R.controller.Queued (r.state i) k)
    (hg : (r.state i).state.getWD k = some wd) (hd : wd.deletionTimestamp = none)
    (hf : wd.containsFinalizer = true) (hp : wd.isPaused = false)
    (hw : (r.state i).state.dependent wd = some w) :
    ∃ j api ok, LeftAlone r k wd j i api ∧ (ok = true ↔ AllWell (r.state j).state wd) ∧
      Resting wd w (r.state j).clock ok := by
  obtain ⟨j, hj⟩ := exists_current hq hg
  obtain ⟨api, hleft⟩ := leftAlone_of_current hj hq hg
  have hv := r.valid j
  rw [hleft.call] at hv
  have hall : api.AllOk := hok _ _ _ hv.2
  have hj : j ≤ i := Nat.le_of_lt hleft.before
  have hobject := hleft.object j (le_refl j) hj
  have hdep : (r.state j).state.dependent wd = some w := (hleft.dependent j (le_refl j) hj).trans hw
  obtain ⟨ev, wd', d, write, hs, hget, _, hm, hafter, hmem⟩ :=
    reconcile_moves (r.state j).clock hall hobject hd hf hp hdep
  have hnext : (r.state (j + 1)).state =
      (r.state j).state.reconciled api (r.state j).clock k := by
    rw [r.step j, hleft.call]
    rfl
  have hsame := hleft.object (j + 1) (Nat.le_succ j) hleft.before
  rw [hnext] at hsame
  obtain rfl : wd' = wd := Option.some.inj (hget.symm.trans hsame)
  have hobj : d.object wd'.status.savedReplicas w = w := by
    have hkept := (hleft.dependent (j + 1) (Nat.le_succ j) hleft.before).trans hw
    rw [hnext, hafter] at hkept
    exact Option.some.inj hkept
  refine ⟨j, api, ev.allOk, hleft, evaluateDependencies_allOk (sighting_evaluation hs hobject), ?_⟩
  cases write with
  | none => exact hm.resting_waiting
  | some q => exact hm.resting_written hobj hmem

end Rest

theorem unqueued_is_settled_quick :
    ∃ wd w, (quickRun.state 6).state.getWD demoKey = some wd ∧ wd.status.phase = .suspended ∧
      w.getReplicas = 0 ∧ ∃ j api ok, LeftAlone quickRun demoKey wd j 6 api ∧
        (ok = true ↔ AllWell (quickRun.state j).state wd) ∧
        Resting wd w (quickRun.state j).clock ok := by
  have hstate : ((quickRun.state 6).state.getWD demoKey).map (fun wd =>
      (wd.status.phase, wd.deletionTimestamp, wd.containsFinalizer, wd.isPaused,
        (quickRun.state 6).state.dependent wd)) =
      some (.suspended, none, true, false, some (.deployment ⟨some 0, 3⟩)) := by decide +kernel
  obtain ⟨wd, hwd, hp⟩ := Option.map_eq_some_iff.mp hstate
  obtain ⟨hphase, hd, hf, hu, hw⟩ : wd.status.phase = .suspended ∧ wd.deletionTimestamp = none ∧
      wd.containsFinalizer = true ∧ wd.isPaused = false ∧
      (quickRun.state 6).state.dependent wd = some (.deployment ⟨some 0, 3⟩) := by
    simpa using hp
  have hq : demoKey ∉ (quickRun.state 6).queue.waiting := by decide +kernel
  exact ⟨wd, _, hwd, hphase, rfl,
    unqueued_is_settled quickRun (fun _ _ _ h => h) hq hwd hd hf hu hw⟩

end Klink
