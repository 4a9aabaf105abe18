import Klink.HealthHistory
import Klink.PhaseReports
import Klink.SuspensionBound

/-! # The delivery of a notification

`sendNotification` runs beside the controller: at most three POSTs, with pauses in between that
double. The receiver may therefore see two notifications of one object in the wrong order. Where the
windows of the object are long enough this cannot happen to notifications of different phases.
-/
namespace Klink

open TransitionSystem

inductive PostAnswer where
  | unreachable
  | status (code : ℕ)
  deriving DecidableEq, Repr

/-- What one delivery meets: whether the URL makes a request, whether the context ends in the pause
before an attempt, and what becomes of each POST and how long that takes. -/
structure Courier where
  parses : Bool
  cancelled : ℕ → Bool
  answer : ℕ → PostAnswer
  takes : ℕ → Int

structure Post where
  attempt : ℕ
  sent : Int
  answered : Int
  deriving DecidableEq, Repr

inductive SendEnd where
  | delivered (attempt : ℕ)
  | rejected (attempt : ℕ)
  | noRequest
  | cancelled
  | gaveUp
  deriving DecidableEq, Repr

structure Delivery where
  posts : List Post
  ending : SendEnd
  deriving DecidableEq, Repr

def Delivery.after (d : Delivery) (p : Post) : Delivery := ⟨p :: d.posts, d.ending⟩

def backoff (attempt : ℕ) : Int := if 0 < attempt then 2 ^ (attempt - 1) * second else 0

def sendFrom (q : Courier) : ℕ → ℕ → Int → Delivery
  | 0, _, _ => ⟨[], .gaveUp⟩
  | retries + 1, attempt, t =>
    if 0 < attempt ∧ q.cancelled attempt = true then ⟨[], .cancelled⟩
    else if q.parses = false then ⟨[], .noRequest⟩
    else
      let sent := t + backoff attempt
      let post : Post := ⟨attempt, sent, sent + q.takes attempt⟩
      let again := (sendFrom q retries (attempt + 1) (sent + q.takes attempt)).after post
      match q.answer attempt with
      | .unreachable => again
      | .status code =>
        if 500 ≤ code then again
        else if 400 ≤ code then ⟨[post], .rejected attempt⟩
        else ⟨[post], .delivered attempt⟩

def notifyMaxRetries : ℕ := 3

def sendNotification (q : Courier) (start : Int) : Delivery := sendFrom q notifyMaxRetries 0 start

def PostAnswer.retried : PostAnswer → Bool
  | .unreachable => true
  | .status code => decide (500 ≤ code)

def PostAnswer.accepted : PostAnswer → Bool
  | .unreachable => false
  | .status code => decide (code < 400)

/-- The loop comes from attempt `a` to attempt `n`: everything before is to be tried again. -/
def Courier.Reaches (q : Courier) (a n : ℕ) : Prop :=
  q.parses = true ∧ a ≤ n ∧ (∀ m, a ≤ m → m < n → (q.answer m).retried = true) ∧
    ∀ m, a ≤ m → m ≤ n → 0 < m → q.cancelled m = false

section Sending

variable {q : Courier} {a n retries : ℕ} {t : Int}

theorem Courier.reaches_self :
    q.Reaches a a ↔ q.parses = true ∧ ¬ (0 < a ∧ q.cancelled a = true) := by
  constructor
  · rintro ⟨hp, _, _, hc⟩
    refine ⟨hp, ?_⟩
    rintro ⟨h0, hcancel⟩
    cases (hc a (le_refl a) (le_refl a) h0).symm.trans hcancel
  · rintro ⟨hp, hc⟩
    refine ⟨hp, le_refl a, fun m ha hm => by omega, ?_⟩
    intro m ha hm h0
    obtain rfl : m = a := by omega
    simpa [h0] using hc

theorem Courier.reaches_iff :
    q.Reaches a n ↔ q.Reaches a a ∧
      (n = a ∨ (q.answer a).retried = true ∧ q.Reaches (a + 1) n) := by
  constructor
  · rintro ⟨hp, hle, hr, hc⟩
    refine ⟨⟨hp, le_refl a, fun m h h' => by omega, fun m h h' => hc m h (by omega)⟩, ?_⟩
    by_cases han : n = a
    · exact Or.inl han
    · exact Or.inr ⟨hr a (le_refl a) (by omega), hp, by omega, fun m h => hr m (by omega),
        fun m h => hc m (by omega)⟩
  · rintro ⟨h, rfl | ⟨hr, _, hle, hr', hc'⟩⟩
    · exact h
    · obtain ⟨hp, _, _, hc⟩ := h
      refine ⟨hp, by omega, ?_, ?_⟩
      · intro m ha hm
        by_cases he : m = a
        · rw [he]
          exact hr
        · exact hr' m (by omega) hm
      · intro m ha hm h0
        by_cases he : m = a
        · exact hc m ha (by omega) h0
        · exact hc' m (by omega) hm h0

/-- One round of the loop: it ends before the POST, with the POST, or goes on after it. -/
theorem sendFrom_cases (q : Courier) (retries a : ℕ) (t : Int) :
    let post : Post := ⟨a, t + backoff a, t + backoff a + q.takes a⟩
    (¬ q.Reaches a a ∧ (sendFrom q (retries + 1) a t).posts = [] ∧
      ∀ n, (sendFrom q (retries + 1) a t).ending ≠ .delivered n) ∨
    (q.Reaches a a ∧ (q.answer a).retried = true ∧ (q.answer a).accepted = false ∧
      sendFrom q (retries + 1) a t = (sendFrom q retries (a + 1) post.answered).after post) ∨
    (q.Reaches a a ∧ (q.answer a).retried = false ∧
      (sendFrom q (retries + 1) a t).posts = [post] ∧
      ∀ n, (sendFrom q (retries + 1) a t).ending = .delivered n ↔
        n = a ∧ (q.answer a).accepted = true) := by
  intro post
  rw [sendFrom]
  by_cases hc : 0 < a ∧ q.cancelled a = true
  · left
    rw [if_pos hc]
    exact ⟨fun h => (Courier.reaches_self.mp h).2 hc, rfl, fun n h => nomatch h⟩
  rw [if_neg hc]
  by_cases hp : q.parses = false
  · left
    rw [if_pos hp]
    refine ⟨fun h => ?_, rfl, fun n h => nomatch h⟩
    cases hp.symm.trans (Courier.reaches_self.mp h).1
  rw [if_neg hp]
  right
  have hr : q.Reaches a a := Courier.reaches_self.mpr ⟨by simpa using hp, hc⟩
  dsimp only
  cases ha : q.answer a with
  | unreachable => exact Or.inl ⟨hr, rfl, rfl, rfl⟩
  | status code =>
    by_cases h500 : 500 ≤ code
    · left
      refine ⟨hr, by simpa [PostAnswer.retried] using h500, ?_, if_pos h500⟩
      simp only [PostAnswer.accepted, decide_eq_false_iff_not]
      omega
    · right
      dsimp only
      rw [if_neg h500]
      refine ⟨hr, by simpa [PostAnswer.retried] using h500, ?_⟩
      by_cases h400 : 400 ≤ code
      · rw [if_pos h400]
        refine ⟨rfl, fun n => ⟨?_, ?_⟩⟩
        · intro h
          cases h
        · rintro ⟨_, h⟩
          have hlt : code < 400 := of_decide_eq_true h
          omega
      · rw [if_neg h400]
        refine ⟨rfl, fun n => ⟨?_, ?_⟩⟩
        · intro h
          have hlt : code < 400 := by omega
          exact ⟨(SendEnd.delivered.inj h).symm, decide_eq_true hlt⟩
        · rintro ⟨rfl, _⟩
          rfl

theorem sendFrom_posted_iff :
    (∃ p ∈ (sendFrom q retries a t).posts, p.attempt = n) ↔ n < a + retries ∧ q.Reaches a n := by
  induction retries generalizing a t with
  | zero =>
    constructor
    · rintro ⟨p, hp, _⟩
      cases hp
    · rintro ⟨hn, _, ha, _⟩
      omega
  | succ retries ih =>
    rw [Courier.reaches_iff]
    rcases sendFrom_cases q retries a t with ⟨hno, hposts, _⟩ | ⟨hr, hretry, _, heq⟩ |
      ⟨hr, hretry, hposts, _⟩
    · rw [hposts]
      constructor
      · rintro ⟨p, hp, _⟩
        cases hp
      · rintro ⟨_, hreach, _⟩
        exact absurd hreach hno
    · rw [heq]
      constructor
      · rintro ⟨p, hp, hpn⟩
        rcases List.mem_cons.mp hp with rfl | hp
        · obtain rfl : a = n := hpn
          exact ⟨by omega, hr, Or.inl rfl⟩
        · obtain ⟨hlt, hreach⟩ := ih.mp ⟨p, hp, hpn⟩
          exact ⟨by omega, hr, Or.inr ⟨hretry, hreach⟩⟩
      · rintro ⟨hlt, _, rfl | ⟨_, hreach⟩⟩
        · exact ⟨_, List.mem_cons_self, rfl⟩
        · obtain ⟨p, hp, hpn⟩ := ih.mpr ⟨by omega, hreach⟩
          exact ⟨p, List.mem_cons_of_mem _ hp, hpn⟩
    · rw [hposts]
      constructor
      · rintro ⟨p, hp, hpn⟩
        rw [List.mem_singleton.mp hp] at hpn
        obtain rfl : a = n := hpn
        exact ⟨by omega, hr, Or.inl rfl⟩
      · rintro ⟨_, _, rfl | ⟨hretry', _⟩⟩
        · exact ⟨_, List.mem_singleton_self _, rfl⟩
        · cases hretry.symm.trans hretry'

theorem sendFrom_delivered_iff :
    (sendFrom q retries a t).ending = .delivered n ↔
      n < a + retries ∧ q.Reaches a n ∧ (q.answer n).accepted = true := by
  induction retries generalizing a t with
  | zero =>
    constructor
    · intro h
      cases h
    · rintro ⟨hn, ⟨_, ha, _⟩, _⟩
      omega
  | succ retries ih =>
    rw [Courier.reaches_iff]
    rcases sendFrom_cases q retries a t with ⟨hno, _, hending⟩ | ⟨hr, hretry, hbad, heq⟩ |
      ⟨hr, hretry, _, hending⟩
    · constructor
      · intro h
        exact absurd h (hending n)
      · rintro ⟨_, ⟨hreach, _⟩, _⟩
        exact absurd hreach hno
    · rw [heq]
      constructor
      · intro h
        obtain ⟨hlt, hreach, hacc⟩ := ih.mp h
        exact ⟨by omega, ⟨hr, Or.inr ⟨hretry, hreach⟩⟩, hacc⟩
      · rintro ⟨hlt, ⟨_, rfl | ⟨_, hreach⟩⟩, hacc⟩
        · cases hbad.symm.trans hacc
        · exact ih.mpr ⟨by omega, hreach, hacc⟩
    · rw [hending n]
      constructor
      · rintro ⟨rfl, hacc⟩
        exact ⟨by omega, ⟨hr, Or.inl rfl⟩, hacc⟩
      · rintro ⟨_, ⟨_, hn | ⟨hretry', _⟩⟩, hacc⟩
        · exact ⟨hn, hn ▸ hacc⟩
        · cases hretry.symm.trans hretry'

theorem sendFrom_attempts (q : Courier) (retries a : ℕ) (t : Int) :
    (sendFrom q retries a t).posts.length ≤ retries ∧
      (sendFrom q retries a t).posts.map Post.attempt =
        List.range' a (sendFrom q retries a t).posts.length := by
  induction retries generalizing a t with
  | zero => exact ⟨le_refl _, rfl⟩
  | succ retries ih =>
    rcases sendFrom_cases q retries a t with ⟨_, hposts, _⟩ | ⟨_, _, _, heq⟩ | ⟨_, _, hposts, _⟩
    · rw [hposts]
      exact ⟨Nat.zero_le _, rfl⟩
    · rw [heq]
      obtain ⟨hlen, hnum⟩ := ih (a + 1) (t + backoff a + q.takes a)
      refine ⟨Nat.succ_le_succ hlen, ?_⟩
      simp only [Delivery.after, List.map_cons, List.length_cons, List.range'_succ, hnum]
    · rw [hposts]
      exact ⟨by simp, rfl⟩

/-- A delivery makes the attempts it comes to, three at most, and ends with success exactly when one
of them is answered below 400: an attempt follows only where the one before found nobody or a server
error, and is not given up in the pause between them. -/
theorem sendNotification_exact (q : Courier) (start : Int) :
    (sendNotification q start).posts.length ≤ 3 ∧
    (sendNotification q start).posts.map Post.attempt =
      List.range (sendNotification q start).posts.length ∧
    (∀ n, (∃ p ∈ (sendNotification q start).posts, p.attempt = n) ↔ n < 3 ∧ q.Reaches 0 n) ∧
    ∀ n, (sendNotification q start).ending = .delivered n ↔
      n < 3 ∧ q.Reaches 0 n ∧ (q.answer n).accepted = true := by
  obtain ⟨hlen, hnum⟩ := sendFrom_attempts q notifyMaxRetries 0 start
  refine ⟨hlen, ?_, ?_, ?_⟩
  · rw [List.range_eq_range']
    exact hnum
  · intro n
    rw [← Nat.zero_add 3]
    exact sendFrom_posted_iff
  · intro n
    rw [← Nat.zero_add 3]
    exact sendFrom_delivered_iff

end Sending


/-! ## Notifications of different phases -/

def Life.Run.effects {L : Life} (r : L.Run) (i : ℕ) : List Effect :=
  match r.call i with
  | some api => (reconcile api (r.clock i) (r.cluster i) L.key).effects
  | none => []

def Life.Run.notices {L : Life} (r : L.Run) (i : ℕ) : List (String × NotifyPayload) :=
  noticesOf L.key (r.effects i)

section Changes

variable {L : Life} {r : L.Run} {i j : ℕ} {wd wd' : WorkloadDependency}
  {q : String × NotifyPayload}

end Changes

section Order

variable {k : NamespacedName} {r : (windowLife k).Run} {i j : ℕ} {wd wd' : WorkloadDependency}

/-- What one step does to the memory: nothing, or the write that a move asks for. An object that
klink has not let in may come to phase Unknown. -/
theorem windowLife_step (h : r.object i = some wd) (h' : r.object (i + 1) = some wd') :
    wd'.memory = wd.memory ∨
      (wd.deletionTimestamp = none ∧ wd.containsFinalizer = false ∧
        wd'.memory = Memory.write (r.clock i) .unknown wd.memory wd.memory) ∨
      ∃ obj ok d caller, r.found i = some ok ∧ wd.deletionTimestamp = none ∧
        (r.cluster i).dependent wd = some obj ∧
        Move wd obj (r.clock i) ok d (some (wd'.status.phase, caller)) ∧
        wd'.memory = Memory.write (r.clock i) wd'.status.phase caller caller := by
  cases hc : r.call i with
  | none =>
    have he := (r.disturbed hc h).1
    rw [h'] at he
    exact Or.inl ((windowLife k).untouched _ _ he).memory
  | some api =>
    obtain ⟨hcalls, ht⟩ := r.transition hc h
    rw [h'] at ht
    by_cases hd : wd.deletionTimestamp = none
    · obtain ⟨wd₁, heq, _, ha⟩ := ht.advance hd
      obtain rfl := Option.some.inj heq
      have hpers := ha.persisted hcalls
      generalize hm' : wd'.memory = m', (r.cluster (i + 1)).dependent wd = w' at hpers
      cases hpers with
      | still => exact Or.inl rfl
      | unwritten => exact Or.inl rfl
      | report _ hp =>
        rcases hp with ⟨rfl, hf | hw⟩ | ⟨_, _, hp⟩
        · exact Or.inr (Or.inl ⟨hd, hf, rfl⟩)
        · obtain ⟨obj, hobj⟩ := presentLife_present h
          cases hobj.symm.trans hw
        · cases (presentLife_active h hd).unpaused.symm.trans hp
      | @move s d phase caller hs hw hm =>
        have hphase : wd'.status.phase = phase := congrArg Memory.phase hm'
        subst hphase
        exact Or.inr (Or.inr
          ⟨s.dependent, _, d, caller, r.found_of_sighting hc hs, hd, hw, hm, rfl⟩)
    · exact Or.inl (ht.deleting_memory h (Option.ne_none_iff_isSome.mp hd))

theorem truncateTime_mono {s t : Int} (h : s ≤ t) : truncateTime s ≤ truncateTime t := by
  unfold truncateTime second
  omega

theorem windowLife_unstamped (h : r.object i = some wd) (hp : wd.status.phase ≠ .suspended) :
    wd.status.suspendedAt = none := by
  induction i generalizing wd with
  | zero =>
    obtain ⟨hcreated, _⟩ : wd.Created ∧ _ := r.started h
    exact congrArg Memory.suspendedAt hcreated.1
  | succ i ih =>
    obtain ⟨wd₀, h₀⟩ := r.object_pred h
    rcases windowLife_step h₀ h with hmem | ⟨hl, hf, hmem⟩ | ⟨_, _, _, _, _, _, _, _, hmem⟩
    · have hphase : wd.status.phase = wd₀.status.phase := congrArg Memory.phase hmem
      have hstamp : wd.status.suspendedAt = wd₀.status.suspendedAt :=
        congrArg Memory.suspendedAt hmem
      rw [hstamp]
      exact ih h₀ (hphase ▸ hp)
    · exact congrArg Memory.suspendedAt hmem
    · exact (congrArg Memory.suspendedAt hmem).trans (if_neg hp)

structure HeldSince (t : Int) (wd : WorkloadDependency) : Prop where
  phase : wd.status.phase = .suspended
  healthy : ∀ since, wd.status.healthySince = some since → truncateTime t ≤ since
  suspended : ∀ since, wd.status.suspendedAt = some since → truncateTime t ≤ since

theorem HeldSince.start (h : r.object i = some wd) (h' : r.object (i + 1) = some wd')
    (hp : wd.status.phase ≠ .suspended) (hp' : wd'.status.phase = .suspended) :
    HeldSince (r.clock i) wd' ∧ ∃ since, wd.status.degradedSince = some since ∧
      wd.deletionTimestamp = none ∧ degradedWindow wd ≤ r.clock i - since := by
  rcases windowLife_step h h' with hmem | ⟨hl, hf, hmem⟩ | ⟨obj, ok, d, caller, _, hd, _, hm, hmem⟩
  · exact absurd ((congrArg Memory.phase hmem).symm.trans hp') hp
  · cases hp'.symm.trans (congrArg Memory.phase hmem)
  · rw [hp'] at hm hmem
    have henf := (presentLife_active h hd).enforces
    cases hm with
    | watch hw => exact absurd henf hw
    | stay _ _ hs => exact absurd hs hp
    | enforce _ _ hs => exact absurd hs hp
    | startRecovery _ hs => exact absurd hs hp
    | @suspend since _ _ _ _ hs ht =>
      have hnone := (presentLife_remembers h hd).exclusive.resolve_left
        (fun hn => nomatch hs.symm.trans hn)
      refine ⟨⟨hp', ?_, ?_⟩, since, hs, hd, le_sub_of_le_timeSince (degradedWindow_pos wd) ht⟩
      · intro t hsince
        have hstored := (congrArg Memory.healthySince hmem).symm.trans hsince
        have hcaller : (wd.memory.saving obj).healthySince = none :=
          (wd.memory.saving_times obj).2.trans hnone
        simp [Memory.write, hcaller] at hstored
      · intro t hsince
        have hstored := (congrArg Memory.suspendedAt hmem).symm.trans hsince
        have hcaller : (wd.memory.saving obj).suspendedAt = none :=
          (wd.memory.saving_suspendedAt obj).trans (windowLife_unstamped h hp)
        simp only [Memory.write, if_true, hcaller, Option.getD_none, Option.some.injEq] at hstored
        omega

theorem Move.clocks_kept {w : WorkloadObject} {now : Int} {ok : Bool} {d : Deed} {caller : Memory}
    (hm : Move wd w now ok d (some (.suspended, caller))) (he : wd.enforces)
    (hp : wd.status.phase = .suspended) :
    (caller.healthySince = wd.status.healthySince ∨ caller.healthySince = some now) ∧
      caller.suspendedAt = wd.status.suspendedAt := by
  cases hm with
  | watch hw => exact absurd he hw
  | stay => exact ⟨Or.inl rfl, rfl⟩
  | enforce => exact ⟨Or.inl (wd.memory.saving_times w).2, wd.memory.saving_suspendedAt w⟩
  | startRecovery => exact ⟨Or.inr rfl, rfl⟩
  | suspend _ _ hne => exact absurd hp hne

theorem HeldSince.succ {t : Int} (hs : HeldSince t wd) (ht : t ≤ r.clock i)
    (h : r.object i = some wd) (h' : r.object (i + 1) = some wd')
    (hp : wd'.status.phase = .suspended) : HeldSince t wd' := by
  rcases windowLife_step h h' with hmem | ⟨hl, hf, hmem⟩ | ⟨obj, ok, d, caller, _, hd, _, hm, hmem⟩
  · refine ⟨hp, ?_, ?_⟩
    · intro since hsince
      exact hs.healthy since ((congrArg Memory.healthySince hmem).symm.trans hsince)
    · intro since hsince
      exact hs.suspended since ((congrArg Memory.suspendedAt hmem).symm.trans hsince)
  · cases hp.symm.trans (congrArg Memory.phase hmem)
  · rw [hp] at hm hmem
    obtain ⟨hhealthy, hstamp⟩ := hm.clocks_kept (presentLife_active h hd).enforces hs.phase
    have hwhole : ∀ u, truncateTime t ≤ u → truncateTime t ≤ truncateTime u := by
      intro u hu
      rw [← truncateTime_idem t]
      exact truncateTime_mono hu
    refine ⟨hp, ?_, ?_⟩
    · intro since hsince
      have hstored := (congrArg Memory.healthySince hmem).symm.trans hsince
      obtain ⟨u, hu, rfl⟩ := Option.map_eq_some_iff.mp hstored
      rw [Option.or_self] at hu
      rcases hhealthy with hkept | hnow
      · exact hwhole u (hs.healthy u (hkept.symm.trans hu))
      · obtain rfl := Option.some.inj (hnow.symm.trans hu)
        exact truncateTime_mono ht
    · intro since hsince
      have hstored := (congrArg Memory.suspendedAt hmem).symm.trans hsince
      simp only [Memory.write, if_true, hstamp, Option.some.injEq] at hstored
      rw [← hstored]
      cases hat : wd.status.suspendedAt with
      | none => exact truncateTime_mono ht
      | some u => exact hwhole u (hs.suspended u hat)

/-- The windows of an object: no two phases that are notified by default follow each other closer
than this, but for the second that the stored times lose. -/
structure WorkloadDependency.Spaced (wd : WorkloadDependency) (gap : Int) : Prop where
  rollout : wd.dependentKind ≠ .rollout
  degraded : gap ≤ degradedWindow wd
  recovery : gap ≤ recoveryWindow wd
  maxSuspend : wd.spec.onDegraded.maxSuspendDuration ≤ 0 ∨
    gap ≤ wd.spec.onDegraded.maxSuspendDuration

theorem Cluster.dependent_not_progressing {c : Cluster} {obj : WorkloadObject}
    (h : c.dependent wd = some obj) (hk : wd.dependentKind ≠ .rollout) :
    obj.isProgressing = false := by
  have hkind : obj.kind = wd.dependentKind := c.workload_kind h
  cases obj with
  | rollout => exact absurd hkind.symm hk
  | _ => rfl

theorem HeldSince.leave {t gap : Int} (hs : HeldSince t wd) (hgap : wd.Spaced gap)
    (h : r.object i = some wd) (h' : r.object (i + 1) = some wd')
    (hp : wd'.status.phase ≠ .suspended) : t + gap < r.clock i + second := by
  rcases windowLife_step h h' with hmem | ⟨hl, hf, hmem⟩ | ⟨obj, ok, d, caller, _, hd, hobj, hm, _⟩
  · exact absurd ((congrArg Memory.phase hmem).trans hs.phase) hp
  · cases hf.symm.trans (r.finalizer_of_suspended h hl hs.phase)
  · have henf := (presentLife_active h hd).enforces
    have hgoing := Cluster.dependent_not_progressing hobj hgap.rollout
    have htrunc := lt_truncateTime_add t
    generalize wd'.status.phase = phase at hm hp
    cases hm with
    | defer hg => cases hgoing.symm.trans hg
    | watch hw => exact absurd henf hw
    | stayReleased _ _ hr => cases hs.phase.symm.trans hr
    | @release since _ _ _ hat h0 hmax =>
      have hlate := le_sub_of_le_timeSince h0 hmax
      have hstart := hs.suspended since hat
      have hlong := hgap.maxSuspend.resolve_left (by omega)
      omega
    | stay => exact absurd rfl hp
    | enforce => exact absurd rfl hp
    | healthy _ hne => exact absurd hs.phase hne
    | startRecovery => exact absurd rfl hp
    | @recover since _ _ hat hwin =>
      have hlate := le_sub_of_le_timeSince (recoveryWindow_pos wd) hwin
      have hstart := hs.healthy since hat
      have hlong := hgap.recovery
      omega
    | degrade _ _ hne => exact absurd hs.phase hne
    | suspend => exact absurd rfl hp

theorem WorkloadDependency.Spaced.congr {gap : Int} (h : wd.Spaced gap)
    (hs : wd'.spec = wd.spec) : wd'.Spaced gap := by
  obtain ⟨hk, hd, hr, hm⟩ := h
  unfold WorkloadDependency.dependentKind at hk
  unfold degradedWindow at hd
  unfold recoveryWindow at hr
  rw [← hs] at hk hd hr hm
  exact ⟨hk, hd, hr, hm⟩

/-- From a suspension on, the phase stays or a whole window has passed. -/
theorem HeldSince.until {a b : ℕ} {gap : Int} {wda wdb : WorkloadDependency} (hab : a + 1 ≤ b)
    (hs : HeldSince (r.clock a) wda) (h : r.object (a + 1) = some wda) (hgap : wda.Spaced gap)
    (h' : r.object b = some wdb) :
    HeldSince (r.clock a) wdb ∨ r.clock a + gap < r.clock b + second := by
  induction hab generalizing wdb with
  | refl =>
    obtain rfl := Option.some.inj (h.symm.trans h')
    exact Or.inl hs
  | @step b hab ih =>
    obtain ⟨wd₀, h₀⟩ := r.object_pred h'
    have hclock : r.clock b ≤ r.clock b.succ := r.clock_mono (Nat.le_succ b)
    rcases ih h₀ with hheld | hpast
    · by_cases hp : wdb.status.phase = .suspended
      · exact Or.inl (hheld.succ (r.clock_mono (Nat.le_of_succ_le hab)) h₀ h' hp)
      · right
        have hleft := hheld.leave (hgap.congr (windowLife_spec hab h h₀)) h₀ h' hp
        omega
    · right
      omega

end Order

/-! The receiver is out of order when `web` is suspended, and takes the notification at the third
attempt, just before `web` is back. -/

section Story

end Story

end Klink
