import Klink.ReplicaConservation

/-! # Lost and conflicting writes

A suspension is two writes to two objects. What happens between them, and what a conflict does
to the fields a caller has cleared, decides whether klink still knows what it has taken away.
-/
namespace Klink

open TransitionSystem

theorem updateStatus_after_conflicts {api : Api} (f : WorkloadDependency → WorkloadDependency)
    (latest : ℕ → WorkloadDependency) {n retries : ℕ} (i : ℕ) (wd : WorkloadDependency)
    (hn : n < retries) (hc : ∀ j, i ≤ j → j < i + n →
      api.statusUpdate j = .conflict ∧ api.reread j = some (latest j))
    (hok : api.statusUpdate (i + n) = .ok) :
    (updateStatus api f retries i wd).2 =
      .written (if n = 0 then wd else f (latest (i + n - 1))) := by
  induction n generalizing retries i wd with
  | zero =>
    obtain ⟨retries, rfl⟩ := Nat.exists_eq_succ_of_ne_zero (by omega : retries ≠ 0)
    have hi : api.statusUpdate i = .ok := hok
    simp [updateStatus, hi]
  | succ n ih =>
    obtain ⟨retries, rfl⟩ := Nat.exists_eq_succ_of_ne_zero (by omega : retries ≠ 0)
    obtain ⟨hu, hr⟩ := hc i (le_refl i) (by omega)
    have hlast : api.statusUpdate (i + 1 + n) = .ok := by
      rw [show i + 1 + n = i + (n + 1) by omega]
      exact hok
    have hrest := ih (i + 1) (f (latest i)) (by omega : n < retries)
      (fun j hj hlt => hc j (by omega) (by omega)) hlast
    simp only [updateStatus, hu, hr]
    rw [hrest, if_neg (by omega : n + 1 ≠ 0)]
    by_cases h0 : n = 0
    · subst h0
      simp
    · rw [if_neg h0, show i + 1 + n - 1 = i + (n + 1) - 1 by omega]

structure WorkloadDependencyStatus.Carries (st : WorkloadDependencyStatus)
    (phase : DependencyPhase) (msg : String) (caller : WorkloadDependencyStatus) : Prop where
  phase : st.phase = phase
  message : st.message = msg
  savedReplicas : st.savedReplicas = caller.savedReplicas
  degradedSince : st.degradedSince = caller.degradedSince.map truncateTime
  healthySince : st.healthySince = caller.healthySince.map truncateTime

structure WorkloadDependencyStatus.Covers (caller latest : WorkloadDependencyStatus) : Prop where
  savedReplicas : caller.savedReplicas = none → latest.savedReplicas = none
  degradedSince : caller.degradedSince = none → latest.degradedSince = none
  healthySince : caller.healthySince = none → latest.healthySince = none

theorem map_or_eq_map_iff {α β : Type*} (f : α → β) (a b : Option α) :
    (a.or b).map f = a.map f ↔ (a = none → b = none) := by
  cases a <;> simp

theorem or_eq_self_iff {α : Type*} (a b : Option α) : a.or b = a ↔ (a = none → b = none) := by
  cases a <;> simp

theorem applyFields_persisted (now : Int) (caller : WorkloadDependencyStatus)
    (phase : DependencyPhase) (msg : String) (wd : WorkloadDependency) :
    let st := (applyFields now caller phase msg wd).status.persisted
    st.phase = phase ∧ st.message = msg ∧
      st.savedReplicas = caller.savedReplicas.or wd.status.savedReplicas ∧
      st.degradedSince = (caller.degradedSince.or wd.status.degradedSince).map truncateTime ∧
      st.healthySince = (caller.healthySince.or wd.status.healthySince).map truncateTime := by
  unfold applyFields setCondition
  cases conditionSpec phase <;> exact ⟨rfl, rfl, rfl, rfl, rfl⟩

theorem applyFields_carries_iff (now : Int) (caller : WorkloadDependencyStatus)
    (phase : DependencyPhase) (msg : String) (wd : WorkloadDependency) :
    (applyFields now caller phase msg wd).status.persisted.Carries phase msg caller ↔
      caller.Covers wd.status := by
  obtain ⟨hp, hm, hs, hd, hh⟩ := applyFields_persisted now caller phase msg wd
  constructor
  · intro h
    refine ⟨?_, ?_, ?_⟩
    · exact (or_eq_self_iff _ _).mp (hs.symm.trans h.savedReplicas)
    · exact (map_or_eq_map_iff _ _ _).mp (hd.symm.trans h.degradedSince)
    · exact (map_or_eq_map_iff _ _ _).mp (hh.symm.trans h.healthySince)
  · intro h
    refine ⟨hp, hm, ?_, ?_, ?_⟩
    · exact hs.trans ((or_eq_self_iff _ _).mpr h.savedReplicas)
    · exact hd.trans ((map_or_eq_map_iff _ _ _).mpr h.degradedSince)
    · exact hh.trans ((map_or_eq_map_iff _ _ _).mpr h.healthySince)

/-- A status write that succeeds after `n` conflicts stores what the caller asked for exactly
when the object read last has nothing set that the caller had cleared. -/
theorem setStatus_after_conflicts (c : Cluster) (api : Api) (now : Int) (wd : WorkloadDependency)
    (phase : DependencyPhase) (msg : String) (result : Option Result)
    (latest : ℕ → WorkloadDependency) (n : ℕ) (hn : n < maxRetries)
    (hc : ∀ j < n, api.statusUpdate j = .conflict ∧ api.reread j = some (latest j) ∧
      (latest j).key = wd.key)
    (hok : api.statusUpdate n = .ok) (hs : (c.getWD wd.key).isSome) :
    ∃ w, (c.applyAll (setStatus api now wd phase msg result).effects).getWD wd.key = some w ∧
      (w.status.Carries phase msg wd.status ↔
        n = 0 ∨ wd.status.Covers (latest (n - 1)).status) := by
  obtain ⟨stored, hs⟩ := Option.isSome_iff_exists.mp hs
  have hw : (statusAttempt api now wd phase msg).2 =
      .written (if n = 0 then applyFields now wd.status phase msg wd
        else applyFields now wd.status phase msg (latest (n - 1))) := by
    have h := updateStatus_after_conflicts (applyFields now wd.status phase msg) latest 0
      (applyFields now wd.status phase msg wd) hn
      (fun j _ hj => ⟨(hc j (by omega)).1, (hc j (by omega)).2.1⟩) (by simpa using hok)
    rw [Nat.zero_add] at h
    exact h
  rw [applyAll_setStatus, hw]
  by_cases h0 : n = 0
  · rw [if_pos h0]
    refine ⟨_, Cluster.getWD_putStatus_self hs (applyFields_key ..), ?_⟩
    have hself : wd.status.Covers wd.status := ⟨id, id, id⟩
    exact ⟨fun _ => Or.inl h0, fun _ => (applyFields_carries_iff ..).mpr hself⟩
  · rw [if_neg h0]
    have hk : (latest (n - 1)).key = wd.key := (hc (n - 1) (by omega)).2.2
    refine ⟨_, Cluster.getWD_putStatus_self hs ((applyFields_key ..).trans hk), ?_⟩
    constructor
    · intro h
      exact Or.inr ((applyFields_carries_iff ..).mp h)
    · intro h
      exact (applyFields_carries_iff ..).mpr (h.resolve_left h0)

def conflictOnce (stored : WorkloadDependency) : Api :=
  { Api.good with
    statusUpdate := fun i => if i = 0 then .conflict else .ok
    reread := fun _ => some stored }

def demoDegraded : WorkloadDependency :=
  { demoObject "Deployment" .strict 0 with
    finalizers := [finalizerName]
    status := { WorkloadDependencyStatus.empty with phase := .degraded, degradedSince := some 0 } }

/-- `handleHealthy` has cleared `DegradedSince`, and the retry stores it again. -/
theorem conflict_revives_degradedSince :
    demoDegraded.clearDegraded.status.degradedSince = none ∧
      (((demoWorld demoDegraded (.deployment ⟨some 3, 3⟩)).cluster.applyAll
        (setStatus (conflictOnce demoDegraded) (60 * second) demoDegraded.clearDegraded .healthy
          "all dependencies healthy" none).effects).getWD demoKey).map
        (fun w => (w.status.phase, w.status.degradedSince)) = some (.healthy, some 0) := by
  decide

theorem setStatus_after_one_conflict :
    ∃ w, ((demoWorld demoDegraded (.deployment ⟨some 3, 3⟩)).cluster.applyAll
        (setStatus (conflictOnce demoDegraded) (60 * second) demoDegraded .suspended
          "" none).effects).getWD demoKey = some w ∧
      (w.status.Carries .suspended "" demoDegraded.status ↔
        1 = 0 ∨ demoDegraded.status.Covers demoDegraded.status) :=
  setStatus_after_conflicts (demoWorld demoDegraded (.deployment ⟨some 3, 3⟩)).cluster
    (conflictOnce demoDegraded) (60 * second) demoDegraded .suspended "" none
    (fun _ => demoDegraded) 1 (by decide)
    (fun j hj => ⟨by simp [conflictOnce, Nat.lt_one_iff.mp hj], rfl, rfl⟩) rfl (by decide)

structure Accounted (n : Int32) (m : Memory) (w : WorkloadObject) : Prop where
  kind : w.kind.Plain
  up : m.phase ≠ .suspended → w.getReplicas = n
  held : m.phase = .suspended → m.savedReplicas = some n
  scale : w.getReplicas = n ∨ w.getReplicas = 0
  saved : m.savedReplicas = none ∨ m.savedReplicas = some n

section Accounting

variable {n : Int32} {m : Memory} {w : WorkloadObject}

theorem Accounted.not_cronJob (h : Accounted n m w) : w.kind ≠ .cronJob := h.kind.ne_cronJob

theorem Accounted.not_progressing (h : Accounted n m w) : w.isProgressing = false :=
  h.kind.not_progressing

theorem Accounted.restored (h : Accounted n m w) (hn : n ≠ 0) (hp : m.phase = .suspended) :
    (Deed.restore.object m.savedReplicas w).getReplicas = n := by
  rw [h.held hp, Deed.object_restore_replicas h.not_cronJob, if_neg hn]

theorem Accounted.saving (h : Accounted n m w) (hn : m.phase = .suspended ∨ n ≠ 0) :
    (m.saving w).savedReplicas = some n := by
  rw [Memory.saving_savedReplicas h.not_cronJob]
  by_cases h0 : w.getReplicas = 0
  · rw [if_pos h0]
    by_cases hp : m.phase = .suspended
    · exact h.held hp
    · exact absurd ((h.up hp).symm.trans h0) (hn.resolve_left hp)
  · rw [if_neg h0, h.scale.resolve_right h0]

theorem Accounted.write {phase : DependencyPhase} {caller base : Memory} (now : Int)
    (hk : w.kind.Plain)
    (hup : phase ≠ .suspended → w.getReplicas = n)
    (hheld : phase = .suspended → caller.savedReplicas = some n)
    (hscale : w.getReplicas = n ∨ w.getReplicas = 0)
    (hc : caller.savedReplicas = none ∨ caller.savedReplicas = some n)
    (hb : base.savedReplicas = none ∨ base.savedReplicas = some n) :
    Accounted n (Memory.write now phase caller base) w := by
  refine ⟨hk, hup, ?_, hscale, ?_⟩
  · intro hp
    simp [Memory.write, hheld hp]
  · rcases hc with hc | hc
    · simpa [Memory.write, hc] using hb
    · exact Or.inr (by simp [Memory.write, hc])

variable {wd : WorkloadDependency} {now : Int} {ok : Bool} {d : Deed}

theorem Move.accounted {phase : DependencyPhase} {caller base : Memory}
    (hm : Move wd w now ok d (some (phase, caller))) (he : wd.enforces) (hn : n ≠ 0)
    (h : Accounted n wd.memory w) (hb : base = caller ∨ base = wd.memory) :
    Accounted n (Memory.write now phase caller base)
      (d.object wd.status.savedReplicas w) := by
  have hkind : ∀ d : Deed, (d.object wd.status.savedReplicas w).kind.Plain := by
    intro d
    rw [Deed.object_kind]
    exact h.kind
  have hbase : caller.savedReplicas = none ∨ caller.savedReplicas = some n →
      base.savedReplicas = none ∨ base.savedReplicas = some n := by
    intro hc
    rcases hb with rfl | rfl
    · exact hc
    · exact h.saved
  have hzero := Deed.object_suspend_replicas h.not_cronJob wd.status.savedReplicas
  cases hm with
  | defer hp => rw [h.not_progressing] at hp; cases hp
  | watch hw => exact absurd he hw
  | stayReleased _ _ hp =>
    have hup : w.getReplicas = n := h.up (by rw [show wd.memory.phase = _ from hp]; decide)
    exact .write now h.kind (fun _ => hup) nofun (Or.inl hup) h.saved (hbase h.saved)
  | release _ _ hp =>
    have hup := h.restored hn hp
    exact .write now (hkind .restore) (fun _ => hup) nofun (Or.inl hup) (Or.inl rfl)
      (hbase (Or.inl rfl))
  | stay _ _ hp =>
    exact .write now h.kind (fun hne => absurd rfl hne) (fun _ => h.held hp) h.scale h.saved
      (hbase h.saved)
  | enforce _ _ hp =>
    have hs := h.saving (Or.inl hp)
    exact .write now (hkind .suspend) (fun hne => absurd rfl hne) (fun _ => hs) (Or.inr hzero)
      (Or.inr hs) (hbase (Or.inr hs))
  | healthy _ hp =>
    exact .write now h.kind (fun _ => h.up hp) nofun h.scale h.saved (hbase h.saved)
  | startRecovery _ hp =>
    exact .write now h.kind (fun hne => absurd rfl hne) (fun _ => h.held hp) h.scale h.saved
      (hbase h.saved)
  | recover _ hp =>
    have hup := h.restored hn hp
    exact .write now (hkind .restore) (fun _ => hup) nofun (Or.inl hup) (Or.inl rfl)
      (hbase (Or.inl rfl))
  | degrade _ _ hp =>
    exact .write now h.kind (fun _ => h.up hp) nofun h.scale h.saved (hbase h.saved)
  | suspend =>
    have hs := h.saving (Or.inr hn)
    exact .write now (hkind .suspend) (fun hne => absurd rfl hne) (fun _ => hs) (Or.inr hzero)
      (Or.inr hs) (hbase (Or.inr hs))

/-- A move whose status write is lost keeps the account too, unless it is a first suspension. -/
theorem Move.accounted_lost {write : Option (DependencyPhase × Memory)}
    (hm : Move wd w now ok d write) (hn : n ≠ 0) (h : Accounted n wd.memory w)
    (hd : d = .suspend → wd.status.phase = .suspended) :
    Accounted n wd.memory (d.object wd.status.savedReplicas w) := by
  have hkind : (d.object wd.status.savedReplicas w).kind.Plain := by
    rw [Deed.object_kind]
    exact h.kind
  cases d with
  | keep => exact h
  | suspend =>
    have hzero := Deed.object_suspend_replicas h.not_cronJob wd.status.savedReplicas
    exact ⟨hkind, fun hne => absurd (hd rfl) hne, h.held, Or.inr hzero, h.saved⟩
  | restore =>
    have hp : wd.status.phase = .suspended := by
      cases hm with
      | release _ _ hp => exact hp
      | recover _ hp => exact hp
    have hup := h.restored hn hp
    exact ⟨hkind, fun _ => hup, h.held, Or.inl hup, h.saved⟩

end Accounting

/-- A Deployment or StatefulSet with `n` replicas, scaled by klink alone, while any call of any
Reconcile may fail or conflict. -/
def failureLife (k : NamespacedName) (n : Int32) : Life where
  key := k
  start wd w := wd.Created ∧ wd.Active ∧ 0 < n ∧ Scaled WorkloadKind.Plain n w
  calls wd api := api.Honest wd
  edit := Kept
  touch := SameReplicas
  fresh _ _ h := h.1
  written _ _ h := Or.inr h
  untouched _ _ h := h.untouched

theorem failureLife_idles (k : NamespacedName) (n : Int32) : (failureLife k n).Idles :=
  ⟨fun _ => rfl, fun w => ⟨w, rfl, rfl, rfl⟩⟩

/-- The Reconcile at step `i` is due to start a suspension; the API server takes its patch and
none of its status writes. -/
def Life.Run.LosesSuspension {L : Life} (r : L.Run) (i : ℕ) : Prop :=
  ∃ api wd since, r.call i = some api ∧ r.object i = some wd ∧ r.found i = some false ∧
    wd.status.phase ≠ .suspended ∧ wd.status.phase ≠ .released ∧
    wd.status.degradedSince = some since ∧ degradedWindow wd ≤ timeSince (r.clock i) since ∧
    api.patch = .ok ∧ api.persistsStatus = false

theorem Life.Run.LosesSuspension.of_move {L : Life} {r : L.Run} {i : ℕ} {api : Api}
    {wd : WorkloadDependency} {w : WorkloadObject} {ok : Bool}
    {write : Option (DependencyPhase × Memory)} (hcall : r.call i = some api)
    (ho : r.object i = some wd) (hf : r.found i = some ok)
    (hm : Move wd w (r.clock i) ok .suspend write)
    (hlost : write = none ∨ api.persistsStatus = false) (hacc : Deed.suspend.Accepted api wd w)
    (hk : w.kind ≠ .cronJob) (h0 : w.getReplicas ≠ 0) (hp : wd.status.phase ≠ .suspended) :
    r.LosesSuspension i := by
  have hpers : api.persistsStatus = false := by
    rcases hlost with rfl | hlost
    · cases hm.keep_of_no_write
    · exact hlost
  obtain ⟨a, ha⟩ := WorkloadObject.suspendPatch_isSome hk h0
  have ha' : Deed.suspend.patch wd.status.savedReplicas w = some a := ha
  have hok : api.patch = .ok := hacc.resolve_left (by rw [ha']; simp)
  cases hm with
  | enforce _ _ hs => exact absurd hs hp
  | suspend _ _ _ hrel hsince hwin =>
    exact ⟨api, wd, _, hcall, ho, hf, hp, hrel, hsince, hwin, hok, hpers⟩

section FailureRuns

variable {k : NamespacedName} {n : Int32} {r : (failureLife k n).Run} {i : ℕ}
  {wd : WorkloadDependency}

theorem failureLife_living (h : r.object i = some wd) : wd.deletionTimestamp = none :=
  r.living (fun _ _ he => he.deletionTimestamp) h

theorem failureLife_active (h : r.object i = some wd) : wd.Active :=
  r.active (fun _ _ hs => hs.2.1) (fun _ _ he ha => he.active ha) h (failureLife_living h)

theorem failureLife_pos (r : (failureLife k n).Run) : n ≠ 0 := by
  obtain ⟨_, _, _, _, hpos, _⟩ := TransitionSystem.Run.start r
  rintro rfl
  exact absurd hpos (by decide)

theorem failureLife_accounted (hc : ∀ i, ¬ r.LosesSuspension i) (h : r.object i = some wd) :
    ∃ obj, (r.cluster i).dependent wd = some obj ∧ Accounted n wd.memory obj := by
  have hn : n ≠ 0 := failureLife_pos r
  refine r.induct (I := fun _ wd w => ∃ obj, w = some obj ∧ Accounted n wd.memory obj)
    ?_ ?_ ?_ i h (failureLife_living h)
  · rintro wd w ⟨hcr, _, _, obj, rfl, hk, hn⟩
    refine ⟨obj, rfl, ?_⟩
    rw [hcr.1]
    exact ⟨hk, fun _ => hn, nofun, Or.inl hn, Or.inl rfl⟩
  · intro i api wd wd' w' hcall ho _ hd _ hi _ ha
    obtain ⟨obj, hw, hacc⟩ := hi
    have henf := (failureLife_active ho).enforces
    rw [hw] at ha
    generalize wd'.memory = m', r.patches i = ps at ha ⊢
    cases ha with
    | still => exact ⟨obj, rfl, hacc⟩
    | report _ hp hst =>
      refine ⟨obj, rfl, ?_⟩
      rcases hp with ⟨rfl, hf | hnone⟩ | ⟨_, _, hpaused⟩
      · obtain ⟨phase, hph, hb⟩ := r.blank ho hd hf
        have hup : obj.getReplicas = n := by
          apply hacc.up
          rw [hb]
          rcases hph with rfl | rfl <;> decide
        rcases hst.2 with rfl | ⟨_, rfl⟩ <;>
          exact .write _ hacc.kind (fun _ => hup) nofun hacc.scale hacc.saved hacc.saved
      · cases hnone
      · rw [(failureLife_active ho).unpaused] at hpaused
        cases hpaused
    | refused => exact ⟨obj, rfl, hacc⟩
    | @act s d write hs hobj hmove hacpt hlost =>
      obtain rfl := Option.some.inj hobj
      -- with the status write lost, only a suspension that starts here would break the account
      refine ⟨_, rfl, hmove.accounted_lost hn hacc ?_⟩
      rintro rfl
      by_contra hne
      have hne0 : s.dependent.getReplicas ≠ 0 := by
        rw [hacc.up hne]
        exact hn
      exact hc i (.of_move hcall ho (r.found_of_sighting hcall hs) hmove hlost hacpt
        hacc.not_cronJob hne0 hne)
    | move hs hobj hmove _ hst =>
      obtain rfl := Option.some.inj hobj
      refine ⟨_, rfl, ?_⟩
      rcases hst.2 with rfl | ⟨_, rfl⟩
      · exact hmove.accounted henf hn hacc (Or.inl rfl)
      · exact hmove.accounted henf hn hacc (Or.inr rfl)
  · intro i wd wd' w' _ _ _ hi he ht
    obtain ⟨obj, hw, hacc⟩ := hi
    obtain rfl := Option.some.inj he
    rw [hw] at ht
    obtain ⟨obj', rfl, hk, hr⟩ := ht
    exact ⟨obj', rfl, hk ▸ hacc.kind, hr ▸ hacc.up, hacc.held, hr ▸ hacc.scale, hacc.saved⟩

theorem failureLife_plain (h : r.object i = some wd) {obj : WorkloadObject}
    (hobj : (r.cluster i).dependent wd = some obj) : obj.kind.Plain := by
  refine r.kind (P := WorkloadKind.Plain) ?_ ?_ h hobj
  · intro wd obj hs
    exact (hs.2.2.2.eq_some rfl).1
  · intro obj obj' ht
    exact ht.eq_some.1

/-- After a lost suspension the dependent is down and nothing tells. -/
theorem lost_suspension (h : r.LosesSuspension i) :
    ∃ wd obj, r.object (i + 1) = some wd ∧ wd.status.phase ≠ .suspended ∧
      (r.cluster (i + 1)).dependent wd = some obj ∧ obj.getReplicas = 0 := by
  obtain ⟨api, wd, since, hcall, ho, hfound, hp, hrel, hsince, hwin, hok, hlost⟩ := h
  obtain ⟨api', s, hcall', hsight, hfalse⟩ := r.found_eq_some hfound
  obtain rfl := Option.some.inj (hcall.symm.trans hcall')
  obtain ⟨_, ht⟩ := r.transition hcall ho
  obtain ⟨wd', ho', hspec, ha⟩ := ht.advance (failureLife_living ho)
  have hdep := hspec.target.dependent (r.cluster (i + 1))
  have henf := (failureLife_active ho).enforces
  obtain ⟨hw, d, write, hm, hrest⟩ := ha.seen hsight
  have hplain := failureLife_plain ho hw
  rw [hfalse] at hm
  obtain rfl := hm.suspends henf hplain.not_progressing hp hrel hsince hwin
  rcases hrest with ⟨hne, _⟩ | ⟨hw', ⟨hm', _⟩ | ⟨_, _, _, hst⟩⟩
  · exact absurd hok hne
  · have hphase : wd'.status.phase = wd.status.phase := congrArg Memory.phase hm'
    exact ⟨wd', _, ho', hphase ▸ hp, hdep.trans hw',
      Deed.object_suspend_replicas hplain.ne_cronJob _⟩
  · cases hst.1.symm.trans hlost

/-- In every run without a lost suspension a Healthy object has its dependent at full scale.
Every run in which a lost suspension is followed by a Reconcile that finds all well and gets its
status through ends up Healthy with the dependent at zero. -/
theorem failure_safe_suspension (k : NamespacedName) (n : Int32) (r : (failureLife k n).Run) :
    ((∀ i, ¬ r.LosesSuspension i) → ∀ i wd, r.object i = some wd →
      wd.status.phase = .healthy →
        ∃ obj, (r.cluster i).dependent wd = some obj ∧ obj.getReplicas = n) ∧
    ∀ i api, r.LosesSuspension i → r.call (i + 1) = some api → api.persistsStatus = true →
      r.found (i + 1) = some true →
      ∃ wd obj, r.object (i + 2) = some wd ∧ wd.status.phase = .healthy ∧
        (r.cluster (i + 2)).dependent wd = some obj ∧ obj.getReplicas = 0 := by
  constructor
  · intro hc i wd h hp
    obtain ⟨obj, hobj, hacc⟩ := failureLife_accounted hc h
    exact ⟨obj, hobj, hacc.up (by rw [show wd.memory.phase = _ from hp]; decide)⟩
  · intro i api hlost hcall hpers hfound
    obtain ⟨wd, obj, ho, hp, hobj, h0⟩ := lost_suspension hlost
    obtain ⟨api', s, hcall', hsight, hok⟩ := r.found_eq_some hfound
    obtain rfl := Option.some.inj (hcall.symm.trans hcall')
    obtain ⟨_, ht⟩ := r.transition hcall ho
    obtain ⟨wd', ho', hspec, ha⟩ := ht.advance (failureLife_living ho)
    have hdep := hspec.target.dependent (r.cluster (i + 2))
    have hn : ¬ (wd.status.phase = .suspended ∧ wd.enforces) := fun h => hp h.1
    obtain ⟨hw', _, _, hst⟩ := ha.unseen hsight hok hpers hn
    exact ⟨wd', obj, ho', hst.phase, hdep.trans (hw'.trans hobj), h0⟩

end FailureRuns

def lostStatus : Api := { Api.good with statusUpdate := fun _ => .failed }

def failureScript : List (World → Happening) :=
  [runs demoKey .good, runs demoKey .good, waits (31 * second), runs demoKey lostStatus,
    sets dbKey (demoDb 1), runs demoKey .good]

theorem failureLife_start : (failureLife demoKey 3).rules.start demoDeployment.cluster :=
  ⟨demoObject "Deployment" .strict 0, by decide, ⟨by decide, rfl⟩, ⟨Or.inl rfl, by decide⟩,
    by decide, .deployment ⟨some 3, 3⟩, by decide, Or.inl rfl, by decide⟩

theorem failureScript_playable :
    Playable (failureLife demoKey 3).rules.system demoDeployment failureScript := by
  have hL := failureLife_idles demoKey 3
  have hr : ∀ api : Api, (∀ i, api.reread i = none) →
      ∀ s, (failureLife demoKey 3).rules.enabled s (runs demoKey api s) := by
    intro api hn s
    refine Life.enabled_runs (fun wd i w hw => ?_)
    rw [hn i] at hw
    cases hw
  have hg := hr .good (fun _ => rfl)
  refine ⟨hg _, hg _, hL.enabled_waits (by decide), hr lostStatus (fun _ => rfl) _, ?_, hg _,
    trivial⟩
  exact hL.enabled_sets (by decide)

def failureRun : (failureLife demoKey 3).Run :=
  Life.scripted _ (failureLife_idles demoKey 3) demoDeployment failureLife_start failureScript
    failureScript_playable

/-- One failed status write and klink has forgotten the three replicas. -/
theorem lost_status_strands_suspension :
    (failureRun.object 6).map (fun wd => (wd.status.phase, wd.status.savedReplicas,
      ((failureRun.cluster 6).dependent wd).map WorkloadObject.getReplicas)) =
        some (.healthy, none, some 0) := by
  decide

end Klink
