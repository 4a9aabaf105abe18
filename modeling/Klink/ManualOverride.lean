import Klink.DeletionUndo

/-! # Manual overrides of a suspension

Somebody else scales a dependent that klink holds down. Strict mode is meant to take it down
again, soft mode to let the override stand until the end of the suspension.
-/
namespace Klink

open TransitionSystem

def WorkloadObject.Countable (w : WorkloadObject) : Prop := w.kind ≠ .cronJob → 0 ≤ w.getReplicas

theorem needsEnforce_eq {w : WorkloadObject} (h : w.kind ≠ .cronJob) :
    needsEnforce w = decide (0 < w.getReplicas) := by
  cases w with
  | cronJob => exact absurd rfl h
  | _ => rfl

theorem needsEnforce_cronJob {w : WorkloadObject} (h : w.kind = .cronJob) :
    needsEnforce w = !w.isDown := by
  cases w with
  | cronJob => rfl
  | _ => cases h

theorem WorkloadObject.countable_of_needsEnforce {w : WorkloadObject}
    (h : needsEnforce w = true) : w.Countable := by
  intro hk
  rw [needsEnforce_eq hk, decide_eq_true_eq] at h
  exact Int32.le_of_lt h

theorem WorkloadObject.Countable.isDown {w : WorkloadObject} (hc : w.Countable)
    (h : needsEnforce w = false) : w.isDown = true := by
  by_cases hk : w.kind = .cronJob
  · rw [needsEnforce_cronJob hk] at h
    simpa using h
  · rw [needsEnforce_eq hk, decide_eq_false_iff_not] at h
    rw [WorkloadObject.isDown_eq hk, decide_eq_true_eq]
    exact Int32.le_antisymm (Int32.not_lt.mp h) (hc hk)

theorem Deed.object_suspend_isDown (saved : Option Int32) (w : WorkloadObject) :
    (Deed.suspend.object saved w).isDown = true := by
  by_cases hk : w.kind = .cronJob
  · cases w with
    | cronJob obj =>
      rw [Deed.object, Deed.patch, WorkloadObject.suspendPatch_cronJob hk]
      split
      · next hs => exact hs
      · rfl
    | _ => cases hk
  · have hk' : (Deed.suspend.object saved w).kind ≠ .cronJob := by
      rw [Deed.object_kind]
      exact hk
    rw [WorkloadObject.isDown_eq hk', Deed.object_suspend_replicas hk, decide_eq_true_eq]

structure StrictHold (now : Int) (c : Cluster) (req : NamespacedName) (wd : WorkloadDependency)
    (w : WorkloadObject) : Prop where
  stored : c.getWD req = some wd
  strict : wd.spec.mode = .strict
  living : wd.deletionTimestamp = none
  finalizer : wd.containsFinalizer = true
  unpaused : wd.isPaused = false
  suspended : wd.status.phase = .suspended
  failing : ∃ dep ∈ wd.spec.dependsOn, EntryFails c wd dep
  dependent : c.dependent wd = some w
  settled : w.isProgressing = false
  young : 0 < wd.spec.onDegraded.maxSuspendDuration →
    ∀ since, wd.status.suspendedAt = some since →
      now - since < wd.spec.onDegraded.maxSuspendDuration

def Enforced (c : Cluster) (req : NamespacedName) (wd : WorkloadDependency) : Prop :=
  ∃ wd' w', c.getWD req = some wd' ∧ wd'.status.phase = .suspended ∧
    c.dependent wd = some w' ∧ w'.isDown = true

section Strict

variable {api : Api} {now : Int} {c : Cluster} {req : NamespacedName} {wd : WorkloadDependency}
  {w : WorkloadObject}

/-- What a Reconcile does to a strict suspension: it waits for the maximal duration whatever the
dependent looks like, it has nothing to do, or it takes the dependent down again. -/
theorem StrictHold.moves {d : Deed} {write : Option (DependencyPhase × Memory)}
    (h : StrictHold now c req wd w) (hm : Move wd w now false d write) :
    (∀ m ∈ write, m.1 = .suspended) ∧
      ((d = .keep ∧ ¬ (wd.spec.onDegraded.maxSuspendDuration ≤ 0 ∨
          wd.status.suspendedAt = none)) ∨
        (d = .keep ∧ needsEnforce w = false) ∨
        (d = .suspend ∧ needsEnforce w = true ∧
          (wd.spec.onDegraded.maxSuspendDuration ≤ 0 ∨ wd.status.suspendedAt = none))) := by
  have henf : wd.enforces := Or.inl h.strict
  cases hm with
  | defer hg => cases h.settled.symm.trans hg
  | watch hn => exact absurd henf hn
  | stayReleased _ _ hp => cases h.suspended.symm.trans hp
  | release _ _ _ hs hpos hlong =>
    have hyoung := h.young hpos _ hs
    have hold := le_sub_of_le_timeSince hpos hlong
    omega
  | hold _ _ _ hs hpos =>
    refine ⟨by simp, Or.inl ⟨rfl, ?_⟩⟩
    rintro (hle | hnone)
    · omega
    · cases hs.symm.trans hnone
  | stay _ _ _ _ hn => exact ⟨by simp, Or.inr (Or.inl ⟨rfl, hn h.strict⟩)⟩
  | enforce _ _ _ hs _ hn => exact ⟨by simp, Or.inr (Or.inr ⟨rfl, hn, hs.symm⟩)⟩
  | degrade _ _ hp => exact absurd h.suspended hp
  | awaitWindow _ _ hp => exact absurd h.suspended hp
  | suspend _ _ hp => exact absurd h.suspended hp

theorem StrictHold.sees (h : StrictHold now c req wd w) {ev : Evaluation}
    (hs : sighting api c req = some ⟨w, ev⟩) : ev.allOk = false := by
  by_contra hne
  obtain ⟨dep, hmem, hfails⟩ := h.failing
  exact (evaluateDependencies_allOk (sighting_evaluation hs h.stored)).mp (by simpa using hne)
    dep hmem hfails

/-- A suspension in strict mode is enforced again exactly when the dependent is already down, or
the maximal duration plays no part and the dependent's count is not negative. -/
theorem strict_reenforces_iff (hok : api.AllOk) (h : StrictHold now c req wd w) :
    Enforced (c.reconciled api now req) req wd ↔ (w.isDown = true ∨
      ((wd.spec.onDegraded.maxSuspendDuration ≤ 0 ∨ wd.status.suspendedAt = none) ∧
        w.Countable)) := by
  obtain ⟨ev, wd', d, write, hs, hwd', _, hm, hw', hmem⟩ :=
    reconcile_moves now hok h.stored h.living h.finalizer h.unpaused h.dependent
  rw [h.sees hs] at hm
  obtain ⟨hphase, hdeed⟩ := h.moves hm
  have hsuspended : wd'.status.phase = .suspended := by
    change wd'.memory.phase = .suspended
    rw [hmem]
    cases write with
    | none => exact h.suspended
    | some m => exact hphase m rfl
  have henforced : Enforced (c.reconciled api now req) req wd ↔
      (d.object wd.status.savedReplicas w).isDown = true := by
    constructor
    · rintro ⟨_, w', _, _, hdep, hdown⟩
      obtain rfl := Option.some.inj (hdep.symm.trans hw')
      exact hdown
    · intro hdown
      exact ⟨wd', _, hwd', hsuspended, hw', hdown⟩
  rw [henforced]
  rcases hdeed with ⟨rfl, hduration⟩ | ⟨rfl, hidle⟩ | ⟨rfl, hneeds, hduration⟩
  · constructor
    · exact Or.inl
    · rintro (hdown | ⟨hno, _⟩)
      · exact hdown
      · exact absurd hno hduration
  · constructor
    · exact Or.inl
    · rintro (hdown | ⟨_, hcount⟩)
      · exact hdown
      · exact hcount.isDown hidle
  · constructor
    · intro _
      exact Or.inr ⟨hduration, WorkloadObject.countable_of_needsEnforce hneeds⟩
    · intro _
      exact Deed.object_suspend_isDown _ _

end Strict

def overrideScript (count : Int32) : List (World → Happening) :=
  [runs demoKey .good, runs demoKey .good, waits (31 * second), runs demoKey .good,
    sets webKey (.deployment ⟨some count, 0⟩)]

def overrideStart (mode : EnforcementMode) (maxSuspend : Int) : World :=
  demoWorld (demoObject "Deployment" mode maxSuspend) (.deployment ⟨some 3, 3⟩)

def overriddenWorld (mode : EnforcementMode) (maxSuspend : Int) (count : Int32) : World :=
  (overrideStart mode maxSuspend).after (overrideScript count)

def overriddenObject (mode : EnforcementMode) (maxSuspend : Int) : WorkloadDependency :=
  { demoObject "Deployment" mode maxSuspend with
    finalizers := [finalizerName]
    status :=
      ⟨.suspended, some 3, some 0, some (31 * second), none,
        "dependency StatefulSet db is not healthy",
        [⟨"Ready", .isFalse, "DependentSuspended", "dependency StatefulSet db is not healthy",
          31 * second, 1⟩]⟩ }

def demoEntry : DependsOnEntry := ⟨"StatefulSet", "db", "", ⟨0, 0, 0⟩⟩

theorem strictHold_overridden {s : World} {maxSuspend : Int} {w : WorkloadObject}
    (hg : s.cluster.getWD demoKey = some (overriddenObject .strict maxSuspend))
    (hdb : entryStatus s.cluster (overriddenObject .strict maxSuspend) demoEntry =
      some (.ok .unhealthy))
    (hweb : s.cluster.workload .deployment webKey = some w)
    (hyoung : 0 < maxSuspend → s.clock - 31 * second < maxSuspend) :
    StrictHold s.clock s.cluster demoKey (overriddenObject .strict maxSuspend) w where
  stored := hg
  strict := rfl
  living := rfl
  finalizer := rfl
  unpaused := rfl
  suspended := rfl
  failing := ⟨_, List.mem_singleton_self _, Or.inr hdb⟩
  dependent := hweb
  settled := by
    have hk := s.cluster.workload_kind hweb
    cases w with
    | rollout => cases hk
    | _ => rfl
  young := by
    rintro hpos _ ⟨⟩
    exact hyoung hpos

/-- With ten minutes of `maxSuspendDuration` ahead, two replicas somebody started keep running. -/
theorem strict_override_survives :
    StrictHold (overriddenWorld .strict (600 * second) 2).clock
        (overriddenWorld .strict (600 * second) 2).cluster demoKey
        (overriddenObject .strict (600 * second)) (.deployment ⟨some 2, 0⟩) ∧
      ¬ Enforced ((overriddenWorld .strict (600 * second) 2).cluster.reconciled .good
        (overriddenWorld .strict (600 * second) 2).clock demoKey) demoKey
        (overriddenObject .strict (600 * second)) := by
  refine ⟨strictHold_overridden (by decide) (by rfl) (by decide) (by decide), ?_⟩
  have hweb : ((overriddenWorld .strict (600 * second) 2).cluster.reconciled .good
      (overriddenWorld .strict (600 * second) 2).clock demoKey).workload .deployment webKey =
      some (.deployment ⟨some 2, 0⟩) := by decide
  rintro ⟨_, w, _, _, hdep, hdown⟩
  obtain rfl := Option.some.inj (hdep.symm.trans hweb)
  cases hdown

theorem strict_reenforces_unbounded :
    StrictHold (overriddenWorld .strict 0 2).clock (overriddenWorld .strict 0 2).cluster demoKey
        (overriddenObject .strict 0) (.deployment ⟨some 2, 0⟩) ∧
      Enforced ((overriddenWorld .strict 0 2).cluster.reconciled .good
        (overriddenWorld .strict 0 2).clock demoKey) demoKey (overriddenObject .strict 0) := by
  have hhold : StrictHold (overriddenWorld .strict 0 2).clock
      (overriddenWorld .strict 0 2).cluster demoKey (overriddenObject .strict 0)
      (.deployment ⟨some 2, 0⟩) :=
    strictHold_overridden (by decide) (by rfl) (by decide) (by decide)
  exact ⟨hhold, (strict_reenforces_iff Api.good_allOk hhold).mpr
    (Or.inr ⟨Or.inl (by decide), fun _ => by decide⟩)⟩

/-- A soft, unpaused object with a Deployment or StatefulSet as its dependent, which others may
scale, change and remove at will. Every call succeeds. -/
def softLife (k : NamespacedName) : Life where
  key := k
  start wd _ := wd.Created ∧ wd.spec.mode = .soft ∧ wd.isPaused = false ∧ wd.dependentKind.Plain
  calls _ := Api.AllOk
  edit := KeptOrDeleted
  touch _ _ := True
  fresh _ _ h := h.1
  written := @Api.AllOk.written
  untouched := @KeptOrDeleted.untouched

def Life.Run.count {L : Life} (r : L.Run) (wd : WorkloadDependency) (i : ℕ) : Option Int32 :=
  ((r.cluster i).dependent wd).map WorkloadObject.getReplicas

structure Life.Run.Overridden {L : Life} (r : L.Run) (i : ℕ) (wd : WorkloadDependency)
    (m : Int32) : Prop where
  others : r.call i = none
  object : r.object i = some wd
  suspended : wd.status.phase = .suspended
  count : r.count wd (i + 1) = some m
  positive : 0 < m

/-- After the override at step `i` the suspension lasts at least until step `j`, and klink alone
scales the dependent. -/
structure Life.Run.Episode {L : Life} (r : L.Run) (wd : WorkloadDependency) (i j : ℕ) : Prop where
  begun : i < j
  suspended : ∀ l, i < l → l ≤ j → ∃ wd', r.object l = some wd' ∧ wd'.status.phase = .suspended
  alone : ∀ l, i < l → l < j → r.call l = none → r.count wd (l + 1) = r.count wd l

def Life.Run.EndsSuspension {L : Life} (r : L.Run) (j : ℕ) : Prop :=
  (∃ api, r.call j = some api) ∧ ∃ wd, r.object j = some wd ∧
    (wd.deletionTimestamp.isSome = true ∨
      ∃ wd', r.object (j + 1) = some wd' ∧ wd'.status.phase ≠ .suspended)

theorem Move.soft_suspended {wd : WorkloadDependency} {w : WorkloadObject} {now : Int} {ok : Bool}
    {d : Deed} {write : Option (DependencyPhase × Memory)} (hm : Move wd w now ok d write)
    (hsoft : wd.spec.mode = .soft) (hg : w.isProgressing = false)
    (hp : wd.status.phase = .suspended) :
    (d = .keep ∧ ∀ q ∈ write, q.1 = .suspended ∧ q.2.savedReplicas = wd.status.savedReplicas) ∨
      (d = .restore ∧ ∃ q, write = some q ∧ q.1 ≠ .suspended) := by
  cases hm with
  | defer h => cases hg.symm.trans h
  | watch hn => exact absurd (Or.inr hsoft) hn
  | stayReleased _ _ h => cases hp.symm.trans h
  | release => exact Or.inr ⟨rfl, _, rfl, by simp⟩
  | hold => exact Or.inl ⟨rfl, by simp⟩
  | stay => exact Or.inl ⟨rfl, by rintro _ ⟨⟩; exact ⟨rfl, rfl⟩⟩
  | enforce _ _ _ _ h => cases hsoft.symm.trans h
  | healthy _ h => exact absurd hp h
  | startRecovery => exact Or.inl ⟨rfl, by rintro _ ⟨⟩; exact ⟨rfl, rfl⟩⟩
  | awaitRecovery => exact Or.inl ⟨rfl, by simp⟩
  | recover => exact Or.inr ⟨rfl, _, rfl, by simp⟩
  | degrade _ _ h => exact absurd hp h
  | awaitWindow _ _ h => exact absurd hp h
  | suspend _ _ h => exact absurd hp h

def givenBack (saved : Option Int32) (m : Int32) : Int32 :=
  match saved with
  | none => m
  | some n => if n = 0 then m else n

theorem Deed.object_restore_count {w : WorkloadObject} (h : w.kind ≠ .cronJob)
    (saved : Option Int32) :
    (Deed.restore.object saved w).getReplicas = givenBack saved w.getReplicas := by
  cases saved with
  | none => rw [Deed.object_restore_none h]; rfl
  | some n => exact Deed.object_restore_replicas h n

section SoftRuns

variable {k : NamespacedName} {r : (softLife k).Run} {i j : ℕ} {wd : WorkloadDependency}
  {m : Int32}

theorem softLife_soft (h : r.object i = some wd) (hd : wd.deletionTimestamp = none) :
    wd.spec.mode = .soft ∧ wd.isPaused = false := by
  refine r.specified (P := fun wd => wd.spec.mode = .soft ∧ wd.isPaused = false) ?_
    KeptOrDeleted.spec (fun _ _ hs => ⟨hs.2.1, hs.2.2.1⟩) h hd
  intro wd wd' hspec hpaused hi
  unfold WorkloadDependency.isPaused
  rw [hspec, hpaused]
  exact hi

theorem softLife_plain (h : r.object i = some wd) : wd.dependentKind.Plain := by
  obtain ⟨wd₀, h₀, ht⟩ := r.object_back (Nat.zero_le i) h
  rw [ht.kind]
  exact (r.started h₀).2.2.2

inductive SoftStep (r : (softLife k).Run) (i : ℕ) (wd : WorkloadDependency)
    (obj : WorkloadObject) : Prop where
  | kept {wd'} : (r.cluster (i + 1)).dependent wd = some obj → r.object (i + 1) = some wd' →
      wd'.status.phase = .suspended → wd'.status.savedReplicas = wd.status.savedReplicas →
      wd.deletionTimestamp = none → SoftStep r i wd obj
  | undone : wd.deletionTimestamp.isSome = true →
      (r.cluster (i + 1)).dependent wd = some
        (if wd.holdsReplicas then Deed.restore.object wd.status.savedReplicas obj else obj) →
      (∀ wd', r.object (i + 1) = some wd' → wd'.memory = wd.memory) → SoftStep r i wd obj
  | ended {wd'} : (r.cluster (i + 1)).dependent wd =
        some (Deed.restore.object wd.status.savedReplicas obj) →
      r.object (i + 1) = some wd' → wd'.status.phase ≠ .suspended → SoftStep r i wd obj

theorem softLife_step {api : Api} {obj : WorkloadObject} (hc : r.call i = some api)
    (h : r.object i = some wd) (hp : wd.status.phase = .suspended)
    (hobj : (r.cluster i).dependent wd = some obj) : SoftStep r i wd obj := by
  obtain ⟨hok, ht⟩ := r.transition hc h
  by_cases hd : wd.deletionTimestamp = none
  · obtain ⟨hsoft, hpause⟩ := softLife_soft h hd
    have hfin := r.finalizer_of_suspended h hd hp
    obtain ⟨ev, hs⟩ := sighting_of_allOk hok h hd hfin hpause hobj
    obtain ⟨wd', hwd', _, hadv⟩ := ht.advance hd
    obtain ⟨_, d, write, hm, hw', hmem⟩ := hadv.seen_ok hs hok
    have hplain : obj.kind.Plain := (r.cluster i).workload_kind hobj ▸ softLife_plain h
    rcases hm.soft_suspended hsoft hplain.not_progressing hp with ⟨rfl, hwrite⟩ | ⟨rfl, q, rfl, hq⟩
    · have hstays : wd'.memory.phase = .suspended ∧
          wd'.memory.savedReplicas = wd.memory.savedReplicas := by
        rw [hmem]
        cases write with
        | none => exact ⟨hp, rfl⟩
        | some q =>
          obtain ⟨hq, hsaved⟩ := hwrite q rfl
          exact ⟨hq, (Memory.write_self_savedReplicas _ _ _).trans hsaved⟩
      exact .kept hw' hwd' hstays.1 hstays.2 hd
    · refine .ended hw' hwd' ?_
      change wd'.memory.phase ≠ .suspended
      rw [hmem]
      exact hq
  · have hdel := Option.ne_none_iff_isSome.mp hd
    rcases ht.deleting h hdel with ⟨_, hf, _⟩ | ⟨_, hw'⟩
    · exact absurd hok hf
    · refine .undone hdel ?_ ?_
      · rw [hw', hobj]
        rfl
      · intro wd' hwd'
        rw [hwd'] at ht
        exact ht.deleting_memory h hdel

/-- What is known at step `j` of an episode: the saved count is the one at the override, and the
override stands if a restore would not change it. -/
structure Abides (r : (softLife k).Run) (wd : WorkloadDependency) (m : Int32) (j : ℕ)
    (wd' : WorkloadDependency) (obj : WorkloadObject) : Prop where
  object : r.object j = some wd'
  suspended : wd'.status.phase = .suspended
  saved : wd'.status.savedReplicas = wd.status.savedReplicas
  target : wd.SameTarget wd'
  dependent : (r.cluster j).dependent wd' = some obj
  stands : givenBack wd.status.savedReplicas m = m → obj.getReplicas = m

theorem Abides.kind {wd' : WorkloadDependency} {obj : WorkloadObject}
    (h : Abides r wd m j wd' obj) : obj.kind ≠ .cronJob := by
  rw [(r.cluster j).workload_kind h.dependent]
  exact (softLife_plain h.object).ne_cronJob

theorem Abides.step {api : Api} {wd' : WorkloadDependency} {obj : WorkloadObject}
    (h : Abides r wd m j wd' obj) (hc : r.call j = some api) : SoftStep r j wd' obj :=
  softLife_step hc h.object h.suspended h.dependent

theorem Abides.after {api : Api} {wd' : WorkloadDependency} {obj : WorkloadObject}
    (h : Abides r wd m j wd' obj) (hc : r.call j = some api) :
    ∃ obj', (r.cluster (j + 1)).dependent wd' = some obj' ∧
      (givenBack wd.status.savedReplicas m = m → obj'.getReplicas = m) := by
  have hback : givenBack wd.status.savedReplicas m = m →
      (Deed.restore.object wd'.status.savedReplicas obj).getReplicas = m := by
    intro hgood
    rw [Deed.object_restore_count h.kind, h.saved, h.stands hgood]
    exact hgood
  cases h.step hc with
  | kept hobj => exact ⟨obj, hobj, h.stands⟩
  | undone _ hobj =>
    refine ⟨_, hobj, ?_⟩
    split
    · exact hback
    · exact h.stands
  | ended hobj => exact ⟨_, hobj, hback⟩

theorem episode_abides (ho : r.Overridden i wd m) (he : r.Episode wd i j) :
    ∃ wd' obj, Abides r wd m j wd' obj := by
  obtain ⟨hij, hsus, halone⟩ := he
  induction j, hij using Nat.le_induction with
  | base =>
    -- the state that the override itself leaves
    obtain ⟨wd', hwd', hp⟩ := hsus (i + 1) (by omega) le_rfl
    have hedit := (r.disturbed ho.others ho.object).1
    rw [hwd'] at hedit
    have hu := (softLife k).untouched _ _ hedit
    obtain ⟨obj, hobj, hm⟩ := Option.map_eq_some_iff.mp ho.count
    have hdep : (r.cluster (i + 1)).dependent wd' = some obj := (hu.target.dependent _).trans hobj
    exact ⟨wd', obj, hwd', hp, congrArg Memory.savedReplicas hu.memory, hu.target, hdep,
      fun _ => hm⟩
  | succ j hij ih =>
    obtain ⟨wd₁, obj, ha⟩ := ih (fun l hl hlj => hsus l hl (by omega))
      (fun l hl hlj => halone l hl (by omega))
    obtain ⟨wd', hwd', hp⟩ := hsus (j + 1) (by omega) le_rfl
    have ht := r.target_succ ha.object hwd'
    have htarget : wd.SameTarget wd' :=
      ⟨ht.key.trans ha.target.key, ht.kind.trans ha.target.kind⟩
    cases hc : r.call j with
    | none =>
      have hedit := (r.disturbed hc ha.object).1
      rw [hwd'] at hedit
      have hu := (softLife k).untouched _ _ hedit
      have hcount : r.count wd (j + 1) = some obj.getReplicas := by
        rw [halone j hij (by omega) hc]
        unfold Life.Run.count
        rw [← ha.target.dependent, ha.dependent]
        rfl
      obtain ⟨obj', hobj', hsame⟩ := Option.map_eq_some_iff.mp hcount
      refine ⟨wd', obj', hwd', hp, ?_, htarget, (htarget.dependent _).trans hobj', ?_⟩
      · exact (congrArg Memory.savedReplicas hu.memory).trans ha.saved
      · intro hgood
        exact hsame.trans (ha.stands hgood)
    | some api =>
      obtain ⟨obj', hobj', hstands⟩ := ha.after hc
      have hsaved : wd'.status.savedReplicas = wd₁.status.savedReplicas := by
        cases ha.step hc with
        | kept _ hnext _ hsaved =>
          obtain rfl := Option.some.inj (hnext.symm.trans hwd')
          exact hsaved
        | undone _ _ hmem => exact congrArg Memory.savedReplicas (hmem wd' hwd')
        | ended _ hnext hne =>
          obtain rfl := Option.some.inj (hnext.symm.trans hwd')
          exact absurd hp hne
      exact ⟨wd', obj', hwd', hp, hsaved.trans ha.saved, htarget,
        (ht.dependent _).trans hobj', hstands⟩

/-- An override in soft mode stands for the whole episode when nothing was saved or the saved
count is the one that was set. Otherwise the end of the suspension undoes it. -/
theorem soft_override_outcome (r : (softLife k).Run) (ho : r.Overridden i wd m) :
    ((wd.status.savedReplicas = none ∨ wd.status.savedReplicas = some m) →
      ∀ j api, r.Episode wd i j → r.call j = some api → r.count wd (j + 1) = some m) ∧
    ∀ n, wd.status.savedReplicas = some n → 0 < n →
      ∀ j, r.Episode wd i j → r.EndsSuspension j → r.count wd (j + 1) = some n := by
  constructor
  · intro hsaved j api he hc
    have hgood : givenBack wd.status.savedReplicas m = m := by
      rcases hsaved with hnone | hsome
      · rw [hnone]; rfl
      · rw [hsome]; exact ite_self m
    obtain ⟨wd', obj, ha⟩ := episode_abides ho he
    obtain ⟨obj', hobj', hstands⟩ := ha.after hc
    unfold Life.Run.count
    rw [← ha.target.dependent, hobj', ← hstands hgood]
    rfl
  · rintro n hn hpos j he ⟨⟨api, hc⟩, wd₀, h₀, hends⟩
    obtain ⟨wd', obj, ha⟩ := episode_abides ho he
    obtain rfl := Option.some.inj (h₀.symm.trans ha.object)
    have hsome : wd₀.status.savedReplicas = some n := ha.saved.trans hn
    have hback : (Deed.restore.object wd₀.status.savedReplicas obj).getReplicas = n := by
      rw [Deed.object_restore_count ha.kind, hsome]
      refine if_neg ?_
      rintro rfl
      exact absurd hpos (by decide)
    unfold Life.Run.count
    rw [← ha.target.dependent]
    cases ha.step hc with
    | kept _ hnext hp _ hd =>
      rcases hends with hdel | ⟨wd', hwd', hne⟩
      · simp [hd] at hdel
      · obtain rfl := Option.some.inj (hnext.symm.trans hwd')
        exact absurd hp hne
    | undone _ hobj =>
      have hholds : wd₀.holdsReplicas = true := by
        rw [WorkloadDependency.holdsReplicas_eq hsome, decide_eq_true_eq]
        exact ⟨ha.suspended, hpos⟩
      rw [hobj, if_pos hholds, ← hback]
      rfl
    | ended hobj =>
      rw [hobj, ← hback]
      rfl

end SoftRuns

theorem softLife_idles (k : NamespacedName) : (softLife k).Idles :=
  ⟨fun _ => Or.inl rfl, fun _ => trivial⟩

def softScript (count : Int32) : List (World → Happening) :=
  overrideScript count ++
    [sets dbKey (demoDb 1), runs demoKey .good, waits (61 * second), runs demoKey .good]

theorem softScript_playable {count : Int32}
    (hweb : ((play (softLife demoKey).rules.system (overrideStart .soft 0)
      ((softScript count).take 4)).cluster.getWD demoKey).all (fun wd =>
        decide (wd.dependentKind = .deployment ∧ wd.dependentKey = webKey ∧
          (play (softLife demoKey).rules.system (overrideStart .soft 0)
            ((softScript count).take 4)).cluster.dependent wd =
            some (.deployment ⟨some 0, 3⟩))) = true)
    (hdb : ((play (softLife demoKey).rules.system (overrideStart .soft 0)
      ((softScript count).take 5)).cluster.getWD demoKey).all (fun wd =>
        decide (wd.dependentKey ≠ dbKey)) = true) :
    Playable (softLife demoKey).rules.system (overrideStart .soft 0) (softScript count) := by
  have hL := softLife_idles demoKey
  have hr : ∀ s, (softLife demoKey).rules.enabled s (runs demoKey .good s) :=
    fun _ => Life.enabled_runs (fun _ => Api.good_allOk)
  exact ⟨hr _, hr _, hL.enabled_waits (by decide), hr _, hL.enabled_touch hweb trivial,
    hL.enabled_sets hdb, hr _, hL.enabled_waits (by decide), hr _, trivial⟩

def softRun (count : Int32)
    (h : Playable (softLife demoKey).rules.system (overrideStart .soft 0) (softScript count)) :
    (softLife demoKey).Run :=
  Life.scripted _ (softLife_idles demoKey) (overrideStart .soft 0)
    ⟨demoObject "Deployment" .soft 0, by decide, ⟨rfl, rfl⟩, rfl, by decide, Or.inl (by decide)⟩
    (softScript count) h

def undoneRun : (softLife demoKey).Run :=
  softRun 5 (softScript_playable (by decide) (by decide))

def agreedRun : (softLife demoKey).Run :=
  softRun 3 (softScript_playable (by decide) (by decide))

theorem Life.Run.Episode.of_constant {L : Life} {r : L.Run} {wd : WorkloadDependency} {i j : ℕ}
    (hij : i < j) (hs : ∀ l < j + 1, i < l →
      (r.object l).map (fun wd => wd.status.phase) = some .suspended)
    (ha : ∀ l < j, i < l → r.count wd (l + 1) = r.count wd l) : r.Episode wd i j where
  begun := hij
  suspended l hl hlj := Option.map_eq_some_iff.mp (hs l (by omega) hl)
  alone l hl hlj _ := ha l hlj hl

theorem recovery_undoes_override :
    undoneRun.Overridden 4 (overriddenObject .soft 0) 5 ∧
      undoneRun.Episode (overriddenObject .soft 0) 4 8 ∧
      (∃ api, undoneRun.call 8 = some api) ∧
      undoneRun.count (overriddenObject .soft 0) 9 = some 3 := by
  refine ⟨⟨rfl, by decide, rfl, by decide, by decide⟩, ?_, ⟨.good, rfl⟩, by decide⟩
  exact .of_constant (by decide) (by decide) (by decide)

theorem soft_override_agreed :
    agreedRun.Overridden 4 (overriddenObject .soft 0) 3 ∧
      agreedRun.Episode (overriddenObject .soft 0) 4 8 ∧
      agreedRun.count (overriddenObject .soft 0) 9 = some 3 := by
  have ho : agreedRun.Overridden 4 (overriddenObject .soft 0) 3 :=
    ⟨rfl, by decide, rfl, by decide, by decide⟩
  have he : agreedRun.Episode (overriddenObject .soft 0) 4 8 :=
    .of_constant (by decide) (by decide) (by decide)
  exact ⟨ho, he, (soft_override_outcome agreedRun ho).1 (Or.inr rfl) 8 .good he rfl⟩

end Klink
