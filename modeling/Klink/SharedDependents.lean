import Klink.SingleCustody
import Klink.DeletionUndo

/-! # Several objects with one dependent

Any number of WorkloadDependencies may name the same workload as their dependent. They come and
go and are reconciled in any order, and the replicas of the workload are still in one place:
in the workload, or in the status of a single suspended object. Only an object that survives its
own deletion, under somebody else's finalizer, gives the same replicas back twice.
-/
namespace Klink

open TransitionSystem SingleCustody

def Cluster.sharer (c : Cluster) (t : Target) (j : NamespacedName) : Option WorkloadDependency :=
  (c.getWD j).filter (fun wd => decide (wd.target = t))

def Cluster.savedBy (c : Cluster) (t : Target) (j : NamespacedName) : Option Int32 :=
  (c.sharer t j).bind (fun wd => wd.status.savedReplicas)

theorem Cluster.sharer_eq_some {c : Cluster} {t : Target} {j : NamespacedName}
    {wd : WorkloadDependency} : c.sharer t j = some wd ↔ c.getWD j = some wd ∧ wd.target = t := by
  simp [sharer, Option.filter_eq_some_iff]

theorem Cluster.sharer_eq_none {c : Cluster} {t : Target} {j : NamespacedName}
    {wd : WorkloadDependency} (h : c.getWD j = some wd) (ht : wd.target ≠ t) :
    c.sharer t j = none := by
  unfold sharer
  rw [h]
  simp [ht]

theorem Cluster.sharer_congr {c c' : Cluster} {t : Target} {j : NamespacedName}
    (h : c'.getWD j = c.getWD j) : c'.sharer t j = c.sharer t j := by
  unfold sharer
  rw [h]

theorem Cluster.sharer_eq_getWD {c : Cluster} {t : Target} {j : NamespacedName}
    (h : ∀ wd, c.getWD j = some wd → wd.target = t) : c.sharer t j = c.getWD j := by
  cases hg : c.getWD j with
  | none => simp [sharer, hg]
  | some wd => exact sharer_eq_some.mpr ⟨hg, h wd hg⟩

theorem WorkloadDependency.SameTarget.target_eq {wd wd' : WorkloadDependency}
    (h : wd.SameTarget wd') : wd'.target = wd.target := by
  unfold target
  rw [h.kind, h.key]

structure WorkloadDependency.Newborn (wd : WorkloadDependency) : Prop where
  created : wd.Created
  unpaused : wd.isPaused = false

/-- Objects are created and deleted, and never changed by anybody but klink. Whoever else has put
a finalizer on a deleted object may remove it once klink's is gone. -/
def ComesOrGoes : Option WorkloadDependency → Option WorkloadDependency → Prop
  | none, o => ∀ wd, o = some wd → wd.Newborn
  | some wd, o => KeptOrDeleted wd o ∨
      (o = none ∧ wd.deletionTimestamp.isSome = true ∧ wd.containsFinalizer = false)

/-- All objects with dependent `t`, a Deployment or StatefulSet of `n` replicas that nobody but
klink scales. Every call succeeds, and the rest of the cluster changes at will. -/
def sharedRules (t : Target) (n : Int32) : Rules where
  start c := 0 < n ∧ Scaled WorkloadKind.Plain n (c.workload t.kind t.key) ∧
    ∀ j wd, c.sharer t j = some wd → wd.Newborn
  calls _ _ api := api.AllOk
  disturbs c c' := Touched SameReplicas (c.workload t.kind t.key) (c'.workload t.kind t.key) ∧
    ∀ j, ComesOrGoes (c.sharer t j) (c'.sharer t j)

structure WorkloadDependency.Accountable (wd : WorkloadDependency) : Prop where
  unpaused : wd.isPaused = false
  held : wd.status.savedReplicas ≠ none →
    wd.status.phase = .suspended ∧ wd.enforces ∧ wd.containsFinalizer = true

theorem WorkloadDependency.Newborn.accountable {wd : WorkloadDependency} (h : wd.Newborn) :
    wd.Accountable :=
  ⟨h.unpaused, fun hs => absurd h.created.unsaved hs⟩

structure WorkloadDependency.Lingers (wd : WorkloadDependency) : Prop where
  deleting : wd.deletionTimestamp.isSome = true
  saved : wd.status.savedReplicas ≠ none
  foreign : ∃ f ∈ wd.finalizers, f ≠ finalizerName

theorem WorkloadDependency.withoutFinalizer_eq_none_iff {wd : WorkloadDependency} :
    wd.withoutFinalizer = none ↔ ∀ f ∈ wd.finalizers, f = finalizerName := by
  have hnil : wd.removeFinalizer.finalizers = [] ↔ ∀ f ∈ wd.finalizers, f = finalizerName := by
    unfold removeFinalizer
    rw [List.filter_eq_nil_iff]
    simp
  rw [← hnil]
  unfold withoutFinalizer
  split
  · next h => exact ⟨fun _ => h, fun _ => rfl⟩
  · next h => exact ⟨nofun, fun hn => absurd hn h⟩

section OneReconcile

variable {api : Api} {now : Int} {c : Cluster} {req : NamespacedName} {wd : WorkloadDependency}
  {obj : WorkloadObject} {n : Int32} {ps : List Patch}

theorem Move.takes_nothing {ok : Bool} {d : Deed} {phase : DependencyPhase} {caller : Memory}
    (hm : Move wd obj now ok d (some (phase, caller))) (hk : obj.kind ≠ .cronJob)
    (hs : wd.status.savedReplicas = none) (h0 : obj.getReplicas = 0) :
    caller.savedReplicas = none ∧ (d.object wd.status.savedReplicas obj).getReplicas = 0 := by
  have hsaving : (wd.memory.saving obj).savedReplicas = none := by
    rw [Memory.saving_savedReplicas hk, if_pos h0]
    exact hs
  have hrestore : (Deed.restore.object wd.status.savedReplicas obj).getReplicas = 0 := by
    rw [hs, Deed.object_restore_none hk]
    exact h0
  have hsuspend := Deed.object_suspend_replicas hk wd.status.savedReplicas
  cases hm with
  | release => exact ⟨rfl, hrestore⟩
  | recover => exact ⟨rfl, hrestore⟩
  | enforce => exact ⟨hsaving, hsuspend⟩
  | suspend => exact ⟨hsaving, hsuspend⟩
  | _ => exact ⟨hs, h0⟩

theorem Advance.takes_nothing {m' : Memory} {obj' : WorkloadObject}
    (h : Advance api now c req wd (some obj) m' (some obj') ps) (hok : api.AllOk)
    (hk : obj.kind ≠ .cronJob) (hs : wd.status.savedReplicas = none)
    (h0 : obj.getReplicas = 0) : m'.savedReplicas = none ∧ obj'.getReplicas = 0 := by
  rcases h.persisted_present (hok.statusUpdate 0) with
    ⟨rfl, rfl⟩ | ⟨phase, _, rfl, rfl⟩ | ⟨s, d, phase, caller, _, hm, rfl, rfl⟩
  · exact ⟨hs, h0⟩
  · rw [Memory.write_self_savedReplicas]
    exact ⟨hs, h0⟩
  · rw [Memory.write_self_savedReplicas]
    exact hm.takes_nothing hk hs h0

/-- A Reconcile that leaves a saved count behind leaves an object that will give it back. -/
theorem Advance.held {m' : Memory} {w' : Option WorkloadObject}
    (h : Advance api now c req wd (some obj) m' w' ps) (hg : c.getWD req = some wd)
    (hok : api.AllOk) (hk : obj.kind.Plain) (ha : wd.Accountable) (hs : m'.savedReplicas ≠ none) :
    m'.phase = .suspended ∧ wd.enforces ∧ wd.containsFinalizer = true := by
  have hpers := h.persisted (hok.statusUpdate 0)
  generalize hw : some obj = w at hpers
  cases hpers with
  | still => exact ha.held hs
  | report _ hp =>
    rw [Memory.write_self_savedReplicas] at hs
    obtain ⟨_, _, hf⟩ := ha.held hs
    rcases hp with ⟨_, hnot | hnone⟩ | ⟨_, _, hp⟩
    · cases hf.symm.trans hnot
    · cases hw.trans hnone
    · cases ha.unpaused.symm.trans hp
  | unwritten => exact ha.held hs
  | move hsight hobj hm =>
    obtain rfl := Option.some.inj (hw.trans hobj)
    rw [Memory.write_self_savedReplicas] at hs
    rw [Memory.write_phase]
    have hf := (sighting_spec hsight hg).2.1
    rcases hm.keeps_or_restores with ⟨hp, he⟩ | hnone | ⟨hsaved, hleave⟩
    · exact ⟨hp, he, hf⟩
    · exact absurd hnone hs
    · rw [hsaved] at hs
      obtain ⟨hp, he, _⟩ := ha.held hs
      rcases hleave with hnot | hnot | ⟨_, hprog⟩
      · exact absurd hp hnot
      · exact absurd he hnot
      · cases hk.not_progressing.symm.trans hprog

theorem Transition.lets_go {o : Option WorkloadDependency} {w' : Option WorkloadObject}
    (h : Transition api now c req wd (some obj) o w' ps) (hg : c.getWD req = some wd)
    (hok : api.AllOk) (hd : wd.deletionTimestamp.isSome = true) :
    o = wd.withoutFinalizer ∧ w' = some (if wd.holdsReplicas then
      Deed.restore.object wd.status.savedReplicas obj else obj) := by
  rcases h.deleting hg hd with ⟨_, hf, _⟩ | ⟨ho, hw⟩
  · exact absurd hok hf
  · exact ⟨ho, hw⟩

theorem WorkloadDependency.withoutFinalizer_bind (wd : WorkloadDependency) :
    wd.withoutFinalizer.bind (fun wd => wd.status.savedReplicas) =
      if wd.withoutFinalizer = none then none else wd.status.savedReplicas := by
  unfold withoutFinalizer
  split <;> rfl

theorem WorkloadDependency.Accountable.withoutFinalizer {wd' : WorkloadDependency}
    (ha : wd.Accountable) (hd : wd.deletionTimestamp.isSome = true) (hl : ¬ wd.Lingers)
    (h : wd.withoutFinalizer = some wd') : wd'.Accountable := by
  have hm := WorkloadDependency.withoutFinalizer_memory h
  have hnone : wd.status.savedReplicas = none := by
    by_contra hs
    have hne : wd.withoutFinalizer ≠ none := by simp [h]
    rw [Ne, WorkloadDependency.withoutFinalizer_eq_none_iff] at hne
    push Not at hne
    exact hl ⟨hd, hs, hne⟩
  refine ⟨?_, fun hs => absurd ((congrArg Memory.savedReplicas hm).trans hnone) hs⟩
  rw [WorkloadDependency.withoutFinalizer_eq h]
  exact ha.unpaused

theorem WorkloadDependency.Accountable.holdsReplicas (ha : wd.Accountable) (hn : 0 < n)
    (hs : wd.status.savedReplicas = some n) : wd.holdsReplicas = true := by
  rw [WorkloadDependency.holdsReplicas_eq hs]
  exact decide_eq_true ⟨(ha.held (by rw [hs]; simp)).1, hn⟩

theorem WorkloadDependency.holdsReplicas_of_none (hs : wd.status.savedReplicas = none) :
    wd.holdsReplicas = false := by
  unfold WorkloadDependency.holdsReplicas
  rw [hs]

theorem Deed.restores (hk : obj.kind ≠ .cronJob) (hn : 0 < n) :
    (Deed.restore.object (some n) obj).getReplicas = n := by
  rw [Deed.object_restore_replicas hk, if_neg]
  rintro rfl
  exact absurd hn (by decide)

/-- One Reconcile of one of the objects, as the pool and its own hand see it. -/
theorem Transition.settles {o : Option WorkloadDependency} {w' : Option WorkloadObject}
    (h : Transition api now c req wd (some obj) o w' ps) (hg : c.getWD req = some wd)
    (hok : api.AllOk) (hk : obj.kind.Plain) (hn : 0 < n) (ha : wd.Accountable)
    (hl : ¬ wd.Lingers) :
    ∃ obj', w' = some obj' ∧ (∀ wd', o = some wd' → wd'.Accountable) ∧
      (Settled n 0 obj.getReplicas wd.status.savedReplicas →
        Settled n 0 obj'.getReplicas (o.bind (fun wd => wd.status.savedReplicas))) ∧
      (obj.getReplicas = 0 → wd.status.savedReplicas = none →
        obj'.getReplicas = 0 ∧ o.bind (fun wd => wd.status.savedReplicas) = none) := by
  have hcron := hk.ne_cronJob
  by_cases hd : wd.deletionTimestamp = none
  · obtain ⟨wd', rfl, hspec, hadv⟩ := h.advance hd
    obtain ⟨obj', rfl, hkind⟩ := h.dependent_exists
    have hcron' : obj'.kind ≠ .cronJob := hkind ▸ hcron
    refine ⟨obj', rfl, ?_, ?_, ?_⟩
    · intro wd'' ho
      obtain rfl := Option.some.inj ho
      refine ⟨hspec.isPaused.trans ha.unpaused, fun hs => ?_⟩
      obtain ⟨hp, he, hf⟩ := hadv.held hg hok hk ha hs
      exact ⟨hp, hspec.enforces.mpr he, hspec.finalizer hf⟩
    · intro hset
      refine hadv.balanced (n := n) (hok.statusUpdate 0) hcron' ?_
      rintro _ ho _
      obtain rfl := Option.some.inj ho
      exact hset
    · intro h0 hs
      exact (hadv.takes_nothing hok hcron hs h0).symm
  -- what an object that is let go holds must not stay behind in it, hence `hl`
  · have hdel := Option.ne_none_iff_isSome.mp hd
    obtain ⟨rfl, rfl⟩ := h.lets_go hg hok hdel
    refine ⟨_, rfl, fun wd' ho => ha.withoutFinalizer hdel hl ho, ?_, ?_⟩
    · rintro (⟨hfull, hs⟩ | ⟨_, hs⟩)
      · rw [WorkloadDependency.holdsReplicas_of_none hs, wd.withoutFinalizer_bind, hs, ite_self]
        exact Or.inl ⟨hfull, rfl⟩
      · have hgone : wd.withoutFinalizer = none := by
          rw [WorkloadDependency.withoutFinalizer_eq_none_iff]
          by_contra hne
          push Not at hne
          exact hl ⟨hdel, by simp [hs], hne⟩
        rw [ha.holdsReplicas hn hs, hs, hgone]
        exact Or.inl ⟨Deed.restores hcron hn, rfl⟩
    · intro h0 hs
      rw [WorkloadDependency.holdsReplicas_of_none hs, wd.withoutFinalizer_bind, hs, ite_self]
      exact ⟨h0, rfl⟩

end OneReconcile

structure Shared (t : Target) (n : Int32) (c : Cluster) : Prop where
  custody : ∃ obj, c.workload t.kind t.key = some obj ∧
    Custody n 0 obj.getReplicas (c.savedBy t)
  accountable : ∀ j wd, c.sharer t j = some wd → wd.Accountable

section SharedSteps

variable {t : Target} {n : Int32} {c c' : Cluster}

theorem Shared.congr (h : Shared t n c)
    (hw : ∀ obj, c.workload t.kind t.key = some obj →
      ∃ obj', c'.workload t.kind t.key = some obj' ∧ obj'.getReplicas = obj.getReplicas)
    (hs : ∀ j, c'.savedBy t j = c.savedBy t j)
    (ha : ∀ j wd, c'.sharer t j = some wd → wd.Accountable) : Shared t n c' := by
  obtain ⟨obj, hobj, hcus⟩ := h.custody
  obtain ⟨obj', hobj', hr⟩ := hw obj hobj
  refine ⟨⟨obj', hobj', ?_⟩, ha⟩
  rw [hr, funext hs]
  exact hcus

theorem Shared.start (h : (sharedRules t n).start c) : Shared t n c := by
  obtain ⟨_, ⟨obj, hobj, _, hr⟩, hnew⟩ := h
  refine ⟨⟨obj, hobj, Or.inl ⟨hr, ?_⟩⟩, fun j wd hj => (hnew j wd hj).accountable⟩
  intro j
  unfold Cluster.savedBy
  cases hj : c.sharer t j with
  | none => rfl
  | some wd => exact (hnew j wd hj).created.unsaved

theorem Shared.reconcile_other {api : Api} {now : Int} {req : NamespacedName}
    {wd : WorkloadDependency} (h : Shared t n c) (hg : c.getWD req = some wd) (hok : api.AllOk)
    (ht : wd.target ≠ t) : Shared t n (c.reconciled api now req) := by
  have hconf := reconcile_confined now hg hok.written
  have hwork := hconf.workload_of_target ht
  have hsharer : ∀ j, (c.reconciled api now req).sharer t j = c.sharer t j := by
    intro j
    by_cases hj : j = req
    · subst hj
      rw [Cluster.sharer_eq_none hg ht]
      cases hs : (c.reconciled api now j).sharer t j with
      | none => rfl
      | some wd' =>
        obtain ⟨hg', ht'⟩ := Cluster.sharer_eq_some.mp hs
        have htrans := reconcile_transition now hg hok.written
        rw [hg'] at htrans
        exact absurd (htrans.target.target_eq.symm.trans ht') ht
    · exact Cluster.sharer_congr (hconf.getWD hj)
  refine h.congr (fun obj hobj => ⟨obj, hwork.trans hobj, rfl⟩) ?_ ?_
  · intro j
    unfold Cluster.savedBy
    rw [hsharer]
  · intro j wd' hj
    rw [hsharer] at hj
    exact h.accountable j wd' hj

theorem Shared.reconcile_own {api : Api} {now : Int} {req : NamespacedName}
    {wd : WorkloadDependency} (h : Shared wd.target n c) (hg : c.getWD req = some wd)
    (hok : api.AllOk) (hk : wd.target.kind.Plain) (hn : 0 < n) (hl : ¬ wd.Lingers) :
    Shared wd.target n (c.reconciled api now req) := by
  obtain ⟨obj, hobj, hcus⟩ := h.custody
  have hdep : c.dependent wd = some obj := hobj
  have hplain : obj.kind.Plain := by
    rw [c.workload_kind hobj]
    exact hk
  have hown : c.sharer wd.target req = some wd := Cluster.sharer_eq_some.mpr ⟨hg, rfl⟩
  have htrans := reconcile_transition now hg hok.written
  rw [hdep] at htrans
  have hown' : (c.reconciled api now req).sharer wd.target req =
      (c.reconciled api now req).getWD req := by
    refine Cluster.sharer_eq_getWD (fun wd' hg' => ?_)
    rw [hg'] at htrans
    exact htrans.target.target_eq
  have hframe : ∀ j, j ≠ req → (c.reconciled api now req).sharer wd.target j =
      c.sharer wd.target j :=
    fun j hj => Cluster.sharer_congr
      ((reconcile_confined now hg hok.written).getWD hj)
  obtain ⟨obj', hobj', hacc, hset, hnone⟩ :=
    htrans.settles hg hok hplain hn (h.accountable req wd hown) hl
  have hsaved : c.savedBy wd.target req = wd.status.savedReplicas := by
    unfold Cluster.savedBy
    rw [hown]
    rfl
  refine ⟨⟨obj', hobj', hcus.step req ?_ ?_ ?_⟩, ?_⟩
  · intro j hj
    unfold Cluster.savedBy
    rw [hframe j hj]
  · rw [hsaved, Cluster.savedBy, hown']
    exact hset
  · rw [hsaved, Cluster.savedBy, hown']
    exact hnone
  · intro j wd' hj
    by_cases hreq : j = req
    · subst hreq
      rw [hown'] at hj
      exact hacc wd' hj
    · rw [hframe j hreq] at hj
      exact h.accountable j wd' hj

theorem Shared.reconciled (h : Shared t n c) {api : Api} (hok : api.AllOk) (hk : t.kind.Plain)
    (hn : 0 < n) (now : Int) {req : NamespacedName}
    (hl : ∀ wd, c.sharer t req = some wd → ¬ wd.Lingers) :
    Shared t n (c.reconciled api now req) := by
  cases hg : c.getWD req with
  | none =>
    rw [reconcile_absent now hg]
    exact h
  | some wd =>
    by_cases ht : wd.target = t
    · subst ht
      exact h.reconcile_own hg hok hk hn (hl wd (Cluster.sharer_eq_some.mpr ⟨hg, rfl⟩))
    · exact h.reconcile_other hg hok ht

theorem ComesOrGoes.saved {o o' : Option WorkloadDependency} (h : ComesOrGoes o o')
    (ha : ∀ wd, o = some wd → wd.Accountable) :
    o'.bind (fun wd => wd.status.savedReplicas) = o.bind (fun wd => wd.status.savedReplicas) ∧
      ∀ wd, o' = some wd → wd.Accountable := by
  cases o with
  | none =>
    cases o' with
    | none => exact ⟨rfl, ha⟩
    | some wd' => exact ⟨(h wd' rfl).created.unsaved, fun wd ho => (h wd ho).accountable⟩
  | some wd =>
    have hwd := ha wd rfl
    cases o' with
    | some wd' =>
      rcases h with h | ⟨hnone, _⟩
      · rcases h.cases with rfl | ⟨t, _, rfl⟩
        · exact ⟨rfl, ha⟩
        · refine ⟨rfl, fun wd'' ho => ?_⟩
          obtain rfl := Option.some.inj ho
          exact ⟨hwd.unpaused, hwd.held⟩
      · cases hnone
    | none =>
      refine ⟨?_, (fun _ ho => by cases ho)⟩
      have hf : wd.containsFinalizer = false := by
        rcases h with (h | ⟨_, h⟩) | ⟨_, _, h⟩
        · cases h
        · split at h
          · next hnil =>
            rw [WorkloadDependency.containsFinalizer, hnil]
            rfl
          · obtain ⟨t, h⟩ := h
            cases h
        · exact h
      by_contra hne
      cases hf.symm.trans (hwd.held (fun hs => hne hs.symm)).2.2

theorem Shared.disturbed (h : Shared t n c) (hd : (sharedRules t n).disturbs c c') :
    Shared t n c' := by
  obtain ⟨hw, hs⟩ := hd
  refine h.congr ?_ ?_ ?_
  · intro obj hobj
    rw [hobj] at hw
    obtain ⟨obj', ho, _, hr⟩ := hw
    exact ⟨obj', ho, hr⟩
  · intro j
    exact ((hs j).saved (h.accountable j)).1
  · intro j wd hj
    exact ((hs j).saved (h.accountable j)).2 wd hj

end SharedSteps

section SharedRuns

variable {t : Target} {n : Int32}

theorem shared_start (r : Run (sharedRules t n).system) : 0 < n ∧ t.kind.Plain := by
  obtain ⟨hn, ⟨obj, hobj, hk, _⟩, _⟩ := r.start
  refine ⟨hn, ?_⟩
  rw [← Cluster.workload_kind hobj]
  exact hk

def NoneLingers (r : Run (sharedRules t n).system) : Prop :=
  ∀ i j api wd, r.event i = .reconcile j api → (r.state i).cluster.sharer t j = some wd →
    ¬ wd.Lingers

theorem shared_all {r : Run (sharedRules t n).system} (hl : NoneLingers r) (i : ℕ) :
    Shared t n (r.state i).cluster := by
  refine Rules.invariant r (fun _ => .start) ?_ ?_ i
  · intro k req api he hok hk
    exact hk.reconciled hok (shared_start r).2 (shared_start r).1 _ (fun wd => hl k req api wd he)
  · intro k c' hdist hk
    exact hk.disturbed hdist

end SharedRuns

/-- What makes a Reconcile of a suspended object give the replicas back: its deletion, the end of
the recovery window, or the end of the longest suspension allowed. -/
def GivesBack (api : Api) (now : Int) (c : Cluster) (req : NamespacedName)
    (wd : WorkloadDependency) : Prop :=
  wd.deletionTimestamp.isSome = true ∨
    (found api c req = some true ∧ ∃ since, wd.status.healthySince = some since ∧
      recoveryWindow wd ≤ timeSince now since) ∨
    (found api c req = some false ∧ ∃ since, wd.status.suspendedAt = some since ∧
      0 < wd.spec.onDegraded.maxSuspendDuration ∧
      wd.spec.onDegraded.maxSuspendDuration ≤ timeSince now since)

theorem GivesBack.sees {api : Api} {now : Int} {c : Cluster} {req : NamespacedName}
    {wd : WorkloadDependency} (h : GivesBack api now c req wd)
    (hd : wd.deletionTimestamp = none) : sighting api c req ≠ none := by
  intro hs
  have hfound : found api c req = none := by
    unfold found
    rw [hs]
    rfl
  rcases h with h | ⟨hf, _⟩ | ⟨hf, _⟩
  · rw [hd] at h
    cases h
  · cases hfound.symm.trans hf
  · cases hfound.symm.trans hf

theorem GivesBack.restores {api : Api} {now : Int} {c : Cluster} {req : NamespacedName}
    {wd : WorkloadDependency} {w : WorkloadObject} {s : Sighting} {d : Deed}
    {write : Option (DependencyPhase × Memory)} (h : GivesBack api now c req wd)
    (hd : wd.deletionTimestamp = none) (hs : sighting api c req = some s) (he : wd.enforces)
    (hp : wd.status.phase = .suspended) (hg : w.isProgressing = false)
    (hm : Move wd w now s.ev.allOk d write) : d = .restore := by
  have hfound := found_eq_of_sighting hs
  rcases h with h | ⟨hf, since, hsince, hw⟩ | ⟨hf, since, hsince, h0, hw⟩
  · rw [hd] at h
    cases h
  · rw [Option.some.inj (hfound.symm.trans hf)] at hm
    exact (hm.unique he (.recover he hp hsince hw)).1
  · rw [Option.some.inj (hfound.symm.trans hf)] at hm
    exact (hm.releases he hg hp hsince h0 hw).1

theorem Transition.gives_back {api : Api} {now : Int} {c : Cluster} {req : NamespacedName}
    {wd : WorkloadDependency} {obj : WorkloadObject} {n : Int32} {ps : List Patch}
    {o : Option WorkloadDependency} {w' : Option WorkloadObject}
    (h : Transition api now c req wd (some obj) o w' ps) (hg : c.getWD req = some wd)
    (hok : api.AllOk) (hk : obj.kind.Plain) (hn : 0 < n) (ha : wd.Accountable)
    (hs : wd.status.savedReplicas = some n) (hb : GivesBack api now c req wd) :
    ∃ obj', w' = some obj' ∧ obj'.getReplicas = n := by
  have hcron := hk.ne_cronJob
  obtain ⟨hp, he, hf⟩ := ha.held (by rw [hs]; simp)
  have hrestored : ∀ d, d = Deed.restore →
      (d.object wd.status.savedReplicas obj).getReplicas = n := by
    rintro _ rfl
    rw [hs]
    exact Deed.restores hcron hn
  by_cases hd : wd.deletionTimestamp = none
  · obtain ⟨_, _, _, hadv⟩ := h.advance hd
    obtain ⟨s, hsight⟩ := Option.ne_none_iff_exists'.mp (hb.sees hd)
    obtain ⟨hobj, d, write, hm, hw', _⟩ := hadv.seen_ok hsight hok
    obtain rfl := Option.some.inj hobj
    have hdeed := hb.restores hd hsight he hp hk.not_progressing hm
    exact ⟨_, hw', hrestored d hdeed⟩
  · obtain ⟨_, rfl⟩ := h.lets_go hg hok (Option.ne_none_iff_isSome.mp hd)
    rw [ha.holdsReplicas hn hs]
    exact ⟨_, rfl, hrestored _ rfl⟩

def Conserved (t : Target) (n : Int32) (c : Cluster) : Prop :=
  ∃ obj, c.workload t.kind t.key = some obj ∧
    ((obj.getReplicas = n ∧ ∀ j wd, c.sharer t j = some wd → wd.status.savedReplicas = none) ∨
      (obj.getReplicas = 0 ∧ ∃ j wd, c.sharer t j = some wd ∧
        wd.status.savedReplicas = some n ∧ wd.status.phase = .suspended ∧
        ∀ j' wd', c.sharer t j' = some wd' → wd'.status.savedReplicas ≠ none → j' = j))

theorem Cluster.savedBy_sharer {c : Cluster} {t : Target} {j : NamespacedName}
    {wd : WorkloadDependency} (h : c.sharer t j = some wd) :
    c.savedBy t j = wd.status.savedReplicas := by
  unfold savedBy
  rw [h]
  rfl

theorem Shared.conserved {t : Target} {n : Int32} {c : Cluster} (h : Shared t n c) :
    Conserved t n c := by
  obtain ⟨obj, hobj, hcus⟩ := h.custody
  refine ⟨obj, hobj, ?_⟩
  rcases hcus with ⟨hfull, hnone⟩ | ⟨h0, j, hj, honly⟩
  · refine Or.inl ⟨hfull, fun j wd hj => ?_⟩
    rw [← Cluster.savedBy_sharer hj]
    exact hnone j
  · obtain ⟨wd, hwd, hs⟩ := Option.bind_eq_some_iff.mp hj
    have hp := ((h.accountable j wd hwd).held (by rw [hs]; simp)).1
    refine Or.inr ⟨h0, j, wd, hwd, hs, hp, fun j' wd' hj' hne => ?_⟩
    rw [← Cluster.savedBy_sharer hj'] at hne
    exact honly j' hne

theorem Conserved.holder {t : Target} {n : Int32} {c : Cluster} (h : Conserved t n c)
    {j : NamespacedName} {wd : WorkloadDependency} (hj : c.sharer t j = some wd)
    (hs : wd.status.savedReplicas ≠ none) :
    ∃ obj, c.workload t.kind t.key = some obj ∧ obj.getReplicas = 0 ∧
      wd.status.savedReplicas = some n ∧ wd.status.phase = .suspended := by
  obtain ⟨obj, hobj, ⟨_, hnone⟩ | ⟨h0, j', wd', hj', hs', hp', honly⟩⟩ := h
  · exact absurd (hnone j wd hj) hs
  · obtain rfl := honly j wd hj hs
    obtain rfl := Option.some.inj (hj.symm.trans hj')
    exact ⟨obj, hobj, h0, hs', hp'⟩

/-- An object that lingers is left behind with the count it has just given back. -/
theorem Conserved.lingers {t : Target} {n : Int32} {c : Cluster} {api : Api} {now : Int}
    {j : NamespacedName} {wd : WorkloadDependency} (h : Conserved t n c) (hok : api.AllOk)
    (hk : t.kind.Plain) (hn : 0 < n) (hj : c.sharer t j = some wd) (hl : wd.Lingers) :
    ¬ Conserved t n (c.reconciled api now j) := by
  obtain ⟨obj, hobj, _, hs, hp⟩ := h.holder hj hl.saved
  obtain ⟨hg, rfl⟩ := Cluster.sharer_eq_some.mp hj
  have hplain : obj.kind.Plain := by
    rw [c.workload_kind hobj]
    exact hk
  have htrans := reconcile_transition now hg hok.written
  rw [show c.dependent wd = some obj from hobj] at htrans
  obtain ⟨ho, hw⟩ := htrans.lets_go hg hok hl.deleting
  have hne : wd.withoutFinalizer ≠ none := by
    obtain ⟨f, hf, hforeign⟩ := hl.foreign
    intro hnone
    exact hforeign (WorkloadDependency.withoutFinalizer_eq_none_iff.mp hnone f hf)
  obtain ⟨wd', hwd'⟩ := Option.ne_none_iff_exists'.mp hne
  have hs' : wd'.status.savedReplicas = some n :=
    (congrArg Memory.savedReplicas (WorkloadDependency.withoutFinalizer_memory hwd')).trans hs
  have ht' : wd'.target = wd.target := by
    rw [WorkloadDependency.withoutFinalizer_eq hwd']
    rfl
  have hj' : (c.reconciled api now j).sharer wd.target j = some wd' :=
    Cluster.sharer_eq_some.mpr ⟨ho.trans hwd', ht'⟩
  intro hafter
  obtain ⟨obj', hobj', h0, _⟩ := hafter.holder hj' (by simp [hs'])
  have hholds : wd.holdsReplicas = true := by
    rw [WorkloadDependency.holdsReplicas_eq hs]
    exact decide_eq_true ⟨hp, hn⟩
  rw [if_pos hholds, hs] at hw
  obtain rfl := Option.some.inj (hw.symm.trans hobj')
  rw [Deed.restores hplain.ne_cronJob hn] at h0
  subst h0
  exact absurd hn (by decide)

/-- The replicas are conserved throughout exactly the runs in which no Reconcile meets an object
that lingers. There, a Reconcile of the holder that recovers, is released or is deleted puts
back `n`. -/
theorem shared_replicas_conserved (t : Target) (n : Int32) (r : Run (sharedRules t n).system) :
    ((∀ i, Conserved t n (r.state i).cluster) ↔ NoneLingers r) ∧
    (NoneLingers r → ∀ i j api wd, r.event i = .reconcile j api →
      (r.state i).cluster.sharer t j = some wd → wd.status.savedReplicas ≠ none →
      GivesBack api (r.state i).clock (r.state i).cluster j wd →
      ∃ obj, (r.state (i + 1)).cluster.workload t.kind t.key = some obj ∧
        obj.getReplicas = n) := by
  obtain ⟨hn, hk⟩ := shared_start r
  refine ⟨⟨?_, fun hl i => (shared_all hl i).conserved⟩, ?_⟩
  · intro hall i j api wd he hj hlingers
    have hv := r.valid i
    rw [he] at hv
    have hnext := hall (i + 1)
    rw [r.step i, he] at hnext
    exact (hall i).lingers hv hk hn hj hlingers hnext
  · intro hl i j api wd he hj hsome hb
    have hinv := shared_all hl i
    obtain ⟨obj, hobj, _, hs, _⟩ := hinv.conserved.holder hj hsome
    have ha := hinv.accountable j wd hj
    have hv := r.valid i
    rw [he] at hv
    obtain ⟨hg, rfl⟩ := Cluster.sharer_eq_some.mp hj
    have hplain : obj.kind.Plain := by
      rw [Cluster.workload_kind hobj]
      exact hk
    have htrans := reconcile_transition (r.state i).clock hg hv.written
    rw [show (r.state i).cluster.dependent wd = some obj from hobj] at htrans
    rw [r.step i, he]
    exact htrans.gives_back hg hv hplain hn ha hs hb

section Lingering

variable {t : Target} {n : Int32} {s : World}

theorem sharedRules_idle (c : Cluster) : (sharedRules t n).disturbs c c := by
  refine ⟨.refl (fun w => ⟨w, rfl, rfl, rfl⟩) _, fun j => ?_⟩
  cases hj : c.sharer t j with
  | none =>
    intro wd h
    cases h
  | some wd => exact Or.inl (Or.inl rfl)

theorem sharedRules_waits {d : Int} (hd : 0 ≤ d) : (sharedRules t n).enabled s (waits d s) :=
  ⟨by simpa using hd, sharedRules_idle s.cluster⟩

theorem sharedRules_deletes {k : NamespacedName}
    (hk : (s.cluster.getWD k).all (fun wd =>
      decide (wd.deletionTimestamp = none ∧ wd.finalizers ≠ [])) = true) :
    (sharedRules t n).enabled s (edits k deleted (fun _ => rfl) s) := by
  obtain ⟨hsame, hold⟩ : (sharedRules t n).disturbs s.cluster s.cluster := sharedRules_idle _
  refine ⟨le_refl _, hsame, fun j => ?_⟩
  let c' : Cluster := { s.cluster with wds := s.cluster.wds.modify k deleted (fun _ => rfl) }
  change ComesOrGoes (s.cluster.sharer t j) (c'.sharer t j)
  by_cases hj : j = k
  · subst hj
    have hget : c'.getWD j = (s.cluster.getWD j).map deleted :=
      s.cluster.wds.get?_modify_self j deleted (fun _ => rfl)
    cases hg : s.cluster.getWD j with
    | none =>
      rw [hg] at hget
      rw [Cluster.sharer_congr (hget.trans hg.symm)]
      exact hold j
    | some wd =>
      rw [hg] at hget hk
      obtain ⟨hd, hf⟩ : wd.deletionTimestamp = none ∧ wd.finalizers ≠ [] := by simpa using hk
      by_cases ht : wd.target = t
      · have hafter : c'.sharer t j = some (deleted wd) := Cluster.sharer_eq_some.mpr ⟨hget, ht⟩
        rw [Cluster.sharer_eq_some.mpr ⟨hg, ht⟩, hafter]
        exact Or.inl (KeptOrDeleted.delete hd hf _)
      · have hafter : c'.sharer t j = none := Cluster.sharer_eq_none hget ht
        rw [Cluster.sharer_eq_none hg ht, hafter]
        intro wd h
        cases h
  · have hget : c'.getWD j = s.cluster.getWD j :=
      s.cluster.wds.get?_modify_ne deleted (fun _ => rfl) hj
    rw [Cluster.sharer_congr hget]
    exact hold j

end Lingering

def secondKey : NamespacedName := ⟨"default", "web-needs-db-too"⟩

def sharedDemo : World :=
  { demoDeployment with
    cluster := { demoDeployment.cluster with
      wds := ⟨[{ demoObject "Deployment" .strict 0 with finalizers := ["team/hold"] },
        { demoObject "Deployment" .strict 0 with name := "web-needs-db-too" }], by decide⟩ } }

/-- Both objects are suspended, the first one is deleted and let go, the second one enforces its
suspension, and the first one is reconciled once more. -/
def lingeringScript : List (World → Happening) :=
  [runs demoKey .good, runs secondKey .good, runs demoKey .good, runs secondKey .good,
    waits (31 * second), runs demoKey .good, runs secondKey .good,
    edits demoKey deleted deleted_key, runs demoKey .good, runs secondKey .good,
    runs demoKey .good]

theorem lingeringScript_playable :
    Playable (sharedRules ⟨.deployment, webKey⟩ 3).system sharedDemo lingeringScript := by
  have hr : Api.good.AllOk := Api.good_allOk
  exact ⟨hr, hr, hr, hr, sharedRules_waits (by decide), hr, hr,
    sharedRules_deletes (by decide), hr, hr, hr, trivial⟩

theorem sharedDemo_start : (sharedRules ⟨.deployment, webKey⟩ 3).start sharedDemo.cluster := by
  refine ⟨by decide, ⟨.deployment ⟨some 3, 3⟩, by decide, Or.inl rfl, by decide⟩, ?_⟩
  intro j wd hj
  have hmem := Cluster.mem_wds (Cluster.sharer_eq_some.mp hj).1
  have hall : ∀ wd ∈ sharedDemo.cluster.wds.items,
      (wd.memory = .empty ∧ wd.deletionTimestamp = none) ∧ wd.isPaused = false := by decide
  exact ⟨(hall wd hmem).1, (hall wd hmem).2⟩

def lingeringRun : Run (sharedRules ⟨.deployment, webKey⟩ 3).system :=
  Run.ofScript sharedDemo_start lingeringScript lingeringScript_playable .environment
    (fun s => ⟨⟨le_refl _, sharedRules_idle s.cluster⟩, rfl⟩)

/-- `web` is back at three replicas, and the second object still carries the number three. -/
theorem lingering_object_restores_twice :
    ((lingeringRun.state 11).cluster.workload .deployment webKey).map
        WorkloadObject.getReplicas = some 3 ∧
      ((lingeringRun.state 11).cluster.getWD secondKey).map (fun wd => (wd.status.phase,
        wd.status.savedReplicas, wd.deletionTimestamp)) = some (.suspended, some 3, none) ∧
      ¬ Conserved ⟨.deployment, webKey⟩ 3 (lingeringRun.state 11).cluster := by
  have hweb : ((lingeringRun.state 11).cluster.workload .deployment webKey).map
      WorkloadObject.getReplicas = some 3 := by decide
  have hsecond : ((lingeringRun.state 11).cluster.getWD secondKey).map (fun wd =>
      (wd.status.phase, wd.status.savedReplicas, wd.deletionTimestamp)) =
        some (.suspended, some 3, none) := by decide
  have htarget : ((lingeringRun.state 11).cluster.getWD secondKey).map (fun wd => wd.target) =
      some ⟨.deployment, webKey⟩ := by decide
  refine ⟨hweb, hsecond, fun hc => ?_⟩
  obtain ⟨wd, hwd, hv⟩ := Option.map_eq_some_iff.mp hsecond
  simp only [Prod.mk.injEq] at hv
  rw [hwd] at htarget
  have hj := Cluster.sharer_eq_some.mpr ⟨hwd, Option.some.inj htarget⟩
  obtain ⟨obj, hobj, h0, _⟩ := hc.holder hj (by simp [hv.2.1])
  rw [show (lingeringRun.state 11).cluster.workload .deployment webKey = some obj from hobj] at hweb
  rw [Option.map_some, h0] at hweb
  cases hweb

end Klink
