import Klink.ReplicaConservation

/-! # What a deletion gives back

`handleDeletion` restores the dependent before it lets the object go, but only when the stored
status says Suspended with a positive saved count. What klink holds down is recorded that way
for some kinds and in some phases only.
-/
namespace Klink

open TransitionSystem

def WorkloadObject.isDown (w : WorkloadObject) : Bool :=
  match w with
  | .cronJob _ => w.isSuspended
  | _ => decide (w.getReplicas = 0)

def WorkloadObject.scale (w : WorkloadObject) : Int32 × Bool := (w.getReplicas, w.isSuspended)

theorem WorkloadObject.isDown_eq {w : WorkloadObject} (h : w.kind ≠ .cronJob) :
    w.isDown = decide (w.getReplicas = 0) := by
  cases w with
  | cronJob => exact absurd rfl h
  | _ => rfl

theorem WorkloadObject.isSuspended_eq_false {w : WorkloadObject} (h : w.kind ≠ .cronJob) :
    w.isSuspended = false := by
  cases w with
  | cronJob => exact absurd rfl h
  | _ => rfl

theorem WorkloadObject.isDown_scale {w w' : WorkloadObject} (hk : w'.kind = w.kind)
    (h : w'.scale = w.scale) : w'.isDown = w.isDown := by
  obtain ⟨hr, hs⟩ := Prod.mk.inj h
  by_cases hc : w.kind = .cronJob
  · cases w with
    | cronJob =>
      cases w' with
      | cronJob => exact hs
      | _ => cases hk
    | _ => cases hc
  · rw [isDown_eq hc, isDown_eq (hk ▸ hc), hr]

def PausedOrDeleted (wd : WorkloadDependency) (o : Option WorkloadDependency) : Prop :=
  ∃ v, KeptOrDeleted (withPaused v wd) o

def SameScale (w : WorkloadObject) (o : Option WorkloadObject) : Prop :=
  ∀ w', o = some w' → w'.kind = w.kind ∧ w'.scale = w.scale

theorem PausedOrDeleted.untouched {wd wd' : WorkloadDependency}
    (h : PausedOrDeleted wd (some wd')) : wd.Untouched wd' := by
  obtain ⟨v, h⟩ := h
  rcases h.cases with rfl | ⟨t, _, rfl⟩
  · exact ⟨rfl, id, rfl, ⟨rfl, rfl⟩⟩
  · exact ⟨rfl, fun _ => rfl, rfl, ⟨rfl, rfl⟩⟩

/-- A strict or soft object with a dependent of any kind, which klink alone suspends. Status
writes succeed at once; any other call may fail. -/
def deletionLife (k : NamespacedName) (n : Int32) : Life where
  key := k
  start wd w := wd.Created ∧ wd.enforces ∧ ∃ obj, w = some obj ∧
    (obj.kind = .cronJob ∨ (obj.getReplicas = n ∧ 0 ≤ n))
  calls _ api := api.statusUpdate 0 = .ok
  edit := PausedOrDeleted
  touch := SameScale
  fresh _ _ h := h.1
  written _ _ h := Or.inl h
  untouched _ _ h := h.untouched

theorem deletionLife_conserves (k : NamespacedName) (n : Int32) :
    (deletionLife k n).Conserves n where
  start := by
    rintro wd obj ⟨_, _, _, ho, hk⟩ hne
    obtain rfl := Option.some.inj ho
    exact (hk.resolve_left hne).1
  calls _ _ h := h
  touch obj obj' h := ⟨(h obj' rfl).1, (Prod.mk.inj (h obj' rfl).2).1⟩

def Recoverable (n : Int32) (saved : Option Int32) (w : WorkloadObject) : Prop :=
  (saved = none ∨ saved = some n) ∧
    (w.getReplicas = n ∨ (w.getReplicas = 0 ∧ saved = some n))

theorem Balanced.recoverable {n : Int32} {saved : Option Int32} {w : WorkloadObject}
    (h : Balanced n saved w) : Recoverable n saved w := by
  rcases h with ⟨hn, hs⟩ | ⟨h0, hs⟩
  · exact ⟨Or.inl hs, Or.inl hn⟩
  · exact ⟨Or.inr hs, Or.inr ⟨h0, hs⟩⟩

theorem Recoverable.restore {n : Int32} {saved : Option Int32} {w : WorkloadObject}
    (hk : w.kind ≠ .cronJob) (h : Recoverable n saved w) :
    (Deed.restore.object saved w).getReplicas = n := by
  rcases h with ⟨rfl | rfl, h⟩
  · rw [Deed.object_restore_none hk]
    rcases h with h | ⟨_, h⟩
    · exact h
    · cases h
  · rw [Deed.object_restore_replicas hk]
    split
    · next h0 =>
      rcases h with h | ⟨h, _⟩
      · exact h
      · rw [h, h0]
    · rfl

theorem WorkloadDependency.withoutFinalizer_memory {wd wd' : WorkloadDependency}
    (h : wd.withoutFinalizer = some wd') : wd'.memory = wd.memory := by
  rw [withoutFinalizer_eq h]
  rfl

/-- A Reconcile of an object that is being deleted gives back what the status says is held and
lets the object go, unless some call fails. -/
theorem Transition.deleting {api : Api} {now : Int} {c : Cluster} {req : NamespacedName}
    {wd : WorkloadDependency} {w w' : Option WorkloadObject} {o : Option WorkloadDependency}
    {ps : List Patch} (h : Transition api now c req wd w o w' ps) (hg : c.getWD req = some wd)
    (hd : wd.deletionTimestamp.isSome = true) :
    (o = some wd ∧ ¬ api.AllOk ∧ (w' = w ∨ ∃ obj, w = some obj ∧
        w' = some (Deed.restore.object wd.status.savedReplicas obj))) ∨
      (o = wd.withoutFinalizer ∧ w' = w.map (fun obj => if wd.holdsReplicas then
        Deed.restore.object wd.status.savedReplicas obj else obj)) := by
  have hliving : ∀ s, sighting api c req ≠ some s := by
    intro s hs
    rw [(sighting_spec hs hg).1] at hd
    cases hd
  cases h with
  | idle hf => exact Or.inl ⟨rfl, hf, Or.inl rfl⟩
  | finalize hn => rw [hn] at hd; cases hd
  | report hn => rw [hn] at hd; cases hd
  | refused hs => exact absurd hs (hliving _)
  | act hs => exact absurd hs (hliving _)
  | move hs => exact absurd hs (hliving _)
  | undoFailed _ _ _ hw hf ho =>
    have hnot : ¬ api.AllOk := by
      intro hok
      rcases hf with hf | hf
      · exact hf hok.update
      · exact hf hok.patch
    refine Or.inl ⟨rfl, hnot, ?_⟩
    rcases ho with rfl | rfl
    · exact Or.inl hw.symm
    · exact Or.inr ⟨_, hw, rfl⟩
  | undone _ _ hh hw => exact Or.inr ⟨rfl, by rw [hw, hh]; rfl⟩
  | dropped _ _ hh =>
    refine Or.inr ⟨rfl, ?_⟩
    rcases hh with hh | rfl
    · simp [hh]
    · rfl

theorem Transition.deleting_memory {api : Api} {now : Int} {c : Cluster} {req : NamespacedName}
    {wd wd' : WorkloadDependency} {w w' : Option WorkloadObject} {ps : List Patch}
    (h : Transition api now c req wd w (some wd') w' ps) (hg : c.getWD req = some wd)
    (hd : wd.deletionTimestamp.isSome = true) : wd'.memory = wd.memory := by
  rcases h.deleting hg hd with ⟨ho, _⟩ | ⟨ho, _⟩
  · rw [Option.some.inj ho]
  · exact WorkloadDependency.withoutFinalizer_memory ho.symm

section DeletionRuns

variable {k : NamespacedName} {n : Int32} {r : (deletionLife k n).Run} {i : ℕ}
  {wd : WorkloadDependency}

theorem deletionLife_recoverable (h : r.object i = some wd) {obj : WorkloadObject}
    (hobj : (r.cluster i).dependent wd = some obj) (hk : obj.kind ≠ .cronJob) :
    Recoverable n wd.status.savedReplicas obj := by
  have hL := deletionLife_conserves k n
  refine r.induct_all (I := fun _ wd w => ∀ obj, w = some obj → obj.kind ≠ .cronJob →
    Recoverable n wd.memory.savedReplicas obj) ?_ ?_ ?_ i h obj hobj hk
  · rintro wd w hs obj rfl hk
    rw [hs.1.1]
    exact ⟨Or.inl rfl, Or.inl (hL.start wd obj hs hk)⟩
  · rintro i api wd wd' w' _ ho _ hcalls hi ht obj rfl hk
    by_cases hd : wd.deletionTimestamp = none
    · obtain ⟨wd'', heq, _, ha⟩ := ht.advance hd
      obtain rfl := Option.some.inj heq
      exact (ha.balanced hcalls hk (fun obj hobj hk => r.balanced hL ho hd hobj hk)).recoverable
    · have hdel := Option.ne_none_iff_isSome.mp hd
      rw [ht.deleting_memory ho hdel]
      have hsame : ∀ obj₀, (r.cluster i).dependent wd = some obj₀ →
          obj = Deed.restore.object wd.status.savedReplicas obj₀ →
          Recoverable n wd.memory.savedReplicas obj := by
        rintro obj₀ hw rfl
        rw [Deed.object_kind] at hk
        have hrec := hi obj₀ hw hk
        exact ⟨hrec.1, Or.inl (hrec.restore hk)⟩
      rcases ht.deleting ho hdel with ⟨_, _, hw | ⟨obj₀, hw, heq⟩⟩ | ⟨_, heq⟩
      · exact hi obj hw.symm hk
      · exact hsame obj₀ hw (Option.some.inj heq)
      · obtain ⟨obj₀, hw, hobj⟩ := Option.map_eq_some_iff.mp heq.symm
        split at hobj
        · exact hsame obj₀ hw hobj.symm
        · subst hobj
          exact hi obj₀ hw hk
  · rintro i wd wd' w' _ _ _ hi he ht obj rfl hk
    obtain ⟨obj₀, hw, htouch⟩ := ht.of_some
    obtain ⟨hk', hr⟩ := hL.touch obj₀ obj htouch
    rw [((deletionLife k n).untouched _ _ he).memory, Recoverable, hr]
    exact hi obj₀ hw (hk' ▸ hk)

theorem deletionLife_unsaved (h : r.object i = some wd) (hk : wd.dependentKind = .cronJob) :
    wd.status.savedReplicas = none := by
  refine r.induct_all (I := fun _ wd _ => wd.dependentKind = .cronJob →
    wd.memory.savedReplicas = none) ?_ ?_ ?_ i h hk
  · intro wd w hs _
    rw [hs.1.1]
    rfl
  · intro i api wd wd' w' _ ho _ hcalls hi ht hk'
    have hk : wd.dependentKind = .cronJob := ht.target.kind.symm.trans hk'
    have hnone : wd.memory.savedReplicas = none := hi hk
    by_cases hd : wd.deletionTimestamp = none
    · obtain ⟨wd'', heq, _, ha⟩ := ht.advance hd
      obtain rfl := Option.some.inj heq
      have hpers := ha.persisted hcalls
      generalize hdep : (r.cluster i).dependent wd = w, wd'.memory = m at hpers ⊢
      cases hpers with
      | still => exact hnone
      | report => rw [Memory.write_self_savedReplicas]; exact hnone
      | unwritten => exact hnone
      | @move s d phase caller _ hw hm =>
        rw [Memory.write_self_savedReplicas]
        have hcron : s.dependent.kind = .cronJob :=
          ((r.cluster i).workload_kind (hdep.trans hw)).trans hk
        exact hm.unsaved hcron hnone
    · rw [ht.deleting_memory ho (Option.ne_none_iff_isSome.mp hd)]
      exact hnone
  · intro i wd wd' w' _ _ _ hi he _ hk'
    have hu := (deletionLife k n).untouched _ _ he
    rw [hu.memory]
    exact hi (hu.target.kind.symm.trans hk')

theorem deletionLife_nonneg (h : r.object i = some wd) {obj : WorkloadObject}
    (hobj : (r.cluster i).dependent wd = some obj) (hk : obj.kind ≠ .cronJob) : 0 ≤ n := by
  refine r.kind (P := fun kind => kind ≠ .cronJob → 0 ≤ n) ?_ ?_ h hobj hk
  · rintro wd obj ⟨_, _, _, ho, hk⟩ hne
    obtain rfl := Option.some.inj ho
    exact (hk.resolve_left hne).2
  · intro obj obj' ht
    exact ((deletionLife_conserves k n).touch _ _ ht).1

end DeletionRuns

/-- Klink has taken the dependent down from `before` and has not given it back since. -/
def Life.Run.HeldDown {L : Life} (r : L.Run) (i : ℕ) (wd : WorkloadDependency)
    (before : WorkloadObject) : Prop :=
  ∃ j < i, (r.cluster j).dependent wd = some before ∧ before.isDown = false ∧
    ∀ m, j < m → m ≤ i → ∃ obj, (r.cluster m).dependent wd = some obj ∧ obj.isDown = true

structure Life.Run.LetsGo {L : Life} (r : L.Run) (i : ℕ) (wd : WorkloadDependency) : Prop where
  object : r.object i = some wd
  deleting : wd.deletionTimestamp.isSome = true
  before : wd.containsFinalizer = true
  after : ∀ wd', r.object (i + 1) = some wd' → wd'.containsFinalizer = false

theorem Life.Run.object_back {L : Life} {r : L.Run} {i j : ℕ} {wd : WorkloadDependency}
    (hj : j ≤ i) (h : r.object i = some wd) :
    ∃ wd₀, r.object j = some wd₀ ∧ wd₀.SameTarget wd := by
  induction i generalizing wd with
  | zero =>
    obtain rfl : j = 0 := by omega
    exact ⟨wd, h, rfl, rfl⟩
  | succ i ih =>
    by_cases hlast : j = i + 1
    · subst hlast
      exact ⟨wd, h, rfl, rfl⟩
    · obtain ⟨wd₁, h₁⟩ := r.object_pred h
      obtain ⟨wd₀, h₀, ht⟩ := ih (by omega) h₁
      have ht' := r.target_succ h₁ h
      exact ⟨wd₀, h₀, ht'.key.trans ht.key, ht'.kind.trans ht.kind⟩

theorem Life.Run.LetsGo.gives {k : NamespacedName} {n : Int32} {r : (deletionLife k n).Run}
    {i : ℕ} {wd : WorkloadDependency} (h : r.LetsGo i wd) {obj : WorkloadObject}
    (hobj : (r.cluster i).dependent wd = some obj) :
    (r.cluster (i + 1)).dependent wd =
      some (if wd.holdsReplicas then Deed.restore.object wd.status.savedReplicas obj else obj) := by
  cases hc : r.call i with
  | none =>
    obtain ⟨⟨v, he⟩, _⟩ := r.disturbed hc h.object
    rcases he with he | ⟨hd, _⟩
    · have hf := h.after _ he
      have hb : (withPaused v wd).containsFinalizer = true := h.before
      rw [hb] at hf
      cases hf
    · have hdel := h.deleting
      rw [show wd.deletionTimestamp = none from hd] at hdel
      cases hdel
  | some api =>
    rcases (r.transition hc h.object).2.deleting h.object h.deleting with ⟨ho, _⟩ | ⟨_, hw⟩
    · cases h.before.symm.trans (h.after wd ho)
    · rw [hw, hobj]
      rfl

theorem WorkloadDependency.holdsReplicas_eq {wd : WorkloadDependency} {n : Int32}
    (hs : wd.status.savedReplicas = some n) :
    wd.holdsReplicas = decide (wd.status.phase = .suspended ∧ 0 < n) := by
  unfold holdsReplicas
  rw [hs]

theorem Life.Run.HeldDown.saved {k : NamespacedName} {n : Int32} {r : (deletionLife k n).Run}
    {i : ℕ} {wd : WorkloadDependency} {before : WorkloadObject} (ho : r.object i = some wd)
    (hh : r.HeldDown i wd before) (hc : wd.dependentKind ≠ .cronJob) :
    before.getReplicas = n ∧ wd.status.savedReplicas = some n ∧ 0 < n := by
  obtain ⟨j, hj, hbefore, hup, hdown⟩ := hh
  obtain ⟨obj, hobj, hd⟩ := hdown i hj (le_refl i)
  have hko : obj.kind ≠ .cronJob := (r.cluster i).workload_kind hobj ▸ hc
  have hkb : before.kind ≠ .cronJob := (r.cluster j).workload_kind hbefore ▸ hc
  rw [WorkloadObject.isDown_eq hko] at hd
  rw [WorkloadObject.isDown_eq hkb] at hup
  have hzero : obj.getReplicas = 0 := of_decide_eq_true hd
  have hfull : before.getReplicas = n := by
    obtain ⟨wd₀, h₀, ht⟩ := r.object_back (by omega : j ≤ i) ho
    rw [ht.dependent] at hbefore
    have hrec₀ := deletionLife_recoverable h₀ hbefore hkb
    exact hrec₀.2.resolve_right (fun h => of_decide_eq_false hup h.1)
  have hn : n ≠ 0 := by
    rw [hfull] at hup
    exact of_decide_eq_false hup
  have hrec := deletionLife_recoverable ho hobj hko
  refine ⟨hfull, ?_, Int32.lt_of_le_of_ne (deletionLife_nonneg ho hobj hko) hn.symm⟩
  rcases hrec.2 with h | h
  · exact absurd (h.symm.trans hzero) hn
  · exact h.2

theorem Life.Run.HeldDown.holdsReplicas_iff {k : NamespacedName} {n : Int32}
    {r : (deletionLife k n).Run} {i : ℕ} {wd : WorkloadDependency} {before : WorkloadObject}
    (ho : r.object i = some wd) (hh : r.HeldDown i wd before) :
    wd.holdsReplicas = true ↔ wd.dependentKind ≠ .cronJob ∧ wd.status.phase = .suspended := by
  by_cases hc : wd.dependentKind = .cronJob
  · have hholds : wd.holdsReplicas = false := by
      unfold WorkloadDependency.holdsReplicas
      rw [deletionLife_unsaved ho hc]
    simp [hholds, hc]
  · obtain ⟨_, hsaved, hpos⟩ := hh.saved ho hc
    rw [WorkloadDependency.holdsReplicas_eq hsaved]
    simp [hc, hpos]

/-- A deletion puts the dependent back exactly when it is no CronJob and the stored phase still
says Suspended. -/
theorem deletion_undoes_iff {k : NamespacedName} {n : Int32} (r : (deletionLife k n).Run) (i : ℕ)
    {wd : WorkloadDependency} {before : WorkloadObject} (hl : r.LetsGo i wd)
    (hh : r.HeldDown i wd before) :
    (∃ obj, (r.cluster (i + 1)).dependent wd = some obj ∧ obj.scale = before.scale) ↔
      (wd.dependentKind ≠ .cronJob ∧ wd.status.phase = .suspended) := by
  rw [← hh.holdsReplicas_iff hl.object]
  obtain ⟨j, hj, hbefore, hup, hdown⟩ := id hh
  obtain ⟨obj, hobj, hd⟩ := hdown i hj (le_refl i)
  have hkobj : obj.kind = wd.dependentKind := (r.cluster i).workload_kind hobj
  have hkbefore : before.kind = wd.dependentKind := (r.cluster j).workload_kind hbefore
  rw [hl.gives hobj]
  constructor
  · rintro ⟨_, ho, hs⟩
    by_contra hholds
    rw [if_neg hholds] at ho
    obtain rfl := Option.some.inj ho
    rw [WorkloadObject.isDown_scale (hkobj.trans hkbefore.symm) hs, hup] at hd
    cases hd
  · intro hholds
    have hc := ((hh.holdsReplicas_iff hl.object).mp hholds).1
    have hko : obj.kind ≠ .cronJob := hkobj ▸ hc
    have hkb : before.kind ≠ .cronJob := hkbefore ▸ hc
    have hkr : (Deed.restore.object wd.status.savedReplicas obj).kind ≠ .cronJob := by
      rw [Deed.object_kind]
      exact hko
    rw [if_pos hholds]
    refine ⟨_, rfl, Prod.ext ?_ ?_⟩
    · exact ((deletionLife_recoverable hl.object hobj hko).restore hko).trans
        (hh.saved hl.object hc).1.symm
    · exact (WorkloadObject.isSuspended_eq_false hkr).trans
        (WorkloadObject.isSuspended_eq_false hkb).symm

def deleted (wd : WorkloadDependency) : WorkloadDependency :=
  { wd with deletionTimestamp := some (31 * second) }

theorem deleted_key (wd : WorkloadDependency) : (deleted wd).key = wd.key := rfl

def deletionScript : List (World → Happening) :=
  [runs demoKey .good, runs demoKey .good, waits (31 * second), runs demoKey .good,
    edits demoKey deleted deleted_key, runs demoKey .good]

theorem deletionLife_idles (k : NamespacedName) (n : Int32) : (deletionLife k n).Idles :=
  ⟨fun wd => ⟨wd.annotationPaused, Or.inl rfl⟩, fun w w' hw => by
    obtain rfl := Option.some.inj hw
    exact ⟨rfl, rfl⟩⟩

theorem deletionScript_playable {n : Int32} {s : World}
    (hs : ((play (deletionLife demoKey n).rules.system s (deletionScript.take 4)).cluster.getWD
      demoKey).all (fun wd => decide (wd.deletionTimestamp = none ∧ wd.finalizers ≠ [])) = true) :
    Playable (deletionLife demoKey n).rules.system s deletionScript := by
  have hL := deletionLife_idles demoKey n
  have hr : ∀ s, (deletionLife demoKey n).rules.enabled s (runs demoKey .good s) :=
    fun _ => Life.enabled_runs (fun _ => rfl)
  refine ⟨hr _, hr _, hL.enabled_waits (by decide), hr _, hL.enabled_edits _ ?_, hr _, trivial⟩
  intro wd hwd
  have hs : (some wd).all (fun wd => decide (wd.deletionTimestamp = none ∧ wd.finalizers ≠ [])) =
      true := by
    rw [← hwd]
    exact hs
  obtain ⟨hd, hf⟩ : wd.deletionTimestamp = none ∧ wd.finalizers ≠ [] := by simpa using hs
  exact ⟨wd.annotationPaused, KeptOrDeleted.delete hd hf _⟩

def cronJobRun : (deletionLife demoKey 0).Run :=
  Life.scripted _ (deletionLife_idles demoKey 0)
    (demoWorld (demoObject "CronJob" .strict 0) (.cronJob ⟨some false⟩))
    ⟨demoObject "CronJob" .strict 0, by decide, ⟨rfl, rfl⟩, Or.inl rfl, .cronJob ⟨some false⟩,
      by decide, Or.inl rfl⟩
    deletionScript (deletionScript_playable (by decide))

/-- The CronJob klink has suspended stays suspended when its object is deleted. -/
theorem deletion_leaves_cronJob_suspended :
    (cronJobRun.patches 3).map (fun p => (p.before.isSuspended, p.after.isSuspended)) =
        [(false, true)] ∧
      (cronJobRun.object 5).map (fun wd => (wd.deletionTimestamp.isSome, wd.containsFinalizer,
        wd.status.phase)) = some (true, true, .suspended) ∧
      cronJobRun.object 6 = none ∧
      (cronJobRun.cluster 6).workload .cronJob webKey = some (.cronJob ⟨some true⟩) := by
  decide

def deploymentRun : (deletionLife demoKey 3).Run :=
  Life.scripted _ (deletionLife_idles demoKey 3) demoDeployment
    ⟨demoObject "Deployment" .strict 0, by decide, ⟨rfl, rfl⟩, Or.inl rfl,
      .deployment ⟨some 3, 3⟩, by decide, Or.inr ⟨by decide, by decide⟩⟩
    deletionScript (deletionScript_playable (by decide))

theorem deletion_undoes_deployment :
    ∃ wd before, deploymentRun.LetsGo 5 wd ∧ deploymentRun.HeldDown 5 wd before ∧
      ((∃ obj, (deploymentRun.cluster 6).dependent wd = some obj ∧ obj.scale = before.scale) ↔
        (wd.dependentKind ≠ .cronJob ∧ wd.status.phase = .suspended)) := by
  have hview : (deploymentRun.object 5).map (fun wd => (wd.deletionTimestamp.isSome,
      wd.containsFinalizer, (deploymentRun.cluster 3).dependent wd,
      (deploymentRun.cluster 4).dependent wd, (deploymentRun.cluster 5).dependent wd)) =
      some (true, true, some (.deployment ⟨some 3, 3⟩), some (.deployment ⟨some 0, 3⟩),
        some (.deployment ⟨some 0, 3⟩)) := by decide
  have hgone : deploymentRun.object 6 = none := by decide
  obtain ⟨wd, hwd, hv⟩ := Option.map_eq_some_iff.mp hview
  simp only [Prod.mk.injEq] at hv
  obtain ⟨hdel, hfin, h3, h4, h5⟩ := hv
  have hgo : deploymentRun.LetsGo 5 wd :=
    ⟨hwd, hdel, hfin, fun wd' h => by cases hgone.symm.trans h⟩
  have hheld : deploymentRun.HeldDown 5 wd (.deployment ⟨some 3, 3⟩) := by
    refine ⟨3, by decide, h3, by decide, ?_⟩
    intro m hm hle
    have hcases : m = 4 ∨ m = 5 := by omega
    rcases hcases with rfl | rfl
    · exact ⟨_, h4, by decide⟩
    · exact ⟨_, h5, by decide⟩
  exact ⟨wd, _, hgo, hheld, deletion_undoes_iff deploymentRun 5 hgo hheld⟩

end Klink
