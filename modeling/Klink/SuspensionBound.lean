import Klink.DeletionUndo
import Klink.PatchGuards

/-! # How long a suspension lasts

`SuspendedAt` is stamped as a side effect of the status writes and measured against
`maxSuspendDuration`. The stamp of a suspension never moves, so the bound counts from the
Reconcile that entered phase Suspended, however often the dependencies come and go meanwhile.
-/
namespace Klink

open TransitionSystem

/-- Duration fields hold 64-bit values, so a positive one is at most `maxDuration`. -/
def WorkloadDependency.Bounded (wd : WorkloadDependency) : Prop :=
  0 < wd.spec.onDegraded.maxSuspendDuration ∧
    wd.spec.onDegraded.maxSuspendDuration ≤ maxDuration

def Settled (w : WorkloadObject) (o : Option WorkloadObject) : Prop :=
  ∃ w', o = some w' ∧ (w.isProgressing = false → w'.isProgressing = false)

/-- A strict or soft, unpaused object with a maximal suspension, and a dependent that always
exists and is never a progressing Rollout. Every call succeeds. -/
def boundedLife (k : NamespacedName) : Life where
  key := k
  start wd w := wd.Created ∧ wd.Active ∧ wd.Bounded ∧
    ∃ obj, w = some obj ∧ obj.isProgressing = false
  calls _ := Api.AllOk
  edit := KeptOrDeleted
  touch := Settled
  fresh _ _ h := h.1
  written := @Api.AllOk.written
  untouched := @KeptOrDeleted.untouched

theorem Memory.saving_suspendedAt (m : Memory) (w : WorkloadObject) :
    (m.saving w).suspendedAt = m.suspendedAt := by
  cases w with
  | cronJob => rfl
  | _ =>
    unfold Memory.saving
    dsimp only
    split <;> rfl

theorem Memory.saving_nonzero {m : Memory} (h : m.savedReplicas ≠ some 0) (w : WorkloadObject) :
    (m.saving w).savedReplicas ≠ some 0 := by
  by_cases hk : w.kind = .cronJob
  · cases w with
    | cronJob => exact h
    | _ => cases hk
  · rw [Memory.saving_savedReplicas hk]
    by_cases h0 : w.getReplicas = 0
    · rw [if_pos h0]
      exact h
    · rw [if_neg h0]
      exact fun heq => h0 (Option.some.inj heq)

theorem Move.suspended_stamp {wd : WorkloadDependency} {w : WorkloadObject} {now : Int}
    {ok : Bool} {d : Deed} {caller : Memory} (hm : Move wd w now ok d (some (.suspended, caller))) :
    caller.suspendedAt = wd.status.suspendedAt := by
  have hsaving := wd.memory.saving_suspendedAt w
  cases hm with
  | @watch ok _ _ hwell hbad =>
    cases ok with
    | true => cases hwell rfl
    | false => rcases hbad rfl with h | h <;> cases h
  | stay => rfl
  | enforce => exact hsaving
  | startRecovery => rfl
  | suspend => exact hsaving

theorem Move.saved_nonzero {wd : WorkloadDependency} {w : WorkloadObject} {now : Int} {ok : Bool}
    {d : Deed} {phase : DependencyPhase} {caller : Memory}
    (hm : Move wd w now ok d (some (phase, caller))) (h : wd.memory.savedReplicas ≠ some 0) :
    caller.savedReplicas ≠ some 0 := by
  have hsaving := Memory.saving_nonzero h w
  cases hm with
  | release => exact nofun
  | enforce => exact hsaving
  | recover => exact nofun
  | suspend => exact hsaving
  | _ => exact h

theorem WorkloadObject.setReplicas_isProgressing (n : Int32) (w : WorkloadObject) :
    (w.setReplicas n).isProgressing = w.isProgressing := by
  cases w <;> rfl

theorem WorkloadObject.setSuspend_isProgressing (b : Bool) (w : WorkloadObject) :
    (w.setSuspend b).isProgressing = w.isProgressing := by
  cases w <;> rfl

structure Restored (saved : Option Int32) (w w' : WorkloadObject) : Prop where
  cronJob : w.kind = .cronJob → w'.isSuspended = false
  replicas : w.kind ≠ .cronJob → ∀ n, saved = some n → w' = w.setReplicas n
  unsaved : w.kind ≠ .cronJob → saved = none → w' = w

theorem Deed.restored {saved : Option Int32} (h : saved ≠ some 0) (w : WorkloadObject) :
    Restored saved w (Deed.restore.object saved w) := by
  cases w with
  | cronJob obj =>
    refine ⟨fun _ => ?_, fun hk => absurd rfl hk, fun hk => absurd rfl hk⟩
    simp only [Deed.object, Deed.patch, WorkloadObject.restorePatch]
    split
    · rfl
    · next hs => simpa using hs
  | _ obj =>
    refine ⟨?_, ?_, ?_⟩
    · intro hk
      cases hk
    · rintro _ n rfl
      have hn : n ≠ 0 := fun h0 => h (congrArg some h0)
      simp only [Deed.object, Deed.patch, WorkloadObject.restorePatch]
      rw [if_neg hn]
      rfl
    · rintro _ rfl
      rfl

theorem Deed.object_progressing (saved : Option Int32) (w : WorkloadObject) (d : Deed) :
    (d.object saved w).isProgressing = w.isProgressing := by
  unfold Deed.object
  cases hp : d.patch saved w with
  | none => rfl
  | some a =>
    cases d with
    | keep => cases hp
    | suspend =>
      rcases suspendPatch_form hp with ⟨_, rfl⟩ | ⟨_, rfl⟩
      · exact w.setReplicas_isProgressing 0
      · exact w.setSuspend_isProgressing true
    | restore =>
      rcases restorePatch_form hp with ⟨_, n, _, _, rfl⟩ | ⟨_, rfl⟩
      · exact w.setReplicas_isProgressing n
      · exact w.setSuspend_isProgressing false

theorem Transition.dependent_progressing {api : Api} {now : Int} {c : Cluster}
    {req : NamespacedName} {wd : WorkloadDependency} {obj : WorkloadObject}
    {w' : Option WorkloadObject} {o : Option WorkloadDependency} {ps : List Patch}
    (h : Transition api now c req wd (some obj) o w' ps) :
    ∃ obj', w' = some obj' ∧ obj'.isProgressing = obj.isProgressing := by
  generalize hw : some obj = w at h
  have hdeed : ∀ (s : Sighting) (d : Deed), w = some s.dependent →
      (d.object wd.status.savedReplicas s.dependent).isProgressing = obj.isProgressing := by
    rintro s d hs
    rw [Option.some.inj (hw.trans hs), Deed.object_progressing]
  cases h with
  | idle => exact ⟨obj, hw.symm, rfl⟩
  | finalize => exact ⟨obj, hw.symm, rfl⟩
  | report => exact ⟨obj, hw.symm, rfl⟩
  | refused => exact ⟨obj, hw.symm, rfl⟩
  | act _ hs => exact ⟨_, rfl, hdeed _ _ hs⟩
  | move _ hs => exact ⟨_, rfl, hdeed _ _ hs⟩
  | undoFailed _ _ _ hs _ ho =>
    obtain rfl := Option.some.inj (hw.trans hs)
    rcases ho with rfl | rfl
    · exact ⟨_, rfl, rfl⟩
    · exact ⟨_, rfl, Deed.object_progressing _ _ _⟩
  | undone _ _ _ hs =>
    obtain rfl := Option.some.inj (hw.trans hs)
    exact ⟨_, rfl, Deed.object_progressing _ _ _⟩
  | dropped => exact ⟨obj, hw.symm, rfl⟩

section BoundedRuns

variable {k : NamespacedName} {r : (boundedLife k).Run} {i : ℕ} {wd wd' : WorkloadDependency}

inductive Remembered (r : (boundedLife k).Run) (i : ℕ) (m m' : Memory) : Prop where
  | same : m' = m → Remembered r i m m'
  | written {api phase caller} : r.call i = some api →
      m' = Memory.write (r.clock i) phase caller caller →
      (phase = .suspended → caller.suspendedAt = m.suspendedAt) →
      (m.savedReplicas ≠ some 0 → caller.savedReplicas ≠ some 0) → Remembered r i m m'

theorem boundedLife_remembered (h : r.object i = some wd) (h' : r.object (i + 1) = some wd') :
    Remembered r i wd.memory wd'.memory := by
  cases hc : r.call i with
  | none =>
    have hedit := (r.disturbed hc h).1
    rw [h'] at hedit
    exact .same ((boundedLife k).untouched _ _ hedit).memory
  | some api =>
    obtain ⟨hok, ht⟩ := r.transition hc h
    rw [h'] at ht
    by_cases hd : wd.deletionTimestamp = none
    · obtain ⟨wd'', heq, _, ha⟩ := ht.advance hd
      obtain rfl := Option.some.inj heq
      have hpers := ha.persisted (Api.AllOk.statusUpdate hok 0)
      generalize wd'.memory = m', (r.cluster (i + 1)).dependent wd = w' at hpers ⊢
      cases hpers with
      | still => exact .same rfl
      | report =>
        refine .written hc rfl ?_ id
        intro _
        rfl
      | unwritten => exact .same rfl
      | move _ _ hm =>
        refine .written hc rfl ?_ hm.saved_nonzero
        rintro rfl
        exact hm.suspended_stamp
    · exact .same (ht.deleting_memory h (Option.ne_none_iff_isSome.mp hd))

structure Memory.Stamped (m : Memory) : Prop where
  stamp : m.phase = .suspended ↔ m.suspendedAt ≠ none
  nonzero : m.savedReplicas ≠ some 0

theorem Memory.Stamped.write {caller : Memory} (h : caller.savedReplicas ≠ some 0) (now : Int)
    (phase : DependencyPhase) : (Memory.write now phase caller caller).Stamped := by
  constructor
  · by_cases hp : phase = .suspended
    · simp [Memory.write, hp]
    · simp [Memory.write, hp]
  · rw [Memory.write_self_savedReplicas]
    exact h

theorem Remembered.stamped {m m' : Memory} (hr : Remembered r i m m') (h : m.Stamped) :
    m'.Stamped := by
  cases hr with
  | same heq =>
    rw [heq]
    exact h
  | written _ heq _ hsaved =>
    rw [heq]
    exact .write (hsaved h.nonzero) _ _

theorem boundedLife_stamped (h : r.object i = some wd) : wd.memory.Stamped := by
  induction i generalizing wd with
  | zero =>
    rw [(r.started h).1.1]
    exact ⟨by simp [Memory.empty], nofun⟩
  | succ i ih =>
    obtain ⟨wd₀, h₀⟩ := r.object_pred h
    exact (boundedLife_remembered h₀ h).stamped (ih h₀)

/-- A suspension is entered by a Reconcile, which stamps it with its own time. -/
theorem Remembered.entered {m m' : Memory} (hr : Remembered r i m m') (h : m.Stamped)
    (hp : m.phase ≠ .suspended) (hp' : m'.phase = .suspended) :
    (∃ api, r.call i = some api) ∧ m'.suspendedAt = some (truncateTime (r.clock i)) := by
  have hnone : m.suspendedAt = none := by
    by_contra hne
    exact hp (h.stamp.mpr hne)
  cases hr with
  | same heq =>
    rw [heq] at hp'
    exact absurd hp' hp
  | @written api phase caller hc heq hstamp _ =>
    subst heq
    obtain rfl : phase = .suspended := hp'
    refine ⟨⟨_, hc⟩, ?_⟩
    simp [Memory.write, hstamp rfl, hnone]

theorem Remembered.keeps_stamp {m m' : Memory} {t : Int} (hr : Remembered r i m m')
    (ht : m.suspendedAt = some (truncateTime t)) (hp' : m'.phase = .suspended) :
    m'.suspendedAt = some (truncateTime t) := by
  cases hr with
  | same heq =>
    rw [heq]
    exact ht
  | @written api phase caller _ heq hstamp _ =>
    subst heq
    obtain rfl : phase = .suspended := hp'
    simp [Memory.write, hstamp rfl, ht]

structure Life.Run.Stretch {L : Life} (r : L.Run) (e j : ℕ) : Prop where
  begun : e < j
  before : ∀ wd, r.object e = some wd → wd.status.phase ≠ .suspended
  during : ∀ l, e < l → l ≤ j → ∃ wd, r.object l = some wd ∧ wd.status.phase = .suspended

theorem stretch_stamp {e j : ℕ} (hs : r.Stretch e j) :
    (∃ api, r.call e = some api) ∧
      ∀ wd, r.object j = some wd →
        wd.status.suspendedAt = some (truncateTime (r.clock e)) := by
  obtain ⟨hej, hbefore, hduring⟩ := hs
  induction j, hej using Nat.le_induction with
  | base =>
    obtain ⟨wd, h, hp⟩ := hduring (e + 1) (by omega) le_rfl
    obtain ⟨wd₀, h₀⟩ := r.object_pred h
    obtain ⟨hc, hstamp⟩ := (boundedLife_remembered h₀ h).entered (boundedLife_stamped h₀)
      (hbefore wd₀ h₀) hp
    refine ⟨hc, ?_⟩
    intro wd' h'
    obtain rfl := Option.some.inj (h.symm.trans h')
    exact hstamp
  | succ j hej ih =>
    obtain ⟨hc, hstamp⟩ := ih (fun l hl hlj => hduring l hl (by omega))
    refine ⟨hc, ?_⟩
    intro wd' h'
    obtain ⟨wd, h, _⟩ := hduring j hej (by omega)
    obtain ⟨wd'', h'', hp''⟩ := hduring (j + 1) (by omega) le_rfl
    obtain rfl := Option.some.inj (h''.symm.trans h')
    exact (boundedLife_remembered h h').keeps_stamp (hstamp wd h) hp''

theorem boundedLife_active (h : r.object i = some wd) (hd : wd.deletionTimestamp = none) :
    wd.Active :=
  r.active (fun _ _ hs => hs.2.1) (fun _ _ he ha => KeptOrDeleted.active he ha) h hd

theorem boundedLife_bounded (h : r.object i = some wd) (hd : wd.deletionTimestamp = none) :
    wd.Bounded := by
  refine r.specified ?_ KeptOrDeleted.spec (fun _ _ hs => hs.2.2.1) h hd
  intro wd wd' hspec _ hi
  unfold WorkloadDependency.Bounded
  rw [hspec]
  exact hi

theorem boundedLife_settled (h : r.object i = some wd) :
    ∃ obj, (r.cluster i).dependent wd = some obj ∧ obj.isProgressing = false := by
  refine r.induct_all (I := fun _ _ w => ∃ obj, w = some obj ∧ obj.isProgressing = false)
    ?_ ?_ ?_ i h
  · rintro wd w ⟨_, _, _, hw⟩
    exact hw
  · rintro i api wd wd' w' _ ho _ _ ⟨obj, hobj, hg⟩ ht
    rw [hobj] at ht
    obtain ⟨obj', rfl, hsame⟩ := ht.dependent_progressing
    exact ⟨obj', rfl, hsame.trans hg⟩
  · rintro i wd wd' w' _ _ _ ⟨obj, hobj, hg⟩ _ ht
    rw [hobj] at ht
    obtain ⟨obj', hobj', hkeeps⟩ := ht
    exact ⟨obj', hobj', hkeeps hg⟩

/-- The bound on suspensions. In every state the phase is Suspended exactly when a stamp is
stored. Throughout a stretch of phase Suspended the stamp is the time of the Reconcile that
entered it. A Reconcile that finds a dependency unhealthy when the stamp is
`maxSuspendDuration` old releases the dependent and forgets the suspension. -/
theorem suspension_bounded (r : (boundedLife k).Run) :
    (∀ i wd, r.object i = some wd →
      (wd.status.phase = .suspended ↔ wd.status.suspendedAt ≠ none)) ∧
    (∀ e j, r.Stretch e j → (∃ api, r.call e = some api) ∧ ∀ wd, r.object j = some wd →
      wd.status.suspendedAt = some (truncateTime (r.clock e))) ∧
    ∀ i wd since, r.object i = some wd → r.found i = some false →
      wd.status.suspendedAt = some since →
      since + wd.spec.onDegraded.maxSuspendDuration ≤ r.clock i →
      ∃ wd' obj obj', r.object (i + 1) = some wd' ∧ wd'.status.phase = .released ∧
        (r.cluster i).dependent wd = some obj ∧ (r.cluster (i + 1)).dependent wd = some obj' ∧
        Restored wd.status.savedReplicas obj obj' ∧ wd'.status.savedReplicas = none ∧
        wd'.status.healthySince = none ∧ wd'.status.suspendedAt = none := by
  refine ⟨fun i wd h => (boundedLife_stamped h).stamp, fun e j => stretch_stamp, ?_⟩
  intro i wd since h hf hs hlong
  have hstamped := boundedLife_stamped h
  have hp : wd.status.phase = .suspended := by
    apply hstamped.stamp.mpr
    intro hnone
    cases hs.symm.trans hnone
  obtain ⟨wd', w, d, write, hd, hobj, hm, hwd', hobj', hmem⟩ :=
    r.found_move (fun _ _ hok => hok) h hf
  obtain ⟨obj, hobj₀, hg⟩ := boundedLife_settled h
  obtain rfl := Option.some.inj (hobj₀.symm.trans hobj)
  have hb := boundedLife_bounded h hd
  obtain ⟨rfl, rfl⟩ := hm.releases (boundedLife_active h hd).enforces hg hp hs hb.1
    (le_timeSince hlong hb.2)
  have hmem : wd'.memory = Memory.write (r.clock i) .released wd.memory.restored
    wd.memory.restored := hmem
  exact ⟨wd', _, _, hwd', congrArg Memory.phase hmem, hobj, hobj', Deed.restored hstamped.nonzero _,
    congrArg Memory.savedReplicas hmem, congrArg Memory.healthySince hmem,
    congrArg Memory.suspendedAt hmem⟩

end BoundedRuns

def flickerScript : List (World → Happening) :=
  [runs demoKey .good, runs demoKey .good, waits (31 * second), runs demoKey .good,
    sets dbKey (demoDb 1), runs demoKey .good, sets dbKey (demoDb 0), waits (60 * second),
    runs demoKey .good]

theorem boundedLife_idles (k : NamespacedName) : (boundedLife k).Idles :=
  ⟨fun _ => Or.inl rfl, fun w => ⟨w, rfl, id⟩⟩

def boundedWorld : World :=
  demoWorld (demoObject "Deployment" .strict (60 * second)) (.deployment ⟨some 3, 3⟩)

theorem flickerScript_playable :
    Playable (boundedLife demoKey).rules.system boundedWorld flickerScript := by
  have hL := boundedLife_idles demoKey
  have hr : ∀ s, (boundedLife demoKey).rules.enabled s (runs demoKey .good s) :=
    fun _ => Life.enabled_runs (fun _ => Api.good_allOk)
  exact ⟨hr _, hr _, hL.enabled_waits (by decide), hr _, hL.enabled_sets (by decide), hr _,
    hL.enabled_sets (by decide), hL.enabled_waits (by decide), hr _, trivial⟩

def flickerRun : (boundedLife demoKey).Run :=
  Life.scripted _ (boundedLife_idles demoKey) boundedWorld
    ⟨demoObject "Deployment" .strict (60 * second), by decide, ⟨rfl, rfl⟩, ⟨Or.inl rfl, rfl⟩,
      ⟨by decide, by decide⟩, .deployment ⟨some 3, 3⟩, by decide, rfl⟩
    flickerScript flickerScript_playable

/-- The minute runs from the suspension on, and `web` is released with its three replicas. -/
theorem flicker_released :
    ∃ wd wd' obj', flickerRun.object 8 = some wd ∧ wd.status.phase = .suspended ∧
      wd.status.suspendedAt = some (31 * second) ∧ flickerRun.object 9 = some wd' ∧
      wd'.status.phase = .released ∧ wd'.status.suspendedAt = none ∧
      (flickerRun.cluster 9).dependent wd = some obj' ∧ obj'.getReplicas = 3 := by
  have hview : (flickerRun.object 8).map (fun wd => (wd.spec.onDegraded.maxSuspendDuration,
      wd.status.suspendedAt, wd.status.savedReplicas, (flickerRun.cluster 8).dependent wd)) =
      some (60 * second, some (31 * second), some 3, some (.deployment ⟨some 0, 3⟩)) := by decide
  obtain ⟨wd, hwd, hv⟩ := Option.map_eq_some_iff.mp hview
  simp only [Prod.mk.injEq] at hv
  obtain ⟨hmax, hat, hsaved, hobj⟩ := hv
  have hfound : flickerRun.found 8 = some false := by decide
  obtain ⟨hstamp, _, hreleased⟩ := suspension_bounded flickerRun
  have hlong : 31 * second + wd.spec.onDegraded.maxSuspendDuration ≤ flickerRun.clock 8 := by
    rw [hmax]
    decide
  obtain ⟨wd', obj, obj', hwd', hphase, hobj₀, hobj', hrestored, _, _, hnone⟩ :=
    hreleased 8 wd _ hwd hfound hat hlong
  obtain rfl := Option.some.inj (hobj.symm.trans hobj₀)
  refine ⟨wd, wd', obj', hwd, (hstamp 8 wd hwd).mpr (by simp [hat]), hat, hwd', hphase, hnone,
    hobj', ?_⟩
  rw [hrestored.replicas (by decide) 3 hsaved]
  rfl

end Klink
