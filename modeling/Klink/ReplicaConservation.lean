import Klink.ReconcileRuns

/-! # Replica conservation

While klink alone scales the dependent, its replicas are either where they were or at zero with
the count kept in `SavedReplicas`. Whether the count is ever given back depends on the phase,
which a pause, a mode change or a progressing Rollout may overwrite.
-/
namespace Klink

open TransitionSystem

def Balanced (n : Int32) (saved : Option Int32) (w : WorkloadObject) : Prop :=
  (w.getReplicas = n ∧ saved = none) ∨ (w.getReplicas = 0 ∧ saved = some n)

theorem Deed.object_suspend_replicas {w : WorkloadObject} (h : w.kind ≠ .cronJob)
    (saved : Option Int32) : (Deed.suspend.object saved w).getReplicas = 0 := by
  rw [Deed.object, Deed.patch, WorkloadObject.suspendPatch_replicas h]
  split
  · next h0 => exact h0
  · exact WorkloadObject.getReplicas_setReplicas_of_ne h 0

theorem WorkloadObject.suspendPatch_isSome {w : WorkloadObject} (h : w.kind ≠ .cronJob)
    (h0 : w.getReplicas ≠ 0) : ∃ a, w.suspendPatch = some a :=
  ⟨_, (WorkloadObject.suspendPatch_replicas h).trans (if_neg h0)⟩

theorem Memory.saving_savedReplicas {w : WorkloadObject} (h : w.kind ≠ .cronJob) (m : Memory) :
    (m.saving w).savedReplicas =
      if w.getReplicas = 0 then m.savedReplicas else some w.getReplicas := by
  cases w with
  | cronJob => exact absurd rfl h
  | _ =>
    unfold Memory.saving
    dsimp only
    split <;> rfl

theorem Deed.object_restore_replicas {w : WorkloadObject} (h : w.kind ≠ .cronJob) (n : Int32) :
    (Deed.restore.object (some n) w).getReplicas = if n = 0 then w.getReplicas else n := by
  rw [Deed.object, Deed.patch, WorkloadObject.restorePatch_replicas h]
  split
  · rfl
  · exact WorkloadObject.getReplicas_setReplicas_of_ne h n

theorem Deed.object_restore_none {w : WorkloadObject} (h : w.kind ≠ .cronJob) :
    Deed.restore.object none w = w := by
  rw [Deed.object, Deed.patch, WorkloadObject.restorePatch_none h]
  rfl

section Balance

variable {n : Int32} {saved : Option Int32} {w : WorkloadObject}

theorem Balanced.suspend {m : Memory} (hk : w.kind ≠ .cronJob)
    (h : Balanced n m.savedReplicas w) :
    Balanced n (m.saving w).savedReplicas (Deed.suspend.object saved w) := by
  have h0 := Deed.object_suspend_replicas hk saved
  rw [Memory.saving_savedReplicas hk]
  rcases h with ⟨hn, hs⟩ | ⟨hz, hs⟩
  · by_cases hz : w.getReplicas = 0
    · rw [if_pos hz]
      exact Or.inl ⟨h0.trans (hz.symm.trans hn), hs⟩
    · rw [if_neg hz, hn]
      exact Or.inr ⟨h0, rfl⟩
  · rw [if_pos hz]
    exact Or.inr ⟨h0, hs⟩

theorem Balanced.restore (hk : w.kind ≠ .cronJob) (h : Balanced n saved w) :
    Balanced n none (Deed.restore.object saved w) := by
  rcases h with ⟨hn, rfl⟩ | ⟨hz, rfl⟩
  · rw [Deed.object_restore_none hk]
    exact Or.inl ⟨hn, rfl⟩
  · refine Or.inl ⟨?_, rfl⟩
    rw [Deed.object_restore_replicas hk]
    split
    · next h0 => rw [hz, h0]
    · rfl

/-- Every move keeps the balance between the dependent and the memory it asks to store. -/
theorem Move.balanced {wd : WorkloadDependency} {now : Int} {ok : Bool} {d : Deed}
    {write : Option (DependencyPhase × Memory)} (hm : Move wd w now ok d write)
    (hk : w.kind ≠ .cronJob) (h : Balanced n wd.status.savedReplicas w) :
    Balanced n (write.elim wd.memory Prod.snd).savedReplicas
      (d.object wd.status.savedReplicas w) := by
  cases hm with
  | release => exact h.restore hk
  | recover => exact h.restore hk
  | enforce => exact Balanced.suspend (m := wd.memory) hk h
  | suspend => exact Balanced.suspend (m := wd.memory) hk h
  | _ => exact h

end Balance

theorem Move.unsaved {wd : WorkloadDependency} {w : WorkloadObject} {now : Int} {ok : Bool}
    {d : Deed} {phase : DependencyPhase} {caller : Memory}
    (hm : Move wd w now ok d (some (phase, caller))) (hk : w.kind = .cronJob)
    (h : wd.status.savedReplicas = none) : caller.savedReplicas = none := by
  have hs : (wd.memory.saving w).savedReplicas = none := by
    cases w with
    | cronJob => exact h
    | _ => cases hk
  cases hm with
  | release => rfl
  | recover => rfl
  | enforce => exact hs
  | suspend => exact hs
  | _ => exact h

theorem Move.unseen {wd : WorkloadDependency} {w : WorkloadObject} {now : Int} {d : Deed}
    {write : Option (DependencyPhase × Memory)} (hm : Move wd w now true d write)
    (hn : ¬ (wd.status.phase = .suspended ∧ wd.enforces)) :
    d = .keep ∧ ∃ caller, write = some (.healthy, caller) ∧
      caller.savedReplicas = wd.status.savedReplicas := by
  cases hm with
  | watch _ hp => rw [hp rfl]; exact ⟨rfl, _, rfl, rfl⟩
  | healthy => exact ⟨rfl, _, rfl, rfl⟩
  | startRecovery hm hp => exact absurd ⟨hp, hm⟩ hn
  | awaitRecovery hm hp => exact absurd ⟨hp, hm⟩ hn
  | recover hm hp => exact absurd ⟨hp, hm⟩ hn

theorem Advance.unseen {api : Api} {now : Int} {c : Cluster} {req : NamespacedName}
    {wd : WorkloadDependency} {w w' : Option WorkloadObject} {m' : Memory} {ps : List Patch}
    {s : Sighting} (h : Advance api now c req wd w m' w' ps) (hs : sighting api c req = some s)
    (hok : s.ev.allOk = true) (hpers : api.persistsStatus = true)
    (hn : ¬ (wd.status.phase = .suspended ∧ wd.enforces)) :
    w' = w ∧ ∃ caller, caller.savedReplicas = wd.status.savedReplicas ∧
      Stored api now wd.memory .healthy caller m' := by
  obtain ⟨hw, d, write, hm, hrest⟩ := h.seen hs
  rw [hok] at hm
  obtain ⟨rfl, caller, rfl, hsaved⟩ := hm.unseen hn
  rcases hrest with ⟨_, hpatch, _⟩ | ⟨hw', ⟨_, hlost⟩ | ⟨_, _, hwrite, hst⟩⟩
  · exact absurd rfl hpatch
  · rcases hlost with hnone | hlost
    · cases hnone
    · cases hpers.symm.trans hlost
  · cases hwrite
    exact ⟨hw'.trans hw.symm, caller, hsaved, hst⟩

theorem Move.to_healthy {wd : WorkloadDependency} {w : WorkloadObject} {now : Int} {ok : Bool}
    {d : Deed} {caller : Memory} (hm : Move wd w now ok d (some (.healthy, caller))) :
    caller.savedReplicas = none ∨ (ok = true ∧ caller.savedReplicas = wd.status.savedReplicas ∧
      ¬ (wd.status.phase = .suspended ∧ wd.enforces)) := by
  cases hm with
  | @watch ok _ hm _ hp =>
    cases ok with
    | true => exact Or.inr ⟨rfl, rfl, fun h => hm h.2⟩
    | false => rcases hp rfl with hp | hp <;> cases hp
  | healthy _ hp => exact Or.inr ⟨rfl, rfl, fun h => hp h.1⟩
  | recover => exact Or.inl rfl

theorem Move.suspends {wd : WorkloadDependency} {w : WorkloadObject} {now since : Int} {d : Deed}
    {write : Option (DependencyPhase × Memory)} (hm : Move wd w now false d write)
    (he : wd.enforces) (hg : w.isProgressing = false) (hp : wd.status.phase ≠ .suspended)
    (hr : wd.status.phase ≠ .released) (hs : wd.status.degradedSince = some since)
    (hw : degradedWindow wd ≤ timeSince now since) : d = .suspend := by
  exact (hm.unique he (.suspend he hg hp hr hs hw)).1

theorem Move.releases {wd : WorkloadDependency} {w : WorkloadObject} {now since : Int} {d : Deed}
    {write : Option (DependencyPhase × Memory)} (hm : Move wd w now false d write)
    (he : wd.enforces) (hg : w.isProgressing = false) (hp : wd.status.phase = .suspended)
    (hs : wd.status.suspendedAt = some since) (h0 : 0 < wd.spec.onDegraded.maxSuspendDuration)
    (hw : wd.spec.onDegraded.maxSuspendDuration ≤ timeSince now since) :
    d = .restore ∧ write = some (.released, wd.memory.restored) := by
  exact hm.unique he (.release he hg hp hs h0 hw)

/-- A move that asks for a write stays in phase Suspended, gives the saved count back, or leaves
the count alone because it does not see or does not touch the suspension. -/
theorem Move.keeps_or_restores {wd : WorkloadDependency} {w : WorkloadObject} {now : Int}
    {ok : Bool} {d : Deed} {phase : DependencyPhase} {caller : Memory}
    (hm : Move wd w now ok d (some (phase, caller))) :
    (phase = .suspended ∧ wd.enforces) ∨ caller.savedReplicas = none ∨
      (caller.savedReplicas = wd.status.savedReplicas ∧
        (wd.status.phase ≠ .suspended ∨ ¬ wd.enforces ∨
          (ok = false ∧ w.isProgressing = true))) := by
  cases hm with
  | defer hp => exact Or.inr (Or.inr ⟨rfl, Or.inr (Or.inr ⟨rfl, hp⟩)⟩)
  | watch hm => exact Or.inr (Or.inr ⟨rfl, Or.inr (Or.inl hm)⟩)
  | stayReleased _ _ hp => exact Or.inr (Or.inr ⟨rfl, Or.inl (by rw [hp]; decide)⟩)
  | release => exact Or.inr (Or.inl rfl)
  | stay hm => exact Or.inl ⟨rfl, hm⟩
  | enforce hm => exact Or.inl ⟨rfl, hm⟩
  | healthy _ hp => exact Or.inr (Or.inr ⟨rfl, Or.inl hp⟩)
  | startRecovery hm => exact Or.inl ⟨rfl, hm⟩
  | recover => exact Or.inr (Or.inl rfl)
  | degrade _ _ hp => exact Or.inr (Or.inr ⟨rfl, Or.inl hp⟩)
  | suspend hm => exact Or.inl ⟨rfl, hm⟩

theorem Advance.balanced {api : Api} {now : Int} {c : Cluster} {req : NamespacedName}
    {wd : WorkloadDependency} {w : Option WorkloadObject} {obj' : WorkloadObject} {m' : Memory}
    {ps : List Patch} {n : Int32} (h : Advance api now c req wd w m' (some obj') ps)
    (hok : api.statusUpdate 0 = .ok) (hk : obj'.kind ≠ .cronJob)
    (hb : ∀ obj, w = some obj → obj.kind ≠ .cronJob → Balanced n wd.memory.savedReplicas obj) :
    Balanced n m'.savedReplicas obj' := by
  have hpers := h.persisted hok
  generalize hw' : some obj' = w' at hpers
  cases hpers with
  | still => exact hb obj' hw'.symm hk
  | report =>
    rw [Memory.write_self_savedReplicas]
    exact hb obj' hw'.symm hk
  | unwritten => exact hb obj' hw'.symm hk
  | move _ hw hm =>
    obtain rfl := Option.some.inj hw'
    rw [Deed.object_kind] at hk
    rw [Memory.write_self_savedReplicas]
    exact hm.balanced hk (hb _ hw hk)

/-- Only klink scales the dependent, and its status writes go through. -/
structure Life.Conserves (L : Life) (n : Int32) : Prop where
  start : ∀ wd obj, L.start wd (some obj) → obj.kind ≠ .cronJob → obj.getReplicas = n
  calls : ∀ wd api, L.calls wd api → api.statusUpdate 0 = .ok
  touch : ∀ obj obj', L.touch obj (some obj') →
    obj'.kind = obj.kind ∧ obj'.getReplicas = obj.getReplicas

structure Life.Endures (L : Life) (n : Int32) : Prop extends L.Conserves n where
  lives : ∀ wd wd', L.edit wd (some wd') → wd'.deletionTimestamp = wd.deletionTimestamp
  exists_start : ∀ wd w, L.start wd w → ∃ obj, w = some obj
  not_cronJob : ∀ wd obj, L.start wd (some obj) → obj.kind ≠ .cronJob
  exists_touch : ∀ obj w, L.touch obj w → ∃ obj', w = some obj'

namespace Life.Run

variable {L : Life} {n : Int32} {r : L.Run} {i : ℕ} {wd : WorkloadDependency}

theorem balanced (hL : L.Conserves n) (h : r.object i = some wd)
    (hd : wd.deletionTimestamp = none) {obj : WorkloadObject}
    (hobj : (r.cluster i).dependent wd = some obj) (hk : obj.kind ≠ .cronJob) :
    Balanced n wd.memory.savedReplicas obj := by
  refine r.induct (I := fun _ wd w => ∀ obj, w = some obj → obj.kind ≠ .cronJob →
    Balanced n wd.memory.savedReplicas obj) ?_ ?_ ?_ i h hd obj hobj hk
  · rintro wd w hs obj rfl hk
    refine Or.inl ⟨hL.start wd obj hs hk, ?_⟩
    rw [(L.fresh wd _ hs).1]
    rfl
  · rintro i api wd wd' w' _ _ _ _ hcall hi _ ha obj rfl hk
    exact ha.balanced (hL.calls wd api hcall) hk hi
  · rintro i wd wd' w' _ _ _ hi he ht obj rfl hk
    obtain ⟨obj₀, hw, htouch⟩ := ht.of_some
    obtain ⟨hk', hr⟩ := hL.touch obj₀ obj htouch
    rw [(L.untouched _ _ he).memory, Balanced, hr]
    exact hi obj₀ hw (hk' ▸ hk)

theorem enduring (hL : L.Endures n) (h : r.object i = some wd) :
    ∃ obj, (r.cluster i).dependent wd = some obj ∧ Balanced n wd.memory.savedReplicas obj := by
  obtain ⟨obj, hobj⟩ := r.present hL.exists_start hL.exists_touch h
  have hk : obj.kind ≠ .cronJob :=
    r.kind (P := (· ≠ .cronJob)) hL.not_cronJob (fun _ _ ht => (hL.touch _ _ ht).1) h hobj
  exact ⟨obj, hobj, r.balanced hL.toConserves h (r.living hL.lives h) hobj hk⟩

/-- A Reconcile that finds everything well but does not see a suspension reports Healthy and
leaves the saved count where it is. -/
theorem strands (hL : L.Endures n) (h : r.object i = some wd) (hf : r.found i = some true)
    (hs : wd.status.savedReplicas ≠ none)
    (hn : ¬ (wd.status.phase = .suspended ∧ wd.enforces)) :
    ∃ wd', r.object (i + 1) = some wd' ∧ wd'.status.phase = .healthy ∧
      wd'.status.savedReplicas ≠ none ∧ wd'.isPaused = false := by
  obtain ⟨api, s, hc, hsight, hok⟩ := r.found_eq_some hf
  obtain ⟨hcall, ht⟩ := r.transition hc h
  have hlive := r.living hL.lives h
  obtain ⟨wd', ho, hspec, ha⟩ := ht.advance hlive
  have hp : wd'.isPaused = false := by
    rw [hspec.isPaused]
    exact (sighting_spec hsight h).2.2
  have hwrite := hL.calls wd api hcall
  obtain ⟨_, caller, hsaved, hst⟩ := ha.unseen hsight hok (persistsStatus_of_ok hwrite) hn
  have hsame : wd'.memory.savedReplicas = wd.status.savedReplicas :=
    (hst.savedReplicas hwrite).trans hsaved
  exact ⟨wd', ho, hst.phase, fun hnone => hs (hsame.symm.trans hnone), hp⟩

theorem never_stranded (hL : L.Endures n)
    (hc : ∀ i wd, r.object i = some wd → r.found i = some true →
      wd.status.savedReplicas ≠ none → wd.status.phase = .suspended ∧ wd.enforces)
    (h : r.object i = some wd) (hp : wd.status.phase = .healthy) :
    wd.status.savedReplicas = none := by
  refine r.induct (I := fun _ wd _ => wd.memory.phase = .healthy → wd.memory.savedReplicas = none)
    ?_ ?_ ?_ i h (r.living hL.lives h) hp
  · intro wd w hs _
    rw [(L.fresh wd w hs).1]
    rfl
  · intro i api wd wd' w' hcall ho _ _ hcalls hi _ ha
    have hpers := ha.persisted (hL.calls wd api hcalls)
    generalize wd'.memory = m at hpers ⊢
    cases hpers with
    | still => exact hi
    | report _ hphase =>
      intro hh
      rcases hphase with ⟨rfl, _⟩ | ⟨rfl, _⟩ <;> cases hh
    | unwritten => exact hi
    | move hsight _ hm =>
      rw [Memory.write_self_savedReplicas, Memory.write_phase]
      rintro rfl
      have hfound := r.found_of_sighting hcall hsight
      rcases hm.to_healthy with hnone | ⟨htrue, hsaved, hnot⟩
      · exact hnone
      · rw [hsaved]
        by_contra hne
        rw [htrue] at hfound
        exact hnot (hc i wd ho hfound hne)
  · intro i wd wd' w' _ _ _ hi he _
    rw [(L.untouched _ _ he).memory]
    exact hi

/-- As long as every Reconcile of a suspended object sees the suspension and may act on it, the
saved count is held in phase Suspended only. -/
theorem holds_suspended (hL : L.Endures n)
    (hc : ∀ i wd, r.call i ≠ none → r.object i = some wd → wd.status.phase = .suspended →
      wd.isPaused = false ∧ wd.enforces ∧ ∀ obj, (r.cluster i).dependent wd = some obj →
        r.found i = some false → obj.isProgressing = false)
    (h : r.object i = some wd) (hs : wd.status.savedReplicas ≠ none) :
    wd.status.phase = .suspended := by
  -- a count is saved on the way into phase Suspended, and `hc` keeps every other way out shut
  refine r.induct (I := fun _ wd _ => wd.memory.savedReplicas ≠ none →
    wd.memory.phase = .suspended) ?_ ?_ ?_ i h (r.living hL.lives h) hs
  · intro wd w hs hne
    rw [(L.fresh wd w hs).1] at hne
    exact absurd rfl hne
  · intro i api wd wd' w' hcall ho _ hd hcalls hi _ ha
    obtain ⟨obj, hobj, _⟩ := r.enduring hL ho
    have hsusp := hc i wd (by simp [hcall]) ho
    rw [hobj] at ha
    have hpers := ha.persisted (hL.calls wd api hcalls)
    generalize wd'.memory = m at hpers ⊢
    cases hpers with
    | still => exact hi
    | report _ hphase =>
      rw [Memory.write_self_savedReplicas]
      intro hne
      rcases hphase with ⟨_, hf | hw⟩ | ⟨_, _, hp⟩
      · obtain ⟨_, _, hb⟩ := r.blank ho hd hf
        rw [hb] at hne
        exact absurd rfl hne
      · cases hw
      · have := (hsusp (hi hne)).1
        rw [hp] at this
        cases this
    | unwritten => exact hi
    | move hsight hw hm =>
      obtain rfl := Option.some.inj hw
      rw [Memory.write_self_savedReplicas, Memory.write_phase]
      have hfound := r.found_of_sighting hcall hsight
      intro hne
      rcases hm.keeps_or_restores with ⟨hphase, _⟩ | hnone | ⟨hsaved, hleave⟩
      · exact hphase
      · exact absurd hnone hne
      · rw [hsaved] at hne
        obtain ⟨_, henf, hprog⟩ := hsusp (hi hne)
        rcases hleave with hnot | hnot | ⟨hfalse, hpr⟩
        · exact absurd (hi hne) hnot
        · exact absurd henf hnot
        · rw [hfalse] at hfound
          rw [hprog _ hobj hfound] at hpr
          cases hpr
  · intro i wd wd' w' _ _ _ hi he _
    rw [(L.untouched _ _ he).memory]
    exact hi

end Life.Run

def Reconfigured (wd : WorkloadDependency) (o : Option WorkloadDependency) : Prop :=
  ∃ wd', o = some wd' ∧
    { wd with
      generation := wd'.generation
      annotationPaused := wd'.annotationPaused
      spec := { wd.spec with mode := wd'.spec.mode } } = wd'

def SameReplicas (w : WorkloadObject) (o : Option WorkloadObject) : Prop :=
  ∃ w', o = some w' ∧ w'.kind = w.kind ∧ w'.getReplicas = w.getReplicas

def WorkloadKind.Plain (kind : WorkloadKind) : Prop := kind = .deployment ∨ kind = .statefulSet

theorem WorkloadKind.Plain.ne_cronJob {kind : WorkloadKind} (h : kind.Plain) :
    kind ≠ .cronJob := by
  rcases h with rfl | rfl <;> decide

theorem WorkloadKind.Plain.not_progressing {w : WorkloadObject} (h : w.kind.Plain) :
    w.isProgressing = false := by
  cases w with
  | rollout => rcases h with hk | hk <;> cases hk
  | _ => rfl

def Scaled (P : WorkloadKind → Prop) (n : Int32) (w : Option WorkloadObject) : Prop :=
  ∃ obj, w = some obj ∧ P obj.kind ∧ obj.getReplicas = n

theorem Scaled.eq_some {P : WorkloadKind → Prop} {n : Int32} {w : Option WorkloadObject}
    {obj : WorkloadObject} (h : Scaled P n w) (hw : w = some obj) :
    P obj.kind ∧ obj.getReplicas = n := by
  obtain ⟨_, hw', h⟩ := h
  obtain rfl := Option.some.inj (hw.symm.trans hw')
  exact h

theorem SameReplicas.eq_some {w w' : WorkloadObject} (h : SameReplicas w (some w')) :
    w'.kind = w.kind ∧ w'.getReplicas = w.getReplicas := by
  obtain ⟨_, ho, h⟩ := h
  obtain rfl := Option.some.inj ho
  exact h

theorem Life.Endures.of_scaled {L : Life} {P : WorkloadKind → Prop} {n : Int32}
    (hs : ∀ wd w, L.start wd w → Scaled P n w) (hP : ¬ P .cronJob)
    (hc : ∀ wd api, L.calls wd api → api.statusUpdate 0 = .ok) (ht : L.touch = SameReplicas)
    (hl : ∀ wd wd', L.edit wd (some wd') → wd'.deletionTimestamp = wd.deletionTimestamp) :
    L.Endures n where
  start wd obj h _ := ((hs wd _ h).eq_some rfl).2
  calls := hc
  touch obj obj' h := by
    rw [ht] at h
    exact h.eq_some
  lives := hl
  exists_start wd w h := by
    obtain ⟨obj, hw, _⟩ := hs wd w h
    exact ⟨obj, hw⟩
  not_cronJob wd obj h hk := by
    have hp := ((hs wd _ h).eq_some rfl).1
    rw [hk] at hp
    exact hP hp
  exists_touch obj w h := by
    rw [ht] at h
    obtain ⟨obj', hw, _⟩ := h
    exact ⟨obj', hw⟩

theorem Reconfigured.untouched {wd wd' : WorkloadDependency} (h : Reconfigured wd (some wd')) :
    wd.Untouched wd' := by
  obtain ⟨_, ho, he⟩ := h
  obtain rfl := Option.some.inj ho
  rw [← he]
  exact ⟨rfl, id, rfl, ⟨rfl, rfl⟩⟩

/-- A Deployment or StatefulSet with `n` replicas, scaled by klink alone, while its object may be
paused, unpaused and moved between the four modes at any time. -/
def pauseLife (k : NamespacedName) (n : Int32) : Life where
  key := k
  start wd w := wd.Created ∧ 0 < n ∧ Scaled WorkloadKind.Plain n w
  calls _ api := api.AllOk
  edit := Reconfigured
  touch := SameReplicas
  fresh _ _ h := h.1
  written _ _ h := Or.inl (h.statusUpdate 0)
  untouched _ _ h := h.untouched

theorem pauseLife_endures (k : NamespacedName) (n : Int32) : (pauseLife k n).Endures n := by
  refine .of_scaled (fun _ _ h => h.2.2) (by simp [WorkloadKind.Plain])
    (fun _ _ h => h.statusUpdate 0) rfl ?_
  rintro wd wd' ⟨_, ho, he⟩
  obtain rfl := Option.some.inj ho
  rw [← he]

theorem pauseLife_idles (k : NamespacedName) (n : Int32) : (pauseLife k n).Idles :=
  ⟨fun wd => ⟨wd, rfl, rfl⟩, fun w => ⟨w, rfl, rfl, rfl⟩⟩

theorem Life.Run.whole_of_unsaved {L : Life} {n : Int32} {r : L.Run} {i : ℕ}
    {wd : WorkloadDependency} (hL : L.Endures n) (h : r.object i = some wd)
    (hs : wd.status.savedReplicas = none) :
    ∃ obj, (r.cluster i).dependent wd = some obj ∧ obj.getReplicas = n := by
  obtain ⟨obj, hobj, hb⟩ := r.enduring hL h
  rcases hb with ⟨hn, _⟩ | ⟨_, hsome⟩
  · exact ⟨obj, hobj, hn⟩
  · cases hs.symm.trans hsome

theorem pauseLife_not_progressing {k : NamespacedName} {n : Int32} {r : (pauseLife k n).Run}
    {i : ℕ} {wd : WorkloadDependency} (h : r.object i = some wd) {obj : WorkloadObject}
    (hobj : (r.cluster i).dependent wd = some obj) : obj.isProgressing = false := by
  have hk : obj.kind.Plain := by
    refine r.kind (P := WorkloadKind.Plain) ?_ ?_ h hobj
    · intro wd obj hs
      exact (hs.2.2.eq_some rfl).1
    · intro obj obj' ht
      exact ht.eq_some.1
  exact hk.not_progressing

def Life.Run.HealthyMeansRestored {L : Life} (r : L.Run) (n : Int32) : Prop :=
  ∀ i wd, r.object i = some wd → wd.status.phase = .healthy → wd.isPaused = false →
    wd.status.savedReplicas = none ∧
      ∃ obj, (r.cluster i).dependent wd = some obj ∧ obj.getReplicas = n

/-- Pausing and mode changes are harmless in every run in which no Reconcile meets a suspended
object that is paused or in a mode that does not act. Exactly the runs in which a Reconcile
finds all well, holds a saved count and does not see the suspension report Healthy over a
dependent that was never restored. -/
theorem pause_keeps_restore (k : NamespacedName) (n : Int32) (r : (pauseLife k n).Run) :
    ((∀ i wd, r.call i ≠ none → r.object i = some wd → wd.status.phase = .suspended →
      wd.isPaused = false ∧ wd.enforces) → r.HealthyMeansRestored n) ∧
    (r.HealthyMeansRestored n ↔ ∀ i wd, r.object i = some wd → r.found i = some true →
      wd.status.savedReplicas ≠ none → wd.status.phase = .suspended ∧ wd.enforces) := by
  have hL := pauseLife_endures k n
  have hback : (∀ i wd, r.object i = some wd → r.found i = some true →
      wd.status.savedReplicas ≠ none → wd.status.phase = .suspended ∧ wd.enforces) →
      r.HealthyMeansRestored n := by
    intro hc i wd h hp _
    have hs := r.never_stranded hL hc h hp
    exact ⟨hs, r.whole_of_unsaved hL h hs⟩
  refine ⟨?_, ?_, hback⟩
  · intro hc
    apply hback
    intro i wd h hf hs
    have hcall : r.call i ≠ none := by
      obtain ⟨api, _, hc, _⟩ := r.found_eq_some hf
      simp [hc]
    have hp : wd.status.phase = .suspended := by
      refine r.holds_suspended hL ?_ h hs
      intro i wd hcall h hp
      obtain ⟨hpause, henf⟩ := hc i wd hcall h hp
      exact ⟨hpause, henf, fun obj hobj _ => pauseLife_not_progressing h hobj⟩
    exact ⟨hp, (hc i wd hcall h hp).2⟩
  · intro hw i wd h hf hs
    by_contra hn
    obtain ⟨wd', h', hp, hs', hpause⟩ := r.strands hL h hf hs hn
    exact hs' (hw (i + 1) wd' h' hp hpause).1

def withPaused (v : Option String) (wd : WorkloadDependency) : WorkloadDependency :=
  { wd with annotationPaused := v }

def pauseScript : List (World → Happening) :=
  [runs demoKey .good, runs demoKey .good, waits (31 * second), runs demoKey .good,
    edits demoKey (withPaused (some "true")) (fun _ => rfl), runs demoKey .good,
    edits demoKey (withPaused none) (fun _ => rfl), sets dbKey (demoDb 1),
    runs demoKey .good]

theorem pauseLife_start : (pauseLife demoKey 3).rules.start demoDeployment.cluster :=
  ⟨demoObject "Deployment" .strict 0, by decide, ⟨by decide, rfl⟩, by decide,
    .deployment ⟨some 3, 3⟩, by decide, Or.inl rfl, by decide⟩

theorem pauseScript_playable :
    Playable (pauseLife demoKey 3).rules.system demoDeployment pauseScript := by
  have hL := pauseLife_idles demoKey 3
  have hr : ∀ s, (pauseLife demoKey 3).rules.enabled s (runs demoKey .good s) :=
    fun _ => Life.enabled_runs (fun _ => Api.good_allOk)
  have he : ∀ v s, (pauseLife demoKey 3).rules.enabled s
      (edits demoKey (withPaused v) (fun _ => rfl) s) :=
    fun v _ => hL.enabled_edits _ (fun wd _ => ⟨withPaused v wd, rfl, rfl⟩)
  refine ⟨hr _, hr _, hL.enabled_waits (by decide), hr _, he _ _, hr _, he _ _, ?_, hr _, trivial⟩
  exact hL.enabled_sets (by decide)

def pauseRun : (pauseLife demoKey 3).Run :=
  Life.scripted _ (pauseLife_idles demoKey 3) demoDeployment pauseLife_start pauseScript
    pauseScript_playable

/-- The unpaused object reads Healthy, its dependent is at zero. -/
theorem pause_strands_suspension :
    (pauseRun.object 9).map (fun wd => (wd.status.phase, wd.isPaused, wd.status.savedReplicas,
      ((pauseRun.cluster 9).dependent wd).map WorkloadObject.getReplicas)) =
        some (.healthy, false, some 3, some 0) ∧
      ¬ pauseRun.HealthyMeansRestored 3 := by
  have hview : (pauseRun.object 9).map (fun wd => (wd.status.phase, wd.isPaused,
      wd.status.savedReplicas, ((pauseRun.cluster 9).dependent wd).map
        WorkloadObject.getReplicas)) = some (.healthy, false, some 3, some 0) := by decide
  refine ⟨hview, fun h => ?_⟩
  obtain ⟨wd, hwd, hv⟩ := Option.map_eq_some_iff.mp hview
  simp only [Prod.mk.injEq] at hv
  obtain ⟨hp, hpause, hs, _⟩ := hv
  cases hs.symm.trans (h 9 wd hwd hp hpause).1

/-- A Rollout with `n` replicas, scaled by klink alone, whose own phase changes at will. -/
def canaryLife (k : NamespacedName) (n : Int32) : Life where
  key := k
  start wd w := wd.Created ∧ wd.Active ∧ 0 < n ∧ Scaled (· = .rollout) n w
  calls _ api := api.AllOk
  edit := Kept
  touch := SameReplicas
  fresh _ _ h := h.1
  written _ _ h := Or.inl (h.statusUpdate 0)
  untouched _ _ h := h.untouched

theorem canaryLife_endures (k : NamespacedName) (n : Int32) : (canaryLife k n).Endures n :=
  .of_scaled (fun _ _ h => h.2.2.2) (by simp) (fun _ _ h => h.statusUpdate 0) rfl
    (fun _ _ h => h.deletionTimestamp)

theorem canaryLife_idles (k : NamespacedName) (n : Int32) : (canaryLife k n).Idles :=
  ⟨fun _ => rfl, fun w => ⟨w, rfl, rfl, rfl⟩⟩

theorem canaryLife_active {k : NamespacedName} {n : Int32} {r : (canaryLife k n).Run} {i : ℕ}
    {wd : WorkloadDependency} (h : r.object i = some wd) : wd.Active :=
  r.active (fun _ _ hs => hs.2.1) (fun _ _ he ha => he.active ha) h
    (r.living (canaryLife_endures k n).lives h)

/-- A suspension survives every run in which no Reconcile meets an unhealthy dependency while the
suspended Rollout is progressing. Exactly the runs in which a Reconcile finds all well with a
saved count outside phase Suspended report Healthy over a Rollout that is still down. -/
theorem canary_keeps_restore (k : NamespacedName) (n : Int32) (r : (canaryLife k n).Run) :
    ((∀ i wd obj, r.object i = some wd → wd.status.phase = .suspended →
      (r.cluster i).dependent wd = some obj → r.found i = some false →
        obj.isProgressing = false) →
      ∀ i wd, r.object i = some wd → wd.status.phase = .healthy →
        wd.status.savedReplicas = none ∧
          ∃ obj, (r.cluster i).dependent wd = some obj ∧ obj.getReplicas = n) ∧
    ((∀ i wd, r.object i = some wd → wd.status.phase = .healthy →
        wd.status.savedReplicas = none ∧
          ∃ obj, (r.cluster i).dependent wd = some obj ∧ obj.getReplicas = n) ↔
      ∀ i wd, r.object i = some wd → r.found i = some true →
        wd.status.savedReplicas ≠ none → wd.status.phase = .suspended) := by
  have hL := canaryLife_endures k n
  have hback : (∀ i wd, r.object i = some wd → r.found i = some true →
      wd.status.savedReplicas ≠ none → wd.status.phase = .suspended) →
      ∀ i wd, r.object i = some wd → wd.status.phase = .healthy →
        wd.status.savedReplicas = none ∧
          ∃ obj, (r.cluster i).dependent wd = some obj ∧ obj.getReplicas = n := by
    intro hc i wd h hp
    have hs := r.never_stranded hL
      (fun i wd h hf hs => ⟨hc i wd h hf hs, (canaryLife_active h).enforces⟩) h hp
    exact ⟨hs, r.whole_of_unsaved hL h hs⟩
  refine ⟨?_, ?_, hback⟩
  · intro hc
    apply hback
    intro i wd h _ hs
    refine r.holds_suspended hL ?_ h hs
    intro i wd _ h hp
    have ha := canaryLife_active h
    exact ⟨ha.unpaused, ha.enforces, fun obj hobj hf => hc i wd obj h hp hobj hf⟩
  · intro hw i wd h hf hs
    by_contra hn
    obtain ⟨wd', h', hp, hs', _⟩ := r.strands hL h hf hs (fun hc => hn hc.1)
    exact hs' (hw (i + 1) wd' h' hp).1

def canaryScript : List (World → Happening) :=
  [runs demoKey .good, runs demoKey .good, waits (31 * second), runs demoKey .good,
    sets webKey (.rollout ⟨some 0, .progressing⟩), runs demoKey .good,
    sets dbKey (demoDb 1), runs demoKey .good]

theorem canaryLife_start : (canaryLife demoKey 3).rules.start (demoRollout 0).cluster :=
  ⟨demoObject "Rollout" .strict 0, by decide, ⟨by decide, rfl⟩, ⟨Or.inl rfl, by decide⟩,
    by decide, .rollout ⟨some 3, .healthy⟩, by decide, rfl, by decide⟩

theorem canaryScript_playable :
    Playable (canaryLife demoKey 3).rules.system (demoRollout 0) canaryScript := by
  have hL := canaryLife_idles demoKey 3
  have hr : ∀ s, (canaryLife demoKey 3).rules.enabled s (runs demoKey .good s) :=
    fun _ => Life.enabled_runs (fun _ => Api.good_allOk)
  refine ⟨hr _, hr _, hL.enabled_waits (by decide), hr _, ?_, hr _, ?_, hr _, trivial⟩
  · exact hL.enabled_touch (w := .rollout ⟨some 0, .healthy⟩) (by decide)
      ⟨_, rfl, rfl, by decide⟩
  · exact hL.enabled_sets (by decide)

def canaryRun : (canaryLife demoKey 3).Run :=
  Life.scripted _ (canaryLife_idles demoKey 3) (demoRollout 0) canaryLife_start canaryScript
    canaryScript_playable

theorem canary_strands_suspension :
    (canaryRun.object 8).map (fun wd => (wd.status.phase, wd.status.savedReplicas,
      ((canaryRun.cluster 8).dependent wd).map WorkloadObject.getReplicas)) =
        some (.healthy, some 3, some 0) := by
  decide

end Klink
