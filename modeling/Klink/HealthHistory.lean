import Klink.ReplicaConservation

/-! # What the timestamps remember

`DegradedSince` and `HealthySince` are klink's only record of how its dependencies did in the
past. The results below say which observations of a run stand behind the two timestamps when
klink takes the dependent down, gives it back, or lets it go for good.
-/
namespace Klink

open TransitionSystem

def Present (_ : WorkloadObject) (o : Option WorkloadObject) : Prop := ∃ w', o = some w'

/-- A strict or soft, unpaused object whose dependent always exists, until it is deleted. -/
def presentLife (k : NamespacedName) (calls : Api → Prop)
    (hc : ∀ api, calls api → api.statusUpdate 0 = .ok) : Life where
  key := k
  start wd w := wd.Created ∧ wd.Active ∧ ∃ obj, w = some obj
  calls _ := calls
  edit := KeptOrDeleted
  touch := Present
  fresh _ _ h := h.1
  written _ api h := Or.inl (hc api h)
  untouched _ _ h := h.untouched

theorem presentLife_idles (k : NamespacedName) (calls : Api → Prop)
    (hc : ∀ api, calls api → api.statusUpdate 0 = .ok) : (presentLife k calls hc).Idles :=
  ⟨fun _ => Or.inl rfl, fun w => ⟨w, rfl⟩⟩

inductive Recall (now : Int) (m caller : Memory) : Bool → Prop where
  | well : caller.degradedSince = none →
      (caller.healthySince = none ∨ caller.healthySince = some now) → Recall now m caller true
  | kept : caller.degradedSince = m.degradedSince →
      (caller.healthySince = m.healthySince ∨ caller.healthySince = none) →
      Recall now m caller false
  | first : caller.degradedSince = some now → caller.healthySince = none →
      Recall now m caller false

theorem Memory.saving_times (m : Memory) (w : WorkloadObject) :
    (m.saving w).degradedSince = m.degradedSince ∧
      (m.saving w).healthySince = m.healthySince := by
  cases w with
  | cronJob => exact ⟨rfl, rfl⟩
  | _ =>
    unfold Memory.saving
    dsimp only
    split <;> exact ⟨rfl, rfl⟩

theorem Move.recall {wd : WorkloadDependency} {w : WorkloadObject} {now : Int} {ok : Bool}
    {d : Deed} {phase : DependencyPhase} {caller : Memory}
    (hm : Move wd w now ok d (some (phase, caller))) (he : wd.enforces) :
    Recall now wd.memory caller ok := by
  have hs := wd.memory.saving_times w
  cases hm with
  | defer => exact .kept rfl (Or.inl rfl)
  | watch hw => exact absurd he hw
  | stayReleased => exact .kept rfl (Or.inl rfl)
  | release => exact .kept rfl (Or.inr rfl)
  | stay => exact .kept rfl (Or.inl rfl)
  | enforce => exact .kept hs.1 (Or.inl hs.2)
  | healthy => exact .well rfl (Or.inl rfl)
  | startRecovery => exact .well rfl (Or.inr rfl)
  | recover => exact .well rfl (Or.inl rfl)
  | degrade => exact .first rfl rfl
  | suspend => exact .kept hs.1 (Or.inl hs.2)

theorem Move.well_unwritten {wd : WorkloadDependency} {w : WorkloadObject} {now : Int} {d : Deed}
    {write : Option (DependencyPhase × Memory)} (hm : Move wd w now true d write)
    (h : write = none ∨ d.patch wd.status.savedReplicas w ≠ none) :
    wd.status.healthySince ≠ none := by
  cases hm with
  | watch => rcases h with h | h <;> exact absurd h (by simp [Deed.patch])
  | healthy => rcases h with h | h <;> exact absurd h (by simp [Deed.patch])
  | startRecovery => rcases h with h | h <;> exact absurd h (by simp [Deed.patch])
  | awaitRecovery _ _ hs => simp [hs]
  | recover _ _ hs => simp [hs]

/-- The observations behind the stored timestamps: `DegradedSince` is the time of a Reconcile that
found something wrong, and none since then found all well. -/
structure Remembers {L : Life} (r : L.Run) (i : ℕ) (m : Memory) : Prop where
  degraded : ∀ d, m.degradedSince = some d → ∃ j < i, r.found j = some false ∧
    truncateTime (r.clock j) = d ∧ ∀ l, j ≤ l → l < i → r.found l ≠ some true
  exclusive : m.degradedSince = none ∨ m.healthySince = none
  whole : ∀ h, m.healthySince = some h → truncateTime h = h

section Memories

variable {L : Life} {r : L.Run} {i : ℕ} {m : Memory}

theorem Remembers.empty : Remembers r 0 .empty := ⟨nofun, Or.inl rfl, nofun⟩

theorem Remembers.later (h : Remembers r i m)
    (hf : r.found i ≠ some true ∨ m.degradedSince = none) : Remembers r (i + 1) m := by
  refine ⟨?_, h.exclusive, h.whole⟩
  intro d hd
  obtain ⟨j, hj, hfound, ht, hl⟩ := h.degraded d hd
  refine ⟨j, by omega, hfound, ht, ?_⟩
  intro l hjl hli
  by_cases hlast : l = i
  · subst hlast
    rcases hf with hf | hf
    · exact hf
    · cases hd.symm.trans hf
  · exact hl l hjl (by omega)

theorem Remembers.write {caller : Memory} {ok : Bool} {phase : DependencyPhase}
    (h : Remembers r i m) (hc : Recall (r.clock i) m caller ok) (hf : r.found i = some ok) :
    Remembers r (i + 1) (Memory.write (r.clock i) phase caller caller) := by
  have hwhole : ∀ t, (Memory.write (r.clock i) phase caller caller).healthySince = some t →
      truncateTime t = t := by
    intro t ht
    obtain ⟨u, _, rfl⟩ := Option.map_eq_some_iff.mp ht
    exact truncateTime_idem u
  cases hc with
  | well hd hh =>
    refine ⟨?_, Or.inl (by simp [Memory.write, hd]), hwhole⟩
    intro d hsome
    simp [Memory.write, hd] at hsome
  | kept hd hh =>
    have hlater := h.later (Or.inl (by rw [hf]; simp))
    refine ⟨?_, ?_, hwhole⟩
    · intro d hsome
      obtain ⟨u, hu, rfl⟩ := Option.map_eq_some_iff.mp hsome
      have hu' : m.degradedSince = some u := by
        rw [← hd]
        simpa using hu
      obtain ⟨j, hj, hfound, ht, hl⟩ := hlater.degraded u hu'
      exact ⟨j, hj, hfound, by rw [← ht, truncateTime_idem], hl⟩
    · rcases h.exclusive with hx | hx
      · exact Or.inl (by simp [Memory.write, hd, hx])
      · refine Or.inr ?_
        rcases hh with hh | hh <;> simp [Memory.write, hh, hx]
  | first hd hh =>
    refine ⟨?_, Or.inr (by simp [Memory.write, hh]), hwhole⟩
    intro d hsome
    obtain ⟨u, hu, rfl⟩ := Option.map_eq_some_iff.mp hsome
    have hu' : u = r.clock i := by
      rw [hd] at hu
      simpa using hu.symm
    refine ⟨i, by omega, hf, by rw [hu'], ?_⟩
    intro l hil hli
    obtain rfl : l = i := by omega
    rw [hf]
    simp

end Memories

section PresentRuns

variable {k : NamespacedName} {calls : Api → Prop}
  {hc : ∀ api, calls api → api.statusUpdate 0 = .ok} {r : (presentLife k calls hc).Run}
  {i : ℕ} {wd : WorkloadDependency}

theorem presentLife_active (h : r.object i = some wd) (hd : wd.deletionTimestamp = none) :
    wd.Active :=
  r.active (fun _ _ hs => hs.2.1) (fun _ _ he ha => he.active ha) h hd

theorem presentLife_present (h : r.object i = some wd) :
    ∃ obj, (r.cluster i).dependent wd = some obj :=
  r.present (fun _ _ hs => hs.2.2) (fun _ _ ht => ht) h

theorem presentLife_remembers (h : r.object i = some wd) (hd : wd.deletionTimestamp = none) :
    Remembers r i wd.memory := by
  refine r.induct (I := fun i wd _ => Remembers r i wd.memory) ?_ ?_ ?_ i h hd
  · rintro wd w ⟨hcr, _⟩
    rw [hcr.1]
    exact .empty
  · intro i api wd wd' w' hcall ho _ hd hcalls hi _ ha
    have henf := (presentLife_active ho hd).enforces
    obtain ⟨obj, hobj⟩ := presentLife_present ho
    have hpers := ha.persisted (hc api hcalls)
    generalize wd'.memory = m at hpers ⊢
    cases hpers with
    | still hs => exact hi.later (Or.inl (by simp [r.found_of_no_sighting hcall hs]))
    | report hs hp =>
      rcases hp with ⟨_, hf | hw⟩ | ⟨_, _, hp⟩
      · obtain ⟨_, _, hb⟩ := r.blank ho hd hf
        rw [hb]
        exact ⟨nofun, Or.inl rfl, nofun⟩
      · cases hobj.symm.trans hw
      · rw [(presentLife_active ho hd).unpaused] at hp
        cases hp
    | @unwritten s d write hs _ hm hn =>
      have hfound := r.found_of_sighting hcall hs
      refine hi.later ?_
      cases hb : s.ev.allOk with
      | false => exact Or.inl (by simp [hfound, hb])
      | true =>
        rw [hb] at hm
        exact Or.inr (hi.exclusive.resolve_right (hm.well_unwritten (hn.imp id And.right)))
    | move hs _ hm => exact hi.write (hm.recall henf) (r.found_of_sighting hcall hs)
  · intro i wd wd' w' hcall _ _ hi he _
    rw [((presentLife k calls hc).untouched _ _ he).memory]
    exact hi.later (Or.inl (by simp [r.found_of_no_call hcall]))

end PresentRuns

section PatchHistory

variable {L : Life} {r : L.Run} {i : ℕ} {wd : WorkloadDependency} {p : Patch}

theorem call_of_patch (hp : p ∈ r.patches i) : ∃ api, r.call i = some api := by
  cases hc : r.call i with
  | some api => exact ⟨api, rfl⟩
  | none =>
    rw [Life.Run.patches, hc] at hp
    cases hp

theorem object_of_patch (hp : p ∈ r.patches i) : ∃ wd, r.object i = some wd := by
  obtain ⟨api, hc⟩ := call_of_patch hp
  cases ho : r.object i with
  | some wd => exact ⟨wd, rfl⟩
  | none =>
    have heffects : (reconcile api (r.clock i) (r.cluster i) L.key).effects = [] :=
      reconcile_effects_absent (r.clock i) ho
    rw [Life.Run.patches, hc] at hp
    change p ∈ List.filterMap _ (reconcile api (r.clock i) (r.cluster i) L.key).effects at hp
    rw [heffects] at hp
    cases hp

theorem takesDown_move (h : r.object i = some wd) (hp : p ∈ r.patches i) (hd : p.takesDown) :
    ∃ w write, r.found i = some false ∧ wd.deletionTimestamp = none ∧
      (r.cluster i).dependent wd = some w ∧ Move wd w (r.clock i) false .suspend write := by
  obtain ⟨api, hc⟩ := call_of_patch hp
  rcases (r.transition hc h).2.patch_cases hp with ⟨s, d, write, hs, hw, hm, hmem⟩ | ⟨_, obj, hmem⟩
  · have hlive := (sighting_spec hs h).1
    have hf := r.found_of_sighting hc hs
    cases d with
    | keep => cases hmem
    | restore => exact absurd hd (Deed.restore_up hmem)
    | suspend =>
      cases hb : s.ev.allOk with
      | true => rw [hb] at hm; cases hm
      | false =>
        rw [hb] at hm hf
        exact ⟨s.dependent, write, hf, hlive, hw, hm⟩
  · exact absurd hd (Deed.restore_up hmem)

theorem well_patch_move (h : r.object i = some wd) (hp : p ∈ r.patches i)
    (hf : r.found i = some true) :
    wd.deletionTimestamp = none ∧ wd.status.phase = .suspended ∧
      ∃ since, wd.status.healthySince = some since ∧
        recoveryWindow wd ≤ timeSince (r.clock i) since := by
  obtain ⟨api, hc⟩ := call_of_patch hp
  obtain ⟨api', s, hc', hs, hok⟩ := r.found_eq_some hf
  obtain rfl := Option.some.inj (hc.symm.trans hc')
  rcases (r.transition hc h).2.patch_cases hp with ⟨s', d, write, hs', _, hm, hmem⟩ | ⟨hnone, _⟩
  · obtain rfl := Option.some.inj (hs.symm.trans hs')
    refine ⟨(sighting_spec hs h).1, ?_⟩
    rw [hok] at hm
    cases hm with
    | watch => cases hmem
    | healthy => cases hmem
    | startRecovery => cases hmem
    | awaitRecovery => cases hmem
    | recover _ hp hsince ht => exact ⟨hp, _, hsince, ht⟩
  · cases hs.symm.trans hnone

end PatchHistory

abbrev windowLife (k : NamespacedName) : Life :=
  presentLife k (fun api => api.statusUpdate 0 = .ok) (fun _ h => h)

abbrev steadyLife (k : NamespacedName) : Life :=
  presentLife k Api.AllOk (fun _ h => h.statusUpdate 0)

section Specs

variable {k : NamespacedName} {r : (windowLife k).Run} {i j : ℕ} {wd wd' : WorkloadDependency}

theorem windowLife_spec_succ (h : r.object i = some wd) (h' : r.object (i + 1) = some wd') :
    wd'.spec = wd.spec := by
  cases hc : r.call i with
  | some api =>
    have ht := (r.transition hc h).2
    rw [h'] at ht
    rcases ht.object_cases with hs | ⟨_, _, rfl⟩ | rfl
    · exact hs.sameSpec.spec
    · exact WorkloadDependency.addFinalizer_sameSpec.spec
    · rfl
  | none =>
    have he := (r.disturbed hc h).1
    rw [h'] at he
    exact (KeptOrDeleted.spec _ _ he).1

theorem windowLife_spec (hij : i ≤ j) (h : r.object i = some wd) (h' : r.object j = some wd') :
    wd'.spec = wd.spec := by
  induction hij generalizing wd' with
  | refl => rw [Option.some.inj (h.symm.trans h')]
  | step _ ih =>
    obtain ⟨wd₁, h₁⟩ := r.object_pred h'
    exact (windowLife_spec_succ h₁ h').trans (ih h₁)

end Specs

/-- What stands behind a suspension outside phase Suspended. -/
theorem suspension_since {k : NamespacedName} {r : (windowLife k).Run} {i : ℕ}
    {wd : WorkloadDependency} {p : Patch} (h : r.object i = some wd) (hp : p ∈ r.patches i)
    (hd : p.takesDown) (hphase : wd.status.phase ≠ .suspended) :
    r.found i = some false ∧ ∃ j < i, r.found j = some false ∧
      wd.status.degradedSince = some (truncateTime (r.clock j)) ∧
      degradedWindow wd ≤ r.clock i - truncateTime (r.clock j) ∧
      ∀ l, j ≤ l → l < i → r.found l ≠ some true := by
  obtain ⟨w, write, hfound, hlive, _, hm⟩ := takesDown_move h hp hd
  cases hm with
  | enforce _ _ hs => exact absurd hs hphase
  | @suspend since _ _ _ _ hsince hwin =>
    obtain ⟨j, hj, hf, ht, hl⟩ := (presentLife_remembers h hlive).degraded since hsince
    refine ⟨hfound, j, hj, hf, ?_, ?_, hl⟩
    · rw [ht]
      exact hsince
    · rw [ht]
      exact le_sub_of_le_timeSince (degradedWindow_pos wd) hwin

/-- Hysteresis: whenever the dependent is taken down outside phase Suspended, `DegradedSince` is
the time of an earlier Reconcile that found a dependency missing or unhealthy, a whole window
has passed since then, and no Reconcile in between found all well. -/
theorem suspension_after_window {k : NamespacedName}
    (r : (windowLife k).Run) (i : ℕ) {wd : WorkloadDependency} {p : Patch}
    (h : r.object i = some wd) (hp : p ∈ r.patches i)
    (hd : p.takesDown) (hphase : wd.status.phase ≠ .suspended) :
    ∃ j < i, r.found j = some false ∧
      wd.status.degradedSince = some (truncateTime (r.clock j)) ∧
      degradedWindow wd ≤ r.clock i - truncateTime (r.clock j) ∧
      ∀ l, j < l → l < i → r.found l ≠ some true := by
  obtain ⟨_, j, hj, hf, hsince, hwin, hl⟩ := suspension_since h hp hd hphase
  exact ⟨j, hj, hf, hsince, hwin, fun l hjl hli => hl l (by omega) hli⟩

def outageScript : List (World → Happening) :=
  [runs demoKey .good, runs demoKey .good, waits (31 * second), runs demoKey .good]

theorem presentLife_start {calls : Api → Prop}
    {hc : ∀ api, calls api → api.statusUpdate 0 = .ok} {wd : WorkloadDependency}
    {web : WorkloadObject} (hcr : wd.Created) (ha : wd.Active)
    (hg : (demoWorld wd web).cluster.getWD demoKey = some wd)
    (hw : (demoWorld wd web).cluster.dependent wd = some web) :
    (presentLife demoKey calls hc).rules.start (demoWorld wd web).cluster :=
  ⟨wd, hg, hcr, ha, web, hw⟩

theorem window_idles : (windowLife demoKey).Idles := presentLife_idles _ _ _

theorem outageScript_playable_in (s : World) :
    Playable (windowLife demoKey).rules.system s outageScript := by
  have hL := window_idles
  have hr : ∀ s, (windowLife demoKey).rules.enabled s (runs demoKey .good s) :=
    fun _ => Life.enabled_runs (fun _ => rfl)
  exact ⟨hr _, hr _, hL.enabled_waits (by decide), hr _, trivial⟩

theorem outageScript_playable :
    Playable (windowLife demoKey).rules.system demoDeployment outageScript :=
  outageScript_playable_in _

def outageRun : (windowLife demoKey).Run :=
  Life.scripted _ (presentLife_idles _ _ _) demoDeployment
    (presentLife_start ⟨rfl, rfl⟩ ⟨Or.inl rfl, rfl⟩ (by decide) (by decide)) outageScript
    outageScript_playable

theorem suspension_after_window_outage :
    ∃ wd p, outageRun.object 3 = some wd ∧ p ∈ outageRun.patches 3 ∧ p.takesDown ∧
      wd.status.phase ≠ .suspended ∧ ∃ j < 3, outageRun.found j = some false ∧
        wd.status.degradedSince = some (truncateTime (outageRun.clock j)) ∧
        degradedWindow wd ≤ outageRun.clock 3 - truncateTime (outageRun.clock j) ∧
        ∀ l, j < l → l < 3 → outageRun.found l ≠ some true := by
  have hview : (outageRun.object 3).map (fun wd => wd.status.phase) = some .degraded := by decide
  have hpatch : outageRun.patches 3 =
      [⟨webKey, .deployment ⟨some 3, 3⟩, .deployment ⟨some 0, 3⟩, .ok⟩] := by decide
  obtain ⟨wd, hwd, hphase⟩ := Option.map_eq_some_iff.mp hview
  have hne : wd.status.phase ≠ .suspended := by
    rw [hphase]
    decide
  have hmem := List.mem_singleton_self
    (⟨webKey, .deployment ⟨some 3, 3⟩, .deployment ⟨some 0, 3⟩, .ok⟩ : Patch)
  rw [← hpatch] at hmem
  have hdown : Patch.takesDown ⟨webKey, .deployment ⟨some 3, 3⟩, .deployment ⟨some 0, 3⟩, .ok⟩ :=
    Or.inr ⟨by decide, rfl⟩
  exact ⟨wd, _, hwd, hmem, hdown, hne, suspension_after_window outageRun 3 hwd hmem hdown hne⟩

def RecoveredSince {L : Life} (r : L.Run) (i : ℕ) (t : Int) : Prop :=
  ∃ j < i, r.found j = some true ∧ truncateTime (r.clock j) = t ∧
    ∀ l, j ≤ l → l < i → r.call l ≠ none → r.found l = some true

theorem RecoveredSince.later {L : Life} {r : L.Run} {i : ℕ} {t : Int} (h : RecoveredSince r i t)
    (hf : r.call i = none ∨ r.found i = some true) : RecoveredSince r (i + 1) t := by
  obtain ⟨j, hj, hfound, ht, hl⟩ := h
  refine ⟨j, by omega, hfound, ht, ?_⟩
  intro l hjl hli hcall
  by_cases hlast : l = i
  · subst hlast
    exact hf.resolve_left hcall
  · exact hl l hjl (by omega) hcall

theorem RecoveredSince.start {L : Life} {r : L.Run} {i : ℕ} (hf : r.found i = some true) :
    RecoveredSince r (i + 1) (truncateTime (r.clock i)) := by
  refine ⟨i, by omega, hf, rfl, ?_⟩
  intro l hil hli _
  obtain rfl : l = i := by omega
  exact hf

/-- The dependencies fail again while the recovery window of a suspension is running, and the
Reconcile that sees it neither lets the dependent go nor waits for a progressing Rollout. -/
def Life.Run.Relapses {L : Life} (r : L.Run) (i : ℕ) : Prop :=
  ∃ wd, r.object i = some wd ∧ wd.status.phase = .suspended ∧ wd.status.healthySince ≠ none ∧
    r.found i = some false ∧
    (∀ obj, (r.cluster i).dependent wd = some obj → obj.isProgressing = false) ∧
    ¬ ∃ since, wd.status.suspendedAt = some since ∧
      0 < wd.spec.onDegraded.maxSuspendDuration ∧
      wd.spec.onDegraded.maxSuspendDuration ≤ timeSince (r.clock i) since

/-- What a relapse does: nothing that would start the recovery window again. -/
theorem Move.relapse {wd : WorkloadDependency} {w : WorkloadObject} {now : Int} {d : Deed}
    {write : Option (DependencyPhase × Memory)} (hm : Move wd w now false d write)
    (he : wd.enforces) (hp : wd.status.phase = .suspended) (hg : w.isProgressing = false)
    (hr : ¬ ∃ since, wd.status.suspendedAt = some since ∧
      0 < wd.spec.onDegraded.maxSuspendDuration ∧
      wd.spec.onDegraded.maxSuspendDuration ≤ timeSince now since) :
    d ≠ .restore ∧ (write = none ∨ ∃ caller, write = some (.suspended, caller) ∧
      caller.healthySince = wd.status.healthySince) := by
  cases hm with
  | defer h => rw [hg] at h; cases h
  | watch hw => exact absurd he hw
  | stayReleased _ _ h => cases hp.symm.trans h
  | release _ _ _ hs h0 ht => exact absurd ⟨_, hs, h0, ht⟩ hr
  | hold => exact ⟨nofun, Or.inl rfl⟩
  | stay => exact ⟨nofun, Or.inr ⟨_, rfl, rfl⟩⟩
  | enforce => exact ⟨nofun, Or.inr ⟨_, rfl, (wd.memory.saving_times w).2⟩⟩
  | degrade _ _ h => exact absurd hp h
  | awaitWindow _ _ h => exact absurd hp h
  | suspend _ _ h => exact absurd hp h

theorem Move.still_suspended {wd : WorkloadDependency} {w : WorkloadObject} {now : Int} {d : Deed}
    {write : Option (DependencyPhase × Memory)} (hm : Move wd w now false d write)
    (hp : wd.status.phase = .suspended)
    (hw : write = none ∨ ∃ caller, write = some (.suspended, caller)) (he : wd.enforces) :
    w.isProgressing = false ∧ ¬ ∃ since, wd.status.suspendedAt = some since ∧
      0 < wd.spec.onDegraded.maxSuspendDuration ∧
      wd.spec.onDegraded.maxSuspendDuration ≤ timeSince now since := by
  have hg : w.isProgressing = false := by
    by_contra hne
    obtain ⟨_, rfl⟩ := hm.unique he (.defer (by simpa using hne))
    rcases hw with hw | ⟨_, hw⟩ <;> cases hw
  refine ⟨hg, ?_⟩
  rintro ⟨since, hs, h0, ht⟩
  obtain ⟨_, rfl⟩ := hm.unique he (.release he hg hp hs h0 ht)
  rcases hw with hw | ⟨_, hw⟩ <;> cases hw

theorem Life.Run.Relapses.of_move {L : Life} {r : L.Run} {i : ℕ} {wd : WorkloadDependency}
    {w : WorkloadObject} {d : Deed} {write : Option (DependencyPhase × Memory)}
    (ho : r.object i = some wd) (hobj : (r.cluster i).dependent wd = some w)
    (hf : r.found i = some false) (hm : Move wd w (r.clock i) false d write)
    (he : wd.enforces) (hp : wd.status.phase = .suspended) {t : Int}
    (ht : wd.status.healthySince = some t)
    (hw : write = none ∨ ∃ caller, write = some (.suspended, caller)) : r.Relapses i := by
  obtain ⟨hg, hr⟩ := hm.still_suspended hp hw he
  refine ⟨wd, ho, hp, by simp [ht], hf, ?_, hr⟩
  intro obj hobj'
  obtain rfl := Option.some.inj (hobj.symm.trans hobj')
  exact hg

theorem Move.recovering {wd : WorkloadDependency} {w : WorkloadObject} {now u : Int} {ok : Bool}
    {d : Deed} {caller : Memory} (hm : Move wd w now ok d (some (.suspended, caller)))
    (he : wd.enforces) (hx : wd.memory.degradedSince = none ∨ wd.memory.healthySince = none)
    (hu : caller.healthySince = some u) :
    (ok = true ∧ now = u) ∨
      (ok = false ∧ wd.status.phase = .suspended ∧ wd.status.healthySince = some u) := by
  cases hm with
  | watch hn => exact absurd he hn
  | startRecovery => exact Or.inl ⟨rfl, Option.some.inj hu⟩
  | stay _ _ hp => exact Or.inr ⟨rfl, hp, hu⟩
  | enforce _ _ hp => exact Or.inr ⟨rfl, hp, (wd.memory.saving_times w).2.symm.trans hu⟩
  | suspend _ _ _ _ hsince =>
    have hh : wd.memory.healthySince = some u := (wd.memory.saving_times w).2.symm.trans hu
    rcases hx with hx | hx
    · cases hx.symm.trans hsince
    · cases hx.symm.trans hh

theorem Move.defers {wd : WorkloadDependency} {w : WorkloadObject} {now : Int} {d : Deed}
    {write : Option (DependencyPhase × Memory)} (hm : Move wd w now false d write)
    (he : wd.enforces) (hg : w.isProgressing = true) : write = some (.degraded, wd.memory) := by
  exact (hm.unique he (.defer hg)).2

theorem Move.stays_released {wd : WorkloadDependency} {w : WorkloadObject} {now : Int} {d : Deed}
    {phase : DependencyPhase} {caller : Memory} (hm : Move wd w now false d (some (phase, caller)))
    (he : wd.enforces) (hp : wd.status.phase = .released) (hg : w.isProgressing = false) :
    phase = .released := by
  have hwrite := (hm.unique he (.stayReleased he hg hp)).2
  cases hwrite
  rfl

section SteadyRuns

variable {k : NamespacedName} {r : (steadyLife k).Run} {i : ℕ} {wd : WorkloadDependency}

theorem suspended_sees {api : Api} (h : r.object i = some wd) (hd : wd.deletionTimestamp = none)
    (hcall : r.call i = some api) (hp : wd.status.phase = .suspended) :
    sighting api (r.cluster i) (steadyLife k).key ≠ none := by
  have hf := r.finalizer_of_suspended h hd hp
  obtain ⟨obj, hobj⟩ := presentLife_present h
  obtain ⟨ev, hs⟩ := sighting_of_allOk (r.transition hcall h).1 h hd hf
    (presentLife_active h hd).unpaused hobj
  exact Option.ne_none_iff_exists'.mpr ⟨_, hs⟩

theorem recovered_since (hc : ∀ i, ¬ r.Relapses i) (h : r.object i = some wd)
    (hd : wd.deletionTimestamp = none) (hp : wd.status.phase = .suspended) {t : Int}
    (ht : wd.status.healthySince = some t) : RecoveredSince r i t := by
  refine r.induct (I := fun i wd _ => wd.memory.phase = .suspended → ∀ t,
    wd.memory.healthySince = some t → RecoveredSince r i t) ?_ ?_ ?_ i h hd hp t ht
  · rintro wd w ⟨hcr, _⟩ hp
    rw [hcr.1] at hp
    cases hp
  · intro i api wd wd' w' hcall ho _ hd hcalls hi _ ha
    have henf := (presentLife_active ho hd).enforces
    have hmem := presentLife_remembers ho hd
    have hpers := ha.persisted (hcalls.statusUpdate 0)
    generalize wd'.memory = m at hpers ⊢
    cases hpers with
    | still hs =>
      intro hp
      exact absurd hs (suspended_sees ho hd hcall hp)
    | report _ hph =>
      intro hp
      rcases hph with ⟨rfl, _⟩ | ⟨rfl, _⟩ <;> cases hp
    | @unwritten s d write hs hw hm hn =>
      intro hp t ht
      have hnone : write = none := hn.resolve_right (fun hpatch => hpatch.1 hcalls.patch)
      have hfound := r.found_of_sighting hcall hs
      cases hb : s.ev.allOk with
      | true =>
        rw [hb] at hfound
        exact (hi hp t ht).later (Or.inr hfound)
      | false =>
        -- something wrong while the recovery clock runs: a relapse
        rw [hb] at hm hfound
        exact absurd (.of_move ho hw hfound hm henf hp ht (Or.inl hnone)) (hc i)
    | @move s d phase caller hs hw hm =>
      intro hp t ht
      have hfound := r.found_of_sighting hcall hs
      obtain ⟨u, hu, rfl⟩ := Option.map_eq_some_iff.mp ht
      have hu : caller.healthySince = some u := by simpa using hu
      obtain rfl : phase = .suspended := hp
      rcases hm.recovering henf hmem.exclusive hu with ⟨hb, rfl⟩ | ⟨hb, hph, hh⟩
      · rw [hb] at hfound
        exact .start hfound
      · rw [hb] at hm hfound
        exact absurd (.of_move ho hw hfound hm henf hph hh (Or.inr ⟨_, rfl⟩)) (hc i)
  · intro i wd wd' w' hcall _ _ hi he _
    rw [((steadyLife k).untouched _ _ he).memory]
    intro hp t ht
    exact (hi hp t ht).later (Or.inl hcall)

theorem relapse_keeps_clock (h : r.object i = some wd) (hr : r.Relapses i) :
    ∃ wd', r.object (i + 1) = some wd' ∧ wd'.status.phase = .suspended ∧
      wd'.status.healthySince = wd.status.healthySince := by
  obtain ⟨wd₀, h₀, hp, _, hf, hg, hrel⟩ := hr
  obtain rfl := Option.some.inj (h.symm.trans h₀)
  obtain ⟨wd', w, d, write, hd, hw, hm, ho', _, hm'⟩ := r.found_move (fun _ _ hok => hok) h hf
  have henf := (presentLife_active h hd).enforces
  have hmem := presentLife_remembers h hd
  suffices hm : wd'.memory.phase = .suspended ∧
      wd'.memory.healthySince = wd.memory.healthySince from ⟨wd', ho', hm.1, hm.2⟩
  obtain ⟨_, rfl | ⟨caller, rfl, hsame⟩⟩ := hm.relapse henf hp (hg _ hw) hrel
  · rw [hm']
    exact ⟨hp, rfl⟩
  · rw [hm']
    refine ⟨rfl, ?_⟩
    replace hsame : _ = wd.memory.healthySince := hsame
    cases hh : wd.memory.healthySince with
    | none => simp [Memory.write, hsame, hh]
    | some t => simp [Memory.write, hsame, hh, hmem.whole t hh]

/-- In every run without a relapse, whenever a recovery ends at time `t`, every Reconcile since
`t - recoveryWindow`, up to the second lost in the stored timestamp, found all well. A relapse
leaves the recovery clock running. -/
theorem recovery_after_window (k : NamespacedName) (r : (steadyLife k).Run) :
    ((∀ i, ¬ r.Relapses i) → ∀ i wd p, r.object i = some wd → p ∈ r.patches i →
      r.found i = some true → ∀ l ≤ i, r.call l ≠ none →
        r.clock i - recoveryWindow wd + second ≤ r.clock l → r.found l = some true) ∧
    ∀ i wd, r.object i = some wd → r.Relapses i →
      ∃ wd', r.object (i + 1) = some wd' ∧ wd'.status.phase = .suspended ∧
        wd'.status.healthySince = wd.status.healthySince := by
  refine ⟨?_, fun i wd h hr => relapse_keeps_clock h hr⟩
  intro hc i wd p h hp hf l hl hcall htime
  obtain ⟨hd, hph, since, hsince, hwin⟩ := well_patch_move h hp hf
  obtain ⟨j, hj, _, ht, hall⟩ := recovered_since hc h hd hph hsince
  have hlong : recoveryWindow wd ≤ r.clock i - since :=
    le_sub_of_le_timeSince (recoveryWindow_pos wd) hwin
  by_cases hlast : l = i
  · rw [hlast]
    exact hf
  by_cases hjl : j ≤ l
  · exact hall l hjl (by omega) hcall
  · have hmono : r.clock l ≤ r.clock j := r.clock_mono (by omega)
    have htrunc := lt_truncateTime_add (r.clock j)
    omega

theorem released_step {api : Api} {m : Memory} {w' : Option WorkloadObject} {ps : List Patch}
    (hc : ∀ obj, (r.cluster i).dependent wd = some obj → r.found i = some false →
      obj.isProgressing = false)
    (hcall : r.call i = some api) (h : r.object i = some wd) (hd : wd.deletionTimestamp = none)
    (hok : api.AllOk) (hp : wd.status.phase = .released)
    (ha : Advance api (r.clock i) (r.cluster i) (steadyLife k).key wd
      ((r.cluster i).dependent wd) m w' ps) :
    r.found i = some true ∨ m.phase = .released := by
  have hactive := presentLife_active h hd
  obtain ⟨obj, hobj⟩ := presentLife_present h
  rw [hobj] at ha
  cases ha.persisted (hok.statusUpdate 0) with
  | still => exact Or.inr hp
  | report _ hph =>
    rcases hph with ⟨_, hf | hw⟩ | ⟨_, _, hpaused⟩
    · obtain ⟨phase, hph, hb⟩ := r.blank h hd hf
      rw [show wd.status.phase = wd.memory.phase from rfl, hb] at hp
      rcases hph with rfl | rfl <;> cases hp
    · cases hw
    · rw [hactive.unpaused] at hpaused
      cases hpaused
  | unwritten => exact Or.inr hp
  | @move s d phase caller hs hw hm =>
    obtain rfl := Option.some.inj hw
    have hfound := r.found_of_sighting hcall hs
    cases hb : s.ev.allOk with
    | true =>
      rw [hb] at hfound
      exact Or.inl hfound
    | false =>
      rw [hb] at hm hfound
      exact Or.inr (hm.stays_released hactive.enforces hp (hc s.dependent hobj hfound))

theorem released_until_well
    (hc : ∀ i wd obj, r.object i = some wd → wd.status.phase = .released →
      (r.cluster i).dependent wd = some obj → r.found i = some false → obj.isProgressing = false)
    {wd₀ : WorkloadDependency} (h₀ : r.object (i + 1) = some wd₀)
    (hp₀ : wd₀.status.phase = .released) {j : ℕ} (hij : i < j) (h : r.object j = some wd)
    (hd : wd.deletionTimestamp = none) :
    (∃ l, i < l ∧ l < j ∧ r.found l = some true) ∨ wd.status.phase = .released := by
  refine r.induct (I := fun j wd _ => i < j → (∃ l, i < l ∧ l < j ∧ r.found l = some true) ∨
    wd.memory.phase = .released) ?_ ?_ ?_ j h hd hij
  · intro wd w _ hlt
    omega
  · intro j api wd wd' w' hcall ho ho' hd hcalls hi _ ha hlt
    by_cases hfirst : i = j
    · subst hfirst
      obtain rfl := Option.some.inj (h₀.symm.trans ho')
      exact Or.inr hp₀
    rcases hi (by omega) with ⟨l, hl⟩ | hp
    · exact Or.inl ⟨l, hl.1, by omega, hl.2.2⟩
    rcases released_step (fun obj => hc j wd obj ho hp) hcall ho hd hcalls hp ha with hw | hkeep
    · exact Or.inl ⟨j, by omega, by omega, hw⟩
    · exact Or.inr hkeep
  · intro j wd wd' w' hcall _ ho' hi he _ hlt
    by_cases hfirst : i = j
    · subst hfirst
      obtain rfl := Option.some.inj (h₀.symm.trans ho')
      exact Or.inr hp₀
    rw [((steadyLife k).untouched _ _ he).memory]
    rcases hi (by omega) with ⟨l, hl⟩ | hp
    · exact Or.inl ⟨l, hl.1, by omega, hl.2.2⟩
    · exact Or.inr hp

theorem deferral_forgets_release {obj : WorkloadObject} (h : r.object i = some wd)
    (hobj : (r.cluster i).dependent wd = some obj) (hf : r.found i = some false)
    (hg : obj.isProgressing = true) :
    ∃ wd', r.object (i + 1) = some wd' ∧ wd'.status.phase = .degraded ∧
      wd'.status.degradedSince = wd.status.degradedSince := by
  obtain ⟨wd', w, d, write, hd, hw, hm, ho', _, hm'⟩ := r.found_move (fun _ _ hok => hok) h hf
  have henf := (presentLife_active h hd).enforces
  have hmem := presentLife_remembers h hd
  suffices hm : wd'.memory.phase = .degraded ∧
      wd'.memory.degradedSince = wd.memory.degradedSince from ⟨wd', ho', hm.1, hm.2⟩
  obtain rfl := Option.some.inj (hobj.symm.trans hw)
  obtain rfl := hm.defers henf hg
  rw [hm']
  refine ⟨rfl, ?_⟩
  cases hh : wd.memory.degradedSince with
  | none => simp [Memory.write, hh]
  | some t =>
    obtain ⟨_, _, _, ht, _⟩ := hmem.degraded t hh
    simp [Memory.write, hh, ← ht]

/-- In every run in which no Reconcile meets an unhealthy dependency while a Released Rollout is
progressing, the dependent is not taken down again before a Reconcile has found all well. Such a
Reconcile makes the release look like the old outage. -/
theorem released_is_final (k : NamespacedName) (r : (steadyLife k).Run) :
    ((∀ i wd obj, r.object i = some wd → wd.status.phase = .released →
        (r.cluster i).dependent wd = some obj → r.found i = some false →
          obj.isProgressing = false) →
      ∀ i j wd wd' p, i < j → r.call i ≠ none → r.object (i + 1) = some wd →
        wd.status.phase = .released → r.object j = some wd' → p ∈ r.patches j → p.takesDown →
        ∃ l, i < l ∧ l < j ∧ r.found l = some true) ∧
    ∀ i wd obj, r.object i = some wd → wd.status.phase = .released →
      (r.cluster i).dependent wd = some obj → r.found i = some false →
      obj.isProgressing = true →
      ∃ wd', r.object (i + 1) = some wd' ∧ wd'.status.phase = .degraded ∧
        wd'.status.degradedSince = wd.status.degradedSince := by
  refine ⟨?_, fun i wd obj h _ hobj hf hg => deferral_forgets_release h hobj hf hg⟩
  intro hc i j wd wd' p hij _ h hp h' hmem hdown
  obtain ⟨w, write, _, hd, _, hm⟩ := takesDown_move h' hmem hdown
  rcases released_until_well hc h hp hij h' hd with hwell | hrel
  · exact hwell
  · cases hm with
    | enforce _ _ hs => cases hrel.symm.trans hs
    | suspend _ _ _ hr => exact absurd hrel hr

end SteadyRuns

theorem steady_runs (s : World) : (steadyLife demoKey).rules.enabled s (runs demoKey .good s) :=
  Life.enabled_runs (fun _ => Api.good_allOk)

theorem steady_idles : (steadyLife demoKey).Idles := presentLife_idles _ _ _

def relapseScript : List (World → Happening) :=
  outageScript ++
    [sets dbKey (demoDb 1), runs demoKey .good, sets dbKey (demoDb 0), waits (30 * second),
      runs demoKey .good, sets dbKey (demoDb 1), waits (31 * second), runs demoKey .good]

theorem relapseScript_playable :
    Playable (steadyLife demoKey).rules.system demoDeployment relapseScript := by
  have hL := steady_idles
  have hr := steady_runs
  refine ⟨hr _, hr _, hL.enabled_waits (by decide), hr _, ?_, hr _, ?_,
    hL.enabled_waits (by decide), hr _, ?_, hL.enabled_waits (by decide), hr _, trivial⟩
  · exact hL.enabled_sets (by decide)
  · exact hL.enabled_sets (by decide)
  · exact hL.enabled_sets (by decide)

def relapseRun : (steadyLife demoKey).Run :=
  Life.scripted _ steady_idles demoDeployment
    (presentLife_start ⟨rfl, rfl⟩ ⟨Or.inl rfl, rfl⟩ (by decide) (by decide)) relapseScript
    relapseScript_playable

/-- Restored 61 seconds after the first recovery and 31 seconds after a Reconcile that found the
database down. -/
theorem relapse_recovers_early :
    relapseRun.found 11 = some true ∧
      (relapseRun.patches 11).map (fun p => (p.before.getReplicas, p.after.getReplicas)) =
        [(0, 3)] ∧
      relapseRun.found 8 = some false ∧
      (relapseRun.object 11).all (fun wd =>
        decide (relapseRun.clock 11 - recoveryWindow wd + second ≤ relapseRun.clock 8)) := by
  decide

def releaseScript : List (World → Happening) :=
  outageScript ++
    [waits (60 * second), runs demoKey .good, sets webKey (.rollout ⟨some 3, .progressing⟩),
      runs demoKey .good, sets webKey (.rollout ⟨some 3, .healthy⟩), runs demoKey .good]

theorem releaseScript_playable :
    Playable (steadyLife demoKey).rules.system (demoRollout (60 * second)) releaseScript := by
  have hL := steady_idles
  have hr := steady_runs
  refine ⟨hr _, hr _, hL.enabled_waits (by decide), hr _, hL.enabled_waits (by decide), hr _, ?_,
    hr _, ?_, hr _, trivial⟩
  · exact hL.enabled_touch (w := .rollout ⟨some 3, .healthy⟩) (by decide) ⟨_, rfl⟩
  · exact hL.enabled_touch (w := .rollout ⟨some 3, .progressing⟩) (by decide) ⟨_, rfl⟩

def releaseRun : (steadyLife demoKey).Run :=
  Life.scripted _ steady_idles (demoRollout (60 * second))
    (presentLife_start ⟨rfl, rfl⟩ ⟨Or.inl rfl, rfl⟩ (by decide) (by decide)) releaseScript
    releaseScript_playable

/-- The Rollout is taken down again although the database was never seen up. -/
theorem progress_revokes_release :
    (releaseRun.object 6).map (fun wd => wd.status.phase) = some .released ∧
      (releaseRun.patches 9).map (fun p => (p.before.getReplicas, p.after.getReplicas)) =
        [(3, 0)] ∧
      ∀ l < 9, 5 < l → releaseRun.found l ≠ some true := by
  decide

end Klink
