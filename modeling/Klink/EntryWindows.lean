import Klink.HealthHistory

/-! # One window for all dependencies

Each entry of `dependsOn` has a window of its own, but klink keeps one timestamp for all of them
and compares it with the first window that is set. A suspension speaks for a single entry where
that entry failed in every Reconcile the timestamp stands for, and its own window is over as well.
-/
namespace Klink

open TransitionSystem

section Runs

variable {L : Life} (r : L.Run) (i : ℕ)

/-- Every Reconcile in the window of the entry that ends with step `i` found the entry missing or
unhealthy, and one before that did. Stored timestamps lack the fraction of a second. -/
structure Life.Run.FailedThroughout (wd : WorkloadDependency) (e : DependsOnEntry) : Prop where
  throughout : ∀ j ≤ i, r.found j ≠ none →
    r.clock i - e.condition.window + second ≤ r.clock j → EntryFails (r.cluster j) wd e
  before : ∃ j ≤ i, r.found j ≠ none ∧
    r.clock j < r.clock i - e.condition.window + second ∧ EntryFails (r.cluster j) wd e

/-- A Reconcile that `DegradedSince` stands for at step `i`: it found something wrong, and none
since then found all well. -/
structure Life.Run.Counted (wd : WorkloadDependency) (j : ℕ) : Prop where
  upTo : j ≤ i
  since : ∃ since, wd.status.degradedSince = some since ∧ since ≤ r.clock j
  wrong : r.found j = some false
  unbroken : ∀ l, j ≤ l → l < i → r.found l ≠ some true

structure Life.Run.SpeaksForAll (wd : WorkloadDependency) (e : DependsOnEntry) : Prop where
  mem : e ∈ wd.spec.dependsOn
  window : ∀ since, wd.status.degradedSince = some since →
    e.condition.window ≤ r.clock i - since
  failing : ∀ j, r.Counted i wd j → EntryFails (r.cluster j) wd e

variable {r i}

theorem entry_of_found (hf : r.found i = some false) : ∃ wd, r.object i = some wd ∧
    r.call i ≠ none ∧ ∃ dep ∈ wd.spec.dependsOn, EntryFails (r.cluster i) wd dep := by
  obtain ⟨api, s, hc, hs, hok⟩ := r.found_eq_some hf
  obtain ⟨wd, ho, hsees⟩ := sighting_sees hs
  refine ⟨wd, ho, by simp [hc], ?_⟩
  have hverdict := evaluateDependencies_allOk hsees.evaluation
  rw [hok] at hverdict
  by_contra hall
  push Not at hall
  exact absurd (hverdict.mpr hall) (by decide)

end Runs

theorem Life.Run.Counted.entry {k : NamespacedName} {r : (windowLife k).Run} {i j : ℕ}
    {wd : WorkloadDependency} (hj : r.Counted i wd j) (h : r.object i = some wd) :
    ∃ e ∈ wd.spec.dependsOn, EntryFails (r.cluster j) wd e := by
  obtain ⟨wdj, hwdj, _, e, hmem, hfails⟩ := entry_of_found hj.wrong
  have hkey : wd.key = wdj.key :=
    ((r.cluster i).getWD_key h).trans ((r.cluster j).getWD_key hwdj).symm
  refine ⟨e, ?_, (EntryFails.congr (congrArg NamespacedName.ns hkey)).mpr hfails⟩
  rw [windowLife_spec hj.upTo hwdj h]
  exact hmem

/-- Where one entry speaks for all, a suspension means that this entry has been failing for its
own window. Any other suspension goes by the time and the window of somebody else: for each entry
its own window is not over, or the time that is counted was running while the entry was well and
another one was not. -/
theorem suspension_backed_by_entry {k : NamespacedName} (r : (windowLife k).Run) (i : ℕ)
    {wd : WorkloadDependency} {p : Patch} (h : r.object i = some wd) (hp : p ∈ r.patches i)
    (hd : p.takesDown) (hphase : wd.status.phase ≠ .suspended) :
    ((∃ e, r.SpeaksForAll i wd e) → ∃ e ∈ wd.spec.dependsOn, r.FailedThroughout i wd e) ∧
    ((¬ ∃ e, r.SpeaksForAll i wd e) →
      ∃ since, wd.status.degradedSince = some since ∧ degradedWindow wd ≤ r.clock i - since ∧
        ∀ e ∈ wd.spec.dependsOn, r.clock i - since < e.condition.window ∨
          ∃ j, r.Counted i wd j ∧ ¬ EntryFails (r.cluster j) wd e ∧
            ∃ other ∈ wd.spec.dependsOn, EntryFails (r.cluster j) wd other) := by
  obtain ⟨hfound, j, hj, hf, hsince, hwin, hl⟩ := suspension_since h hp hd hphase
  have htrunc := truncateTime_le (r.clock j)
  have hlt := lt_truncateTime_add (r.clock j)
  -- `j` is the Reconcile that set `DegradedSince`, and all from there on are counted
  have hcounted : ∀ l, j ≤ l → l ≤ i → r.found l ≠ none → r.Counted i wd l := by
    intro l hjl hli hnone
    have hmono := r.clock_mono hjl
    refine ⟨hli, ⟨_, hsince, htrunc.trans hmono⟩, ?_, fun n hln hni => hl n (by omega) hni⟩
    rcases Nat.lt_or_eq_of_le hli with hlt | rfl
    · obtain ⟨ok, hok⟩ := Option.ne_none_iff_exists'.mp hnone
      cases ok with
      | true => exact absurd hok (hl l hjl hlt)
      | false => exact hok
    · exact hfound
  constructor
  · rintro ⟨e, he⟩
    have hover := he.window _ hsince
    refine ⟨e, he.mem, ?_, j, by omega, by simp [hf], by omega, ?_⟩
    · intro l hli hnone hclock
      have hjl : j ≤ l := by
        by_contra hbefore
        have hmono : r.clock l ≤ r.clock j := r.clock_mono (by omega)
        omega
      exact he.failing l (hcounted l hjl hli hnone)
    · exact he.failing j (hcounted j le_rfl (by omega) (by simp [hf]))
  · intro hnone
    refine ⟨_, hsince, hwin, ?_⟩
    intro e hmem
    by_contra hno
    obtain ⟨hlong, hwell⟩ := not_or.mp hno
    apply hnone
    refine ⟨e, hmem, ?_, ?_⟩
    · intro since hs
      obtain rfl := Option.some.inj (hsince.symm.trans hs)
      exact not_lt.mp hlong
    · intro l hc
      by_contra hfine
      exact hwell ⟨l, hc, hfine, hc.entry h⟩

def windowsObject (cacheWindow : Int) : WorkloadDependency :=
  { demoObject "Deployment" .strict 0 with
    spec := ⟨⟨"Deployment", "web", ""⟩,
      [⟨"StatefulSet", "db", "", ⟨100, 30 * second, 60 * second⟩⟩,
        ⟨"StatefulSet", "cache", "", ⟨100, cacheWindow, 60 * second⟩⟩], ⟨0⟩, .strict, none⟩ }

def cacheSetKey : NamespacedName := ⟨"default", "cache"⟩

def windowsWorld (cacheWindow : Int) : World where
  cluster := Cluster.putWorkload (Cluster.putWorkload
    (demoWorld (windowsObject cacheWindow) (.deployment ⟨some 3, 3⟩)).cluster dbKey (demoDb 1))
    cacheSetKey (demoDb 0)
  clock := 0

theorem windowsWorld_start (cacheWindow : Int) :
    (windowLife demoKey).rules.start (windowsWorld cacheWindow).cluster :=
  ⟨windowsObject cacheWindow, by rfl, ⟨rfl, rfl⟩, ⟨Or.inl rfl, rfl⟩, .deployment ⟨some 3, 3⟩,
    by rfl⟩

def windowsPatch : Patch := ⟨webKey, .deployment ⟨some 3, 3⟩, .deployment ⟨some 0, 3⟩, .ok⟩

theorem windowsPatch_takesDown : windowsPatch.takesDown := Or.inr ⟨by decide, rfl⟩

def impatientRun : (windowLife demoKey).Run :=
  Life.scripted _ window_idles (windowsWorld (300 * second)) (windowsWorld_start (300 * second))
    outageScript (outageScript_playable_in _)

/-- Only `cache` is down, and its five minutes are not over. -/
theorem suspension_before_own_window :
    ∃ wd p, impatientRun.object 3 = some wd ∧ wd.status.phase ≠ .suspended ∧
      p ∈ impatientRun.patches 3 ∧ p.takesDown ∧
      ¬ ∃ e ∈ wd.spec.dependsOn, impatientRun.FailedThroughout 3 wd e := by
  have hview : (impatientRun.object 3).map (fun wd => (wd.spec, wd.ns, wd.status.phase)) =
      some ((windowsObject (300 * second)).spec, "default", .degraded) := by decide
  have hpatch : windowsPatch ∈ impatientRun.patches 3 := by decide
  obtain ⟨wd, hwd, hwd'⟩ := Option.map_eq_some_iff.mp hview
  obtain ⟨hspec, hns, hphase⟩ : wd.spec = (windowsObject (300 * second)).spec ∧
      wd.ns = "default" ∧ wd.status.phase = .degraded := by
    simpa using hwd'
  have hsame : wd.ns = (windowsObject (300 * second)).ns := hns
  refine ⟨wd, windowsPatch, hwd, by simp [hphase], hpatch, windowsPatch_takesDown, ?_⟩
  rintro ⟨e, he, hthroughout, j, hj, _, hclock, _⟩
  rw [hspec] at he
  rcases List.mem_cons.mp he with rfl | he
  · have hfails := (EntryFails.congr hsame).mp
      (hthroughout 3 (Nat.le_refl 3) (by decide) (by decide))
    exact absurd hfails (by decide)
  · obtain rfl := List.mem_singleton.mp he
    have hearly : ∀ j ≤ 3, ¬ impatientRun.clock j <
      impatientRun.clock 3 - 300 * second + second := by decide
    exact hearly j hj hclock

def staggeredScript : List (World → Happening) :=
  [runs demoKey .good, runs demoKey .good, sets cacheSetKey (demoDb 1), runs demoKey .good,
    waits (3600 * second), sets dbKey (demoDb 0), runs demoKey .good, waits (31 * second),
    runs demoKey .good]

theorem staggeredScript_playable :
    Playable (windowLife demoKey).rules.system (windowsWorld (30 * second)) staggeredScript := by
  have hL := window_idles
  have hr : ∀ s, (windowLife demoKey).rules.enabled s (runs demoKey .good s) :=
    fun _ => Life.enabled_runs (fun _ => rfl)
  exact ⟨hr _, hr _, hL.enabled_sets (by decide), hr _, hL.enabled_waits (by decide),
    hL.enabled_sets (by decide), hr _, hL.enabled_waits (by decide), hr _, trivial⟩

def staggeredRun : (windowLife demoKey).Run :=
  Life.scripted _ window_idles (windowsWorld (30 * second)) (windowsWorld_start (30 * second))
    staggeredScript staggeredScript_playable

/-- The outage of `cache` is over and does not count. -/
theorem suspension_backed_by_db :
    ∃ wd, staggeredRun.object 8 = some wd ∧ (∃ e, staggeredRun.SpeaksForAll 8 wd e) ∧
      ∃ e ∈ wd.spec.dependsOn, staggeredRun.FailedThroughout 8 wd e := by
  have hview : (staggeredRun.object 8).map (fun wd =>
      (wd.spec, wd.ns, wd.status.phase, wd.status.degradedSince)) =
        some ((windowsObject (30 * second)).spec, "default", .degraded, some (3600 * second)) := by
    decide
  have hpatch : windowsPatch ∈ staggeredRun.patches 8 := by decide
  have hdown : ∀ j ≤ 8, 3600 * second ≤ staggeredRun.clock j →
      staggeredRun.found j = some false →
        EntryFails (staggeredRun.cluster j) (windowsObject (30 * second))
          ⟨"StatefulSet", "db", "", ⟨100, 30 * second, 60 * second⟩⟩ := by decide
  obtain ⟨wd, hwd, hwd'⟩ := Option.map_eq_some_iff.mp hview
  obtain ⟨hspec, hns, hphase, hsince⟩ : wd.spec = (windowsObject (30 * second)).spec ∧
      wd.ns = "default" ∧ wd.status.phase = .degraded ∧
      wd.status.degradedSince = some (3600 * second) := by
    simpa using hwd'
  have hsame : wd.ns = (windowsObject (30 * second)).ns := hns
  have hspeaks : staggeredRun.SpeaksForAll 8 wd
      ⟨"StatefulSet", "db", "", ⟨100, 30 * second, 60 * second⟩⟩ := by
    refine ⟨?_, ?_, ?_⟩
    · rw [hspec]
      exact List.mem_cons_self
    · intro since hs
      obtain rfl := Option.some.inj (hsince.symm.trans hs)
      decide
    · rintro j ⟨hj, ⟨since, hs, hle⟩, hwrong, _⟩
      obtain rfl := Option.some.inj (hsince.symm.trans hs)
      exact (EntryFails.congr hsame).mpr (hdown j hj hle hwrong)
  have hne : wd.status.phase ≠ .suspended := by simp [hphase]
  exact ⟨wd, hwd, ⟨_, hspeaks⟩, (suspension_backed_by_entry staggeredRun 8 hwd hpatch
    windowsPatch_takesDown hne).1 ⟨_, hspeaks⟩⟩

end Klink
