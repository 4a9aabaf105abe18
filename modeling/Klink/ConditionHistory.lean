import Klink.ReconcileRuns

/-! # The Ready condition over a sequence of status writes

Each successful `setStatus` rewrites the Ready entry from a table of phases. The results follow
the list of conditions through any number of calls: what a call leaves alone, when the entry says
what the phase says, and whether its transition time is that of the last change of its status.
-/
namespace Klink

open TransitionSystem KeyedStore

def ConditionSpec.entry (spec : ConditionSpec) (now generation : Int) (msg : String) :
    Option Condition → Condition
  | none => ⟨spec.condType, spec.status, spec.reason, msg, now, generation⟩
  | some c =>
    if c.status = spec.status ∧ c.reason = spec.reason then
      { c with message := msg, observedGeneration := generation }
    else ⟨spec.condType, spec.status, spec.reason, msg, now, generation⟩

theorem ConditionSpec.entry_files (spec : ConditionSpec) (now generation : Int) (msg : String) :
    Files Condition.type spec.condType (spec.entry now generation msg) := by
  refine ⟨rfl, ?_⟩
  intro c hc
  unfold entry
  dsimp only
  split
  · exact hc
  · rfl

theorem updateConditions_eq (now generation : Int) (spec : ConditionSpec) (msg : String)
    (cs : List Condition) : updateConditions now generation spec msg cs =
      upsert Condition.type spec.condType (spec.entry now generation msg) cs := by
  induction cs with
  | nil => rfl
  | cons c cs ih =>
    rw [updateConditions, upsert, ih]
    by_cases hc : c.type = spec.condType
    · rw [if_pos hc, if_pos hc]
      unfold ConditionSpec.entry
      dsimp only
      split <;> rfl
    · rw [if_neg hc, if_neg hc]

def Condition.stored (c : Condition) : Condition :=
  { c with lastTransitionTime := truncateTime c.lastTransitionTime }

@[simp] theorem Condition.stored_stored (c : Condition) : c.stored.stored = c.stored := by
  simp [stored]

def conditionsAfter (now generation : Int) (phase : DependencyPhase) (msg : String)
    (cs : List Condition) : List Condition :=
  match conditionSpec phase with
  | none => cs
  | some spec => updateConditions now generation spec msg cs

theorem applyFields_conditions (now : Int) (caller : WorkloadDependencyStatus)
    (phase : DependencyPhase) (msg : String) (wd : WorkloadDependency) :
    (applyFields now caller phase msg wd).status.conditions =
      conditionsAfter now wd.generation phase msg wd.status.conditions := by
  unfold applyFields setCondition conditionsAfter
  cases conditionSpec phase <;> rfl

def readyEntry (cs : List Condition) : Option Condition :=
  cs.find? (fun c => decide (c.type = "Ready"))

def readyStatus (cs : List Condition) : Option ConditionStatus := (readyEntry cs).map (·.status)

def OnePerType (cs : List Condition) : Prop := (cs.map Condition.type).Nodup

def Whole (cs : List Condition) : Prop := ∀ c ∈ cs, c.stored = c

theorem conditionSpec_ready {phase : DependencyPhase} {spec : ConditionSpec}
    (h : conditionSpec phase = some spec) : spec.condType = "Ready" := by
  cases phase <;> cases h <;> rfl

section OneCall

variable {now generation : Int} {phase : DependencyPhase} {msg : String} {cs : List Condition}

theorem readyEntry_stored (cs : List Condition) :
    readyEntry (cs.map Condition.stored) = (readyEntry cs).map Condition.stored :=
  List.find?_map

theorem whole_stored (cs : List Condition) : Whole (cs.map Condition.stored) := by
  intro c hc
  obtain ⟨c', _, rfl⟩ := List.mem_map.mp hc
  exact c'.stored_stored

theorem Whole.map_stored (h : Whole cs) : cs.map Condition.stored = cs :=
  (List.map_congr_left h).trans (List.map_id cs)

theorem conditionsAfter_onePerType (h : OnePerType cs) :
    OnePerType ((conditionsAfter now generation phase msg cs).map Condition.stored) := by
  have htype : Condition.type ∘ Condition.stored = Condition.type := rfl
  unfold OnePerType
  rw [List.map_map, htype]
  unfold conditionsAfter
  cases conditionSpec phase with
  | none => exact h
  | some spec =>
    dsimp only
    rw [updateConditions_eq]
    exact nodup_upsert (spec.entry_files now generation msg) h

theorem conditionsAfter_other (hw : Whole cs) {c : Condition} (hc : c.type ≠ "Ready") (l : ℕ) :
    ((conditionsAfter now generation phase msg cs).map Condition.stored)[l]? = some c ↔
      cs[l]? = some c := by
  have hother : ∀ d : Condition, d.type ≠ "Ready" →
      ((conditionsAfter now generation phase msg cs)[l]? = some d ↔ cs[l]? = some d) := by
    intro d hd
    unfold conditionsAfter
    cases hspec : conditionSpec phase with
    | none => exact Iff.rfl
    | some spec =>
      dsimp only
      rw [updateConditions_eq]
      rw [← conditionSpec_ready hspec] at hd
      exact getElem?_upsert_ne (spec.entry_files now generation msg) hd cs l
  rw [List.getElem?_map, Option.map_eq_some_iff]
  constructor
  · rintro ⟨d, hd, rfl⟩
    have hcs := (hother d hc).mp hd
    rw [hw d (List.mem_of_getElem? hcs)]
    exact hcs
  · intro h
    exact ⟨c, (hother c hc).mpr h, hw c (List.mem_of_getElem? h)⟩

theorem readyEntry_conditionsAfter {spec : ConditionSpec} (h : conditionSpec phase = some spec) :
    readyEntry ((conditionsAfter now generation phase msg cs).map Condition.stored) =
      some (spec.entry now generation msg (readyEntry cs)).stored := by
  rw [readyEntry_stored]
  unfold conditionsAfter
  rw [h]
  dsimp only
  rw [updateConditions_eq]
  unfold readyEntry
  rw [← conditionSpec_ready h, find?_upsert (spec.entry_files now generation msg)]
  rfl

theorem ConditionSpec.entry_again (spec : ConditionSpec) (now generation : Int) (msg : String)
    (o : Option Condition) :
    (spec.entry now generation msg (some (spec.entry now generation msg o).stored)).stored =
      (spec.entry now generation msg o).stored := by
  have hentry : (spec.entry now generation msg o).status = spec.status ∧
      (spec.entry now generation msg o).reason = spec.reason ∧
      (spec.entry now generation msg o).message = msg ∧
      (spec.entry now generation msg o).observedGeneration = generation := by
    cases o with
    | none => exact ⟨rfl, rfl, rfl, rfl⟩
    | some c =>
      unfold entry
      dsimp only
      split
      · next h => exact ⟨h.1, h.2, rfl, rfl⟩
      · exact ⟨rfl, rfl, rfl, rfl⟩
  generalize spec.entry now generation msg o = c at hentry ⊢
  obtain ⟨hs, hr, hm, hg⟩ := hentry
  simp [entry, Condition.stored, hs, hr, hm, hg]

theorem conditionsAfter_again (now generation : Int) (phase : DependencyPhase) (msg : String)
    (cs : List Condition) :
    (conditionsAfter now generation phase msg
      ((conditionsAfter now generation phase msg cs).map Condition.stored)).map Condition.stored =
      (conditionsAfter now generation phase msg cs).map Condition.stored := by
  unfold conditionsAfter
  cases conditionSpec phase with
  | none => exact (whole_stored cs).map_stored
  | some spec =>
    dsimp only
    rw [updateConditions_eq, updateConditions_eq]
    exact map_upsert_map_upsert (spec.entry_files now generation msg) Condition.stored
      (fun _ => rfl) Condition.stored_stored (spec.entry_again now generation msg) cs

theorem conditionsAfter_of_no_row (hw : Whole cs) (h : conditionSpec phase = none) :
    (conditionsAfter now generation phase msg cs).map Condition.stored = cs := by
  unfold conditionsAfter
  rw [h]
  exact hw.map_stored

end OneCall

/-- The Ready entry has the status and the reason that the table gives the phase. A phase without a
row is shown by no entry. -/
def Shows (phase : DependencyPhase) (cs : List Condition) : Prop :=
  ∃ spec c, conditionSpec phase = some spec ∧ readyEntry cs = some c ∧
    c.status = spec.status ∧ c.reason = spec.reason

def KeepsTime (now : Int) (cs cs' : List Condition) : Prop :=
  ∀ c', readyEntry cs' = some c' →
    if readyStatus cs = readyStatus cs' then
      (readyEntry cs).map (·.lastTransitionTime) = some c'.lastTransitionTime
    else c'.lastTransitionTime = truncateTime now

/-- The phase has a row, and where the entry has the status of the row but not its reason, its
transition time is the present second. -/
def Tracked (now : Int) (phase : DependencyPhase) (cs : List Condition) : Prop :=
  ∃ spec, conditionSpec phase = some spec ∧ ∀ c, readyEntry cs = some c →
    c.status = spec.status → c.reason = spec.reason ∨ c.lastTransitionTime = truncateTime now

section Exactness

variable {now generation : Int} {phase : DependencyPhase} {msg : String} {cs : List Condition}

theorem shows_after_row {spec : ConditionSpec} (h : conditionSpec phase = some spec) :
    Shows phase ((conditionsAfter now generation phase msg cs).map Condition.stored) := by
  refine ⟨spec, _, h, readyEntry_conditionsAfter h, ?_⟩
  unfold ConditionSpec.entry
  cases readyEntry cs with
  | none => exact ⟨rfl, rfl⟩
  | some c =>
    dsimp only
    split
    · next hsame => exact hsame
    · exact ⟨rfl, rfl⟩

theorem keepsTime_row {spec : ConditionSpec} (hw : Whole cs)
    (h : conditionSpec phase = some spec) :
    KeepsTime now cs ((conditionsAfter now generation phase msg cs).map Condition.stored) ↔
      ∀ c, readyEntry cs = some c → c.status = spec.status →
        c.reason = spec.reason ∨ c.lastTransitionTime = truncateTime now := by
  unfold KeepsTime readyStatus
  rw [readyEntry_conditionsAfter h]
  cases hready : readyEntry cs with
  | none => simp [ConditionSpec.entry, Condition.stored]
  | some c =>
    have hc : truncateTime c.lastTransitionTime = c.lastTransitionTime :=
      congrArg Condition.lastTransitionTime (hw c (List.mem_of_find?_eq_some hready))
    by_cases hs : c.status = spec.status
    · by_cases hr : c.reason = spec.reason
      · simp [ConditionSpec.entry, Condition.stored, hs, hr, hc]
      · simp [ConditionSpec.entry, Condition.stored, hs, hr]
    · simp [ConditionSpec.entry, Condition.stored, hs]

theorem tracked_iff (hw : Whole cs) :
    Shows phase ((conditionsAfter now generation phase msg cs).map Condition.stored) ∧
      KeepsTime now cs ((conditionsAfter now generation phase msg cs).map Condition.stored) ↔
    Tracked now phase cs := by
  constructor
  · rintro ⟨⟨spec, _, hspec, _⟩, hkeeps⟩
    exact ⟨spec, hspec, (keepsTime_row hw hspec).mp hkeeps⟩
  · rintro ⟨spec, hspec, hreason⟩
    exact ⟨shows_after_row hspec, (keepsTime_row hw hspec).mpr hreason⟩

end Exactness

def Cluster.conditions (c : Cluster) (k : NamespacedName) : List Condition :=
  ((c.getWD k).map (fun wd => wd.status.conditions)).getD []

structure StatusCall where
  api : Api
  now : Int
  caller : WorkloadDependency
  phase : DependencyPhase
  msg : String
  result : Option Result

namespace StatusCall

variable (s : StatusCall)

/-- The caller has read the object and changed anything of it but its conditions, and the write
gets through, at once or after reading the object again. -/
def Succeeds (k : NamespacedName) (c : Cluster) : Prop :=
  s.caller.key = k ∧ s.api.persistsStatus = true ∧ ∃ wd, c.getWD k = some wd ∧
    s.caller.status.conditions = wd.status.conditions ∧
    (s.api.statusUpdate 0 = .ok ∨ s.api.Honest wd)

def perform (c : Cluster) : Cluster :=
  c.applyAll (setStatus s.api s.now s.caller s.phase s.msg s.result).effects

theorem perform_conditions {k : NamespacedName} {c : Cluster} (h : s.Succeeds k c) :
    ∃ generation, (s.perform c).conditions k =
      (conditionsAfter s.now generation s.phase s.msg (c.conditions k)).map Condition.stored := by
  obtain ⟨hkey, hok, wd, hget, hcs, hr⟩ := h
  obtain ⟨w, hw⟩ :=
    (statusAttempt_written_iff s.api s.now s.caller s.phase s.msg).mpr hok
  have hstored : s.perform c = c.putStatus w := by
    unfold perform
    rw [applyAll_setStatus, hw]
    rfl
  have hwk : w.key = k := by
    rcases statusAttempt_written hr hw with rfl | ⟨_, rfl⟩
    · rw [applyFields_key, hkey]
    · rw [applyFields_key, c.getWD_key hget]
  have hafter : ∃ generation, w.status.conditions =
      conditionsAfter s.now generation s.phase s.msg wd.status.conditions := by
    rcases statusAttempt_written hr hw with rfl | ⟨_, rfl⟩
    · exact ⟨_, by rw [applyFields_conditions, hcs]⟩
    · exact ⟨_, applyFields_conditions _ _ _ _ _⟩
  obtain ⟨generation, hgen⟩ := hafter
  refine ⟨generation, ?_⟩
  unfold Cluster.conditions
  rw [hstored, Cluster.getWD_putStatus_self hget hwk, hget, Option.map_some, Option.map_some,
    Option.getD_some, Option.getD_some, ← hgen]
  rfl

end StatusCall

def statusCalls (k : NamespacedName) : System Cluster (Option StatusCall) where
  init c := OnePerType (c.conditions k) ∧ Whole (c.conditions k)
  enabled c e := ∀ s, e = some s → s.Succeeds k c
  next c e := e.elim c (fun s => s.perform c)

abbrev StatusRun (k : NamespacedName) := Run (statusCalls k)

def StatusRun.conditions {k : NamespacedName} (r : StatusRun k) (i : ℕ) : List Condition :=
  (r.state i).conditions k

section Runs

variable {k : NamespacedName} (r : StatusRun k)

/-- The last change of the Ready status before `i` was at time `t`, or there was none since the
entry had the transition time `t` at the start. -/
def StatusRun.LastChange (i : ℕ) (t : Int) : Prop :=
  (∃ j s, j < i ∧ r.event j = some s ∧ t = truncateTime s.now ∧
    readyStatus (r.conditions j) ≠ readyStatus (r.conditions (j + 1)) ∧
    ∀ l, j < l → l < i → readyStatus (r.conditions l) = readyStatus (r.conditions (l + 1))) ∨
  ((readyEntry (r.conditions 0)).map (·.lastTransitionTime) = some t ∧
    ∀ l < i, readyStatus (r.conditions l) = readyStatus (r.conditions (l + 1)))

theorem StatusRun.conditions_idle {i : ℕ} (h : r.event i = none) :
    r.conditions (i + 1) = r.conditions i := by
  unfold StatusRun.conditions
  rw [r.step i, h]
  rfl

theorem StatusRun.conditions_call {i : ℕ} {s : StatusCall} (h : r.event i = some s) :
    ∃ generation, r.conditions (i + 1) =
      (conditionsAfter s.now generation s.phase s.msg (r.conditions i)).map Condition.stored := by
  unfold StatusRun.conditions
  rw [r.step i, h]
  exact s.perform_conditions (r.valid i s h)

structure Undisturbed (start cs : List Condition) : Prop where
  onePerType : OnePerType cs
  whole : Whole cs
  others : ∀ (l : ℕ) (c : Condition), c.type ≠ "Ready" → (cs[l]? = some c ↔ start[l]? = some c)

theorem StatusRun.undisturbed (i : ℕ) : Undisturbed (r.conditions 0) (r.conditions i) := by
  induction i with
  | zero => exact ⟨r.start.1, r.start.2, fun _ _ _ => Iff.rfl⟩
  | succ i ih =>
    cases he : r.event i with
    | none =>
      rw [r.conditions_idle he]
      exact ih
    | some s =>
      obtain ⟨generation, hcs⟩ := r.conditions_call he
      rw [hcs]
      refine ⟨conditionsAfter_onePerType ih.onePerType, whole_stored _, ?_⟩
      intro l c hc
      rw [conditionsAfter_other ih.whole hc]
      exact ih.others l c hc

theorem StatusRun.LastChange.same {i : ℕ} {t : Int} (h : r.LastChange i t)
    (hs : readyStatus (r.conditions i) = readyStatus (r.conditions (i + 1))) :
    r.LastChange (i + 1) t := by
  have hlater : ∀ l, l < i + 1 →
      (l < i → readyStatus (r.conditions l) = readyStatus (r.conditions (l + 1))) →
      readyStatus (r.conditions l) = readyStatus (r.conditions (l + 1)) := by
    intro l hl hbefore
    rcases Nat.lt_succ_iff_lt_or_eq.mp hl with hlt | rfl
    · exact hbefore hlt
    · exact hs
  rcases h with ⟨j, s, hj, he, ht, hne, hl⟩ | ⟨h0, hl⟩
  · exact Or.inl ⟨j, s, by omega, he, ht, hne,
      fun l hjl hli => hlater l hli (fun hlt => hl l hjl hlt)⟩
  · exact Or.inr ⟨h0, fun l hli => hlater l hli (hl l)⟩

theorem StatusRun.LastChange.changed {i : ℕ} {s : StatusCall} (he : r.event i = some s)
    (hne : readyStatus (r.conditions i) ≠ readyStatus (r.conditions (i + 1))) :
    r.LastChange (i + 1) (truncateTime s.now) := by
  refine Or.inl ⟨i, s, by omega, he, rfl, hne, ?_⟩
  intro l hil hli
  omega

theorem StatusRun.lastChange_of_keepsTime (i : ℕ)
    (h : ∀ j < i, ∀ s, r.event j = some s →
      KeepsTime s.now (r.conditions j) (r.conditions (j + 1)))
    {c : Condition} (hc : readyEntry (r.conditions i) = some c) :
    r.LastChange i c.lastTransitionTime := by
  induction i generalizing c with
  | zero =>
    refine Or.inr ⟨by rw [hc]; rfl, ?_⟩
    intro l hl
    omega
  | succ i ih =>
    have hbefore := fun c => ih (c := c) (fun j hj => h j (by omega))
    cases he : r.event i with
    | none =>
      have hsame := r.conditions_idle he
      rw [hsame] at hc
      exact (hbefore c hc).same r (by rw [hsame])
    | some s =>
      have hkeep := h i (by omega) s he c hc
      by_cases hs : readyStatus (r.conditions i) = readyStatus (r.conditions (i + 1))
      · rw [if_pos hs] at hkeep
        obtain ⟨c0, hc0, ht⟩ := Option.map_eq_some_iff.mp hkeep
        rw [← ht]
        exact (hbefore c0 hc0).same r hs
      · rw [if_neg hs] at hkeep
        rw [hkeep]
        exact StatusRun.LastChange.changed r he hs

end Runs

/-- Through any sequence of calls the list keeps one entry per type and all entries of other types.
A call leaves the Ready entry of its phase, with the right transition time, exactly when it is
tracked, and a call for a phase without a row leaves the list as it was. While all calls are
tracked, the transition time is that of the last change of the status. -/
theorem ready_condition_tracked {k : NamespacedName} (r : StatusRun k) :
    (∀ i, OnePerType (r.conditions i) ∧ ∀ (l : ℕ) (c : Condition), c.type ≠ "Ready" →
      ((r.conditions i)[l]? = some c ↔ (r.conditions 0)[l]? = some c)) ∧
    (∀ i s, r.event i = some s →
      (Shows s.phase (r.conditions (i + 1)) ∧
          KeepsTime s.now (r.conditions i) (r.conditions (i + 1)) ↔
        Tracked s.now s.phase (r.conditions i)) ∧
      (conditionSpec s.phase = none → r.conditions (i + 1) = r.conditions i)) ∧
    (∀ i, (∀ j ≤ i, ∀ s, r.event j = some s → Tracked s.now s.phase (r.conditions j)) →
      (∀ s, r.event i = some s → Shows s.phase (r.conditions (i + 1))) ∧
      ∀ c, readyEntry (r.conditions (i + 1)) = some c →
        r.LastChange (i + 1) c.lastTransitionTime) := by
  have hexact : ∀ i s, r.event i = some s →
      (Shows s.phase (r.conditions (i + 1)) ∧
          KeepsTime s.now (r.conditions i) (r.conditions (i + 1)) ↔
        Tracked s.now s.phase (r.conditions i)) := by
    intro i s he
    obtain ⟨generation, hcs⟩ := r.conditions_call he
    rw [hcs]
    exact tracked_iff (r.undisturbed i).whole
  have hrowless : ∀ i s, r.event i = some s → conditionSpec s.phase = none →
      r.conditions (i + 1) = r.conditions i := by
    intro i s he hnone
    obtain ⟨generation, hcs⟩ := r.conditions_call he
    rw [hcs]
    exact conditionsAfter_of_no_row (r.undisturbed i).whole hnone
  refine ⟨fun i => ⟨(r.undisturbed i).onePerType, (r.undisturbed i).others⟩,
    fun i s he => ⟨hexact i s he, hrowless i s he⟩, ?_⟩
  intro i ht
  constructor
  · intro s he
    exact ((hexact i s he).mpr (ht i (Nat.le_refl i) s he)).1
  · intro c hc
    refine r.lastChange_of_keepsTime (i + 1) ?_ hc
    intro j hj s he
    exact ((hexact j s he).mpr (ht j (by omega) s he)).2

def demoCall (now : Int) (phase : DependencyPhase) (c : Cluster) : Cluster :=
  ((c.getWD demoKey).map (fun wd => StatusCall.perform ⟨.good, now, wd, phase, "", none⟩ c)).getD c

def demoReady (c : Cluster) : Option (ConditionStatus × String × Int) :=
  (readyEntry (c.conditions demoKey)).map (fun e => (e.status, e.reason, e.lastTransitionTime))

/-- Observed keeps the True of Healthy, Released the reason of Suspended, and Suspended moves the
transition time of Degraded although the status stays False. -/
theorem ready_condition_lags :
    demoReady (demoCall second .observed (demoCall 0 .healthy demoDeployment.cluster)) =
        some (.isTrue, "DependenciesHealthy", 0) ∧
      demoReady (demoCall second .released (demoCall 0 .suspended demoDeployment.cluster)) =
        some (.isFalse, "DependentSuspended", 0) ∧
      demoReady (demoCall 0 .degraded demoDeployment.cluster) =
        some (.isFalse, "DependencyDegraded", 0) ∧
      demoReady (demoCall second .suspended (demoCall 0 .degraded demoDeployment.cluster)) =
        some (.isFalse, "DependentSuspended", second) := by
  decide

end Klink
