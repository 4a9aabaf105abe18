import Klink.ReconcileRuns

/-! # What klink says about a phase

A status write that goes through sets the series of `dependency_phase`, and a new phase may be
notified to a webhook. Neither is stored anywhere: both are compared here with the phase that the
API server stores, along the runs of a whole operator process with any number of objects, and
whatever calls fail in it.
-/
namespace Klink

open TransitionSystem

def Effect.aboutWorkload : Effect → Bool
  | .patch _ _ _ _ => true
  | .event _ => true
  | .recordScaleToZero _ _ _ => true
  | .recordReplicasRestored _ _ _ => true
  | _ => false

/-- How a Reconcile ends for the object itself: without a write, with one of the object, or with one
of its status. Everything before is about the dependent. -/
inductive Shape (api : Api) (now : Int) (wd : WorkloadDependency) : Outcome → Prop where
  | idle {o} : (∀ e ∈ o.effects, e.aboutWorkload = true) → Shape api now wd o
  | updated {es w result} : (∀ e ∈ es, e.aboutWorkload = true) →
      w = wd.addFinalizer ∨ w = wd.removeFinalizer →
      Shape api now wd ⟨es ++ [.update w api.update], result⟩
  | reported {es caller phase msg result} : (∀ e ∈ es, e.aboutWorkload = true) →
      wd.SameObject caller → caller.status.phase = wd.status.phase → phase ≠ .unset →
      Shape api now wd ((setStatus api now caller phase msg result).prepend es)

section Shapes

variable {api : Api} {now : Int} {wd : WorkloadDependency} {w : WorkloadAccessor} {o : Outcome}
  {es : List Effect} {msg : String}

theorem Shape.prepend (h : Shape api now wd o) (hes : ∀ e ∈ es, e.aboutWorkload = true) :
    Shape api now wd (o.prepend es) := by
  cases h with
  | idle ho => exact .idle (List.forall_mem_append.mpr ⟨hes, ho⟩)
  | updated hu hw =>
    unfold Outcome.prepend
    rw [← List.append_assoc]
    exact .updated (List.forall_mem_append.mpr ⟨hes, hu⟩) hw
  | reported hr hs hp hu =>
    rw [Outcome.prepend_prepend]
    exact .reported (List.forall_mem_append.mpr ⟨hes, hr⟩) hs hp hu

theorem shape_setStatus {caller : WorkloadDependency} {phase : DependencyPhase}
    {result : Option Result} (hs : wd.SameObject caller)
    (hp : caller.status.phase = wd.status.phase) (hu : phase ≠ .unset) :
    Shape api now wd (setStatus api now caller phase msg result) := by
  rw [← Outcome.prepend_nil (setStatus api now caller phase msg result)]
  exact .reported (List.forall_mem_nil _) hs hp hu

theorem OnWorkload.aboutWorkload {ns : String} (h : OnWorkload ns w es) :
    ∀ e ∈ es, e.aboutWorkload = true := by
  induction h with
  | nil => exact List.forall_mem_nil _
  | event => exact List.forall_mem_singleton.mpr rfl
  | refused => exact List.forall_mem_singleton.mpr rfl
  | patched hr => cases hr <;> simp [Effect.aboutWorkload]
  | append _ _ ih ih' => exact List.forall_mem_append.mpr ⟨ih, ih'⟩

theorem Delivers.shape {ev : Evaluation} {d : Deed} {write : Option (DependencyPhase × Memory)}
    (h : Delivers api now wd w ev d o write) (hm : Move wd w.obj now ev.allOk d write) :
    Shape api now wd o := by
  cases h with
  | refused _ _ _ _ _ ha => exact .idle ha.aboutWorkload
  | waited _ _ ho =>
    subst ho
    exact .idle (List.forall_mem_nil _)
  | wrote _ hf _ _ _ _ ha ho =>
    subst ho
    obtain ⟨hphase, hset⟩ := hm.write_phase
    exact .reported ha.aboutWorkload hf hphase hset

theorem shape_update {w : WorkloadDependency} (hw : w = wd.addFinalizer ∨ w = wd.removeFinalizer)
    {call : CallResult} (hcall : api.update = call) (result : Except ApiError Result) :
    Shape api now wd ⟨[.update w call], result⟩ := by
  subst hcall
  have h : Shape api now wd ⟨[] ++ [.update w api.update], result⟩ :=
    .updated (List.forall_mem_nil _) hw
  exact h

theorem shape_removeFinalizer : Shape api now wd (removeFinalizerOutcome api wd) := by
  unfold removeFinalizerOutcome
  cases hu : api.update <;> exact shape_update (Or.inr rfl) hu _

theorem shape_handleDeletion {c : Cluster} : Shape api now wd (handleDeletion api c wd) := by
  have hexit : DeletionExit api c wd (handleDeletion api c wd) := handleDeletion_exit api c wd
  generalize handleDeletion api c wd = o at hexit ⊢
  cases hexit with
  | dropped => exact shape_removeFinalizer
  | unread => exact .idle (List.forall_mem_nil _)
  | refused _ _ _ ha => exact .idle ha.acts.aboutWorkload
  | undone _ _ _ ha => exact shape_removeFinalizer.prepend ha.acts.aboutWorkload

theorem shape_ensureFinalizer {c : Cluster} : Shape api now wd (ensureFinalizer api now c wd) := by
  have hexit : FinalizerExit api now c wd (ensureFinalizer api now c wd) :=
    ensureFinalizer_exit api now c wd
  generalize ensureFinalizer api now c wd = o at hexit ⊢
  cases hexit with
  | turnedAway =>
    exact Shape.prepend (shape_setStatus rfl rfl (by decide)) (List.forall_mem_singleton.mpr rfl)
  | sent hu => exact shape_update (Or.inl rfl) hu _

theorem reconcile_shape {c : Cluster} {req : NamespacedName} (now : Int)
    (h : c.getWD req = some wd) : Shape api now wd (reconcile api now c req) := by
  have hexit : Exit api now c req wd (reconcile api now c req) := reconcile_exit now h
  generalize reconcile api now c req = o at hexit ⊢
  cases hexit with
  | failed => exact .idle (List.forall_mem_nil _)
  | deletion => exact shape_handleDeletion
  | unfinalized => exact shape_ensureFinalizer
  | reported _ _ hp =>
    refine shape_setStatus rfl rfl ?_
    rcases hp with ⟨rfl, _⟩ | ⟨rfl, _⟩
    · decide
    · decide
  | @dispatched obj ev =>
    obtain ⟨d, write, hm, hdel⟩ := dispatch_delivers api now wd ⟨wd.dependentKey, obj⟩ ev
    exact hdel.shape hm

end Shapes

def recordedPhases : List DependencyPhase := [.healthy, .degraded, .suspended, .paused, .unknown]

/-- The gauge `dependencyPhase`, by object and phase. A series that was never set is absent. -/
abbrev PhaseSeries : Type := NamespacedName → DependencyPhase → Option ℕ

def recordPhase (s : PhaseSeries) (k : NamespacedName) (phase : DependencyPhase) : PhaseSeries :=
  Function.update s k (fun p =>
    if p ∈ recordedPhases then some (if p = phase then 1 else 0) else s k p)

def PhaseSeries.observe (s : PhaseSeries) : Effect → PhaseSeries
  | .recordPhase ns name phase => recordPhase s ⟨ns, name⟩ phase
  | _ => s

def PhaseSeries.observeAll (s : PhaseSeries) (es : List Effect) : PhaseSeries :=
  es.foldl PhaseSeries.observe s

def phasesOf (k : NamespacedName) (es : List Effect) : List DependencyPhase :=
  es.filterMap (fun
    | .recordPhase ns name phase => if (⟨ns, name⟩ : NamespacedName) = k then some phase else none
    | _ => none)

def noticesOf (k : NamespacedName) (es : List Effect) : List (String × NotifyPayload) :=
  es.filterMap (fun
    | .sendNotification url p =>
      if (⟨p.ns, p.workloadDependency⟩ : NamespacedName) = k then some (url, p) else none
    | _ => none)

def Effect.aboutPhase : Effect → Bool
  | .recordPhase _ _ _ => true
  | .sendNotification _ _ => true
  | _ => false

def Cluster.phase (c : Cluster) (k : NamespacedName) : Option DependencyPhase :=
  (c.getWD k).map (fun wd => wd.status.phase)

section Saying

variable {k : NamespacedName} {es : List Effect}

theorem PhaseSeries.observeAll_none (s : PhaseSeries) (h : phasesOf k es = []) :
    s.observeAll es k = s k := by
  induction es generalizing s with
  | nil => rfl
  | cons e es ih =>
    change (s.observe e).observeAll es k = s k
    cases e with
    | recordPhase ns name phase =>
      by_cases hk : (⟨ns, name⟩ : NamespacedName) = k
      · simp [phasesOf, hk] at h
      · have hrest : phasesOf k es = [] := by simpa [phasesOf, hk] using h
        exact (ih _ hrest).trans (Function.update_of_ne (Ne.symm hk) _ _)
    | _ => exact ih _ h

theorem PhaseSeries.observeAll_single (s : PhaseSeries) {q : DependencyPhase}
    (h : phasesOf k es = [q]) {p : DependencyPhase} (hp : p ∈ recordedPhases) :
    s.observeAll es k p = some (if p = q then 1 else 0) := by
  induction es generalizing s with
  | nil => cases h
  | cons e es ih =>
    change (s.observe e).observeAll es k p = _
    cases e with
    | recordPhase ns name phase =>
      by_cases hk : (⟨ns, name⟩ : NamespacedName) = k
      · obtain ⟨rfl, hrest⟩ : phase = q ∧ phasesOf k es = [] := by
          simpa [phasesOf, hk] using h
        rw [observeAll_none _ hrest]
        subst hk
        change recordPhase s _ phase _ p = _
        rw [recordPhase, Function.update_self, if_pos hp]
      · have hrest : phasesOf k es = [q] := by simpa [phasesOf, hk] using h
        exact ih _ hrest
    | _ => exact ih _ h

theorem phasesOf_append (es es' : List Effect) :
    phasesOf k (es ++ es') = phasesOf k es ++ phasesOf k es' := List.filterMap_append

theorem noticesOf_append (es es' : List Effect) :
    noticesOf k (es ++ es') = noticesOf k es ++ noticesOf k es' := List.filterMap_append

theorem mem_noticesOf {url : String} {p : NotifyPayload} :
    (url, p) ∈ noticesOf k es ↔
      Effect.sendNotification url p ∈ es ∧ (⟨p.ns, p.workloadDependency⟩ : NamespacedName) = k := by
  constructor
  · intro h
    obtain ⟨e, he, hk⟩ := List.mem_filterMap.mp h
    cases e with
    | sendNotification url' p' =>
      dsimp only at hk
      split at hk
      · next hkey =>
        obtain ⟨rfl, rfl⟩ := Prod.mk.inj (Option.some.inj hk)
        exact ⟨he, hkey⟩
      · cases hk
    | _ => cases hk
  · rintro ⟨he, hkey⟩
    exact List.mem_filterMap.mpr ⟨_, he, if_pos hkey⟩

def Mute (es : List Effect) : Prop := ∀ k, phasesOf k es = [] ∧ noticesOf k es = []

theorem mute_of_forall (h : ∀ e ∈ es, e.aboutPhase = false) : Mute es := by
  intro k
  constructor
  · apply List.filterMap_eq_nil_iff.mpr
    intro e he
    have hnot := h e he
    cases e with
    | recordPhase => cases hnot
    | _ => rfl
  · apply List.filterMap_eq_nil_iff.mpr
    intro e he
    have hnot := h e he
    cases e with
    | sendNotification => cases hnot
    | _ => rfl

theorem mute_of_aboutWorkload (h : ∀ e ∈ es, e.aboutWorkload = true) : Mute es := by
  apply mute_of_forall
  intro e he
  have hw := h e he
  cases e with
  | recordPhase => cases hw
  | sendNotification => cases hw
  | _ => rfl

theorem mute_statusAttempt (api : Api) (now : Int) (wd : WorkloadDependency)
    (phase : DependencyPhase) (msg : String) : Mute (statusAttempt api now wd phase msg).1 := by
  apply mute_of_forall
  intro e he
  rcases mem_updateStatus he with ⟨_, _, rfl⟩ | ⟨_, rfl⟩
  · rfl
  · rfl

theorem getWD_applyAll_aboutWorkload (c : Cluster) (h : ∀ e ∈ es, e.aboutWorkload = true)
    (k : NamespacedName) : (c.applyAll es).getWD k = c.getWD k := by
  induction es generalizing c with
  | nil => rfl
  | cons e es ih =>
    obtain ⟨he, hes⟩ := List.forall_mem_cons.mp h
    rw [Cluster.applyAll_cons, ih _ hes]
    cases e with
    | patch key before after result => cases result <;> simp [Cluster.apply]
    | event => rfl
    | recordScaleToZero => rfl
    | recordReplicasRestored => rfl
    | _ => cases he

end Saying

/-- What the effects of one step say about `k`: nothing, or the phase that is stored from then on,
which is notified if it is a new one. -/
inductive Tells (api : Api) (now : Int) (c c' : Cluster) (k : NamespacedName) (es : List Effect) :
    Prop where
  | nothing : phasesOf k es = [] → noticesOf k es = [] →
      (c'.phase k = none ∨ c'.phase k = c.phase k ∨
        (c.phase k = none ∧ c'.phase k = some .unset)) → Tells api now c c' k es
  | phase {wd wd'} : c.getWD k = some wd → c'.getWD k = some wd' → wd.SameObject wd' →
      wd'.status.phase ≠ .unset → phasesOf k es = [wd'.status.phase] →
      noticesOf k es = (if wd.status.phase ≠ wd'.status.phase then
        noticesOf k (maybeNotify api now wd' wd.status.phase wd'.status.phase) else []) →
      Tells api now c c' k es

section Reconciling

variable {api : Api} {now : Int} {c : Cluster} {req k : NamespacedName} {wd : WorkloadDependency}

theorem applyFields_sameObject (now : Int) (caller : WorkloadDependencyStatus)
    (phase : DependencyPhase) (msg : String) (wd : WorkloadDependency) :
    wd.SameObject (applyFields now caller phase msg wd) := by
  unfold applyFields setCondition
  cases conditionSpec phase <;> rfl

theorem applyFields_phase (now : Int) (caller : WorkloadDependencyStatus)
    (phase : DependencyPhase) (msg : String) (wd : WorkloadDependency) :
    (applyFields now caller phase msg wd).status.phase = phase := by
  unfold applyFields setCondition
  cases conditionSpec phase <;> rfl

theorem maybeNotify_congr {w w' : WorkloadDependency} (hs : w.SameObject w')
    (hm : w'.status.message = w.status.message) (p q : DependencyPhase) :
    maybeNotify api now w' p q = maybeNotify api now w p q := by
  rw [← hs]
  unfold maybeNotify resolveWebhookURL
  dsimp only
  rw [hm]

theorem mute_maybeNotify_phases (w : WorkloadDependency) (p q : DependencyPhase) :
    phasesOf k (maybeNotify api now w p q) = [] := by
  apply List.filterMap_eq_nil_iff.mpr
  intro e he
  obtain ⟨_, _, rfl⟩ := mem_maybeNotify he
  rfl

theorem noticesOf_maybeNotify_ne {w : WorkloadDependency} (hk : w.key ≠ k)
    (p q : DependencyPhase) : noticesOf k (maybeNotify api now w p q) = [] := by
  have hnot : ¬ (⟨w.ns, w.name⟩ : NamespacedName) = k := hk
  unfold maybeNotify
  repeat' split
  all_goals simp [noticesOf, hnot]

theorem setStatus_effects {w caller : WorkloadDependency} {phase : DependencyPhase} {msg : String}
    {result : Option Result} (h : (statusAttempt api now caller phase msg).2 = .written w) :
    (setStatus api now caller phase msg result).effects =
      (statusAttempt api now caller phase msg).1 ++ .recordPhase w.ns w.name phase ::
        (if caller.status.phase ≠ phase then maybeNotify api now w caller.status.phase phase
          else []) := by
  unfold setStatus
  generalize statusAttempt api now caller phase msg = attempt at h ⊢
  obtain ⟨effects, a⟩ := attempt
  obtain rfl : a = .written w := h
  rfl

theorem phasesOf_written {w caller : WorkloadDependency} {phase : DependencyPhase} {msg : String}
    {result : Option Result} (h : (statusAttempt api now caller phase msg).2 = .written w) :
    phasesOf k (setStatus api now caller phase msg result).effects =
      if w.key = k then [phase] else [] := by
  have hnotes : phasesOf k (if caller.status.phase ≠ phase then
      maybeNotify api now w caller.status.phase phase else []) = [] := by
    split
    · exact mute_maybeNotify_phases _ _ _
    · rfl
  rw [setStatus_effects h, phasesOf_append, (mute_statusAttempt api now caller phase msg k).1,
    List.nil_append, ← List.singleton_append, phasesOf_append, hnotes, List.append_nil]
  by_cases hk : w.key = k
  · have hlabel : (⟨w.ns, w.name⟩ : NamespacedName) = k := hk
    rw [if_pos hk]
    simp [phasesOf, hlabel]
  · have hlabel : ¬ (⟨w.ns, w.name⟩ : NamespacedName) = k := hk
    rw [if_neg hk]
    simp [phasesOf, hlabel]

theorem noticesOf_written {w caller : WorkloadDependency} {phase : DependencyPhase} {msg : String}
    {result : Option Result} (h : (statusAttempt api now caller phase msg).2 = .written w) :
    noticesOf k (setStatus api now caller phase msg result).effects =
      if caller.status.phase ≠ phase then
        noticesOf k (maybeNotify api now w caller.status.phase phase) else [] := by
  rw [setStatus_effects h, noticesOf_append, (mute_statusAttempt api now caller phase msg k).2]
  change noticesOf k (ite _ _ _) = _
  split
  · rfl
  · rfl

theorem setStatus_effects_lost {caller : WorkloadDependency} {phase : DependencyPhase}
    {msg : String} {result : Option Result}
    (h : ∀ w, (statusAttempt api now caller phase msg).2 ≠ .written w) :
    (setStatus api now caller phase msg result).effects =
      (statusAttempt api now caller phase msg).1 := by
  unfold setStatus
  generalize statusAttempt api now caller phase msg = attempt at h ⊢
  obtain ⟨effects, w | _ | e⟩ := attempt
  · exact absurd rfl (h w)
  · rfl
  · rfl

theorem phase_putObject (c : Cluster) (w : WorkloadDependency) (k : NamespacedName) :
    (c.putObject w).phase k = none ∨ (c.putObject w).phase k = c.phase k := by
  by_cases hk : k = w.key
  · subst hk
    by_cases hgone : w.deletionTimestamp.isSome ∧ w.finalizers = []
    · left
      unfold Cluster.phase
      rw [c.getWD_putObject_gone hgone.1 hgone.2]
      rfl
    · right
      unfold Cluster.putObject
      rw [if_neg hgone]
      have hget := c.wds.get?_modify_self w.key w.withObjectOf (fun _ => rfl)
      unfold Cluster.phase Cluster.getWD
      rw [hget, Option.map_map]
      rfl
  · right
    unfold Cluster.phase
    rw [c.getWD_putObject_ne hk]

theorem statusAttempt_sameObject {w caller : WorkloadDependency} {phase : DependencyPhase}
    {msg : String} (hr : api.statusUpdate 0 = .ok ∨ api.Honest wd) (hs : wd.SameObject caller)
    (h : (statusAttempt api now caller phase msg).2 = .written w) :
    wd.SameObject w ∧ w.status.phase = phase := by
  rcases statusAttempt_written hr h with rfl | ⟨_, rfl⟩
  · refine ⟨?_, applyFields_phase _ _ _ _ _⟩
    have happly := applyFields_sameObject now caller.status phase msg caller
    unfold WorkloadDependency.SameObject at hs happly ⊢
    rw [← happly, ← hs]
  · exact ⟨applyFields_sameObject _ _ _ _ _, applyFields_phase _ _ _ _ _⟩

section Exits

variable {es : List Effect} {caller w : WorkloadDependency} {phase : DependencyPhase}
  {msg : String} {result : Option Result}

theorem phase_applyAll_aboutWorkload (c : Cluster) (h : ∀ e ∈ es, e.aboutWorkload = true)
    (k : NamespacedName) : (c.applyAll es).phase k = c.phase k :=
  congrArg _ (getWD_applyAll_aboutWorkload c h k)

theorem tells_idle (hes : ∀ e ∈ es, e.aboutWorkload = true) :
    Tells api now c (c.applyAll es) k es := by
  obtain ⟨hp, hn⟩ := mute_of_aboutWorkload hes k
  exact .nothing hp hn (Or.inr (Or.inl (phase_applyAll_aboutWorkload c hes k)))

theorem tells_updated (hes : ∀ e ∈ es, e.aboutWorkload = true) :
    Tells api now c (c.applyAll (es ++ [.update w api.update])) k
      (es ++ [.update w api.update]) := by
  obtain ⟨hp, hn⟩ := mute_of_aboutWorkload hes k
  refine .nothing ?_ ?_ ?_
  · rw [phasesOf_append, hp]
    rfl
  · rw [noticesOf_append, hn]
    rfl
  · rw [Cluster.applyAll_append, ← phase_applyAll_aboutWorkload c hes k]
    cases api.update with
    | ok => exact (phase_putObject _ w k).imp_right Or.inl
    | conflict => exact Or.inr (Or.inl rfl)
    | failed => exact Or.inr (Or.inl rfl)

theorem applyAll_report :
    c.applyAll ((setStatus api now caller phase msg result).prepend es).effects =
      (c.applyAll es).storeAttempt (statusAttempt api now caller phase msg).2 := by
  rw [Outcome.prepend, Cluster.applyAll_append, applyAll_setStatus]

theorem storeAttempt_lost {attempt : Attempt} (c : Cluster) (h : ∀ w, attempt ≠ .written w) :
    c.storeAttempt attempt = c := by
  cases attempt with
  | written w => exact absurd rfl (h w)
  | exhausted => rfl
  | failed => rfl

theorem tells_lost (hes : ∀ e ∈ es, e.aboutWorkload = true)
    (hlost : ∀ w, (statusAttempt api now caller phase msg).2 ≠ .written w) :
    Tells api now c
      (c.applyAll ((setStatus api now caller phase msg result).prepend es).effects) k
      ((setStatus api now caller phase msg result).prepend es).effects := by
  obtain ⟨hp, hn⟩ := mute_of_aboutWorkload hes k
  obtain ⟨hp', hn'⟩ := mute_statusAttempt api now caller phase msg k
  refine .nothing ?_ ?_ (Or.inr (Or.inl ?_))
  · rw [Outcome.prepend, phasesOf_append, setStatus_effects_lost hlost, hp, hp']
    rfl
  · rw [Outcome.prepend, noticesOf_append, setStatus_effects_lost hlost, hn, hn']
    rfl
  · rw [applyAll_report, storeAttempt_lost _ hlost]
    exact phase_applyAll_aboutWorkload c hes k

theorem phasesOf_report (hes : ∀ e ∈ es, e.aboutWorkload = true)
    (hw : (statusAttempt api now caller phase msg).2 = .written w) :
    phasesOf k ((setStatus api now caller phase msg result).prepend es).effects =
      if w.key = k then [phase] else [] := by
  rw [Outcome.prepend, phasesOf_append, (mute_of_aboutWorkload hes k).1, phasesOf_written hw]
  rfl

theorem noticesOf_report (hes : ∀ e ∈ es, e.aboutWorkload = true)
    (hw : (statusAttempt api now caller phase msg).2 = .written w) :
    noticesOf k ((setStatus api now caller phase msg result).prepend es).effects =
      if caller.status.phase ≠ phase then
        noticesOf k (maybeNotify api now w caller.status.phase phase) else [] := by
  rw [Outcome.prepend, noticesOf_append, (mute_of_aboutWorkload hes k).2, noticesOf_written hw]
  rfl

theorem tells_other (hes : ∀ e ∈ es, e.aboutWorkload = true)
    (hw : (statusAttempt api now caller phase msg).2 = .written w) (hk : w.key ≠ k) :
    Tells api now c
      (c.applyAll ((setStatus api now caller phase msg result).prepend es).effects) k
      ((setStatus api now caller phase msg result).prepend es).effects := by
  refine .nothing ((phasesOf_report hes hw).trans (if_neg hk)) ?_ (Or.inr (Or.inl ?_))
  · rw [noticesOf_report hes hw, noticesOf_maybeNotify_ne hk, ite_self]
  · rw [applyAll_report, hw]
    have hget : ((c.applyAll es).putStatus w).getWD k = (c.applyAll es).getWD k :=
      Cluster.getWD_putStatus_ne _ (Ne.symm hk)
    exact congrArg _ (hget.trans (getWD_applyAll_aboutWorkload c hes k))

theorem tells_reported (h : c.getWD req = some wd) (hes : ∀ e ∈ es, e.aboutWorkload = true)
    (hw : (statusAttempt api now caller phase msg).2 = .written w) (hso : wd.SameObject w)
    (hwp : w.status.phase = phase) (hphase : caller.status.phase = wd.status.phase)
    (hset : phase ≠ .unset) :
    Tells api now c
      (c.applyAll ((setStatus api now caller phase msg result).prepend es).effects) req
      ((setStatus api now caller phase msg result).prepend es).effects := by
  subst hwp
  have hkey : w.key = req := hso.key.trans (c.getWD_key h)
  have hso' : w.SameObject (w.withStatusOf wd) := by
    unfold WorkloadDependency.SameObject WorkloadDependency.withStatusOf
    rw [← hso]
  have hget : ((c.applyAll es).putStatus w).getWD req = some (w.withStatusOf wd) :=
    Cluster.getWD_putStatus_self ((getWD_applyAll_aboutWorkload c hes req).trans h) hkey
  rw [applyAll_report, hw]
  refine .phase h hget rfl hset ?_ ?_
  · rw [phasesOf_report hes hw, if_pos hkey]
    rfl
  · rw [maybeNotify_congr hso' rfl, noticesOf_report hes hw, hphase]
    rfl

end Exits

theorem reconcile_tells (now : Int) (h : c.getWD req = some wd)
    (hr : api.statusUpdate 0 = .ok ∨ api.Honest wd) (k : NamespacedName) :
    Tells api now c (c.reconciled api now req) k (reconcile api now c req).effects := by
  have hshape : Shape api now wd (reconcile api now c req) := reconcile_shape now h
  unfold Cluster.reconciled
  generalize reconcile api now c req = o at hshape ⊢
  cases hshape with
  | idle ho => exact tells_idle ho
  | updated hes _ => exact tells_updated hes
  | @reported es caller phase msg result hes hsame hphase hset =>
    by_cases hlost : ∀ w, (statusAttempt api now caller phase msg).2 ≠ .written w
    · exact tells_lost hes hlost
    · push Not at hlost
      obtain ⟨w, hw⟩ := hlost
      obtain ⟨hso, hwp⟩ := statusAttempt_sameObject hr hsame hw
      by_cases hk : w.key = k
      · obtain rfl : req = k := (hso.key.trans (c.getWD_key h)).symm.trans hk
        exact tells_reported h hes hw hso hwp hphase hset
      · exact tells_other hes hw hk

end Reconciling

def noticeDue (url : String) (onPhases : List DependencyPhase) (now : Int)
    (wd wd' : WorkloadDependency) : List (String × NotifyPayload) :=
  if wd.status.phase ≠ wd'.status.phase ∧ shouldNotify onPhases wd'.status.phase = true then
    [(url, ⟨wd'.name, wd'.ns, wd'.status.phase, wd.status.phase, wd'.status.message,
      wd'.spec.dependent.name, wd'.spec.dependent.kind, truncateTime now⟩)]
  else []

theorem noticesOf_maybeNotify {api : Api} {now : Int} {url : String}
    {onPhases : List DependencyPhase} {wd wd' : WorkloadDependency}
    (hnotify : wd'.spec.notify = some ⟨url, none, onPhases⟩) (hurl : url ≠ "")
    (hne : wd.status.phase ≠ wd'.status.phase) :
    noticesOf wd'.key (maybeNotify api now wd' wd.status.phase wd'.status.phase) =
      noticeDue url onPhases now wd wd' := by
  have hkey : (⟨wd'.ns, wd'.name⟩ : NamespacedName) = wd'.key := rfl
  unfold maybeNotify noticeDue
  rw [hnotify]
  by_cases hs : shouldNotify onPhases wd'.status.phase = true
  · simp [hs, hne, hurl, resolveWebhookURL, noticesOf, hkey]
  · simp [hs, noticesOf]

/-- One operator process. Any call may fail; what is read again after a conflict is what is stored.
Others create, edit and delete objects as they like, but a status comes from klink only. -/
def reportRules : Rules where
  start _ := True
  calls c req api := ∀ wd, c.getWD req = some wd → api.statusUpdate 0 = .ok ∨ api.Honest wd
  disturbs c c' := ∀ k, c'.phase k = none ∨ c'.phase k = c.phase k ∨
    (c.phase k = none ∧ c'.phase k = some .unset)

abbrev ReportRun : Type := Run reportRules.system

namespace ReportRun

variable (r : ReportRun)

def object (i : ℕ) (k : NamespacedName) : Option WorkloadDependency :=
  (r.state i).cluster.getWD k

def effects (i : ℕ) : List Effect :=
  match r.event i with
  | .reconcile req api => (reconcile api (r.state i).clock (r.state i).cluster req).effects
  | .environment _ => []

def series : ℕ → PhaseSeries
  | 0 => fun _ _ => none
  | i + 1 => (series i).observeAll (r.effects i)

def notices (k : NamespacedName) (i n : ℕ) : List (String × NotifyPayload) :=
  (List.range n).flatMap (fun m => noticesOf k (r.effects (i + m)))

def changes (url : String) (onPhases : List DependencyPhase) (k : NamespacedName) (i n : ℕ) :
    List (String × NotifyPayload) :=
  (List.range n).flatMap (fun m =>
    match r.object (i + m) k, r.object (i + m + 1) k with
    | some wd, some wd' => noticeDue url onPhases (r.state (i + m)).clock wd wd'
    | _, _ => [])

variable {r} {k : NamespacedName} {i : ℕ}

theorem tells (i : ℕ) (k : NamespacedName) :
    ∃ api, Tells api (r.state i).clock (r.state i).cluster (r.state (i + 1)).cluster k
      (r.effects i) := by
  have hv := r.valid i
  unfold effects
  rw [r.step i]
  cases he : r.event i with
  | reconcile req api =>
    rw [he] at hv
    refine ⟨api, ?_⟩
    cases h : (r.state i).cluster.getWD req with
    | some wd => exact reconcile_tells _ h (hv wd h) k
    | none =>
      change Tells _ _ _ ((r.state i).cluster.reconciled api (r.state i).clock req) k _
      rw [reconcile_absent _ h]
      dsimp only
      rw [reconcile_effects_absent _ h]
      exact .nothing rfl rfl (Or.inr (Or.inl rfl))
  | environment s =>
    rw [he] at hv
    exact ⟨.good, .nothing rfl rfl (hv.2 k)⟩

/-- While the object exists, a step that says nothing leaves its phase as it is. -/
theorem phase_succ {wd wd' : WorkloadDependency} (h : r.object i k = some wd)
    (h' : r.object (i + 1) k = some wd') (hn : phasesOf k (r.effects i) = []) :
    wd'.status.phase = wd.status.phase := by
  have hphase : (r.state i).cluster.phase k = some wd.status.phase := congrArg (Option.map _) h
  have hphase' : (r.state (i + 1)).cluster.phase k = some wd'.status.phase :=
    congrArg (Option.map _) h'
  obtain ⟨api, ht⟩ := r.tells i k
  cases ht with
  | nothing _ _ hkeep =>
    rcases hkeep with hkeep | hkeep | ⟨hnone, _⟩
    · cases hphase'.symm.trans hkeep
    · exact Option.some.inj (hphase'.symm.trans (hkeep.trans hphase))
    · cases hphase.symm.trans hnone
  | phase _ _ _ _ hsaid => cases hn.symm.trans hsaid

theorem phase_ne_unset {wd wd' : WorkloadDependency} (h : r.object i k = some wd)
    (h' : r.object (i + 1) k = some wd') (hne : wd.status.phase ≠ wd'.status.phase) :
    wd'.status.phase ≠ .unset := by
  obtain ⟨api, ht⟩ := r.tells i k
  cases ht with
  | nothing hn => exact absurd (phase_succ h h' hn).symm hne
  | phase _ hg' _ hset =>
    obtain rfl := Option.some.inj (h'.symm.trans hg')
    exact hset

theorem series_succ (i : ℕ) (k : NamespacedName) :
    (phasesOf k (r.effects i) = [] ∧ r.series (i + 1) k = r.series i k) ∨
    ∃ wd, r.object (i + 1) k = some wd ∧ ∀ p ∈ recordedPhases,
      r.series (i + 1) k p = some (if p = wd.status.phase then 1 else 0) := by
  obtain ⟨api, ht⟩ := r.tells i k
  cases ht with
  | nothing hn => exact Or.inl ⟨hn, PhaseSeries.observeAll_none _ hn⟩
  | phase _ h' _ _ hsaid =>
    exact Or.inr ⟨_, h', fun p hp => PhaseSeries.observeAll_single _ hsaid hp⟩

/-- The series of an object agree with the phase that is stored, once klink has written a status of
its own, and keep the last phase when the object is gone. Released and Observed have no series: for
them all five are zero. -/
theorem series_mirror_phase {l j : ℕ} {wd : WorkloadDependency}
    (hl : phasesOf k (r.effects l) ≠ []) (hli : l < i) (hij : i ≤ j)
    (hpresent : ∀ n, l < n → n < i → r.object n k ≠ none) (hwd : r.object i k = some wd)
    (hgone : ∀ n, i < n → n ≤ j → r.object n k = none) {p : DependencyPhase}
    (hp : p ∈ recordedPhases) : r.series j k p = some (if p = wd.status.phase then 1 else 0) := by
  have hbefore : ∀ n, l < n → n ≤ i → ∀ wd', r.object n k = some wd' →
      r.series n k p = some (if p = wd'.status.phase then 1 else 0) := by
    intro n hln
    induction hln with
    | refl =>
      intro _ wd' hwd'
      rcases r.series_succ l k with ⟨hn, _⟩ | ⟨wd'', hwd'', hs⟩
      · exact absurd hn hl
      · obtain rfl := Option.some.inj (hwd'.symm.trans hwd'')
        exact hs p hp
    | @step n hln ih =>
      intro hni wd' hwd'
      rcases r.series_succ n k with ⟨hn, hsame⟩ | ⟨wd'', hwd'', hs⟩
      · obtain ⟨wd₀, hwd₀⟩ := Option.ne_none_iff_exists'.mp (hpresent n hln hni)
        rw [hsame, ih (Nat.le_of_succ_le hni) wd₀ hwd₀, phase_succ hwd₀ hwd' hn]
      · obtain rfl := Option.some.inj (hwd'.symm.trans hwd'')
        exact hs p hp
  -- a step that leaves no object behind says nothing
  induction hij with
  | refl => exact hbefore i hli (le_refl i) wd hwd
  | @step j hij ih =>
    have habsent : r.object (j + 1) k = none := hgone (j + 1) (Nat.lt_succ_of_le hij) (le_refl _)
    rcases r.series_succ j k with ⟨_, hsame⟩ | ⟨wd', hwd', _⟩
    · rw [hsame]
      exact ih (fun n hin hnj => hgone n hin (Nat.le_succ_of_le hnj))
    · cases habsent.symm.trans hwd'

section Notices

variable {url : String} {onPhases : List DependencyPhase}

theorem notices_step {wd wd' : WorkloadDependency} (h : r.object i k = some wd)
    (h' : r.object (i + 1) k = some wd') (hnotify : wd'.spec.notify = some ⟨url, none, onPhases⟩)
    (hurl : url ≠ "") :
    noticesOf k (r.effects i) = noticeDue url onPhases (r.state i).clock wd wd' := by
  obtain ⟨api, ht⟩ := r.tells i k
  cases ht with
  | nothing hn hnone _ =>
    rw [hnone, noticeDue, phase_succ h h' hn]
    simp
  | phase hg hg' _ _ _ hnotices =>
    obtain rfl := Option.some.inj (h.symm.trans hg)
    obtain rfl := Option.some.inj (h'.symm.trans hg')
    rw [hnotices]
    by_cases hne : wd.status.phase = wd'.status.phase
    · simp [noticeDue, hne]
    · rw [if_pos hne, ← (r.state (i + 1)).cluster.getWD_key h']
      exact noticesOf_maybeNotify hnotify hurl hne

theorem notices_succ (r : ReportRun) (k : NamespacedName) (i n : ℕ) :
    r.notices k i (n + 1) = r.notices k i n ++ noticesOf k (r.effects (i + n)) := by
  simp [notices, List.range_succ]

/-- Whatever calls fail or conflict, every stored change to a phase that is asked for is notified
once, in order, and nothing else is. Where all phases are asked for, the last notification tells
the stored phase. -/
theorem notified_exactly_once {n : ℕ} (hurl : url ≠ "")
    (hobj : ∀ m ≤ n, ∃ wd, r.object (i + m) k = some wd ∧
      wd.spec.notify = some ⟨url, none, onPhases⟩) :
    r.notices k i n = r.changes url onPhases k i n ∧
      ((∀ p, p ≠ .unset → shouldNotify onPhases p = true) → ∀ wd wd', r.object i k = some wd →
        r.object (i + n) k = some wd' → wd'.status.phase =
          ((r.notices k i n).getLast?.map (fun q => q.2.phase)).getD wd.status.phase) := by
  constructor
  · unfold notices changes
    apply List.flatMap_congr
    intro m hm
    have hmn := List.mem_range.mp hm
    obtain ⟨wd, hwd, _⟩ := hobj m (Nat.le_of_lt hmn)
    obtain ⟨wd', hwd', hnotify⟩ := hobj (m + 1) hmn
    rw [notices_step hwd hwd' hnotify hurl]
    rw [← Nat.add_assoc] at hwd'
    simp only [hwd, hwd']
  · intro hall wd wd' hwd hwd'
    induction n generalizing wd' with
    | zero =>
      obtain rfl := Option.some.inj (hwd.symm.trans hwd')
      rfl
    | succ n ih =>
      obtain ⟨wd₁, hwd₁, _⟩ := hobj n (Nat.le_succ n)
      obtain ⟨wd₂, hwd₂, hnotify⟩ := hobj (n + 1) (le_refl _)
      obtain rfl := Option.some.inj (hwd'.symm.trans hwd₂)
      have hprev := ih (fun m hm => hobj m (Nat.le_succ_of_le hm)) wd₁ hwd₁
      rw [notices_succ, notices_step hwd₁ hwd' hnotify hurl]
      unfold noticeDue
      by_cases hne : wd₁.status.phase = wd'.status.phase
      · simpa [hne] using hprev
      · simp [hne, hall _ (phase_ne_unset hwd₁ hwd' hne)]

end Notices

end ReportRun

/-! The dependency is down, then comes back, and in the end the object is deleted. -/

section Story

def newsObject : WorkloadDependency :=
  { demoObject "Deployment" .strict 0 with
    spec := ⟨⟨"Deployment", "web", ""⟩, [⟨"StatefulSet", "db", "", ⟨0, 0, 0⟩⟩], ⟨0⟩, .strict,
      some ⟨"webhook", none, [.healthy, .degraded, .suspended, .released, .paused, .observed,
        .unknown]⟩⟩ }

def toDelete (wd : WorkloadDependency) : WorkloadDependency :=
  { wd with deletionTimestamp := some 0 }

theorem toDelete_key (wd : WorkloadDependency) : (toDelete wd).key = wd.key := rfl

def newsScript : List (World → Happening) :=
  [runs demoKey .good, runs demoKey .good, waits (30 * second), runs demoKey .good,
    sets dbKey (demoDb 1), runs demoKey .good, waits (60 * second), runs demoKey .good,
    edits demoKey toDelete toDelete_key, runs demoKey .good]

variable {s : World}

theorem report_enabled_runs (k : NamespacedName) : reportRules.enabled s (runs k .good s) :=
  fun _ _ => Or.inl rfl

theorem report_enabled_env {s' : World} (ht : s.clock ≤ s'.clock)
    (h : ∀ k, s'.cluster.phase k = s.cluster.phase k) :
    reportRules.enabled s (.environment s') := ⟨ht, fun k => Or.inr (Or.inl (h k))⟩

theorem report_enabled_waits {d : Int} (hd : 0 ≤ d) : reportRules.enabled s (waits d s) :=
  report_enabled_env (by simpa [waits] using hd) (fun _ => rfl)

theorem report_enabled_sets (k : NamespacedName) (w : WorkloadObject) :
    reportRules.enabled s (sets k w s) := by
  refine report_enabled_env (le_refl _) ?_
  intro j
  unfold Cluster.phase
  rw [Cluster.getWD_putWorkload]

theorem report_enabled_toDelete (k : NamespacedName) :
    reportRules.enabled s (edits k toDelete toDelete_key s) := by
  refine report_enabled_env (le_refl _) ?_
  intro j
  change Option.map _ ((s.cluster.wds.modify k toDelete toDelete_key).get? j) = _
  by_cases hj : j = k
  · rw [hj, s.cluster.wds.get?_modify_self, Option.map_map]
    rfl
  · rw [s.cluster.wds.get?_modify_ne _ _ hj]
    rfl

theorem newsScript_playable (s : World) : Playable reportRules.system s newsScript := by
  have hruns : ∀ s, reportRules.enabled s (runs demoKey .good s) := fun _ => report_enabled_runs _
  have hwaits : ∀ n : ℕ, ∀ s, reportRules.enabled s (waits (n * second) s) :=
    fun n _ => report_enabled_waits (by unfold second; omega)
  exact ⟨hruns _, hruns _, hwaits 30 _, hruns _, report_enabled_sets _ _, hruns _, hwaits 60 _,
    hruns _, report_enabled_toDelete _, hruns _, trivial⟩

theorem report_idles (s : World) :
    reportRules.enabled s (.environment s) ∧ s.next (.environment s) = s :=
  ⟨report_enabled_env (le_refl _) (fun _ => rfl), rfl⟩

def newsRun : ReportRun :=
  Run.ofScript (s := demoWorld newsObject (.deployment ⟨some 3, 3⟩)) trivial newsScript
    (newsScript_playable _) .environment report_idles

end Story

namespace ReportRun

theorem notified_exactly_once_news :
    (newsRun.notices demoKey 0 8).map (fun q => (q.1, q.2.previousPhase, q.2.phase)) =
      [("webhook", .unset, .degraded), ("webhook", .degraded, .suspended),
        ("webhook", .suspended, .healthy)] ∧
      newsRun.notices demoKey 0 8 = newsRun.changes "webhook"
        [.healthy, .degraded, .suspended, .released, .paused, .observed, .unknown] demoKey 0 8 := by
  refine ⟨by decide +kernel, (notified_exactly_once (by decide) ?_).1⟩
  have hnotify : ∀ m ≤ 8, (newsRun.object (0 + m) demoKey).map (fun wd => wd.spec.notify) =
      some newsObject.spec.notify := by decide +kernel
  intro m hm
  obtain ⟨wd, hwd, hn⟩ := Option.map_eq_some_iff.mp (hnotify m hm)
  exact ⟨wd, hwd, hn⟩

theorem series_mirror_phase_news :
    newsRun.object 12 demoKey = none ∧ newsRun.series 12 demoKey .healthy = some 1 := by
  have hphase : (newsRun.object 9 demoKey).map (fun wd => wd.status.phase) = some .healthy := by
    decide +kernel
  have hpresent : ∀ n < 9, (newsRun.object n demoKey).isSome = true := by decide +kernel
  have hgone : ∀ n ≤ 12, 9 < n → newsRun.object n demoKey = none := by decide +kernel
  obtain ⟨wd, hwd, hp⟩ := Option.map_eq_some_iff.mp hphase
  refine ⟨hgone 12 (le_refl _) (by decide), ?_⟩
  have h := series_mirror_phase (l := 1) (by decide +kernel) (by decide) (by decide)
    (fun n _ hn => Option.isSome_iff_ne_none.mp (hpresent n hn)) hwd
    (fun n hn hn' => hgone n hn' hn) (p := .healthy) (by decide)
  rw [hp] at h
  exact h

end ReportRun

end Klink
