import Klink.ReconcileLoop

/-! # The phase machine behind Reconcile

What klink remembers about a WorkloadDependency between two Reconciles, what it can do to the
dependent, and the moves that lead from one to the other. `dispatch_spec` shows that the code
takes exactly such a move, whatever the API server answers to its writes.
-/
namespace Klink

/-- The part of a status that later Reconciles read. -/
structure Memory where
  phase : DependencyPhase
  savedReplicas : Option Int32
  degradedSince : Option Int
  suspendedAt : Option Int
  healthySince : Option Int
  deriving DecidableEq, Repr

def WorkloadDependencyStatus.memory (st : WorkloadDependencyStatus) : Memory :=
  ⟨st.phase, st.savedReplicas, st.degradedSince, st.suspendedAt, st.healthySince⟩

def WorkloadDependency.memory (wd : WorkloadDependency) : Memory := wd.status.memory

def Memory.empty : Memory := ⟨.unset, none, none, none, none⟩

/-- What is stored when the fields of `caller` are applied to an object that remembers `base`:
`caller` itself on the first attempt, the object read again after a conflict. -/
def Memory.write (now : Int) (phase : DependencyPhase) (caller base : Memory) : Memory where
  phase := phase
  savedReplicas := caller.savedReplicas.or base.savedReplicas
  degradedSince := (caller.degradedSince.or base.degradedSince).map truncateTime
  suspendedAt :=
    if phase = .suspended then some (truncateTime (base.suspendedAt.getD now)) else none
  healthySince := (caller.healthySince.or base.healthySince).map truncateTime

@[simp] theorem Memory.write_phase (now : Int) (phase : DependencyPhase) (caller base : Memory) :
    (Memory.write now phase caller base).phase = phase := rfl

@[simp] theorem Memory.write_self_savedReplicas (now : Int) (phase : DependencyPhase)
    (m : Memory) : (Memory.write now phase m m).savedReplicas = m.savedReplicas := by
  simp [Memory.write]

/-- In strict and soft mode klink acts on the dependent; otherwise it only reports. -/
def WorkloadDependency.enforces (wd : WorkloadDependency) : Prop :=
  wd.spec.mode = .strict ∨ wd.spec.mode = .soft

inductive Deed where
  | keep
  | suspend
  | restore
  deriving DecidableEq, Repr

namespace WorkloadObject

def suspendPatch (w : WorkloadObject) : Option WorkloadObject :=
  match w with
  | .cronJob _ => if w.isSuspended then none else some (w.setSuspend true)
  | _ => if w.getReplicas = 0 then none else some (w.setReplicas 0)

def restorePatch (saved : Option Int32) (w : WorkloadObject) : Option WorkloadObject :=
  match w, saved with
  | .cronJob _, _ => if w.isSuspended then some (w.setSuspend false) else none
  | _, none => none
  | _, some n => if n = 0 then none else some (w.setReplicas n)

variable {w : WorkloadObject}

theorem suspendPatch_replicas (h : w.kind ≠ .cronJob) :
    w.suspendPatch = if w.getReplicas = 0 then none else some (w.setReplicas 0) := by
  cases w with
  | cronJob => exact absurd rfl h
  | _ => rfl

theorem suspendPatch_cronJob (h : w.kind = .cronJob) :
    w.suspendPatch = if w.isSuspended then none else some (w.setSuspend true) := by
  cases w with
  | cronJob => rfl
  | _ => cases h

theorem restorePatch_none (h : w.kind ≠ .cronJob) : w.restorePatch none = none := by
  cases w with
  | cronJob => exact absurd rfl h
  | _ => rfl

theorem restorePatch_replicas (h : w.kind ≠ .cronJob) (n : Int32) :
    w.restorePatch (some n) = if n = 0 then none else some (w.setReplicas n) := by
  cases w with
  | cronJob => exact absurd rfl h
  | _ => rfl

theorem restorePatch_cronJob (h : w.kind = .cronJob) (saved : Option Int32) :
    w.restorePatch saved = if w.isSuspended then some (w.setSuspend false) else none := by
  cases w with
  | cronJob => rfl
  | _ => cases h

theorem getReplicas_setReplicas_of_ne (h : w.kind ≠ .cronJob) (n : Int32) :
    (w.setReplicas n).getReplicas = n := by
  cases w with
  | cronJob => exact absurd rfl h
  | _ => exact getReplicas_setReplicas rfl n

end WorkloadObject

def Deed.patch (saved : Option Int32) (w : WorkloadObject) : Deed → Option WorkloadObject
  | .keep => none
  | .suspend => w.suspendPatch
  | .restore => w.restorePatch saved

def Deed.object (saved : Option Int32) (w : WorkloadObject) (d : Deed) : WorkloadObject :=
  (d.patch saved w).getD w

def Memory.saving (m : Memory) (w : WorkloadObject) : Memory :=
  match w with
  | .cronJob _ => m
  | _ => if w.getReplicas = 0 then m else { m with savedReplicas := some w.getReplicas }

def Memory.restored (m : Memory) : Memory := { m with savedReplicas := none, healthySince := none }

def Memory.clearDegraded (m : Memory) : Memory := { m with degradedSince := none }

def Memory.withHealthySince (m : Memory) (t : Option Int) : Memory := { m with healthySince := t }

def Memory.degradedAt (m : Memory) (t : Int) : Memory :=
  { m with degradedSince := some t, healthySince := none }

/-- One move: given what the evaluation found, what is done to the dependent and which status
write is asked for, if any. Moves without a write leave the stored memory as it was. -/
inductive Move (wd : WorkloadDependency) (w : WorkloadObject) (now : Int) :
    Bool → Deed → Option (DependencyPhase × Memory) → Prop where
  | defer : w.isProgressing = true → Move wd w now false .keep (some (.degraded, wd.memory))
  | watch {ok phase} : ¬ wd.enforces →
      (ok = true → phase = .healthy) → (ok = false → phase = .degraded ∨ phase = .observed) →
      Move wd w now ok .keep (some (phase, wd.memory))
  | stayReleased : wd.enforces → w.isProgressing = false → wd.status.phase = .released →
      Move wd w now false .keep (some (.released, wd.memory))
  | release {since} : wd.enforces → w.isProgressing = false → wd.status.phase = .suspended →
      wd.status.suspendedAt = some since → 0 < wd.spec.onDegraded.maxSuspendDuration →
      wd.spec.onDegraded.maxSuspendDuration ≤ timeSince now since →
      Move wd w now false .restore (some (.released, wd.memory.restored))
  | hold {since} : wd.enforces → w.isProgressing = false → wd.status.phase = .suspended →
      wd.status.suspendedAt = some since → 0 < wd.spec.onDegraded.maxSuspendDuration →
      timeSince now since < wd.spec.onDegraded.maxSuspendDuration →
      Move wd w now false .keep none
  | stay : wd.enforces → w.isProgressing = false → wd.status.phase = .suspended →
      (wd.status.suspendedAt = none ∨ wd.spec.onDegraded.maxSuspendDuration ≤ 0) →
      (wd.spec.mode = .strict → needsEnforce w = false) →
      Move wd w now false .keep (some (.suspended, wd.memory))
  | enforce : wd.enforces → w.isProgressing = false → wd.status.phase = .suspended →
      (wd.status.suspendedAt = none ∨ wd.spec.onDegraded.maxSuspendDuration ≤ 0) →
      wd.spec.mode = .strict → needsEnforce w = true →
      Move wd w now false .suspend (some (.suspended, wd.memory.saving w))
  | healthy : wd.enforces → wd.status.phase ≠ .suspended →
      Move wd w now true .keep (some (.healthy, wd.memory.clearDegraded.withHealthySince none))
  | startRecovery : wd.enforces → wd.status.phase = .suspended → wd.status.healthySince = none →
      Move wd w now true .keep
        (some (.suspended, wd.memory.clearDegraded.withHealthySince (some now)))
  | awaitRecovery {since} : wd.enforces → wd.status.phase = .suspended →
      wd.status.healthySince = some since → timeSince now since < recoveryWindow wd →
      Move wd w now true .keep none
  | recover {since} : wd.enforces → wd.status.phase = .suspended →
      wd.status.healthySince = some since → recoveryWindow wd ≤ timeSince now since →
      Move wd w now true .restore (some (.healthy, wd.memory.clearDegraded.restored))
  | degrade : wd.enforces → w.isProgressing = false → wd.status.phase ≠ .suspended →
      wd.status.phase ≠ .released → wd.status.degradedSince = none →
      Move wd w now false .keep (some (.degraded, wd.memory.degradedAt now))
  | awaitWindow {since} : wd.enforces → w.isProgressing = false → wd.status.phase ≠ .suspended →
      wd.status.phase ≠ .released → wd.status.degradedSince = some since →
      timeSince now since < degradedWindow wd →
      Move wd w now false .keep none
  | suspend {since} : wd.enforces → w.isProgressing = false → wd.status.phase ≠ .suspended →
      wd.status.phase ≠ .released → wd.status.degradedSince = some since →
      degradedWindow wd ≤ timeSince now since →
      Move wd w now false .suspend (some (.suspended, wd.memory.saving w))

theorem Move.keep_of_no_write {wd : WorkloadDependency} {w : WorkloadObject} {now : Int}
    {ok : Bool} {d : Deed} (hm : Move wd w now ok d none) : d = .keep := by
  cases hm <;> rfl

def WorkloadDependency.holdDown (wd : WorkloadDependency) (w : WorkloadObject) :
    Deed × Option (DependencyPhase × Memory) :=
  if wd.spec.mode = .strict ∧ needsEnforce w = true then
    (.suspend, some (.suspended, wd.memory.saving w))
  else (.keep, some (.suspended, wd.memory))

/-- The move of an enforcing object as a function of what it sees. -/
def WorkloadDependency.decision (wd : WorkloadDependency) (w : WorkloadObject) (now : Int) :
    Bool → Deed × Option (DependencyPhase × Memory)
  | true =>
    if wd.status.phase ≠ .suspended then
      (.keep, some (.healthy, wd.memory.clearDegraded.withHealthySince none))
    else
      match wd.status.healthySince with
      | none => (.keep, some (.suspended, wd.memory.clearDegraded.withHealthySince (some now)))
      | some since =>
        if timeSince now since < recoveryWindow wd then (.keep, none)
        else (.restore, some (.healthy, wd.memory.clearDegraded.restored))
  | false =>
    if w.isProgressing then (.keep, some (.degraded, wd.memory))
    else if wd.status.phase = .released then (.keep, some (.released, wd.memory))
    else if wd.status.phase = .suspended then
      match wd.status.suspendedAt with
      | none => wd.holdDown w
      | some since =>
        if wd.spec.onDegraded.maxSuspendDuration ≤ 0 then wd.holdDown w
        else if timeSince now since < wd.spec.onDegraded.maxSuspendDuration then (.keep, none)
        else (.restore, some (.released, wd.memory.restored))
    else
      match wd.status.degradedSince with
      | none => (.keep, some (.degraded, wd.memory.degradedAt now))
      | some since =>
        if timeSince now since < degradedWindow wd then (.keep, none)
        else (.suspend, some (.suspended, wd.memory.saving w))

section Decision

variable {wd : WorkloadDependency} {w : WorkloadObject} {now : Int} {ok : Bool} {d d' : Deed}
  {write write' : Option (DependencyPhase × Memory)}

theorem decision_heldDown (hg : w.isProgressing = false) (hp : wd.status.phase = .suspended)
    (hs : wd.status.suspendedAt = none ∨ wd.spec.onDegraded.maxSuspendDuration ≤ 0) :
    wd.decision w now false = wd.holdDown w := by
  rcases hs with hs | hmax
  · simp [WorkloadDependency.decision, hg, hp, hs]
  · cases hs : wd.status.suspendedAt with
    | none => simp [WorkloadDependency.decision, hg, hp, hs]
    | some since => simp [WorkloadDependency.decision, hg, hp, hs, hmax]

theorem Move.eq_decision (he : wd.enforces) (h : Move wd w now ok d write) :
    (d, write) = wd.decision w now ok := by
  cases h with
  | defer hg => simp [WorkloadDependency.decision, hg]
  | watch hnot => exact absurd he hnot
  | stayReleased _ hg hp => simp [WorkloadDependency.decision, hg, hp]
  | release _ hg hp hs hmax hover =>
    simp [WorkloadDependency.decision, hg, hp, hs, not_le.mpr hmax, not_lt.mpr hover]
  | hold _ hg hp hs hmax hleft =>
    simp [WorkloadDependency.decision, hg, hp, hs, not_le.mpr hmax, hleft]
  | stay _ hg hp hs hdown =>
    rw [decision_heldDown hg hp hs, WorkloadDependency.holdDown, if_neg]
    rintro ⟨hstrict, hneeds⟩
    cases (hdown hstrict).symm.trans hneeds
  | enforce _ hg hp hs hstrict hneeds =>
    rw [decision_heldDown hg hp hs, WorkloadDependency.holdDown, if_pos ⟨hstrict, hneeds⟩]
  | healthy _ hp => simp [WorkloadDependency.decision, hp]
  | startRecovery _ hp hs => simp [WorkloadDependency.decision, hp, hs]
  | awaitRecovery _ hp hs hleft => simp [WorkloadDependency.decision, hp, hs, hleft]
  | recover _ hp hs hover => simp [WorkloadDependency.decision, hp, hs, not_lt.mpr hover]
  | degrade _ hg hp hr hs => simp [WorkloadDependency.decision, hg, hp, hr, hs]
  | awaitWindow _ hg hp hr hs hleft => simp [WorkloadDependency.decision, hg, hp, hr, hs, hleft]
  | suspend _ hg hp hr hs hover =>
    simp [WorkloadDependency.decision, hg, hp, hr, hs, not_lt.mpr hover]

/-- An enforcing object has one move in every state. -/
theorem Move.unique (he : wd.enforces) (h : Move wd w now ok d write)
    (h' : Move wd w now ok d' write') : d = d' ∧ write = write' :=
  Prod.mk.inj ((h.eq_decision he).trans (h'.eq_decision he).symm)

theorem Memory.saving_phase (m : Memory) (w : WorkloadObject) : (m.saving w).phase = m.phase := by
  unfold Memory.saving
  split
  · rfl
  · split <;> rfl

theorem Move.write_phase {phase : DependencyPhase} {m : Memory}
    (h : Move wd w now ok d (some (phase, m))) : m.phase = wd.status.phase ∧ phase ≠ .unset := by
  cases h with
  | @watch ok phase _ hwell hill =>
    refine ⟨rfl, ?_⟩
    cases ok with
    | true =>
      rw [hwell rfl]
      decide
    | false =>
      rcases hill rfl with rfl | rfl
      · decide
      · decide
  | enforce => exact ⟨Memory.saving_phase _ w, by decide⟩
  | suspend => exact ⟨Memory.saving_phase _ w, by decide⟩
  | _ => exact ⟨rfl, by decide⟩

end Decision

structure Patch where
  key : NamespacedName
  before : WorkloadObject
  after : WorkloadObject
  result : CallResult
  deriving DecidableEq, Repr

def Effect.patch? : Effect → Option Patch
  | .patch k b a r => some ⟨k, b, a, r⟩
  | _ => none

def Outcome.patches (o : Outcome) : List Patch := o.effects.filterMap Effect.patch?

def Deed.patches (api : Api) (saved : Option Int32) (w : WorkloadAccessor) (d : Deed) :
    List Patch :=
  ((d.patch saved w.obj).map (fun after => ⟨w.key, w.obj, after, api.patch⟩)).toList

def Cluster.putPatch (c : Cluster) (k : NamespacedName) : Option WorkloadObject → Cluster
  | none => c
  | some after => c.putWorkload k after

def Deed.place (saved : Option Int32) (w : WorkloadAccessor) (d : Deed) (c : Cluster) : Cluster :=
  c.putPatch w.key (d.patch saved w.obj)

/-- How a move ends. A refused patch aborts the Reconcile before any status write; otherwise
the deed is done, and the status write may still fail on its own. -/
inductive Performed (api : Api) (now : Int) (wd : WorkloadDependency) (w : WorkloadAccessor)
    (d : Deed) (o : Outcome) : Option (DependencyPhase × Memory) → Prop where
  | refused {write} : api.patch ≠ .ok → d.patch wd.status.savedReplicas w.obj ≠ none →
      (∀ c : Cluster, c.applyAll o.effects = c) → Performed api now wd w d o write
  | waited : (d.patch wd.status.savedReplicas w.obj = none ∨ api.patch = .ok) →
      (∀ c : Cluster, c.applyAll o.effects = d.place wd.status.savedReplicas w c) →
      Performed api now wd w d o none
  | wrote {phase wd' msg} : (d.patch wd.status.savedReplicas w.obj = none ∨ api.patch = .ok) →
      { wd with status := wd'.status } = wd' →
      (∀ c : Cluster, c.applyAll o.effects =
        (d.place wd.status.savedReplicas w c).storeAttempt
          (statusAttempt api now wd' phase msg).2) →
      Performed api now wd w d o (some (phase, wd'.memory))

theorem applyFields_memory (now : Int) (caller : WorkloadDependencyStatus)
    (phase : DependencyPhase) (msg : String) (wd : WorkloadDependency) :
    (applyFields now caller phase msg wd).status.persisted.memory =
      Memory.write now phase caller.memory wd.memory := by
  unfold applyFields setCondition
  cases conditionSpec phase <;>
    simp [WorkloadDependencyStatus.persisted, WorkloadDependencyStatus.memory, Memory.write,
      WorkloadDependency.memory]

def Silent (es : List Effect) : Prop :=
  es.filterMap Effect.patch? = [] ∧ ∀ c : Cluster, c.applyAll es = c

theorem silent_event (e : Event) : Silent [.event e] := ⟨rfl, fun _ => rfl⟩

/-- What follows a patch that was accepted: an event, and the metric of its direction. -/
inductive Receipt (ns : String) (w : WorkloadAccessor) : WorkloadObject → List Effect → Prop where
  | down {after} (e : Event) : w.obj.suspendPatch = some after →
      Receipt ns w after [.event e, .recordScaleToZero ns w.obj.kind.name w.key.name]
  | up {saved after} (e : Event) : w.obj.restorePatch saved = some after →
      Receipt ns w after [.event e, .recordReplicasRestored ns w.obj.kind.name w.key.name]

theorem Receipt.silent {ns : String} {w : WorkloadAccessor} {after : WorkloadObject}
    {done : List Effect} (h : Receipt ns w after done) : Silent done := by
  cases h with
  | down => exact ⟨rfl, fun _ => rfl⟩
  | up => exact ⟨rfl, fun _ => rfl⟩

/-- What a Reconcile does about the dependent, all of it before it reports. -/
inductive OnWorkload (ns : String) (w : WorkloadAccessor) : List Effect → Prop where
  | nil : OnWorkload ns w []
  | event (e : Event) : OnWorkload ns w [.event e]
  | refused {after call} : call ≠ .ok → OnWorkload ns w [.patch w.key w.obj after call]
  | patched {after done} : Receipt ns w after done →
      OnWorkload ns w (.patch w.key w.obj after .ok :: done)
  | append {es fs} : OnWorkload ns w es → OnWorkload ns w fs → OnWorkload ns w (es ++ fs)

def Announces (es : List Effect) : Prop := es = [] ∨ ∃ e, es = [.event e]

theorem announces_nil : Announces [] := Or.inl rfl

theorem announces_event (e : Event) : Announces [.event e] := Or.inr ⟨e, rfl⟩

theorem Announces.silent {es : List Effect} (h : Announces es) : Silent es := by
  rcases h with rfl | ⟨e, rfl⟩
  · exact ⟨rfl, fun _ => rfl⟩
  · exact silent_event e

theorem Announces.onWorkload {es : List Effect} (h : Announces es) (ns : String)
    (w : WorkloadAccessor) : OnWorkload ns w es := by
  rcases h with rfl | ⟨e, rfl⟩
  · exact .nil
  · exact .event e

structure Action.Did (a : Action) (ns : String) (api : Api) (w : WorkloadAccessor)
    (patch : Option WorkloadObject) (wd : WorkloadDependency) : Prop where
  acts : OnWorkload ns w a.effects
  err : a.err = none
  memory : a.wd = wd
  accepted : patch = none ∨ api.patch = .ok
  patches : a.effects.filterMap Effect.patch? =
    (patch.map (fun after => (⟨w.key, w.obj, after, api.patch⟩ : Patch))).toList
  cluster : ∀ c : Cluster, c.applyAll a.effects = c.putPatch w.key patch

structure Action.Refused (a : Action) (ns : String) (api : Api) (w : WorkloadAccessor)
    (patch : Option WorkloadObject) : Prop where
  acts : OnWorkload ns w a.effects
  err : ∃ e, a.err = some e
  cause : api.patch ≠ .ok
  sent : patch ≠ none
  patches : a.effects.filterMap Effect.patch? =
    (patch.map (fun after => (⟨w.key, w.obj, after, api.patch⟩ : Patch))).toList
  cluster : ∀ c : Cluster, c.applyAll a.effects = c

theorem Action.skip_did (ns : String) (api : Api) (w : WorkloadAccessor)
    (wd : WorkloadDependency) : (Action.skip wd).Did ns api w none wd :=
  ⟨.nil, rfl, rfl, Or.inl rfl, rfl, fun _ => rfl⟩

theorem patchWorkload_spec {ns : String} (api : Api) (wd : WorkloadDependency)
    {w : WorkloadAccessor} {after : WorkloadObject} {done : List Effect}
    (hr : Receipt ns w after done) :
    (patchWorkload api wd w after done).Did ns api w (some after) wd ∨
      (patchWorkload api wd w after done).Refused ns api w (some after) := by
  obtain ⟨hpatch, hsame⟩ := hr.silent
  unfold patchWorkload
  cases hp : api.patch with
  | ok =>
    refine Or.inl ⟨.patched hr, rfl, rfl, Or.inr hp, ?_, ?_⟩
    · simp [Effect.patch?, hpatch, hp]
    · intro c
      exact hsame (c.putWorkload w.key after)
  | conflict =>
    exact Or.inr ⟨.refused (by decide), ⟨_, rfl⟩, by simp [hp], by simp,
      by simp [Effect.patch?, hp], fun _ => rfl⟩
  | failed =>
    exact Or.inr ⟨.refused (by decide), ⟨_, rfl⟩, by simp [hp], by simp,
      by simp [Effect.patch?, hp], fun _ => rfl⟩

def WorkloadDependency.saving (wd : WorkloadDependency) (w : WorkloadObject) :
    WorkloadDependency :=
  match w with
  | .cronJob _ => wd
  | _ => if w.getReplicas = 0 then wd else wd.withSaved (some w.getReplicas)

theorem WorkloadDependency.memory_saving (wd : WorkloadDependency) (w : WorkloadObject) :
    (wd.saving w).memory = wd.memory.saving w := by
  cases w with
  | cronJob => rfl
  | _ =>
    unfold saving Memory.saving
    dsimp only
    split <;> rfl

theorem WorkloadDependency.saving_cases (wd : WorkloadDependency) (w : WorkloadObject) :
    wd.saving w = wd ∨ ∃ n, wd.saving w = wd.withSaved n := by
  cases w with
  | cronJob => exact Or.inl rfl
  | _ =>
    unfold saving
    dsimp only
    split
    · exact Or.inl rfl
    · exact Or.inr ⟨_, rfl⟩

theorem WorkloadDependency.saving_frame (wd : WorkloadDependency) (w : WorkloadObject) :
    { wd with status := (wd.saving w).status } = wd.saving w := by
  rcases wd.saving_cases w with h | ⟨n, h⟩
  · rw [h]
  · rw [h]
    rfl

theorem WorkloadDependency.saving_conditions (wd : WorkloadDependency) (w : WorkloadObject) :
    (wd.saving w).status.conditions = wd.status.conditions := by
  rcases wd.saving_cases w with h | ⟨n, h⟩
  · rw [h]
  · rw [h]
    rfl

theorem scaleToZero_spec (api : Api) (wd : WorkloadDependency) (w : WorkloadAccessor)
    (msg ek : String) (hw : w.obj.kind ≠ .cronJob) :
    (scaleToZero api wd w msg ek w.obj.kind.name).Did wd.ns api w w.obj.suspendPatch
        (wd.saving w.obj) ∨
      (scaleToZero api wd w msg ek w.obj.kind.name).Refused wd.ns api w w.obj.suspendPatch := by
  have hpatch := WorkloadObject.suspendPatch_replicas hw
  have hsaving : wd.saving w.obj =
      if w.obj.getReplicas = 0 then wd else wd.withSaved (some w.obj.getReplicas) := by
    obtain ⟨key, obj⟩ := w
    cases obj with
    | cronJob => exact absurd rfl hw
    | _ => rfl
  unfold scaleToZero
  by_cases h0 : w.obj.getReplicas = 0
  · rw [if_pos h0] at hpatch hsaving ⊢
    rw [hpatch, hsaving]
    exact Or.inl (Action.skip_did _ _ _ _)
  · rw [if_neg h0] at hpatch hsaving ⊢
    rw [hpatch, hsaving]
    exact patchWorkload_spec _ _ (.down _ hpatch)

theorem suspendWorkload_spec (api : Api) (wd : WorkloadDependency) (w : WorkloadAccessor)
    (msg : String) :
    (suspendWorkload api wd w msg).Did wd.ns api w w.obj.suspendPatch (wd.saving w.obj) ∨
      (suspendWorkload api wd w msg).Refused wd.ns api w w.obj.suspendPatch := by
  obtain ⟨key, obj⟩ := w
  cases obj with
  | deployment obj => exact scaleToZero_spec api wd ⟨key, .deployment obj⟩ msg _ (by rintro ⟨⟩)
  | statefulSet obj => exact scaleToZero_spec api wd ⟨key, .statefulSet obj⟩ msg _ (by rintro ⟨⟩)
  | rollout obj => exact scaleToZero_spec api wd ⟨key, .rollout obj⟩ msg _ (by rintro ⟨⟩)
  | cronJob obj =>
    have hpatch : (WorkloadObject.cronJob obj).suspendPatch = ite _ _ _ :=
      WorkloadObject.suspendPatch_cronJob rfl
    unfold suspendWorkload WorkloadDependency.saving
    dsimp only
    by_cases hs : (WorkloadObject.cronJob obj).isSuspended = true
    · rw [if_pos hs] at hpatch ⊢
      rw [hpatch]
      exact Or.inl (Action.skip_did _ _ _ _)
    · rw [if_neg hs] at hpatch ⊢
      rw [hpatch]
      exact patchWorkload_spec _ _ (.down _ hpatch)

theorem restoreReplicas_spec (api : Api) (wd : WorkloadDependency) (w : WorkloadAccessor)
    (ek : String) (hw : w.obj.kind ≠ .cronJob) :
    (restoreReplicas api wd w ek w.obj.kind.name).Did wd.ns api w
        (w.obj.restorePatch wd.status.savedReplicas) wd ∨
      (restoreReplicas api wd w ek w.obj.kind.name).Refused wd.ns api w
        (w.obj.restorePatch wd.status.savedReplicas) := by
  unfold restoreReplicas
  cases wd.status.savedReplicas with
  | none =>
    rw [WorkloadObject.restorePatch_none hw]
    exact Or.inl (Action.skip_did _ _ _ _)
  | some n =>
    have hpatch := WorkloadObject.restorePatch_replicas hw n
    dsimp only
    by_cases h0 : n = 0
    · rw [if_pos h0] at hpatch ⊢
      rw [hpatch]
      exact Or.inl (Action.skip_did _ _ _ _)
    · rw [if_neg h0] at hpatch ⊢
      rw [hpatch]
      exact patchWorkload_spec _ _ (.up _ hpatch)

theorem restoreWorkload_spec (api : Api) (wd : WorkloadDependency) (w : WorkloadAccessor) :
    (restoreWorkload api wd w).Did wd.ns api w
        (w.obj.restorePatch wd.status.savedReplicas) wd ∨
      (restoreWorkload api wd w).Refused wd.ns api w
        (w.obj.restorePatch wd.status.savedReplicas) := by
  obtain ⟨key, obj⟩ := w
  cases obj with
  | deployment obj => exact restoreReplicas_spec api wd ⟨key, .deployment obj⟩ _ (by rintro ⟨⟩)
  | statefulSet obj => exact restoreReplicas_spec api wd ⟨key, .statefulSet obj⟩ _ (by rintro ⟨⟩)
  | rollout obj => exact restoreReplicas_spec api wd ⟨key, .rollout obj⟩ _ (by rintro ⟨⟩)
  | cronJob obj =>
    have hpatch : (WorkloadObject.cronJob obj).restorePatch wd.status.savedReplicas = ite _ _ _ :=
      WorkloadObject.restorePatch_cronJob rfl _
    unfold restoreWorkload
    dsimp only
    by_cases hs : (WorkloadObject.cronJob obj).isSuspended = true
    · rw [if_pos hs] at hpatch ⊢
      rw [hpatch]
      exact patchWorkload_spec _ _ (.up _ hpatch)
    · rw [if_neg hs] at hpatch ⊢
      rw [hpatch]
      exact Or.inl (Action.skip_did _ _ _ _)

theorem patches_setStatus (api : Api) (now : Int) (wd : WorkloadDependency)
    (phase : DependencyPhase) (msg : String) (result : Option Result) :
    (setStatus api now wd phase msg result).effects.filterMap Effect.patch? = [] := by
  apply List.filterMap_eq_nil_iff.mpr
  intro e he
  rcases mem_setStatus he with ⟨_, _, rfl⟩ | ⟨_, rfl⟩ | ⟨_, _, _, rfl⟩ | ⟨_, _, rfl⟩
  · rfl
  · rfl
  · rfl
  · rfl

def Realises (api : Api) (now : Int) (wd : WorkloadDependency) (w : WorkloadAccessor)
    (o : Outcome) (d : Deed) (write : Option (DependencyPhase × Memory)) : Prop :=
  Performed api now wd w d o write ∧ o.patches = d.patches api wd.status.savedReplicas w

inductive Window where
  | degraded
  | recovery
  | maxSuspend
  deriving DecidableEq, Repr

def Window.length (wd : WorkloadDependency) : Window → Int
  | .degraded => degradedWindow wd
  | .recovery => recoveryWindow wd
  | .maxSuspend => wd.spec.onDegraded.maxSuspendDuration

def Window.began (wd : WorkloadDependency) : Window → Option Int
  | .degraded => wd.status.degradedSince
  | .recovery => wd.status.healthySince
  | .maxSuspend => wd.status.suspendedAt

def WorkloadDependency.window (wd : WorkloadDependency) (ok : Bool) : Window :=
  if ok then .recovery else if wd.status.phase = .suspended then .maxSuspend else .degraded

def waitTime (now length since : Int) : Int :=
  wrapDuration (wrapDuration (length - timeSince now since) + second)

def WorkloadDependency.reportMsg (wd : WorkloadDependency) (w : WorkloadAccessor)
    (ev : Evaluation) : DependencyPhase → String
  | .healthy =>
    if wd.spec.mode = .observe then "all dependencies healthy (observe mode)"
    else "all dependencies healthy"
  | .degraded =>
    if w.obj.isProgressing then
      "dependency unhealthy, action deferred — rollout " ++ w.key.name ++ " is progressing"
    else ev.unhealthyMsg
  | .suspended =>
    if ev.allOk then "dependencies recovered, waiting recovery window" else ev.unhealthyMsg
  | .released => releasedMsg
  | .observed =>
    "observe mode: would scale " ++ wd.spec.dependent.kind ++ "/" ++ wd.spec.dependent.name ++
      " to 0 — " ++ ev.unhealthyMsg
  | _ => ""

theorem reportMsg_healthy (wd : WorkloadDependency) (w : WorkloadAccessor) (ev : Evaluation) :
    wd.reportMsg w ev .healthy =
      if wd.spec.mode = .observe then "all dependencies healthy (observe mode)"
      else "all dependencies healthy" := rfl

theorem reportMsg_degraded (wd : WorkloadDependency) (w : WorkloadAccessor) (ev : Evaluation) :
    wd.reportMsg w ev .degraded =
      if w.obj.isProgressing then
        "dependency unhealthy, action deferred — rollout " ++ w.key.name ++ " is progressing"
      else ev.unhealthyMsg := rfl

theorem reportMsg_suspended (wd : WorkloadDependency) (w : WorkloadAccessor) (ev : Evaluation) :
    wd.reportMsg w ev .suspended =
      if ev.allOk then "dependencies recovered, waiting recovery window"
      else ev.unhealthyMsg := rfl

theorem reportMsg_observed (wd : WorkloadDependency) (w : WorkloadAccessor) (ev : Evaluation) :
    wd.reportMsg w ev .observed =
      "observe mode: would scale " ++ wd.spec.dependent.kind ++ "/" ++ wd.spec.dependent.name ++
        " to 0 — " ++ ev.unhealthyMsg := rfl

theorem reportMsg_congr {wd wd' : WorkloadDependency} {w w' : WorkloadAccessor}
    (hs : wd'.spec = wd.spec) (hk : w'.key = w.key)
    (hg : w'.obj.isProgressing = w.obj.isProgressing) (ev : Evaluation) (phase : DependencyPhase) :
    wd'.reportMsg w' ev phase = wd.reportMsg w ev phase := by
  cases phase with
  | healthy => rw [reportMsg_healthy, reportMsg_healthy, hs]
  | degraded => rw [reportMsg_degraded, reportMsg_degraded, hg, hk]
  | suspended => rw [reportMsg_suspended, reportMsg_suspended]
  | observed => rw [reportMsg_observed, reportMsg_observed, hs]
  | _ => rfl

def WorkloadDependency.reportResult (wd : WorkloadDependency) (w : WorkloadObject) (ok : Bool) :
    DependencyPhase → Option Result
  | .degraded =>
    if w.isProgressing then some (.after (15 * second))
    else if wd.spec.mode = .gate then none
    else some (.after (degradedWindow wd))
  | .suspended => some (.after (if ok then recoveryWindow wd else 15 * second))
  | .released => if wd.status.phase = .released then some (.after (30 * second)) else none
  | _ => none

def WorkloadDependency.watchPhase (wd : WorkloadDependency) (w : WorkloadObject) (ok : Bool) :
    DependencyPhase :=
  if ok then .healthy
  else if w.isProgressing then .degraded
  else if wd.spec.mode = .observe then .observed
  else .degraded

/-- How a move ends, to the letter: with an error, a wait, or a status write after the deed. -/
inductive Delivers (api : Api) (now : Int) (wd : WorkloadDependency) (w : WorkloadAccessor)
    (ev : Evaluation) (d : Deed) (o : Outcome) : Option (DependencyPhase × Memory) → Prop where
  | refused {write} : api.patch ≠ .ok → d.patch wd.status.savedReplicas w.obj ≠ none →
      (∃ e, o.result = .error e) → (∀ c : Cluster, c.applyAll o.effects = c) →
      o.patches = d.patches api wd.status.savedReplicas w → OnWorkload wd.ns w o.effects →
      Delivers api now wd w ev d o write
  | waited {since} : d = .keep → (wd.window ev.allOk).began wd = some since →
      o = .wait (waitTime now ((wd.window ev.allOk).length wd) since) →
      Delivers api now wd w ev d o none
  | wrote {phase wd' es} : (d.patch wd.status.savedReplicas w.obj = none ∨ api.patch = .ok) →
      { wd with status := wd'.status } = wd' →
      wd'.status.conditions = wd.status.conditions →
      (wd.enforces ∨ phase = wd.watchPhase w.obj ev.allOk) →
      (∀ c : Cluster, c.applyAll es = d.place wd.status.savedReplicas w c) →
      es.filterMap Effect.patch? = d.patches api wd.status.savedReplicas w →
      OnWorkload wd.ns w es →
      o = (setStatus api now wd' phase (wd.reportMsg w ev phase)
        (wd.reportResult w.obj ev.allOk phase)).prepend es →
      Delivers api now wd w ev d o (some (phase, wd'.memory))

section Realisation

variable {api : Api} {now : Int} {wd : WorkloadDependency} {w : WorkloadAccessor}
  {ev : Evaluation}

theorem Delivers.realises {d : Deed} {o : Outcome} {write : Option (DependencyPhase × Memory)}
    (h : Delivers api now wd w ev d o write) : Realises api now wd w o d write := by
  cases h with
  | refused hp hd _ hc hps _ => exact ⟨.refused hp hd hc, hps⟩
  | waited hd _ ho =>
    subst hd ho
    exact ⟨.waited (Or.inl rfl) (fun _ => rfl), rfl⟩
  | @wrote phase wd' es hp hf _ _ hc hps _ ho =>
    subst ho
    constructor
    · apply Performed.wrote hp hf
      intro c
      rw [Outcome.prepend, Cluster.applyAll_append, hc, applyAll_setStatus]
    · rw [Outcome.patches, Outcome.prepend, List.filterMap_append, hps, patches_setStatus,
        List.append_nil]

theorem Outcome.prepend_nil (o : Outcome) : o.prepend [] = o := rfl

theorem Outcome.prepend_prepend (o : Outcome) (es es' : List Effect) :
    (o.prepend es).prepend es' = o.prepend (es' ++ es) := by
  simp [Outcome.prepend]

theorem setStatus_delivers {wd' : WorkloadDependency} {phase : DependencyPhase} {msg : String}
    {result : Option Result} (hf : { wd with status := wd'.status } = wd')
    (hc : wd'.status.conditions = wd.status.conditions)
    (hp : wd.enforces ∨ phase = wd.watchPhase w.obj ev.allOk)
    (hm : msg = wd.reportMsg w ev phase) (hr : result = wd.reportResult w.obj ev.allOk phase) :
    Delivers api now wd w ev .keep (setStatus api now wd' phase msg result)
      (some (phase, wd'.memory)) := by
  subst hm hr
  exact .wrote (Or.inl rfl) hf hc hp (fun _ => rfl) rfl .nil (Outcome.prepend_nil _).symm

theorem watch_delivers {phase : DependencyPhase} {msg : String} {result : Option Result}
    (hne : ¬ wd.enforces) (hp : phase = wd.watchPhase w.obj ev.allOk)
    (hm : msg = wd.reportMsg w ev phase) (hr : result = wd.reportResult w.obj ev.allOk phase) :
    ∃ d write, Move wd w.obj now ev.allOk d write ∧
      Delivers api now wd w ev d (setStatus api now wd phase msg result) write := by
  refine ⟨_, _, .watch hne ?_ ?_, setStatus_delivers rfl rfl (Or.inr hp) hm hr⟩
  · intro ha
    simp [hp, WorkloadDependency.watchPhase, ha]
  · intro ha
    rw [hp, WorkloadDependency.watchPhase, ha, if_neg (by decide)]
    split
    · exact Or.inl rfl
    · split
      · exact Or.inr rfl
      · exact Or.inl rfl

theorem wait_delivers {win : Window} {since delay : Int} (hw : wd.window ev.allOk = win)
    (hs : win.began wd = some since) (hd : delay = waitTime now (win.length wd) since) :
    Delivers api now wd w ev .keep (.wait delay) none := by
  subst hw hd
  exact .waited rfl hs rfl

theorem action_delivers {a : Action} {d : Deed} {wd₁ : WorkloadDependency}
    (wd' : WorkloadDependency) {phase : DependencyPhase} {msg : String} {result : Option Result}
    {es : List Effect} {k : WorkloadDependency → Outcome}
    (ha : a.Did wd.ns api w (d.patch wd.status.savedReplicas w.obj) wd₁ ∨
      a.Refused wd.ns api w (d.patch wd.status.savedReplicas w.obj))
    (hk : k wd₁ = (setStatus api now wd' phase msg result).prepend es) (hs : Announces es)
    (hf : { wd with status := wd'.status } = wd')
    (hc : wd'.status.conditions = wd.status.conditions) (he : wd.enforces)
    (hm : msg = wd.reportMsg w ev phase) (hr : result = wd.reportResult w.obj ev.allOk phase) :
    Delivers api now wd w ev d (a.andThen k) (some (phase, wd'.memory)) := by
  subst hm hr
  rcases ha with ha | ha
  · have ho : a.andThen k = (k wd₁).prepend a.effects := by
      simp [Action.andThen, ha.err, ha.memory, Outcome.prepend]
    rw [hk, Outcome.prepend_prepend] at ho
    refine .wrote ha.accepted hf hc (Or.inl he) ?_ ?_ (ha.acts.append (hs.onWorkload _ _)) ho
    · intro c
      rw [Cluster.applyAll_append, ha.cluster, hs.silent.2]
      rfl
    · rw [List.filterMap_append, ha.patches, hs.silent.1, List.append_nil]
      rfl
  · obtain ⟨e, herr⟩ := ha.err
    have ho : a.andThen k = ⟨a.effects, .error e⟩ := by simp [Action.andThen, herr]
    rw [ho]
    exact .refused ha.cause ha.sent ⟨e, rfl⟩ ha.cluster ha.patches ha.acts

theorem Delivers.prepend {o : Outcome} {d : Deed} {q : DependencyPhase × Memory}
    {es : List Effect} (h : Delivers api now wd w ev d o (some q)) (hs : Announces es) :
    Delivers api now wd w ev d (o.prepend es) (some q) := by
  obtain ⟨hpatch, hsame⟩ := hs.silent
  have hacts := hs.onWorkload wd.ns w
  cases h with
  | refused hp hd he hc hps ha =>
    refine .refused hp hd he ?_ ?_ (hacts.append ha)
    · intro c
      rw [Outcome.prepend, Cluster.applyAll_append, hsame, hc]
    · rw [← hps, Outcome.patches, Outcome.prepend, List.filterMap_append, hpatch]
      rfl
  | wrote hp hf hcond hw hc hps ha ho =>
    subst ho
    refine .wrote hp hf hcond hw ?_ ?_ (hacts.append ha) (Outcome.prepend_prepend _ _ _)
    · intro c
      rw [Cluster.applyAll_append, hsame, hc]
    · rw [List.filterMap_append, hpatch, hps, List.nil_append]

theorem enforces_of_ne (ho : wd.spec.mode ≠ .observe) (hg : wd.spec.mode ≠ .gate) :
    wd.enforces := by
  unfold WorkloadDependency.enforces
  cases h : wd.spec.mode <;> simp_all

theorem ne_of_enforces (h : wd.enforces) :
    wd.spec.mode ≠ .observe ∧ wd.spec.mode ≠ .gate := by
  rcases h with h | h <;> simp [h]

theorem handleHealthy_spec (hm : wd.enforces) (hok : ev.allOk = true) :
    ∃ d write, Move wd w.obj now true d write ∧
      Delivers api now wd w ev d (handleHealthy api now wd w) write := by
  obtain ⟨hmode, _⟩ := ne_of_enforces hm
  have hmsg : "all dependencies healthy" = wd.reportMsg w ev .healthy := by
    simp [reportMsg_healthy, hmode]
  unfold handleHealthy
  dsimp only
  split
  · next hp => exact ⟨_, _, .healthy hm hp, setStatus_delivers rfl rfl (Or.inl hm) hmsg rfl⟩
  · next hp =>
    have hp : wd.status.phase = .suspended := not_not.mp hp
    split
    · next hs =>
      exact ⟨_, _, .startRecovery hm hp hs, setStatus_delivers rfl rfl (Or.inl hm)
        (by simp [reportMsg_suspended, hok])
        (by simp [WorkloadDependency.reportResult, hok, recoveryWindow,
          WorkloadDependency.clearDegraded])⟩
    · next since hs =>
      split
      · next ht =>
        have hw : wd.window ev.allOk = .recovery := by simp [WorkloadDependency.window, hok]
        exact ⟨_, _, .awaitRecovery hm hp hs ht, wait_delivers hw hs rfl⟩
      · next ht =>
        exact ⟨.restore, _, .recover hm hp hs (not_lt.mp ht),
          action_delivers
            { wd with status := { wd.status with
              savedReplicas := none, degradedSince := none, healthySince := none } }
            (restoreWorkload_spec api wd.clearDegraded w) (Outcome.prepend_nil _).symm
            announces_nil rfl rfl hm hmsg rfl⟩

section Failing

variable (hok : ev.allOk = false)
include hok

theorem suspended_report (wd : WorkloadDependency) (w : WorkloadAccessor) :
    ev.unhealthyMsg = wd.reportMsg w ev .suspended ∧
      some (.after (15 * second)) = wd.reportResult w.obj ev.allOk .suspended := by
  simp [reportMsg_suspended, WorkloadDependency.reportResult, hok]

theorem handleDegraded_spec (hm : wd.enforces) (hg : w.obj.isProgressing = false)
    (hp : wd.status.phase ≠ .suspended) (hr : wd.status.phase ≠ .released) :
    ∃ d write, Move wd w.obj now false d write ∧
      Delivers api now wd w ev d (handleDegraded api now wd w ev.unhealthyMsg) write := by
  obtain ⟨hmsg, hres⟩ := suspended_report hok wd w
  unfold handleDegraded
  split
  · next hs =>
    refine ⟨_, _, .degrade hm hg hp hr hs, setStatus_delivers rfl rfl (Or.inl hm) ?_ ?_⟩
    · simp [reportMsg_degraded, hg]
    · simp [WorkloadDependency.reportResult, hg, (ne_of_enforces hm).2]
  · next since hs =>
    split
    · next ht =>
      have hw : wd.window ev.allOk = .degraded := by simp [WorkloadDependency.window, hok, hp]
      exact ⟨_, _, .awaitWindow hm hg hp hr hs ht, wait_delivers hw hs rfl⟩
    · next ht =>
      refine ⟨.suspend, _, .suspend hm hg hp hr hs (not_lt.mp ht), ?_⟩
      rw [← WorkloadDependency.memory_saving]
      exact action_delivers (wd.saving w.obj) (suspendWorkload_spec api wd w _)
        (Outcome.prepend_nil _).symm announces_nil (wd.saving_frame w.obj)
        (wd.saving_conditions w.obj) hm hmsg hres

theorem handleSuspended_spec (hm : wd.enforces) (hg : w.obj.isProgressing = false)
    (hp : wd.status.phase = .suspended)
    (hs : wd.status.suspendedAt = none ∨ wd.spec.onDegraded.maxSuspendDuration ≤ 0) :
    ∃ d write, Move wd w.obj now false d write ∧
      Delivers api now wd w ev d (handleSuspended api now wd w ev.unhealthyMsg) write := by
  obtain ⟨hmsg, hres⟩ := suspended_report hok wd w
  unfold handleSuspended
  dsimp only
  rw [hg]
  split
  · next hst =>
    rw [if_neg (by decide)]
    split
    · next hn =>
      refine ⟨.suspend, _, .enforce hm hg hp hs hst hn, ?_⟩
      rw [← WorkloadDependency.memory_saving]
      exact action_delivers (wd.saving w.obj) (suspendWorkload_spec api wd w _) rfl
        (announces_event _) (wd.saving_frame w.obj) (wd.saving_conditions w.obj) hm hmsg hres
    · next hn =>
      exact ⟨_, _, .stay hm hg hp hs (fun _ => by simpa using hn),
        setStatus_delivers rfl rfl (Or.inl hm) hmsg hres⟩
  · next hst =>
    exact ⟨_, _, .stay hm hg hp hs (fun h => absurd h hst),
      setStatus_delivers rfl rfl (Or.inl hm) hmsg hres⟩

theorem enforceMaxSuspend_spec (hm : wd.enforces) (hg : w.obj.isProgressing = false)
    (hp : wd.status.phase = .suspended) :
    ∃ d write, Move wd w.obj now false d write ∧
      Delivers api now wd w ev d (enforceMaxSuspend api now wd w ev.unhealthyMsg) write := by
  unfold enforceMaxSuspend
  dsimp only
  split
  · next hs => exact handleSuspended_spec hok hm hg hp (Or.inl hs)
  · next since hs =>
    split
    · next hd =>
      split
      · next ht =>
        exact ⟨.restore, _, .release hm hg hp hs hd ht,
          (action_delivers
            { wd with status := { wd.status with savedReplicas := none, healthySince := none } }
            (restoreWorkload_spec api wd w) (Outcome.prepend_nil _).symm
            announces_nil rfl rfl hm rfl
            (by simp [WorkloadDependency.reportResult, hp])).prepend (announces_event _)⟩
      · next ht =>
        have hw : wd.window ev.allOk = .maxSuspend := by simp [WorkloadDependency.window, hok, hp]
        exact ⟨_, _, .hold hm hg hp hs hd (not_le.mp ht), wait_delivers hw hs rfl⟩
    · next hd => exact handleSuspended_spec hok hm hg hp (Or.inr (not_lt.mp hd))

end Failing

/-- From the end of the dependency loop on, `Reconcile` takes one move of the machine and
delivers it. -/
theorem dispatch_delivers (api : Api) (now : Int) (wd : WorkloadDependency)
    (w : WorkloadAccessor) (ev : Evaluation) :
    ∃ d write, Move wd w.obj now ev.allOk d write ∧
      Delivers api now wd w ev d (dispatch api now wd w ev) write := by
  unfold dispatch
  split
  · next h =>
    refine ⟨_, _, h.1 ▸ .defer h.2, setStatus_delivers rfl rfl (Or.inr ?_) ?_ ?_⟩
    · simp [WorkloadDependency.watchPhase, h]
    · simp [reportMsg_degraded, h.2]
    · simp [WorkloadDependency.reportResult, h.2]
  next hd =>
  have hg : ev.allOk = false → w.obj.isProgressing = false := by
    intro ha
    simpa [ha] using hd
  split
  · next ho =>
    have hne : ¬ wd.enforces := by simp [WorkloadDependency.enforces, ho]
    split
    · next ha =>
      exact watch_delivers hne (by simp [WorkloadDependency.watchPhase, ha])
        (by simp [reportMsg_healthy, ho]) rfl
    · next ha =>
      exact watch_delivers hne (by simp_all [WorkloadDependency.watchPhase]) rfl rfl
  next ho =>
  split
  · next hgate =>
    have hne : ¬ wd.enforces := by simp [WorkloadDependency.enforces, hgate]
    split
    · next ha =>
      exact watch_delivers hne (by simp [WorkloadDependency.watchPhase, ha])
        (by simp [reportMsg_healthy, ho]) rfl
    · next ha =>
      exact watch_delivers hne (by simp_all [WorkloadDependency.watchPhase])
        (by simp_all [reportMsg_degraded]) (by simp_all [WorkloadDependency.reportResult])
  next hgate =>
  have hm : wd.enforces := enforces_of_ne ho hgate
  cases ha : ev.allOk with
  | true =>
    split
    · rw [if_pos rfl]; exact handleHealthy_spec hm ha
    · rw [if_neg (by simp), if_pos rfl]; exact handleHealthy_spec hm ha
  | false =>
    split
    · next hr =>
      exact ⟨_, _, .stayReleased hm (hg ha) hr, setStatus_delivers rfl rfl (Or.inl hm) rfl
        (by simp [WorkloadDependency.reportResult, hr])⟩
    · next hr =>
      split
      · next hs => exact enforceMaxSuspend_spec ha hm (hg ha) hs.2
      · next hs => exact handleDegraded_spec ha hm (hg ha) (fun h => hs ⟨rfl, h⟩) hr

/-- Refinement: from the end of the dependency loop on, `Reconcile` takes one move of the
machine. -/
theorem dispatch_spec (api : Api) (now : Int) (wd : WorkloadDependency) (w : WorkloadAccessor)
    (ev : Evaluation) :
    ∃ d write, Move wd w.obj now ev.allOk d write ∧
      Realises api now wd w (dispatch api now wd w ev) d write := by
  obtain ⟨d, write, hm, hd⟩ := dispatch_delivers api now wd w ev
  exact ⟨d, write, hm, hd.realises⟩

end Realisation

end Klink
