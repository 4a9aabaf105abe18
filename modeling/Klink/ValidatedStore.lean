import Klink.AdmissionServer
import Klink.PatchGuards
import Klink.PhaseReports

/-! # A store behind the validator

Every write of the main resource of a WorkloadDependency goes past the validator, the writes of the
operator included; writes of the status and deletions do not. So what is stored stays well formed.
An object that was stored before the validator was installed is another matter: the operator can
neither put its finalizer on it nor take it off.
-/
namespace Klink

open TransitionSystem KeyedStore

/-- The API server asked for a review of this object, with or without an answer, and let the write
through. -/
def WDAdmitted (A : Admission) (wd : WorkloadDependency) : Prop :=
  ∃ (r : Review) (reply : Option HttpReply), r.decoded = .ok wd ∧
    (reply = none ∨ reply = some (WDValidatorHandler.serveHTTP (.review r))) ∧
    A.decides wdHook r.uid reply = true

theorem wdAdmitted_iff {A : Admission} {wd : WorkloadDependency} :
    WDAdmitted A wd ↔ wd.WellFormed := by
  have hreply : ∀ r : Review,
      A.decides wdHook r.uid (some (WDValidatorHandler.serveHTTP (.review r))) =
        (WDValidatorHandler.validate r.decoded).allowed := fun r => A.answered wdHook r.uid _
  constructor
  · rintro ⟨r, reply, hr, rfl | rfl, hd⟩
    · cases (A.unanswered wdHook r.uid).symm.trans hd
    · rw [hreply, WDValidatorHandler.validate_allowed, hr] at hd
      obtain ⟨wd', h, hw⟩ := hd
      obtain rfl := Except.ok.inj h
      exact hw
  · intro hw
    refine ⟨creation wd, _, rfl, Or.inr rfl, ?_⟩
    rw [hreply, WDValidatorHandler.validate_allowed]
    exact ⟨wd, rfl, hw⟩

/-- What others do to one object. They edit it as `edits` allows; an edit that takes the last
finalizer off an object that is being deleted removes it. -/
inductive Written (A : Admission) (edits : WorkloadDependency → WorkloadDependency → Prop) :
    Option WorkloadDependency → Option WorkloadDependency → Prop where
  | untouched (o) : Written A edits o o
  | created {wd} : WDAdmitted A wd → Written A edits none (some wd)
  | edited {wd wd'} : WDAdmitted A wd' → edits wd wd' →
      wd'.deletionTimestamp = wd.deletionTimestamp → Written A edits (some wd) (some wd')
  | released {wd wd'} : WDAdmitted A wd' → edits wd wd' → wd.deletionTimestamp ≠ none →
      wd'.finalizers = [] → Written A edits (some wd) none
  | deleted {wd o} : KeptOrDeleted wd o → Written A edits (some wd) o
  | reported {wd wd'} : wd.SameObject wd' → Written A edits (some wd) (some wd')

def storeRules (A : Admission) (start : Cluster → Prop)
    (edits : WorkloadDependency → WorkloadDependency → Prop) : Rules where
  start := start
  calls c req api := ∀ now w, Effect.update w .ok ∈ (reconcile api now c req).effects →
    WDAdmitted A w
  disturbs c c' := ∀ k, Written A edits (c.getWD k) (c'.getWD k)

def Cluster.AllWellFormed (c : Cluster) : Prop := ∀ k wd, c.getWD k = some wd → wd.WellFormed

section Effects

variable {es : List Effect} {c : Cluster} {k : NamespacedName} {wd w : WorkloadDependency}

theorem update_spec {api : Api} {now : Int} {req : NamespacedName} {call : CallResult}
    (h : c.getWD req = some wd)
    (hm : Effect.update w call ∈ (reconcile api now c req).effects) :
    w.spec = wd.spec ∧ w.key = req ∧ call = api.update := by
  have hkey : wd.key = req := c.getWD_key h
  have hshape : Shape api now wd (reconcile api now c req) := reconcile_shape now h
  generalize reconcile api now c req = o at hshape hm
  cases hshape with
  | idle ho => cases ho _ hm
  | updated hes hw =>
    rcases List.mem_append.mp hm with hm | hm
    · cases hes _ hm
    · obtain ⟨rfl, rfl⟩ : w = _ ∧ call = api.update := by simpa using hm
      rcases hw with rfl | rfl
      · have hsame : wd.SameSpec wd.addFinalizer := WorkloadDependency.addFinalizer_sameSpec
        exact ⟨hsame.spec, hsame.key.trans hkey, rfl⟩
      · exact ⟨rfl, hkey, rfl⟩
  | reported hes =>
    rcases List.mem_append.mp hm with hm | hm
    · cases hes _ hm
    · rcases mem_setStatus hm with ⟨_, _, h⟩ | ⟨_, h⟩ | ⟨_, _, _, h⟩ | ⟨_, _, h⟩
      · cases h
      · cases h
      · cases h
      · cases h

theorem Cluster.getWD_putStatus_cases (c : Cluster) (w : WorkloadDependency) (k : NamespacedName) :
    (c.putStatus w).getWD k = c.getWD k ∨
      (c.putStatus w).getWD k = (c.getWD k).map w.withStatusOf := by
  by_cases hk : k = w.key
  · subst hk
    exact Or.inr (c.wds.get?_modify_self w.key w.withStatusOf (fun _ => rfl))
  · exact Or.inl (c.getWD_putStatus_ne hk)

theorem Cluster.getWD_putObject_cases (c : Cluster) (w : WorkloadDependency) (k : NamespacedName) :
    (c.putObject w).getWD k = c.getWD k ∨ (c.putObject w).getWD k = none ∨
      (c.putObject w).getWD k = (c.getWD k).map w.withObjectOf := by
  by_cases hk : k = w.key
  · subst hk
    by_cases hgone : w.deletionTimestamp.isSome ∧ w.finalizers = []
    · exact Or.inr (Or.inl (c.getWD_putObject_gone hgone.1 hgone.2))
    · refine Or.inr (Or.inr ?_)
      rw [Cluster.putObject, if_neg hgone]
      exact c.wds.get?_modify_self w.key w.withObjectOf (fun _ => rfl)
  · exact Or.inl (c.getWD_putObject_ne hk)

theorem Cluster.AllWellFormed.applyAll (hc : c.AllWellFormed)
    (h : ∀ w, Effect.update w .ok ∈ es → w.WellFormed) : (c.applyAll es).AllWellFormed := by
  induction es generalizing c with
  | nil => exact hc
  | cons e es ih =>
    refine ih ?_ (fun w hw => h w (List.mem_cons_of_mem e hw))
    intro k wd hwd
    cases e with
    | patch key before after call =>
      cases call with
      | ok => exact hc k wd ((c.getWD_putWorkload key k after).symm.trans hwd)
      | conflict => exact hc k wd hwd
      | failed => exact hc k wd hwd
    | statusUpdate w call =>
      cases call with
      | ok =>
        rcases c.getWD_putStatus_cases w k with hsame | hmap
        · exact hc k wd (hsame.symm.trans hwd)
        · obtain ⟨old, hold, rfl⟩ := Option.map_eq_some_iff.mp (hmap.symm.trans hwd)
          exact (hc k old hold).of_spec rfl
      | conflict => exact hc k wd hwd
      | failed => exact hc k wd hwd
    | update w call =>
      cases call with
      | ok =>
        rcases c.getWD_putObject_cases w k with hsame | hnone | hmap
        · exact hc k wd (hsame.symm.trans hwd)
        · cases hnone.symm.trans hwd
        · obtain ⟨old, _, rfl⟩ := Option.map_eq_some_iff.mp (hmap.symm.trans hwd)
          exact (h w List.mem_cons_self).of_spec rfl
      | conflict => exact hc k wd hwd
      | failed => exact hc k wd hwd
    | _ => exact hc k wd hwd

theorem getWD_applyAll_sameObject (h : ∀ w, Effect.update w .ok ∈ es → w.key ≠ k)
    (hwd : c.getWD k = some wd) :
    ∃ wd', (c.applyAll es).getWD k = some wd' ∧ wd.SameObject wd' := by
  induction es generalizing c wd with
  | nil => exact ⟨wd, hwd, rfl⟩
  | cons e es ih =>
    have hstep : ∃ wd', (c.apply e).getWD k = some wd' ∧ wd.SameObject wd' := by
      cases e with
      | patch key before after call =>
        cases call with
        | ok => exact ⟨wd, (c.getWD_putWorkload key k after).trans hwd, rfl⟩
        | conflict => exact ⟨wd, hwd, rfl⟩
        | failed => exact ⟨wd, hwd, rfl⟩
      | statusUpdate w call =>
        cases call with
        | ok =>
          rcases c.getWD_putStatus_cases w k with hsame | hmap
          · exact ⟨wd, hsame.trans hwd, rfl⟩
          · exact ⟨w.withStatusOf wd, by rw [Cluster.apply, hmap, hwd]; rfl, rfl⟩
        | conflict => exact ⟨wd, hwd, rfl⟩
        | failed => exact ⟨wd, hwd, rfl⟩
      | update w call =>
        cases call with
        | ok =>
          have hne : k ≠ w.key := Ne.symm (h w List.mem_cons_self)
          exact ⟨wd, (c.getWD_putObject_ne hne).trans hwd, rfl⟩
        | conflict => exact ⟨wd, hwd, rfl⟩
        | failed => exact ⟨wd, hwd, rfl⟩
      | _ => exact ⟨wd, hwd, rfl⟩
    obtain ⟨mid, hmid, hsame⟩ := hstep
    obtain ⟨wd', hwd', hsame'⟩ := ih (fun w hw => h w (List.mem_cons_of_mem e hw)) hmid
    refine ⟨wd', hwd', ?_⟩
    unfold WorkloadDependency.SameObject at hsame hsame' ⊢
    rw [← hsame', ← hsame]

end Effects

section Store

variable {A : Admission} {edits : WorkloadDependency → WorkloadDependency → Prop}
  {o : Option WorkloadDependency} {wd wd' : WorkloadDependency}

theorem Written.well_formed (h : Written A edits o (some wd'))
    (ho : ∀ wd, o = some wd → wd.WellFormed) : wd'.WellFormed := by
  generalize ho' : some wd' = o' at h
  cases h with
  | untouched => exact ho wd' ho'.symm
  | created ha =>
    obtain rfl := Option.some.inj ho'
    exact wdAdmitted_iff.mp ha
  | edited ha =>
    obtain rfl := Option.some.inj ho'
    exact wdAdmitted_iff.mp ha
  | released => cases ho'
  | deleted hk =>
    subst ho'
    exact (ho _ rfl).of_spec (KeptOrDeleted.spec _ _ hk).1
  | reported hs =>
    obtain rfl := Option.some.inj ho'
    exact (ho _ rfl).of_spec hs.sameSpec.spec

theorem Cluster.AllWellFormed.sent {c : Cluster} (hc : c.AllWellFormed) {api : Api} {now : Int}
    {req : NamespacedName} {w : WorkloadDependency} {call : CallResult}
    (hm : Effect.update w call ∈ (reconcile api now c req).effects) : w.WellFormed := by
  cases hwd : c.getWD req with
  | none =>
    rw [reconcile_effects_absent now hwd] at hm
    cases hm
  | some wd => exact (hc req wd hwd).of_spec (update_spec hwd hm).1

/-- Behind the validator the store stays well formed, whoever writes to it, and the validator never
stands in the operator's own way. -/
theorem stored_well_formed (r : Run (storeRules A Cluster.AllWellFormed edits).system) (i : ℕ) :
    (r.state i).cluster.AllWellFormed ∧
      ∀ req api now w call,
        Effect.update w call ∈ (reconcile api now (r.state i).cluster req).effects →
          WDAdmitted A w := by
  have hall : (r.state i).cluster.AllWellFormed := by
    refine Rules.invariant r (fun c hc => hc) ?_ ?_ i
    · intro n req api _ _ hn
      exact hn.applyAll (fun w hw => hn.sent hw)
    · intro n c' hv hn k wd hwd
      have hwrite := hv k
      rw [hwd] at hwrite
      exact hwrite.well_formed (hn k)
  exact ⟨hall, fun req api now w call hm => wdAdmitted_iff.mpr (hall.sent hm)⟩

end Store

section Tidy

def tidyRules : Rules := storeRules policyAdmission Cluster.AllWellFormed (fun _ _ => True)

theorem demoDeployment_wellFormed : demoDeployment.cluster.AllWellFormed := by
  intro k wd h
  obtain rfl := List.mem_singleton.mp (Cluster.mem_wds h)
  decide

theorem tidy_playable : Playable tidyRules.system demoDeployment [runs demoKey .good] :=
  ⟨fun _ _ hm => wdAdmitted_iff.mpr (demoDeployment_wellFormed.sent hm), trivial⟩

theorem tidy_idles (s : World) :
    tidyRules.enabled s (.environment s) ∧ s.next (.environment s) = s :=
  ⟨⟨le_rfl, fun _ => .untouched _⟩, rfl⟩

def tidyRun : Run tidyRules.system :=
  Run.ofScript (s := demoDeployment) demoDeployment_wellFormed [runs demoKey .good] tidy_playable
    .environment tidy_idles

theorem stored_well_formed_tidy :
    ((tidyRun.state 1).cluster.getWD demoKey).map WorkloadDependency.containsFinalizer =
        some true ∧
      (tidyRun.state 1).cluster.AllWellFormed :=
  ⟨by decide +kernel, (stored_well_formed tidyRun 1).1⟩

end Tidy

section Stuck

variable {A : Admission} {k : NamespacedName} {i j : ℕ} {wd wd' : WorkloadDependency}

def keepsSpec (k : NamespacedName) (wd wd' : WorkloadDependency) : Prop :=
  wd.key = k → wd'.spec = wd.spec

structure Lingers (wd wd' : WorkloadDependency) : Prop where
  spec : wd'.spec = wd.spec
  finalizers : wd'.finalizers = wd.finalizers

theorem Written.lingers {o : Option WorkloadDependency}
    (h : Written A (keepsSpec k) (some wd) o) (hk : wd.key = k) (hill : ¬ wd.WellFormed) :
    (o = none ∧ wd.finalizers = []) ∨ ∃ wd', o = some wd' ∧ Lingers wd wd' := by
  generalize ho : some wd = o' at h
  cases h with
  | untouched => exact Or.inr ⟨wd, ho.symm, rfl, rfl⟩
  | created => cases ho
  | edited ha he =>
    obtain rfl := Option.some.inj ho
    exact absurd ((wdAdmitted_iff.mp ha).of_spec (he hk).symm) hill
  | released ha he =>
    obtain rfl := Option.some.inj ho
    exact absurd ((wdAdmitted_iff.mp ha).of_spec (he hk).symm) hill
  | deleted hd =>
    obtain rfl := Option.some.inj ho
    rcases hd with rfl | ⟨_, hd⟩
    · exact Or.inr ⟨wd, rfl, rfl, rfl⟩
    · split at hd
      · next hf => exact Or.inl ⟨hd, hf⟩
      · obtain ⟨t, rfl⟩ := hd
        exact Or.inr ⟨_, rfl, rfl, rfl⟩
  | reported hs =>
    obtain rfl := Option.some.inj ho
    exact Or.inr ⟨_, rfl, hs.sameSpec.spec, by rw [← hs]⟩

theorem Lingers.trans {wd'' : WorkloadDependency} (h : Lingers wd wd') (h' : Lingers wd' wd'') :
    Lingers wd wd'' := ⟨h'.spec.trans h.spec, h'.finalizers.trans h.finalizers⟩

/-- A Reconcile cannot get a write of an ill-formed object through. -/
theorem reconciled_lingers {api : Api} {now : Int} {c : Cluster} {req : NamespacedName}
    (hadmits : ∀ w, Effect.update w .ok ∈ (reconcile api now c req).effects → WDAdmitted A w)
    (h : c.getWD k = some wd) (hill : ¬ wd.WellFormed) :
    ∃ wd', (c.reconciled api now req).getWD k = some wd' ∧ Lingers wd wd' := by
  cases hreq : c.getWD req with
  | none =>
    rw [reconcile_absent now hreq]
    exact ⟨wd, h, rfl, rfl⟩
  | some w₀ =>
    have helse : ∀ w, Effect.update w .ok ∈ (reconcile api now c req).effects → w.key ≠ k := by
      intro w hm hk
      obtain ⟨hspec, hkey, _⟩ := update_spec hreq hm
      obtain rfl : req = k := hkey.symm.trans hk
      obtain rfl : w₀ = wd := Option.some.inj (hreq.symm.trans h)
      exact hill ((wdAdmitted_iff.mp (hadmits w hm)).of_spec hspec.symm)
    obtain ⟨wd', hwd', hs⟩ := getWD_applyAll_sameObject helse h
    exact ⟨wd', hwd', hs.sameSpec.spec, by rw [← hs]⟩

/-- An object that breaks a rule and was there before the validator: as long as nobody mends its
spec, no finalizer goes on it or comes off it. One with a finalizer outlasts every deletion,
whatever the operator and everybody else do; for one without the operator never touches a
workload. -/
theorem ill_formed_lingers {start : Cluster → Prop}
    (r : Run (storeRules A start (keepsSpec k)).system) (hij : i ≤ j)
    (h : (r.state i).cluster.getWD k = some wd) (hill : ¬ wd.WellFormed) :
    (wd.finalizers = [] ∧ ∃ n, i < n ∧ n ≤ j ∧ (r.state n).cluster.getWD k = none) ∨
      ∃ wd', (r.state j).cluster.getWD k = some wd' ∧ Lingers wd wd' ∧
        (wd.containsFinalizer = false → wd'.deletionTimestamp = none →
          ∀ api now, (reconcile api now (r.state j).cluster k).patches = []) := by
  have hstays : (wd.finalizers = [] ∧ ∃ n, i < n ∧ n ≤ j ∧ (r.state n).cluster.getWD k = none) ∨
      ∃ wd', (r.state j).cluster.getWD k = some wd' ∧ Lingers wd wd' := by
    induction j, hij using Nat.le_induction with
    | base => exact Or.inr ⟨wd, h, rfl, rfl⟩
    | succ n hin ih =>
      rcases ih with ⟨hf, l, hil, hln, hgone⟩ | ⟨mid, hmid, hl⟩
      · exact Or.inl ⟨hf, l, hil, by omega, hgone⟩
      · have hillm : ¬ mid.WellFormed := fun hm => hill (hm.of_spec hl.spec.symm)
        have hv := r.valid n
        rw [r.step n]
        cases he : r.event n with
        | reconcile req api =>
          rw [he] at hv
          obtain ⟨wd', hwd', hl'⟩ := reconciled_lingers (hv (r.state n).clock) hmid hillm
          exact Or.inr ⟨wd', hwd', hl.trans hl'⟩
        | environment s =>
          rw [he] at hv
          have hwrite := hv.2 k
          rw [hmid] at hwrite
          rcases hwrite.lingers ((r.state n).cluster.getWD_key hmid) hillm with
            ⟨hnone, hf⟩ | ⟨wd', hwd', hl'⟩
          · refine Or.inl ⟨hl.finalizers.symm.trans hf, n + 1, by omega, le_rfl, ?_⟩
            rw [r.step n, he]
            exact hnone
          · exact Or.inr ⟨wd', hwd', hl.trans hl'⟩
  refine hstays.imp_right ?_
  rintro ⟨wd', hwd', hl⟩
  refine ⟨wd', hwd', hl, ?_⟩
  intro hf hd api now
  have hf' : wd'.containsFinalizer = false := by
    rw [WorkloadDependency.containsFinalizer, hl.finalizers]
    exact hf
  refine patches_unseen hwd' ?_ hd
  cases hs : sighting api (r.state j).cluster k with
  | none => rfl
  | some s => cases hf'.symm.trans (sighting_spec hs hwd').2.1

end Stuck

/-! An object whose longest suspension is negative: it was suspended before anybody looked. -/

section Story

def strayObject : WorkloadDependency :=
  { demoObject "Deployment" .strict (-1) with
    finalizers := [finalizerName]
    status := { WorkloadDependencyStatus.empty with
      phase := .suspended, savedReplicas := some 3, suspendedAt := some 0 } }

def refusing : Api := { Api.good with update := .failed }

def strayScript : List (World → Happening) :=
  [edits demoKey toDelete toDelete_key, runs demoKey refusing, waits (5 * second),
    runs demoKey refusing]

def strayRules : Rules := storeRules policyAdmission (fun _ => True) (keepsSpec demoKey)

theorem stray_enabled_runs (s : World) : strayRules.enabled s (runs demoKey refusing s) := by
  intro now w hm
  cases hwd : s.cluster.getWD demoKey with
  | none =>
    rw [reconcile_effects_absent now hwd] at hm
    cases hm
  | some wd => cases (update_spec hwd hm).2.2

theorem stray_enabled_waits {d : Int} (hd : 0 ≤ d) (s : World) :
    strayRules.enabled s (waits d s) := by
  refine ⟨by simpa [waits] using hd, ?_⟩
  intro k
  exact .untouched _

theorem strayScript_playable :
    Playable strayRules.system (demoWorld strayObject (.deployment ⟨some 0, 0⟩)) strayScript := by
  refine ⟨⟨le_rfl, ?_⟩, stray_enabled_runs _, stray_enabled_waits (by decide) _,
    stray_enabled_runs _, trivial⟩
  intro k
  by_cases hk : k = demoKey
  · subst hk
    exact .deleted (KeptOrDeleted.delete rfl (List.cons_ne_nil _ _) 0)
  · change Written _ _ _ ((Store.modify _ demoKey toDelete toDelete_key).get? k)
    rw [Store.get?_modify_ne _ _ _ hk]
    exact .untouched _

theorem stray_idles (s : World) :
    strayRules.enabled s (.environment s) ∧ s.next (.environment s) = s :=
  ⟨⟨le_rfl, fun _ => .untouched _⟩, rfl⟩

def strayRun : Run strayRules.system :=
  Run.ofScript (s := demoWorld strayObject (.deployment ⟨some 0, 0⟩)) trivial strayScript
    strayScript_playable .environment stray_idles

theorem ill_formed_lingers_stray :
    (strayRun.state 4).cluster.deployments webKey = some ⟨some 3, 0⟩ ∧
      ∃ wd', (strayRun.state 4).cluster.getWD demoKey = some wd' ∧ Lingers strayObject wd' := by
  have hback : (strayRun.state 4).cluster.deployments webKey = some ⟨some 3, 0⟩ := by
    decide +kernel
  have hstart : (strayRun.state 0).cluster.getWD demoKey = some strayObject := by decide +kernel
  refine ⟨hback, ?_⟩
  rcases ill_formed_lingers strayRun (Nat.zero_le 4) hstart (by decide) with
    ⟨hf, _⟩ | ⟨wd', hwd', hl, _⟩
  · cases hf
  · exact ⟨wd', hwd', hl⟩

end Story

end Klink
