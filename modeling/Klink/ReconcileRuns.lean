import Klink.TransitionSystem
import Klink.ReconcileTransitions

/-! # Runs of the operator

Reconciles interleave in any order with whatever everybody else does to the cluster, and the
clock never goes back. A `Life` fixes the rules for one WorkloadDependency: how it starts, how
the API server may answer, and what others may do to it and to its dependent. The rest of the
cluster is left to the environment, which decides the health of every dependency.
-/
namespace Klink

open TransitionSystem

structure World where
  cluster : Cluster
  clock : Int

inductive Happening where
  | reconcile (req : NamespacedName) (api : Api)
  | environment (after : World)

def World.next (s : World) : Happening → World
  | .reconcile req api => ⟨s.cluster.reconciled api s.clock req, s.clock⟩
  | .environment s' => s'

structure Rules where
  start : Cluster → Prop
  calls : Cluster → NamespacedName → Api → Prop
  disturbs : Cluster → Cluster → Prop

def Rules.enabled (R : Rules) (s : World) : Happening → Prop
  | .reconcile req api => R.calls s.cluster req api
  | .environment s' => s.clock ≤ s'.clock ∧ R.disturbs s.cluster s'.cluster

def Rules.system (R : Rules) : System World Happening where
  init s := R.start s.cluster
  enabled := R.enabled
  next := World.next

/-- The invariant rule of a set of rules: one Reconcile, one change by anybody else. -/
theorem Rules.invariant {R : Rules} (r : Run R.system) {I : Cluster → Prop}
    (start : ∀ c, R.start c → I c)
    (reconcile : ∀ i req api, r.event i = .reconcile req api →
      R.calls (r.state i).cluster req api → I (r.state i).cluster →
      I ((r.state i).cluster.reconciled api (r.state i).clock req))
    (environment : ∀ i c', R.disturbs (r.state i).cluster c' → I (r.state i).cluster → I c')
    (i : ℕ) : I (r.state i).cluster := by
  refine r.invariant (I := fun _ s => I s.cluster) (start _ r.start) ?_ i
  intro k hk
  have hv := r.valid k
  cases he : r.event k with
  | reconcile req api =>
    rw [he] at hv
    exact reconcile k req api he hv hk
  | environment s =>
    rw [he] at hv
    exact environment k s.cluster hv.2 hk

/-- An object somebody else may have changed or removed. What is gone does not come back. -/
def Touched {α : Type*} (touch : α → Option α → Prop) : Option α → Option α → Prop
  | none, b => b = none
  | some a, b => touch a b

theorem Touched.of_some {α : Type*} {touch : α → Option α → Prop} {o : Option α} {b : α}
    (h : Touched touch o (some b)) : ∃ a, o = some a ∧ touch a (some b) := by
  cases o with
  | none => cases h
  | some a => exact ⟨a, rfl, h⟩

/-- Everybody but klink leaves the status, the finalizers and the target of an object alone. -/
structure WorkloadDependency.Untouched (wd wd' : WorkloadDependency) : Prop where
  memory : wd'.memory = wd.memory
  deletion : wd.deletionTimestamp.isSome = true → wd'.deletionTimestamp.isSome = true
  finalizers : wd'.finalizers = wd.finalizers
  target : wd.SameTarget wd'

def WorkloadDependency.Created (wd : WorkloadDependency) : Prop :=
  wd.memory = .empty ∧ wd.deletionTimestamp = none

theorem WorkloadDependency.Created.phase {wd : WorkloadDependency} (h : wd.Created) :
    wd.status.phase = .unset := congrArg Memory.phase h.1

theorem WorkloadDependency.Created.unsaved {wd : WorkloadDependency} (h : wd.Created) :
    wd.status.savedReplicas = none := congrArg Memory.savedReplicas h.1

structure WorkloadDependency.Active (wd : WorkloadDependency) : Prop where
  enforces : wd.enforces
  unpaused : wd.isPaused = false

def Kept (wd : WorkloadDependency) (o : Option WorkloadDependency) : Prop := o = some wd

theorem Kept.untouched {wd wd' : WorkloadDependency} (h : Kept wd (some wd')) :
    wd.Untouched wd' := by
  obtain rfl := Option.some.inj h
  exact ⟨rfl, id, rfl, ⟨rfl, rfl⟩⟩

/-- The object is left alone, or somebody asks for its deletion. Without a finalizer it is gone
at once. -/
def KeptOrDeleted (wd : WorkloadDependency) (o : Option WorkloadDependency) : Prop :=
  Kept wd o ∨ (wd.deletionTimestamp = none ∧ if wd.finalizers = [] then o = none
    else ∃ t, o = some { wd with deletionTimestamp := some t })

theorem KeptOrDeleted.delete {wd : WorkloadDependency} (hd : wd.deletionTimestamp = none)
    (hf : wd.finalizers ≠ []) (t : Int) :
    KeptOrDeleted wd (some { wd with deletionTimestamp := some t }) := by
  refine Or.inr ⟨hd, ?_⟩
  rw [if_neg hf]
  exact ⟨t, rfl⟩

theorem KeptOrDeleted.cases {wd wd' : WorkloadDependency} (h : KeptOrDeleted wd (some wd')) :
    wd' = wd ∨ ∃ t, wd.deletionTimestamp = none ∧
      wd' = { wd with deletionTimestamp := some t } := by
  rcases h with h | ⟨hd, h⟩
  · exact Or.inl (Option.some.inj h)
  · split at h
    · cases h
    · obtain ⟨t, h⟩ := h
      exact Or.inr ⟨t, hd, Option.some.inj h⟩

theorem KeptOrDeleted.untouched {wd wd' : WorkloadDependency} (h : KeptOrDeleted wd (some wd')) :
    wd.Untouched wd' := by
  rcases h.cases with rfl | ⟨t, _, rfl⟩
  · exact ⟨rfl, id, rfl, ⟨rfl, rfl⟩⟩
  · exact ⟨rfl, fun _ => rfl, rfl, ⟨rfl, rfl⟩⟩

theorem KeptOrDeleted.spec (wd wd' : WorkloadDependency) (h : KeptOrDeleted wd (some wd')) :
    wd'.spec = wd.spec ∧ wd'.annotationPaused = wd.annotationPaused := by
  rcases h.cases with rfl | ⟨t, _, rfl⟩
  · exact ⟨rfl, rfl⟩
  · exact ⟨rfl, rfl⟩

theorem KeptOrDeleted.active {wd wd' : WorkloadDependency} (h : KeptOrDeleted wd (some wd'))
    (ha : wd.Active) : wd'.Active := by
  rcases h.cases with rfl | ⟨t, _, rfl⟩
  · exact ha
  · exact ⟨ha.enforces, ha.unpaused⟩

theorem Kept.active {wd wd' : WorkloadDependency} (h : Kept wd (some wd')) (ha : wd.Active) :
    wd'.Active := by
  obtain rfl := Option.some.inj h
  exact ha

theorem Kept.deletionTimestamp {wd wd' : WorkloadDependency} (h : Kept wd (some wd')) :
    wd'.deletionTimestamp = wd.deletionTimestamp := by
  obtain rfl := Option.some.inj h
  rfl

structure Life where
  key : NamespacedName
  start : WorkloadDependency → Option WorkloadObject → Prop
  calls : WorkloadDependency → Api → Prop
  edit : WorkloadDependency → Option WorkloadDependency → Prop
  touch : WorkloadObject → Option WorkloadObject → Prop
  fresh : ∀ wd w, start wd w → wd.memory = .empty ∧ wd.deletionTimestamp = none
  written : ∀ wd api, calls wd api → api.statusUpdate 0 = .ok ∨ api.Honest wd
  untouched : ∀ wd wd', edit wd (some wd') → wd.Untouched wd'

def Memory.Blank (m : Memory) : Prop :=
  ∃ phase, (phase = .unset ∨ phase = .unknown) ∧ m = { Memory.empty with phase := phase }

def Life.rules (L : Life) : Rules where
  start c := ∃ wd, c.getWD L.key = some wd ∧ L.start wd (c.dependent wd)
  calls c req api := req = L.key ∧ ∀ wd, c.getWD L.key = some wd → L.calls wd api
  disturbs c c' := Touched L.edit (c.getWD L.key) (c'.getWD L.key) ∧
    ∀ wd, c.getWD L.key = some wd → Touched L.touch (c.dependent wd) (c'.dependent wd)

def Life.Run (L : Life) : Type := TransitionSystem.Run L.rules.system

namespace Life.Run

variable {L : Life} (r : L.Run) (i : ℕ)

def world : World := TransitionSystem.Run.state r i

def cluster : Cluster := (r.world i).cluster

def clock : Int := (r.world i).clock

def object : Option WorkloadDependency := (r.cluster i).getWD L.key

def call : Option Api :=
  match TransitionSystem.Run.event r i with
  | .reconcile _ api => some api
  | .environment _ => none

def found : Option Bool := (r.call i).bind (fun api => Klink.found api (r.cluster i) L.key)

def patches : List Patch :=
  match r.call i with
  | some api => (reconcile api (r.clock i) (r.cluster i) L.key).patches
  | none => []

variable {r i}

theorem found_of_call {api : Api} (hc : r.call i = some api) :
    r.found i = (sighting api (r.cluster i) L.key).map (fun s => s.ev.allOk) := by
  unfold found
  rw [hc]
  rfl

theorem found_of_sighting {api : Api} {s : Sighting} (hc : r.call i = some api)
    (hs : sighting api (r.cluster i) L.key = some s) : r.found i = some s.ev.allOk := by
  rw [found_of_call hc, hs]
  rfl

theorem found_of_no_sighting {api : Api} (hc : r.call i = some api)
    (hs : sighting api (r.cluster i) L.key = none) : r.found i = none := by
  rw [found_of_call hc, hs]
  rfl

theorem found_of_no_call (hc : r.call i = none) : r.found i = none := by
  unfold found
  rw [hc]
  rfl

theorem found_eq_some {b : Bool} (h : r.found i = some b) :
    ∃ api s, r.call i = some api ∧ sighting api (r.cluster i) L.key = some s ∧
      s.ev.allOk = b := by
  unfold found at h
  obtain ⟨api, hc, hf⟩ := Option.bind_eq_some_iff.mp h
  obtain ⟨s, hs, hb⟩ := Option.map_eq_some_iff.mp hf
  exact ⟨api, s, hc, hs, hb⟩

theorem step_cases :
    (∃ api, r.call i = some api ∧ (∀ wd, r.object i = some wd → L.calls wd api) ∧
      r.cluster (i + 1) = (r.cluster i).reconciled api (r.clock i) L.key ∧
      r.clock (i + 1) = r.clock i) ∨
    (r.call i = none ∧ r.clock i ≤ r.clock (i + 1) ∧
      L.rules.disturbs (r.cluster i) (r.cluster (i + 1))) := by
  have hv := TransitionSystem.Run.valid r i
  have hs := TransitionSystem.Run.step r i
  unfold call cluster clock world
  rw [hs]
  cases he : TransitionSystem.Run.event r i with
  | reconcile req api =>
    rw [he] at hv
    obtain ⟨rfl, hv⟩ := hv
    exact Or.inl ⟨api, rfl, hv, rfl, rfl⟩
  | environment s =>
    rw [he] at hv
    exact Or.inr ⟨rfl, hv.1, hv.2⟩

theorem clock_mono {j : ℕ} (h : i ≤ j) : r.clock i ≤ r.clock j := by
  induction h with
  | refl => exact le_refl _
  | step _ ih =>
    rcases r.step_cases with ⟨_, _, _, _, hc⟩ | ⟨_, hc, _⟩
    · rw [hc]; exact ih
    · exact ih.trans hc

theorem transition {api : Api} {wd : WorkloadDependency} (hc : r.call i = some api)
    (h : r.object i = some wd) :
    L.calls wd api ∧ Transition api (r.clock i) (r.cluster i) L.key wd
      ((r.cluster i).dependent wd) (r.object (i + 1)) ((r.cluster (i + 1)).dependent wd)
      (r.patches i) := by
  rcases r.step_cases with ⟨api', hc', hcall, hn, _⟩ | ⟨hc', _⟩
  · obtain rfl : api' = api := Option.some.inj (hc'.symm.trans hc)
    have ht := reconcile_transition (r.clock i) h (L.written wd api' (hcall wd h))
    have hp : r.patches i = (reconcile api' (r.clock i) (r.cluster i) L.key).patches := by
      unfold patches; rw [hc']
    rw [hp, object, hn]
    exact ⟨hcall wd h, ht⟩
  · rw [hc] at hc'
    cases hc'

/-- Where all calls succeed, a Reconcile that gets to evaluate the dependencies makes one move and
stores what it asks for. -/
theorem found_move {b : Bool} {wd : WorkloadDependency}
    (hL : ∀ wd api, L.calls wd api → api.AllOk) (h : r.object i = some wd)
    (hf : r.found i = some b) :
    ∃ wd' obj d write, wd.deletionTimestamp = none ∧ (r.cluster i).dependent wd = some obj ∧
      Move wd obj (r.clock i) b d write ∧ r.object (i + 1) = some wd' ∧
      (r.cluster (i + 1)).dependent wd = some (d.object wd.status.savedReplicas obj) ∧
      wd'.memory = write.elim wd.memory (fun q => Memory.write (r.clock i) q.1 q.2 q.2) := by
  obtain ⟨api, s, hc, hs, hb⟩ := r.found_eq_some hf
  have hd := (sighting_spec hs h).1
  obtain ⟨hcalls, ht⟩ := r.transition hc h
  obtain ⟨wd', ho, _, ha⟩ := ht.advance hd
  obtain ⟨hw, d, write, hm, hw', hmem⟩ := ha.seen_ok hs (hL wd api hcalls)
  rw [hb] at hm
  exact ⟨wd', s.dependent, d, write, hd, hw, hm, ho, hw', hmem⟩

theorem disturbed {wd : WorkloadDependency} (hc : r.call i = none) (h : r.object i = some wd) :
    L.edit wd (r.object (i + 1)) ∧
      Touched L.touch ((r.cluster i).dependent wd) ((r.cluster (i + 1)).dependent wd) := by
  rcases r.step_cases with ⟨api', hc', _⟩ | ⟨_, _, hd⟩
  · rw [hc] at hc'
    cases hc'
  · have he := hd.1
    rw [show (r.cluster i).getWD L.key = some wd from h] at he
    exact ⟨he, hd.2 wd h⟩

theorem started {wd : WorkloadDependency} (h : r.object 0 = some wd) :
    L.start wd ((r.cluster 0).dependent wd) := by
  obtain ⟨wd₀, h₀, hs⟩ := TransitionSystem.Run.start r
  obtain rfl : wd₀ = wd := Option.some.inj (h₀.symm.trans h)
  exact hs

theorem object_pred {wd : WorkloadDependency} (h : r.object (i + 1) = some wd) :
    ∃ wd₀, r.object i = some wd₀ := by
  cases ho : r.object i with
  | some wd₀ => exact ⟨wd₀, rfl⟩
  | none =>
    rcases r.step_cases with ⟨api, _, _, hn, _⟩ | ⟨_, _, hdist⟩
    · have hsame : r.cluster (i + 1) = r.cluster i := hn.trans (reconcile_absent _ ho)
      rw [object, hsame] at h
      cases ho.symm.trans h
    · have he := hdist.1
      rw [show (r.cluster i).getWD L.key = none from ho] at he
      cases h.symm.trans he

theorem target_succ {wd wd' : WorkloadDependency} (h : r.object i = some wd)
    (h' : r.object (i + 1) = some wd') : wd.SameTarget wd' := by
  cases hc : r.call i with
  | some api =>
    have ht := (r.transition hc h).2
    rw [h'] at ht
    exact ht.target
  | none =>
    have he := (r.disturbed hc h).1
    rw [h'] at he
    exact (L.untouched _ _ he).target

/-- The invariant rule of a life, for as long as the object exists. -/
theorem induct_all {I : ℕ → WorkloadDependency → Option WorkloadObject → Prop}
    (start : ∀ wd w, L.start wd w → I 0 wd w)
    (reconcile : ∀ i api wd wd' w', r.call i = some api → r.object i = some wd →
      r.object (i + 1) = some wd' → L.calls wd api → I i wd ((r.cluster i).dependent wd) →
      Transition api (r.clock i) (r.cluster i) L.key wd ((r.cluster i).dependent wd) (some wd')
        w' (r.patches i) → I (i + 1) wd' w')
    (environment : ∀ i wd wd' w', r.call i = none → r.object i = some wd →
      r.object (i + 1) = some wd' → I i wd ((r.cluster i).dependent wd) → L.edit wd (some wd') →
      Touched L.touch ((r.cluster i).dependent wd) w' → I (i + 1) wd' w')
    (i : ℕ) {wd : WorkloadDependency} (h : r.object i = some wd) :
    I i wd ((r.cluster i).dependent wd) := by
  induction i generalizing wd with
  | zero => exact start _ _ (r.started h)
  | succ i ih =>
    obtain ⟨wd₀, ho⟩ := r.object_pred h
    rw [(r.target_succ ho h).dependent]
    cases hc : r.call i with
    | some api =>
      obtain ⟨hcalls, ht⟩ := r.transition hc ho
      rw [h] at ht
      exact reconcile i api wd₀ wd _ hc ho h hcalls (ih ho) ht
    | none =>
      obtain ⟨he, ht⟩ := r.disturbed hc ho
      rw [h] at he
      exact environment i wd₀ wd _ hc ho h (ih ho) he ht

theorem induct {I : ℕ → WorkloadDependency → Option WorkloadObject → Prop}
    (start : ∀ wd w, L.start wd w → I 0 wd w)
    (reconcile : ∀ i api wd wd' w', r.call i = some api → r.object i = some wd →
      r.object (i + 1) = some wd' → wd.deletionTimestamp = none → L.calls wd api →
      I i wd ((r.cluster i).dependent wd) → wd.SameSpec wd' → Advance api (r.clock i)
        (r.cluster i) L.key wd ((r.cluster i).dependent wd) wd'.memory w' (r.patches i) →
      I (i + 1) wd' w')
    (environment : ∀ i wd wd' w', r.call i = none → r.object i = some wd →
      r.object (i + 1) = some wd' → I i wd ((r.cluster i).dependent wd) → L.edit wd (some wd') →
      Touched L.touch ((r.cluster i).dependent wd) w' → I (i + 1) wd' w')
    (i : ℕ) {wd : WorkloadDependency} (h : r.object i = some wd)
    (hd : wd.deletionTimestamp = none) : I i wd ((r.cluster i).dependent wd) := by
  refine r.induct_all (I := fun i wd w => wd.deletionTimestamp = none → I i wd w)
    ?_ ?_ ?_ i h hd
  · intro wd w hs _
    exact start wd w hs
  · intro i api wd wd' w' hc ho ho' hcalls hi ht hd'
    have hd : wd.deletionTimestamp = none := by
      by_contra hne
      have := ht.deleted (Option.ne_none_iff_isSome.mp hne)
      simp [hd'] at this
    obtain ⟨wd'', heq, hspec, ha⟩ := ht.advance hd
    obtain rfl := Option.some.inj heq
    exact reconcile i api wd wd' w' hc ho ho' hd hcalls (hi hd) hspec ha
  · intro i wd wd' w' hc ho ho' hi he ht hd'
    have hd : wd.deletionTimestamp = none := by
      by_contra hne
      have := (L.untouched _ _ he).deletion (Option.ne_none_iff_isSome.mp hne)
      simp [hd'] at this
    exact environment i wd wd' w' hc ho ho' (hi hd) he ht

theorem present (hs : ∀ wd w, L.start wd w → ∃ obj, w = some obj)
    (ht : ∀ obj w, L.touch obj w → ∃ obj', w = some obj') {i : ℕ} {wd : WorkloadDependency}
    (h : r.object i = some wd) : ∃ obj, (r.cluster i).dependent wd = some obj := by
  refine r.induct_all (I := fun _ _ w => ∃ obj, w = some obj) hs ?_ ?_ i h
  · intro i api wd wd' w' _ _ _ _ hi htr
    obtain ⟨obj, hw⟩ := hi
    rw [hw] at htr
    obtain ⟨obj', hw', _⟩ := htr.dependent_exists
    exact ⟨obj', hw'⟩
  · intro i wd wd' w' _ _ _ hi _ htouch
    obtain ⟨obj, hw⟩ := hi
    rw [hw] at htouch
    exact ht obj w' htouch

theorem kind {P : WorkloadKind → Prop} (hs : ∀ wd obj, L.start wd (some obj) → P obj.kind)
    (ht : ∀ obj obj', L.touch obj (some obj') → obj'.kind = obj.kind) {i : ℕ}
    {wd : WorkloadDependency} {obj : WorkloadObject} (h : r.object i = some wd)
    (hobj : (r.cluster i).dependent wd = some obj) : P obj.kind := by
  refine r.induct_all (I := fun _ _ w => ∀ obj, w = some obj → P obj.kind) ?_ ?_ ?_ i h obj hobj
  · rintro wd w hstart obj rfl
    exact hs wd obj hstart
  · rintro i api wd wd' w' _ _ _ _ hi htr obj rfl
    have hk := htr.dependent_kind
    cases hw : (r.cluster i).dependent wd with
    | none => rw [hw] at hk; cases hk
    | some obj₀ =>
      rw [hw] at hk
      rw [show obj.kind = obj₀.kind from Option.some.inj hk]
      exact hi obj₀ hw
  · rintro i wd wd' w' _ _ _ hi _ htouch obj rfl
    obtain ⟨obj₀, hw, htouched⟩ := htouch.of_some
    rw [ht obj₀ obj htouched]
    exact hi obj₀ hw

theorem living (hl : ∀ wd wd', L.edit wd (some wd') → wd'.deletionTimestamp = wd.deletionTimestamp)
    {i : ℕ} {wd : WorkloadDependency} (h : r.object i = some wd) :
    wd.deletionTimestamp = none := by
  induction i generalizing wd with
  | zero => exact (L.fresh _ _ (r.started h)).2
  | succ i ih =>
    obtain ⟨wd₀, ho⟩ := r.object_pred h
    cases hc : r.call i with
    | some api =>
      obtain ⟨wd', hwd', hspec, _⟩ := (r.transition hc ho).2.advance (ih ho)
      obtain rfl : wd' = wd := Option.some.inj (hwd'.symm.trans h)
      exact hspec.deletionTimestamp.trans (ih ho)
    | none =>
      have he := (r.disturbed hc ho).1
      rw [h] at he
      exact (hl _ _ he).trans (ih ho)

theorem specified {P : WorkloadDependency → Prop}
    (hP : ∀ wd wd', wd'.spec = wd.spec → wd'.annotationPaused = wd.annotationPaused →
      P wd → P wd')
    (he : ∀ wd wd', L.edit wd (some wd') →
      wd'.spec = wd.spec ∧ wd'.annotationPaused = wd.annotationPaused)
    (hs : ∀ wd w, L.start wd w → P wd) {i : ℕ} {wd : WorkloadDependency}
    (h : r.object i = some wd) (hd : wd.deletionTimestamp = none) : P wd := by
  refine r.induct (I := fun _ wd _ => P wd) hs ?_ ?_ i h hd
  · intro i api wd wd' w' _ _ _ _ _ hi hspec _
    exact hP wd wd' hspec.spec hspec.annotationPaused hi
  · intro i wd wd' w' _ _ _ hi hedit _
    exact hP wd wd' (he wd wd' hedit).1 (he wd wd' hedit).2 hi

theorem active (hs : ∀ wd w, L.start wd w → wd.Active)
    (he : ∀ wd wd', L.edit wd (some wd') → wd.Active → wd'.Active) {i : ℕ}
    {wd : WorkloadDependency} (h : r.object i = some wd) (hd : wd.deletionTimestamp = none) :
    wd.Active := by
  refine r.induct (I := fun _ wd _ => wd.Active) hs ?_ ?_ i h hd
  · intro i api wd wd' w' _ _ _ _ _ hi hspec _
    exact ⟨hspec.enforces.mpr hi.enforces, hspec.isPaused.trans hi.unpaused⟩
  · intro i wd wd' w' _ _ _ hi hedit _
    exact he wd wd' hedit hi

theorem blank {wd : WorkloadDependency} (h : r.object i = some wd)
    (hd : wd.deletionTimestamp = none) (hf : wd.containsFinalizer = false) :
    wd.memory.Blank := by
  refine r.induct (I := fun _ wd _ => wd.containsFinalizer = false → wd.memory.Blank)
    ?_ ?_ ?_ i h hd hf
  · intro wd w hs _
    exact ⟨.unset, Or.inl rfl, (L.fresh wd w hs).1⟩
  · intro i api wd wd' w' _ ho _ _ _ hi hspec ha hf'
    have hf : wd.containsFinalizer = false := by
      by_contra hne
      simp [hspec.finalizer (by simpa using hne)] at hf'
    generalize wd'.memory = m, r.patches i = ps at ha ⊢
    cases ha with
    | still _ => exact hi hf
    | report _ hp hst =>
      rcases hp with ⟨rfl, _⟩ | ⟨_, hf'', _⟩
      · obtain ⟨phase, _, hb⟩ := hi hf
        refine ⟨.unknown, Or.inr rfl, ?_⟩
        rw [hb] at hst
        rcases hst.2 with rfl | ⟨_, rfl⟩ <;> rfl
      · simp [hf] at hf''
    | refused hs => simp [(sighting_spec hs ho).2.1] at hf
    | act hs => simp [(sighting_spec hs ho).2.1] at hf
    | move hs => simp [(sighting_spec hs ho).2.1] at hf
  · intro i wd wd' w' _ _ _ hi he _ hf'
    have hu := L.untouched _ _ he
    rw [hu.memory]
    apply hi
    rw [WorkloadDependency.containsFinalizer, ← hu.finalizers]
    exact hf'

theorem finalizer_of_suspended {wd : WorkloadDependency} (h : r.object i = some wd)
    (hd : wd.deletionTimestamp = none) (hp : wd.status.phase = .suspended) :
    wd.containsFinalizer = true := by
  by_contra hne
  obtain ⟨phase, hph, hb⟩ := r.blank h hd (by simpa using hne)
  have hp' : wd.memory.phase = phase := by rw [hb]
  rcases hph with rfl | rfl <;> cases hp.symm.trans hp'

end Life.Run

section Scripts

def runs (req : NamespacedName) (api : Api) (_ : World) : Happening := .reconcile req api

def waits (d : Int) (s : World) : Happening := .environment ⟨s.cluster, s.clock + d⟩

def sets (k : NamespacedName) (w : WorkloadObject) (s : World) : Happening :=
  .environment ⟨s.cluster.putWorkload k w, s.clock⟩

def edits (k : NamespacedName) (f : WorkloadDependency → WorkloadDependency)
    (hf : ∀ wd, (f wd).key = wd.key) (s : World) : Happening :=
  .environment ⟨{ s.cluster with wds := s.cluster.wds.modify k f hf }, s.clock⟩

def World.after (s : World) (es : List (World → Happening)) : World :=
  es.foldl (fun s e => s.next (e s)) s

structure Life.Idles (L : Life) : Prop where
  edit : ∀ wd, L.edit wd (some wd)
  touch : ∀ w, L.touch w (some w)

variable {L : Life} {s : World}

theorem Touched.refl {α : Type*} {touch : α → Option α → Prop} (h : ∀ a, touch a (some a))
    (o : Option α) : Touched touch o o := by
  cases o with
  | none => rfl
  | some a => exact h a

theorem Life.Idles.enabled_waits (hL : L.Idles) {d : Int} (hd : 0 ≤ d) :
    L.rules.enabled s (waits d s) :=
  ⟨by simpa using hd, .refl hL.edit _, fun _ _ => .refl hL.touch _⟩

theorem Life.enabled_runs {api : Api} (h : ∀ wd, L.calls wd api) :
    L.rules.enabled s (runs L.key api s) := ⟨rfl, fun wd _ => h wd⟩

theorem Life.Idles.enabled_puts (hL : L.Idles) {k : NamespacedName} {w : WorkloadObject}
    (ht : ∀ wd, s.cluster.getWD L.key = some wd → Touched L.touch (s.cluster.dependent wd)
      ((s.cluster.putWorkload k w).dependent wd)) : L.rules.enabled s (sets k w s) := by
  refine ⟨le_refl _, ?_, ht⟩
  rw [Cluster.getWD_putWorkload]
  exact .refl hL.edit _

theorem Life.Idles.enabled_sets (hL : L.Idles) {k : NamespacedName} {w : WorkloadObject}
    (hk : (s.cluster.getWD L.key).all (fun wd => decide (wd.dependentKey ≠ k)) = true) :
    L.rules.enabled s (sets k w s) := by
  apply hL.enabled_puts
  intro wd h
  rw [h] at hk
  have hne : wd.dependentKey ≠ k := by simpa using hk
  have hsame : (s.cluster.putWorkload k w).dependent wd = s.cluster.dependent wd :=
    s.cluster.workload_putWorkload_ne (Or.inr hne)
  rw [hsame]
  exact .refl hL.touch _

theorem Life.Idles.enabled_touch (hL : L.Idles) {k : NamespacedName} {w w' : WorkloadObject}
    (hk : (s.cluster.getWD L.key).all (fun wd => decide (wd.dependentKind = w'.kind ∧
      wd.dependentKey = k ∧ s.cluster.dependent wd = some w)) = true)
    (ht : L.touch w (some w')) : L.rules.enabled s (sets k w' s) := by
  apply hL.enabled_puts
  intro wd h
  rw [h] at hk
  obtain ⟨hkind, hkey, hw⟩ : wd.dependentKind = w'.kind ∧ wd.dependentKey = k ∧
    s.cluster.dependent wd = some w := by simpa using hk
  have hself : (s.cluster.putWorkload k w').dependent wd = some w' := by
    unfold Cluster.dependent
    rw [hkind, hkey]
    exact s.cluster.workload_putWorkload_self _ _
  rw [hw, hself]
  exact ht

theorem Life.Idles.enabled_edits (hL : L.Idles) {f : WorkloadDependency → WorkloadDependency}
    (hf : ∀ wd, (f wd).key = wd.key)
    (he : ∀ wd, s.cluster.getWD L.key = some wd → L.edit wd (some (f wd))) :
    L.rules.enabled s (edits L.key f hf s) := by
  refine ⟨le_refl _, ?_, fun _ _ => .refl hL.touch _⟩
  have hget : ({ s.cluster with wds := s.cluster.wds.modify L.key f hf } : Cluster).getWD L.key =
      (s.cluster.getWD L.key).map f := s.cluster.wds.get?_modify_self L.key f hf
  rw [hget]
  cases hg : s.cluster.getWD L.key with
  | none => rfl
  | some wd => exact he wd hg

/-- The run that follows a script and then idles. -/
def Life.scripted (L : Life) (hL : L.Idles) (s : World) (hs : L.rules.start s.cluster)
    (es : List (World → Happening)) (h : Playable L.rules.system s es) : L.Run :=
  Run.ofScript hs es h .environment
    (fun _ => ⟨⟨le_refl _, .refl hL.edit _, fun _ _ => .refl hL.touch _⟩, rfl⟩)

end Scripts

/-! A small cluster: `web` depends on the StatefulSet `db`. -/

def demoKey : NamespacedName := ⟨"default", "web-needs-db"⟩

def webKey : NamespacedName := ⟨"default", "web"⟩

def dbKey : NamespacedName := ⟨"default", "db"⟩

def demoObject (kind : String) (mode : EnforcementMode) (maxSuspend : Int) :
    WorkloadDependency where
  name := "web-needs-db"
  ns := "default"
  generation := 1
  deletionTimestamp := none
  finalizers := []
  annotationPaused := none
  spec := ⟨⟨kind, "web", ""⟩, [⟨"StatefulSet", "db", "", ⟨0, 0, 0⟩⟩], ⟨maxSuspend⟩, mode, none⟩
  status := .empty

def demoDb (ready : Int32) : WorkloadObject := .statefulSet ⟨some 1, ready⟩

/-- The dependency is down from the start. -/
def demoWorld (wd : WorkloadDependency) (web : WorkloadObject) : World where
  cluster := Cluster.putWorkload (Cluster.putWorkload
    ⟨⟨[wd], by simp⟩, fun _ => none, fun _ => none, fun _ => none, fun _ => none⟩ webKey web)
    dbKey (demoDb 0)
  clock := 0

def demoDeployment : World :=
  demoWorld (demoObject "Deployment" .strict 0) (.deployment ⟨some 3, 3⟩)

def demoRollout (maxSuspend : Int) : World :=
  demoWorld (demoObject "Rollout" .strict maxSuspend) (.rollout ⟨some 3, .healthy⟩)

end Klink
