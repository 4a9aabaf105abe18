import Klink.CycleAdmission
import Klink.WatchMapping

/-! # Reconciles that do not get into each other's way

What a Reconcile reads and what it writes, said once: it reads its object, its dependent, its
dependencies, the objects filed under their names and, before the finalizer is there, the
references of its namespace. It writes its dependent and its own object. Two Reconciles that do
not read what the other writes give the same outcomes and the same cluster in either order, and a
round of such Reconciles may be run in any order.
-/
namespace Klink

open KeyedStore TransitionSystem

/-! ## What a Reconcile writes -/

inductive ObjectWrite where
  | skip
  | status (w : WorkloadDependency)
  | object (w : WorkloadDependency)

def Cluster.putWrite (c : Cluster) : ObjectWrite → Cluster
  | .skip => c
  | .status w => c.putStatus w
  | .object w => c.putObject w

inductive ObjectWrite.Of (req : NamespacedName) (wd : WorkloadDependency) : ObjectWrite → Prop where
  | skip : ObjectWrite.Of req wd .skip
  | status {w} : w.key = req → ObjectWrite.Of req wd (.status w)
  | finalized : wd.deletionTimestamp = none → ObjectWrite.Of req wd (.object wd.addFinalizer)
  | released : wd.deletionTimestamp.isSome = true →
      ObjectWrite.Of req wd (.object wd.removeFinalizer)

/-- The effects come down to a patch of the dependent and a write of the object, in every
cluster. -/
def Amounts (req : NamespacedName) (wd : WorkloadDependency) (es : List Effect) : Prop :=
  ∃ patch write, (∀ a, patch = some a → a.kind = wd.dependentKind) ∧ ObjectWrite.Of req wd write ∧
    ∀ c : Cluster, c.applyAll es = (c.putPatch wd.dependentKey patch).putWrite write

section Writes

variable {api : Api} {now : Int} {c : Cluster} {req : NamespacedName}
  {wd caller : WorkloadDependency} {phase : DependencyPhase} {msg : String}
  {patch : Option WorkloadObject} {es : List Effect}

theorem Amounts.nothing (h : ∀ c : Cluster, c.applyAll es = c) : Amounts req wd es :=
  ⟨none, .skip, by simp, .skip, h⟩

theorem Amounts.attempt (now : Int) (phase : DependencyPhase) (msg : String)
    (patch : Option WorkloadObject) (hk : wd.key = req)
    (hr : api.statusUpdate 0 = .ok ∨ api.Honest wd) (hc : wd.SameObject caller)
    (hp : ∀ a, patch = some a → a.kind = wd.dependentKind)
    (he : ∀ c : Cluster, c.applyAll es = (c.putPatch wd.dependentKey patch).storeAttempt
      (statusAttempt api now caller phase msg).2) : Amounts req wd es := by
  cases ha : (statusAttempt api now caller phase msg).2 with
  | written w =>
    rw [ha] at he
    refine ⟨patch, .status w, hp, .status ?_, he⟩
    rcases statusAttempt_written hr ha with rfl | ⟨_, rfl⟩
    · rw [applyFields_key, hc.key, hk]
    · rw [applyFields_key, hk]
  | exhausted =>
    rw [ha] at he
    exact ⟨patch, .skip, hp, .skip, he⟩
  | failed e =>
    rw [ha] at he
    exact ⟨patch, .skip, hp, .skip, he⟩

theorem Amounts.report {result : Option Result} (fs : List Effect) (hk : wd.key = req)
    (hr : api.statusUpdate 0 = .ok ∨ api.Honest wd) (hs : Silent fs) :
    Amounts req wd (fs ++ (setStatus api now wd phase msg result).effects) := by
  refine Amounts.attempt now phase msg none hk hr (.refl wd) (by simp) ?_
  intro c
  rw [Cluster.applyAll_append, hs.2, applyAll_setStatus]
  rfl

theorem Amounts.removal (patch : Option WorkloadObject) (fs : List Effect)
    (hd : wd.deletionTimestamp.isSome = true)
    (hp : ∀ a, patch = some a → a.kind = wd.dependentKind)
    (hf : ∀ c : Cluster, c.applyAll fs = c.putPatch wd.dependentKey patch) :
    Amounts req wd (fs ++ (removeFinalizerOutcome api wd).effects) := by
  by_cases hu : api.update = .ok
  · refine ⟨patch, .object wd.removeFinalizer, hp, .released hd, ?_⟩
    intro c
    rw [Cluster.applyAll_append, applyAll_removeFinalizer, if_pos hu, hf]
    rfl
  · refine ⟨patch, .skip, hp, .skip, ?_⟩
    intro c
    rw [Cluster.applyAll_append, applyAll_removeFinalizer, if_neg hu, hf]
    rfl

theorem handleDeletion_amounts (hd : wd.deletionTimestamp.isSome = true) :
    Amounts req wd (handleDeletion api c wd).effects := by
  have hdrop : Amounts req wd (removeFinalizerOutcome api wd).effects :=
    Amounts.removal none [] hd (by simp) (fun _ => rfl)
  have hexit : DeletionExit api c wd (handleDeletion api c wd) := handleDeletion_exit api c wd
  generalize handleDeletion api c wd = o at hexit ⊢
  cases hexit with
  | dropped => exact hdrop
  | unread => exact .nothing (fun _ => rfl)
  | refused _ _ _ ha => exact .nothing ha.cluster
  | undone _ _ hw ha =>
    refine Amounts.removal _ _ hd ?_ ha.cluster
    exact fun a hp => (Deed.patch_kind (d := .restore) hp).trans (c.workload_kind hw)

theorem ensureFinalizer_amounts (hk : wd.key = req)
    (hr : api.statusUpdate 0 = .ok ∨ api.Honest wd) (hd : wd.deletionTimestamp = none) :
    Amounts req wd (ensureFinalizer api now c wd).effects := by
  have hexit : FinalizerExit api now c wd (ensureFinalizer api now c wd) :=
    ensureFinalizer_exit api now c wd
  generalize ensureFinalizer api now c wd = o at hexit ⊢
  cases hexit with
  | turnedAway => exact .report _ hk hr (silent_event _)
  | @sent call =>
    cases call with
    | ok =>
      exact ⟨none, .object wd.addFinalizer, by simp, .finalized hd, fun _ => rfl⟩
    | conflict => exact .nothing (fun _ => rfl)
    | failed => exact .nothing (fun _ => rfl)

theorem reconcile_amounts (now : Int) (h : c.getWD req = some wd)
    (hr : api.statusUpdate 0 = .ok ∨ api.Honest wd) :
    Amounts req wd (reconcile api now c req).effects := by
  have hk : wd.key = req := c.getWD_key h
  have hexit : Exit api now c req wd (reconcile api now c req) := reconcile_exit now h
  generalize reconcile api now c req = o at hexit ⊢
  cases hexit with
  | failed => exact .nothing (fun _ => rfl)
  | deletion hd => exact handleDeletion_amounts hd
  | unfinalized hd => exact ensureFinalizer_amounts hk hr hd
  | reported => exact Amounts.report [] hk hr ⟨rfl, fun _ => rfl⟩
  | @dispatched obj ev hs hw =>
    obtain ⟨d, write, _, hperf, _⟩ := dispatch_spec api now wd ⟨wd.dependentKey, obj⟩ ev
    have hkind : ∀ a, d.patch wd.status.savedReplicas obj = some a → a.kind = wd.dependentKind :=
      fun _ ha => (Deed.patch_kind ha).trans (c.workload_kind hw)
    cases hperf with
    | refused _ _ he => exact .nothing he
    | waited _ he => exact ⟨_, .skip, hkind, .skip, he⟩
    | wrote _ hf he => exact .attempt now _ _ _ hk hr hf hkind he

end Writes

/-! ## Writes of different objects commute -/

section Commuting

variable {c : Cluster} {k k' : NamespacedName} {wd wd' : WorkloadDependency}
  {patch patch' : Option WorkloadObject} {write write' : ObjectWrite}

theorem putPatch_putWrite_comm (c : Cluster) (k : NamespacedName) (patch : Option WorkloadObject)
    (write : ObjectWrite) :
    (c.putWrite write).putPatch k patch = (c.putPatch k patch).putWrite write := by
  cases patch with
  | none => rfl
  | some a =>
    cases write with
    | skip => rfl
    | status w => cases a <;> rfl
    | object w =>
      unfold Cluster.putWrite Cluster.putObject
      cases a <;> dsimp only [Cluster.putPatch, Cluster.putWorkload] <;> split <;> rfl

theorem putWorkload_comm {a b : WorkloadObject} (c : Cluster) (h : a.kind ≠ b.kind ∨ k ≠ k') :
    (c.putWorkload k a).putWorkload k' b = (c.putWorkload k' b).putWorkload k a := by
  have hk : a.kind = b.kind → k ≠ k' := fun he => h.resolve_left (fun hne => hne he)
  cases a <;> cases b <;> first
    | rfl
    | (dsimp only [Cluster.putWorkload]; rw [Function.update_comm (hk rfl)])

theorem putPatch_comm (c : Cluster) (hp : ∀ a, patch = some a → a.kind = wd.dependentKind)
    (hp' : ∀ a, patch' = some a → a.kind = wd'.dependentKind) (h : wd.target ≠ wd'.target) :
    (c.putPatch wd.dependentKey patch).putPatch wd'.dependentKey patch' =
      (c.putPatch wd'.dependentKey patch').putPatch wd.dependentKey patch := by
  cases patch with
  | none => rfl
  | some a =>
    cases patch' with
    | none => rfl
    | some b =>
      apply putWorkload_comm
      by_contra hne
      obtain ⟨hkind, hkey⟩ := not_or.mp hne
      apply h
      unfold WorkloadDependency.target
      rw [← hp a rfl, ← hp' b rfl, not_not.mp hkind, not_not.mp hkey]

theorem ObjectWrite.Of.wds (h : ObjectWrite.Of k wd write) (hk : wd.key = k) :
    (∀ c : Cluster, (c.putWrite write).wds = c.wds) ∨
      (∃ f, ∃ hf : ∀ a : WorkloadDependency, (f a).key = a.key, (f wd).spec = wd.spec ∧
        ∀ c : Cluster, (c.putWrite write).wds = c.wds.modify k f hf) ∨
      (wd.deletionTimestamp.isSome = true ∧
        ∀ c : Cluster, (c.putWrite write).wds = c.wds.erase k) := by
  have hmodify : ∀ w : WorkloadDependency, w.key = k → w.spec = wd.spec →
      ¬ (w.deletionTimestamp.isSome ∧ w.finalizers = []) →
      ∃ f, ∃ hf : ∀ a : WorkloadDependency, (f a).key = a.key, (f wd).spec = wd.spec ∧
        ∀ c : Cluster, (c.putObject w).wds = c.wds.modify k f hf := by
    rintro w rfl hs hstays
    refine ⟨w.withObjectOf, fun _ => rfl, hs, ?_⟩
    intro c
    rw [Cluster.putObject, if_neg hstays]
  cases h with
  | skip => exact Or.inl (fun _ => rfl)
  | @status w hw =>
    subst hw
    exact Or.inr (Or.inl ⟨w.withStatusOf, fun _ => rfl, rfl, fun _ => rfl⟩)
  | finalized hd =>
    have hspec := wd.addFinalizer_sameSpec
    refine Or.inr (Or.inl (hmodify _ (hspec.key.trans hk) hspec.spec ?_))
    rw [hspec.deletionTimestamp, hd]
    simp
  | released hd =>
    subst hk
    by_cases hgone : wd.removeFinalizer.finalizers = []
    · refine Or.inr (Or.inr ⟨hd, ?_⟩)
      intro c
      change (c.putObject wd.removeFinalizer).wds = _
      rw [Cluster.putObject, if_pos ⟨hd, hgone⟩]
      rfl
    · exact Or.inr (Or.inl (hmodify _ rfl rfl (fun hg => hgone hg.2)))

theorem putWrite_frame (c : Cluster) (write : ObjectWrite) :
    c.putWrite write = { c with wds := (c.putWrite write).wds } := by
  cases write with
  | skip => rfl
  | status w => rfl
  | object w =>
    unfold Cluster.putWrite Cluster.putObject
    dsimp only
    split <;> rfl

theorem putWrite_comm (h : ObjectWrite.Of k wd write) (hk : wd.key = k)
    (h' : ObjectWrite.Of k' wd' write') (hk' : wd'.key = k') (hne : k ≠ k') (c : Cluster) :
    (c.putWrite write).putWrite write' = (c.putWrite write').putWrite write := by
  have hwds : ((c.putWrite write).putWrite write').wds =
      ((c.putWrite write').putWrite write).wds := by
    rcases h.wds hk with hw | ⟨f, hf, _, hw⟩ | ⟨_, hw⟩
    · rw [hw]
      rcases h'.wds hk' with hw' | ⟨f', hf', _, hw'⟩ | ⟨_, hw'⟩
      · rw [hw', hw', hw]
      · rw [hw', hw', hw]
      · rw [hw', hw', hw]
    · rw [hw]
      rcases h'.wds hk' with hw' | ⟨f', hf', _, hw'⟩ | ⟨_, hw'⟩
      · rw [hw', hw', hw]
      · rw [hw', hw', hw, Store.modify_comm _ hne]
      · rw [hw', hw', hw, Store.erase_modify_comm]
    · rw [hw]
      rcases h'.wds hk' with hw' | ⟨f', hf', _, hw'⟩ | ⟨_, hw'⟩
      · rw [hw', hw', hw]
      · rw [hw', hw', hw, Store.erase_modify_comm]
      · rw [hw', hw', hw, Store.erase_comm]
  rw [putWrite_frame (c.putWrite write), putWrite_frame (c.putWrite write'), hwds,
    putWrite_frame c write, putWrite_frame c write']

theorem Amounts.comm {es es' : List Effect} (h : Amounts k wd es) (hk : wd.key = k)
    (h' : Amounts k' wd' es') (hk' : wd'.key = k') (hne : k ≠ k')
    (ht : wd.target ≠ wd'.target) (c : Cluster) :
    (c.applyAll es).applyAll es' = (c.applyAll es').applyAll es := by
  obtain ⟨patch, write, hp, hw, he⟩ := h
  obtain ⟨patch', write', hp', hw', he'⟩ := h'
  rw [he, he', he', he, putPatch_putWrite_comm, putPatch_putWrite_comm,
    putPatch_comm c hp hp' ht, putWrite_comm hw hk hw' hk' hne]

end Commuting

/-! ## What a Reconcile reads -/

/-- A Reconcile of `wd` reads nothing that a Reconcile of `wd'` writes. -/
structure Unread (wd wd' : WorkloadDependency) : Prop where
  lookups : indexDependentName wd' ∉ indexDependsOnName wd
  graph : wd.deletionTimestamp = none → wd.containsFinalizer = false →
    wd'.deletionTimestamp = none ∨ wd'.ns ≠ wd.ns

structure Unrelated (wd wd' : WorkloadDependency) : Prop where
  target : wd.target ≠ wd'.target
  left : Unread wd wd'
  right : Unread wd' wd

theorem Unrelated.symm {wd wd' : WorkloadDependency} (h : Unrelated wd wd') : Unrelated wd' wd :=
  ⟨h.target.symm, h.right, h.left⟩

section Reading

variable {api : Api} {now : Int} {c c' : Cluster} {req k : NamespacedName}
  {wd wd' : WorkloadDependency} {es : List Effect} {write : ObjectWrite}

theorem downStatus_filed {ns name : String}
    (h : ∀ w : WorkloadDependency, indexDependentName w = ns ++ "/" ++ name →
      (w ∈ c'.wds.items ↔ w ∈ c.wds.items)) (call : CallResult) :
    downStatus call c' name ns = downStatus call c name ns := by
  have hany : ∀ p : WorkloadDependency → Bool,
      (∀ w, p w = true → indexDependentName w = ns ++ "/" ++ name) →
      c'.wds.items.any p = c.wds.items.any p := by
    intro p hp
    rw [Bool.eq_iff_iff, List.any_eq_true, List.any_eq_true]
    constructor
    · rintro ⟨w, hin, hpw⟩
      exact ⟨w, (h w (hp w hpw)).mp hin, hpw⟩
    · rintro ⟨w, hin, hpw⟩
      exact ⟨w, (h w (hp w hpw)).mpr hin, hpw⟩
  unfold downStatus isSuspendedByKlink
  rw [hany _ (fun w hpw => (of_decide_eq_true hpw).1)]

def Cluster.references (c : Cluster) (ns : String) :
    List (NamespacedName × List (WorkloadKey × WorkloadKey)) :=
  (c.listNamespace ns).map (fun w => (w.key, w.edges))

theorem detectCycle_references (h : c'.references wd.ns = c.references wd.ns) :
    detectCycle (c'.listNamespace wd.ns) wd = detectCycle (c.listNamespace wd.ns) wd := by
  have hedges : ∀ c : Cluster, dependencyEdges (c.listNamespace wd.ns) wd =
      ((c.references wd.ns).filter (fun r => decide (r.1 ≠ wd.key))).flatMap Prod.snd ++
        wd.edges := by
    intro c
    unfold dependencyEdges Cluster.references
    rw [List.filter_map, List.flatMap_map]
    rfl
  unfold detectCycle
  rw [hedges, hedges, h]

theorem Amounts.confined (h : Amounts req wd es) (hk : wd.key = req) (c : Cluster) :
    Confined c req wd (c.applyAll es) := by
  obtain ⟨patch, write, hp, hw, he⟩ := h
  rw [he]
  refine ⟨patch, hp, ?_⟩
  cases hw with
  | skip => exact Or.inl rfl
  | @status w hw => exact Or.inr ⟨w, hw, Or.inl rfl⟩
  | finalized => exact Or.inr ⟨_, wd.addFinalizer_sameSpec.key.trans hk, Or.inr rfl⟩
  | released => exact Or.inr ⟨wd.removeFinalizer, hk, Or.inr rfl⟩

theorem Cluster.putPatch_wds (c : Cluster) (k : NamespacedName) (patch : Option WorkloadObject) :
    (c.putPatch k patch).wds = c.wds := by
  cases patch with
  | none => rfl
  | some a => cases a <;> rfl

theorem ObjectWrite.Of.spec (h : ObjectWrite.Of req wd write) (hg : c.getWD req = some wd)
    {w : WorkloadDependency} (hw : (c.putWrite write).getWD req = some w) : w.spec = wd.spec := by
  unfold Cluster.getWD at hg hw
  rcases h.wds (c.getWD_key hg) with hwds | ⟨f, hf, hs, hwds⟩ | ⟨_, hwds⟩
  · rw [hwds, hg] at hw
    rw [Option.some.inj hw]
  · rw [hwds, Store.get?_modify_self, hg] at hw
    rw [← Option.some.inj hw]
    exact hs
  · rw [hwds, Store.get?_erase_self] at hw
    cases hw

theorem ObjectWrite.Of.references (h : ObjectWrite.Of req wd write)
    (hg : c.getWD req = some wd) {ns : String}
    (hn : wd.deletionTimestamp = none ∨ wd.ns ≠ ns) :
    (c.putWrite write).references ns = c.references ns := by
  have hk : wd.key = req := c.getWD_key hg
  have hmap : ∀ c : Cluster, c.references ns =
      (c.wds.items.map (fun w => (w.key, w.edges))).filter (fun r => decide (r.1.ns = ns)) := by
    intro c
    rw [List.filter_map]
    rfl
  rcases h.wds hk with hwds | ⟨f, hf, hs, hwds⟩ | ⟨hd, hwds⟩
  · rw [hmap, hwds, ← hmap]
  · rw [hmap, hwds, Store.map_modify, ← hmap]
    intro a ha hak
    obtain rfl : a = wd := c.wds.key_injOn ha (c.mem_wds hg) (hak.trans hk.symm)
    rw [hf a, WorkloadDependency.edges_congr hs (hf a)]
  · rcases hn with hn | hn
    · rw [hn] at hd
      cases hd
    · unfold Cluster.references Cluster.listNamespace
      rw [hwds]
      congr 1
      change (c.wds.items.filter _).filter _ = _
      rw [List.filter_filter]
      apply List.filter_congr
      intro a _
      by_cases ha : a.ns = ns
      · have : a.key ≠ req := by
          rintro rfl
          exact hn ((congrArg NamespacedName.ns hk).trans ha)
        simp [ha, this]
      · simp [ha]

/-- A Reconcile of `wd'` leaves the reads of one of `wd` alone. -/
theorem Amounts.alike (h : Amounts k wd' es) (hg : c.getWD k = some wd')
    (ht : wd'.target ≠ wd.target) (hu : Unread wd wd') : ReadsAlike wd c (c.applyAll es) := by
  have hk : wd'.key = k := c.getWD_key hg
  have hconf := h.confined hk c
  have hindex : ∀ dep ∈ wd.spec.dependsOn,
      indexDependentName wd' ≠ wd.dependsOnNs dep ++ "/" ++ dep.name := by
    intro dep hdep he
    apply hu.lookups
    rw [he]
    exact List.mem_map_of_mem hdep
  obtain ⟨patch, write, _, hw, he⟩ := h
  have hg' : (c.putPatch wd'.dependentKey patch).getWD k = some wd' := by
    rw [Cluster.getWD_putPatch]
    exact hg
  constructor
  · exact hconf.workload_of_target ht
  · intro dep hdep
    apply hconf.workload
    right
    intro hkey
    apply hindex dep hdep
    have hns : wd.dependsOnNs dep = wd'.dependentNs := congrArg NamespacedName.ns hkey
    have hname : dep.name = wd'.spec.dependent.name := congrArg NamespacedName.name hkey
    unfold indexDependentName
    rw [hns, hname]
  · intro dep hdep
    apply downStatus_filed
    intro w hfiled
    have hmem : ∀ c : Cluster, w ∈ c.wds.items ↔ c.getWD w.key = some w := by
      intro c
      rw [Cluster.getWD, c.wds.get?_eq_some_iff]
      simp
    rw [hmem, hmem]
    by_cases hwk : w.key = k
    · have hother : ∀ w' : WorkloadDependency, w'.key = k → w'.spec = wd'.spec → w ≠ w' := by
        rintro w' hk' hs' rfl
        have hns : w.ns = wd'.ns := congrArg NamespacedName.ns (hk'.trans hk.symm)
        apply hindex dep hdep
        rw [← hfiled]
        unfold indexDependentName WorkloadDependency.dependentNs
        rw [hs', hns]
      rw [hwk, hg, he]
      constructor
      · intro hw'
        exact absurd rfl (hother w hwk (hw.spec hg' hw'))
      · intro hw'
        exact absurd (Option.some.inj hw').symm (hother wd' hk rfl)
    · rw [hconf.getWD hwk]
  · intro hd hf
    apply detectCycle_references
    rw [he, hw.references hg' (hu.graph hd hf)]
    unfold Cluster.references Cluster.listNamespace
    rw [Cluster.putPatch_wds]

end Reading

/-! ## Rounds of Reconciles -/

structure Call where
  req : NamespacedName
  api : Api
  now : Int

def Cluster.after (c : Cluster) (call : Call) : Cluster := c.reconciled call.api call.now call.req

def Cluster.round (c : Cluster) (calls : List Call) : Cluster := calls.foldl Cluster.after c

def Call.outcome (call : Call) (c : Cluster) : Outcome := reconcile call.api call.now c call.req

structure Independent (c : Cluster) (a b : Call) : Prop where
  objects : ∃ wd wd', c.getWD a.req = some wd ∧ c.getWD b.req = some wd' ∧ Unrelated wd wd'
  left : ∀ wd, c.getWD a.req = some wd → a.api.statusUpdate 0 = .ok ∨ a.api.Honest wd
  right : ∀ wd, c.getWD b.req = some wd → b.api.statusUpdate 0 = .ok ∨ b.api.Honest wd

section Rounds

variable {c : Cluster} {a b e : Call} {calls calls' : List Call}

theorem Independent.symm (h : Independent c a b) : Independent c b a := by
  obtain ⟨wd, wd', ha, hb, hu⟩ := h.objects
  exact ⟨⟨wd', wd, hb, ha, hu.symm⟩, h.right, h.left⟩

theorem Independent.req_ne (h : Independent c a b) : a.req ≠ b.req := by
  obtain ⟨wd, wd', ha, hb, hu⟩ := h.objects
  intro he
  rw [he] at ha
  obtain rfl := Option.some.inj (ha.symm.trans hb)
  exact hu.target rfl

theorem Independent.outcome (h : Independent c a b) : b.outcome (c.after a) = b.outcome c := by
  obtain ⟨wd, wd', ha, hb, hu⟩ := h.objects
  have hamounts := reconcile_amounts a.now ha (h.left wd ha)
  have hconf := hamounts.confined (c.getWD_key ha) c
  refine reconcile_alike hb ?_ (hamounts.alike ha hu.target hu.right)
  exact (hconf.getWD h.req_ne.symm).trans hb

theorem Independent.comm (h : Independent c a b) : (c.after a).after b = (c.after b).after a := by
  have hb : b.outcome (c.after a) = b.outcome c := h.outcome
  have ha : a.outcome (c.after b) = a.outcome c := h.symm.outcome
  obtain ⟨wd, wd', hga, hgb, hu⟩ := h.objects
  change (c.after a).applyAll (b.outcome (c.after a)).effects =
    (c.after b).applyAll (a.outcome (c.after b)).effects
  rw [ha, hb]
  exact (reconcile_amounts a.now hga (h.left wd hga)).comm (c.getWD_key hga)
    (reconcile_amounts b.now hgb (h.right wd' hgb)) (c.getWD_key hgb) h.req_ne hu.target c

theorem Independent.after (hea : Independent c e a) (heb : Independent c e b)
    (h : Independent c a b) : Independent (c.after e) a b := by
  obtain ⟨wd, _, he, _⟩ := hea.objects
  have hconf : Confined c e.req wd (c.after e) := reconcile_confined e.now he (hea.left wd he)
  have hga : (c.after e).getWD a.req = c.getWD a.req := hconf.getWD hea.req_ne.symm
  have hgb : (c.after e).getWD b.req = c.getWD b.req := hconf.getWD heb.req_ne.symm
  constructor
  · rw [hga, hgb]
    exact h.objects
  · rw [hga]
    exact h.left
  · rw [hgb]
    exact h.right

theorem outcome_round {a : Call} (ha : ∀ b ∈ calls, Independent c b a)
    (h : calls.Pairwise (Independent c)) : a.outcome (c.round calls) = a.outcome c := by
  induction calls generalizing c with
  | nil => rfl
  | cons b rest ih =>
    obtain ⟨hall, hrest⟩ := List.pairwise_cons.mp h
    have hba : Independent c b a := ha b List.mem_cons_self
    have hkept : a.outcome ((c.after b).round rest) = a.outcome (c.after b) := by
      apply ih
      · intro e he
        exact (hall e he).after hba (ha e (List.mem_cons_of_mem b he))
      · exact hrest.imp_of_mem (fun hx hy hxy => (hall _ hx).after (hall _ hy) hxy)
    exact hkept.trans hba.outcome

/-- In a round of Reconciles of unrelated objects each one does what it would do alone, and the
order in which the queue hands them out leaves no trace. -/
theorem round_order_free (h : calls.Pairwise (Independent c)) (hp : calls.Perm calls') :
    c.round calls' = c.round calls ∧
      ∀ before call rest, calls' = before ++ call :: rest →
        call.outcome (c.round before) = call.outcome c := by
  constructor
  · exact (foldl_perm (fun _ _ _ hab => hab.symm) (fun _ _ _ hab => hab.comm)
      (fun _ _ _ _ hea heb hab => hea.after heb hab) hp h).symm
  · intro before call rest hsplit
    have h' : calls'.Pairwise (Independent c) := h.perm hp (fun hab => hab.symm)
    rw [hsplit, List.pairwise_append] at h'
    apply outcome_round
    · exact fun b hb => h'.2.2 b hb call List.mem_cons_self
    · exact h'.1

end Rounds

def outageObject (name dependent dependency : String) : WorkloadDependency where
  name := name
  ns := "default"
  generation := 1
  deletionTimestamp := none
  finalizers := [finalizerName]
  annotationPaused := none
  spec := ⟨⟨"Deployment", dependent, ""⟩, [⟨"StatefulSet", dependency, "", ⟨0, 0, 0⟩⟩], ⟨0⟩,
    .strict, none⟩
  status := ⟨.degraded, none, some 0, none, none, "", []⟩

def twoOutages : Cluster where
  wds := ⟨[outageObject "web-needs-db" "web" "db", outageObject "api-needs-cache" "api" "cache"],
    by decide⟩
  deployments k := if k.name = "web" ∨ k.name = "api" then some ⟨some 3, 3⟩ else none
  statefulSets k := if k.name = "db" ∨ k.name = "cache" then some ⟨some 1, 0⟩ else none
  cronJobs _ := none
  rollouts _ := none

def webCall : Call := ⟨⟨"default", "web-needs-db"⟩, .good, 60 * second⟩

def apiCall : Call := ⟨⟨"default", "api-needs-cache"⟩, .good, 60 * second⟩

theorem twoOutages_independent : Independent twoOutages webCall apiCall := by
  refine ⟨⟨outageObject "web-needs-db" "web" "db", outageObject "api-needs-cache" "api" "cache",
    by decide, by decide, ?_⟩, fun _ _ => Or.inl rfl, fun _ _ => Or.inl rfl⟩
  exact ⟨by decide, ⟨by decide, fun _ _ => Or.inl rfl⟩, ⟨by decide, fun _ _ => Or.inl rfl⟩⟩

theorem round_order_free_outages :
    twoOutages.round [apiCall, webCall] = twoOutages.round [webCall, apiCall] ∧
      ∀ name ∈ ["web", "api"], (twoOutages.round [apiCall, webCall]).workload .deployment
        ⟨"default", name⟩ = some (.deployment ⟨some 0, 3⟩) := by
  have hpair : [webCall, apiCall].Pairwise (Independent twoOutages) := by
    simpa using twoOutages_independent
  exact ⟨(round_order_free hpair (List.Perm.swap _ _ _)).1, by decide⟩

end Klink
