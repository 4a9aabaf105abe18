import Klink.CycleSearch
import Klink.ReconcileRuns

/-! # Admission over whole runs

The objects of one namespace are created, edited, deleted and reconciled in any order. The
cycle check runs when an object is given the finalizer and never again, so it answers only for
the edges the object had then.
-/
namespace Klink

open DirectedCycles TransitionSystem

def AcceptedEdge (c : Cluster) (a b : WorkloadKey) : Prop :=
  ∃ wd ∈ c.wds.items, wd.containsFinalizer = true ∧ Joined wd.edges a b

def Acyclic (c : Cluster) : Prop := ∀ s, ¬ SimpleCycle (AcceptedEdge c) s

def Cluster.Within (c : Cluster) (ns : String) : Prop := ∀ wd ∈ c.wds.items, wd.ns = ns

def Cleared (c : Cluster) (wd : WorkloadDependency) : Prop :=
  ∃ listed newWD, detectCycle listed newWD = none ∧ newWD.edges = wd.edges ∧
    ∀ a b, AcceptedEdge c a b → Joined (dependencyEdges listed newWD) a b

theorem acyclic_step {c c' : Cluster} (h : Acyclic c)
    (hv : ∀ wd' ∈ c'.wds.items, wd'.containsFinalizer = true →
      (∃ wd ∈ c.wds.items, wd.containsFinalizer = true ∧ wd'.edges ⊆ wd.edges) ∨
        Cleared c' wd') : Acyclic c' := by
  intro s hs
  rcases hs.uses_or_avoids (fun a b => ∃ wd', Cleared c' wd' ∧ Joined wd'.edges a b)
    with ⟨a, b, l, hsplit, wd', ⟨listed, newWD, hnone, hedges, hall⟩, hab⟩ | hold
  · have hcloses : ClosesCycle (dependencyEdges listed newWD) newWD := by
      refine ⟨s, hs.mono hall, a, b, l, hsplit, ?_⟩
      rw [hedges]
      exact hab
    have hsome := (detectCycle_isSome_iff listed newWD).mpr hcloses
    simp [hnone] at hsome
  · apply h s
    refine hold.mono ?_
    rintro a b ⟨⟨wd', hmem, hf, hab⟩, hnew⟩
    rcases hv wd' hmem hf with ⟨wd, hwd, hf', hsub⟩ | hcl
    · exact ⟨wd, hwd, hf', hsub hab⟩
    · exact absurd ⟨wd', hcl, hab⟩ hnew

theorem WorkloadDependency.edges_congr {wd wd' : WorkloadDependency} (hs : wd'.spec = wd.spec)
    (hk : wd'.key = wd.key) : wd'.edges = wd.edges := by
  have hns : wd'.ns = wd.ns := congrArg NamespacedName.ns hk
  unfold edges
  rw [hs, hns]

section OneNamespace

variable {ns : String} {c c' : Cluster}

/-- In one namespace the graph of the check holds the edges of all objects. -/
theorem Cluster.Within.joined (hc : c.Within ns) {wd newWD : WorkloadDependency}
    (hwd : wd ∈ c.wds.items) (hnew : newWD ∈ c.wds.items) {a b : WorkloadKey}
    (hab : Joined wd.edges a b) :
    Joined (dependencyEdges (c.listNamespace newWD.ns) newWD) a b := by
  by_cases hk : wd.key = newWD.key
  · rw [c.wds.key_injOn hwd hnew hk] at hab
    exact own_edges_subset _ _ hab
  · have hns : wd.ns = newWD.ns := (hc wd hwd).trans (hc newWD hnew).symm
    apply List.mem_append_left
    refine List.mem_flatMap.mpr ⟨wd, ?_, hab⟩
    simp [Cluster.listNamespace, hwd, hns, hk]

theorem Cluster.Within.cleared (hc : c.Within ns) {wd : WorkloadDependency}
    (hwd : wd ∈ c.wds.items) (h : detectCycle (c.listNamespace wd.ns) wd = none) :
    Cleared c wd := by
  refine ⟨c.listNamespace wd.ns, wd, h, rfl, ?_⟩
  rintro a b ⟨wd', hwd', _, hab⟩
  exact hc.joined hwd' hwd hab

end OneNamespace

section Reconciling

variable {api : Api} {now : Int} {c : Cluster} {req : NamespacedName}

theorem ensureFinalizer_checked {wd wd' : WorkloadDependency} (h : c.getWD req = some wd)
    (hr : api.statusUpdate 0 = .ok ∨ api.Honest wd) (hl : api.listWDs = .ok)
    (hf : wd.containsFinalizer = false)
    (h' : (c.applyAll (ensureFinalizer api now c wd).effects).getWD req = some wd')
    (hf' : wd'.containsFinalizer = true) : detectCycle (c.listNamespace wd.ns) wd = none := by
  cases hcycle : detectCycle (c.listNamespace wd.ns) wd with
  | none => rfl
  | some cycle =>
    exfalso
    simp only [ensureFinalizer, hl, hcycle, if_true, Outcome.prepend,
      Cluster.applyAll_append, applyAll_setStatus] at h'
    have hkept : wd.SameObject wd' := by
      rcases storeAttempt_cases h hr (.refl wd) with ⟨_, hg⟩ | ⟨wd₁, hg, hs, _⟩
      · obtain rfl : wd' = wd := Option.some.inj (h'.symm.trans hg)
        exact .refl wd'
      · obtain rfl : wd' = wd₁ := Option.some.inj (h'.symm.trans hg)
        exact hs
    rw [← hkept] at hf'
    cases hf.symm.trans hf'

theorem reconcile_unfinalized {wd : WorkloadDependency} (ha : api.getWD = .ok)
    (h : c.getWD req = some wd) (hd : wd.deletionTimestamp = none)
    (hf : wd.containsFinalizer = false) :
    reconcile api now c req = ensureFinalizer api now c wd := by
  unfold reconcile
  simp [ha, h, hd, hf]

theorem reconciled_unread (ha : api.getWD ≠ .ok) : c.reconciled api now req = c := by
  unfold Cluster.reconciled reconcile
  cases hg : api.getWD with
  | ok => exact absurd hg ha
  | conflict => rfl
  | failed => rfl

theorem reconciled_checked {wd wd' : WorkloadDependency} (hl : api.listWDs = .ok)
    (hr : api.statusUpdate 0 = .ok ∨ api.Honest wd) (h : c.getWD req = some wd)
    (h' : (c.reconciled api now req).getWD req = some wd') (hf' : wd'.containsFinalizer = true) :
    wd.containsFinalizer = true ∨ detectCycle (c.listNamespace wd.ns) wd = none := by
  have ht := reconcile_transition now h hr
  rw [h'] at ht
  rcases ht.object_cases with hs | ⟨hd, hf, rfl⟩ | rfl
  · rw [← hs] at hf'
    exact Or.inl hf'
  · right
    have ha : api.getWD = .ok := by
      by_contra hne
      rw [reconciled_unread hne, h] at h'
      rw [← Option.some.inj h', hf] at hf'
      cases hf'
    rw [Cluster.reconciled, reconcile_unfinalized ha h hd hf] at h'
    exact ensureFinalizer_checked h hr hl hf h' hf'
  · simp [WorkloadDependency.containsFinalizer, WorkloadDependency.removeFinalizer] at hf'

/-- Where each stored object comes from, and what its finalizer stands for. -/
theorem reconciled_source (hl : api.listWDs = .ok)
    (hr : ∀ wd, c.getWD req = some wd → api.statusUpdate 0 = .ok ∨ api.Honest wd)
    {wd' : WorkloadDependency} (h' : wd' ∈ (c.reconciled api now req).wds.items) :
    ∃ wd ∈ c.wds.items, wd'.key = wd.key ∧ wd'.spec = wd.spec ∧
      (wd'.containsFinalizer = true → wd.containsFinalizer = true ∨
        detectCycle (c.listNamespace wd.ns) wd = none) := by
  cases hg : c.getWD req with
  | none =>
    rw [reconcile_absent now hg] at h'
    exact ⟨wd', h', rfl, rfl, Or.inl⟩
  | some wd =>
    have hget : (c.reconciled api now req).getWD wd'.key = some wd' :=
      ((c.reconciled api now req).wds.get?_eq_some_iff _ _).mpr ⟨h', rfl⟩
    by_cases hk : wd'.key = req
    · rw [hk] at hget
      have ht := reconcile_transition now hg (hr wd hg)
      rw [hget] at ht
      have hkey : wd'.key = wd.key := hk.trans (c.getWD_key hg).symm
      refine ⟨wd, Cluster.mem_wds hg, hkey, ?_, ?_⟩
      · rcases ht.object_cases with hs | ⟨_, _, rfl⟩ | rfl
        · exact hs.sameSpec.spec
        · exact WorkloadDependency.addFinalizer_sameSpec.spec
        · rfl
      · exact reconciled_checked hl (hr wd hg) hg hget
    · rw [(reconcile_confined now hg (hr wd hg)).getWD hk] at hget
      exact ⟨wd', Cluster.mem_wds hget, rfl, rfl, Or.inl⟩

theorem reconciled_within {ns : String} (hc : c.Within ns) (hl : api.listWDs = .ok)
    (hr : ∀ wd, c.getWD req = some wd → api.statusUpdate 0 = .ok ∨ api.Honest wd) :
    (c.reconciled api now req).Within ns := by
  intro wd' h'
  obtain ⟨wd, hwd, hk, _⟩ := reconciled_source hl hr h'
  exact (congrArg NamespacedName.ns hk).trans (hc wd hwd)

theorem reconciled_acyclic {ns : String} (hc : c.Within ns) (hl : api.listWDs = .ok)
    (hr : ∀ wd, c.getWD req = some wd → api.statusUpdate 0 = .ok ∨ api.Honest wd)
    (h : Acyclic c) : Acyclic (c.reconciled api now req) := by
  apply acyclic_step h
  intro wd' h' hf'
  obtain ⟨wd, hwd, hk, hs, hchecked⟩ := reconciled_source hl hr h'
  have he : wd'.edges = wd.edges := WorkloadDependency.edges_congr hs hk
  rcases hchecked hf' with hf | hnone
  · refine Or.inl ⟨wd, hwd, hf, ?_⟩
    rw [he]
    exact List.Subset.refl _
  · refine Or.inr ⟨c.listNamespace wd.ns, wd, hnone, he.symm, ?_⟩
    rintro a b ⟨wd₁', h₁', _, hab⟩
    obtain ⟨wd₁, hwd₁, hk₁, hs₁, _⟩ := reconciled_source hl hr h₁'
    rw [WorkloadDependency.edges_congr hs₁ hk₁] at hab
    exact hc.joined hwd₁ hwd hab

end Reconciling

def WorkloadDependency.withRefs (dependent : WorkloadRef) (dependsOn : List DependsOnEntry)
    (wd : WorkloadDependency) : WorkloadDependency :=
  { wd with
    generation := wd.generation + 1
    spec := { wd.spec with dependent := dependent, dependsOn := dependsOn } }

inductive WDChange (ns : String) (c c' : Cluster) : Prop where
  | create {wd : WorkloadDependency} : wd.ns = ns → c'.wds = c.wds.insert wd → WDChange ns c c'
  | edit {k dependent dependsOn} :
      c'.wds = c.wds.modify k (.withRefs dependent dependsOn) (fun _ => rfl) → WDChange ns c c'
  | delete {k wd} {t : Int} : c.getWD k = some wd → wd.finalizers ≠ [] →
      c'.wds = c.wds.modify k (fun wd => { wd with deletionTimestamp := some t })
        (fun _ => rfl) → WDChange ns c c'
  | vanish {k wd} : c.getWD k = some wd → wd.finalizers = [] → c'.wds = c.wds.erase k →
      WDChange ns c c'
  | elsewhere : c'.wds = c.wds → WDChange ns c c'

theorem WDChange.within {ns : String} {c c' : Cluster} (h : WDChange ns c c')
    (hc : c.Within ns) : c'.Within ns := by
  intro wd' hwd'
  cases h with
  | create hns he =>
    rw [he] at hwd'
    rcases KeyedStore.Store.mem_insert hwd' with hold | rfl
    · exact hc wd' hold
    · exact hns
  | edit he =>
    rw [he] at hwd'
    obtain ⟨wd, hwd, rfl | rfl⟩ := KeyedStore.Store.mem_modify hwd'
    · exact hc wd' hwd
    · exact hc wd hwd
  | delete _ _ he =>
    rw [he] at hwd'
    obtain ⟨wd, hwd, rfl | rfl⟩ := KeyedStore.Store.mem_modify hwd'
    · exact hc wd' hwd
    · exact hc wd hwd
  | vanish _ _ he =>
    rw [he] at hwd'
    exact hc wd' (List.mem_filter.mp hwd').1
  | elsewhere he =>
    rw [he] at hwd'
    exact hc wd' hwd'

/-- A change gives an accepted object no new edges, or none that close a cycle. -/
def Vetted (c c' : Cluster) : Prop :=
  ∀ wd' ∈ c'.wds.items, wd'.containsFinalizer = true →
    (∃ wd ∈ c.wds.items, wd.key = wd'.key ∧ wd.containsFinalizer = true ∧
      wd'.edges ⊆ wd.edges) ∨
    detectCycle (c'.listNamespace wd'.ns) wd' = none

/-- The objects of one namespace from the first one on, with a List that never fails. -/
def admissionRules (ns : String) (vetted : Cluster → Cluster → Prop) : Rules where
  start c := c.wds.items = []
  calls c req api := api.listWDs = .ok ∧
    ∀ wd, c.getWD req = some wd → api.statusUpdate 0 = .ok ∨ api.Honest wd
  disturbs c c' := WDChange ns c c' ∧ vetted c c'

theorem Vetted.acyclic {ns : String} {c c' : Cluster} (h : Vetted c c') (hc' : c'.Within ns)
    (ha : Acyclic c) : Acyclic c' := by
  apply acyclic_step ha
  intro wd' hwd' hf'
  rcases h wd' hwd' hf' with ⟨wd, hwd, _, hf, hsub⟩ | hnone
  · exact Or.inl ⟨wd, hwd, hf, hsub⟩
  · exact Or.inr (hc'.cleared hwd' hnone)

/-- Where every new edge of an accepted object is one the check lets in, the accepted objects
never form a cycle, whether they have been reconciled since or not. -/
theorem accepted_acyclic (ns : String) (r : Run (admissionRules ns Vetted).system) (i : ℕ) :
    Acyclic (r.state i).cluster := by
  have hinv : (r.state i).cluster.Within ns ∧ Acyclic (r.state i).cluster := by
    refine Rules.invariant r (I := fun c => c.Within ns ∧ Acyclic c) ?_ ?_ ?_ i
    · intro c hempty
      have hempty : c.wds.items = [] := hempty
      constructor
      · simp [Cluster.Within, hempty]
      · intro s hs
        obtain ⟨a, b, wd, hwd, _⟩ := hs.exists_edge
        simp [hempty] at hwd
    · rintro k req api _ ⟨hl, hr⟩ ⟨hw, ha⟩
      exact ⟨reconciled_within hw hl hr, reconciled_acyclic hw hl hr ha⟩
    · rintro k c' ⟨hchange, hvetted⟩ ⟨hw, ha⟩
      have hw' : c'.Within ns := hchange.within hw
      exact ⟨hw', hvetted.acyclic hw' ha⟩
  exact hinv.2

def creates (wd : WorkloadDependency) (s : World) : Happening :=
  .environment ⟨{ s.cluster with wds := s.cluster.wds.insert wd }, s.clock⟩

def ringObject (dependent dependency : String) : WorkloadDependency :=
  crossObject "shop" dependent "" dependency

def ringKey (dependent : String) : NamespacedName := ⟨"shop", dependent⟩

def emptyWorld : World :=
  ⟨⟨⟨[], List.nodup_nil⟩, fun _ => none, fun _ => none, fun _ => none, fun _ => none⟩, 0⟩

def redirects (dependency : String) : World → Happening :=
  edits (ringKey "db") (.withRefs (ringObject "db" dependency).spec.dependent
    (ringObject "db" dependency).spec.dependsOn) (fun _ => rfl)

/-- `db` would close a circle and is turned away. It is let in with another dependency, and
then changes it for one that is no worse. -/
def mendedScript : List (World → Happening) :=
  [creates (ringObject "web" "api"), runs (ringKey "web") .good,
    creates (ringObject "api" "db"), runs (ringKey "api") .good,
    creates (ringObject "db" "web"), runs (ringKey "db") .good,
    redirects "vault", runs (ringKey "db") .good, redirects "cache"]

theorem mendedScript_playable :
    Playable (admissionRules "shop" Vetted).system emptyWorld mendedScript := by
  have hr : ∀ s k, (admissionRules "shop" Vetted).enabled s (runs k .good s) :=
    fun _ _ => ⟨rfl, fun _ _ => Or.inl rfl⟩
  have hc : ∀ s dependent dependency,
      Vetted s.cluster (s.next (creates (ringObject dependent dependency) s)).cluster →
        (admissionRules "shop" Vetted).enabled s (creates (ringObject dependent dependency) s) :=
    fun _ _ _ hv => ⟨le_refl _, .create rfl rfl, hv⟩
  have he : ∀ s dependency, Vetted s.cluster (s.next (redirects dependency s)).cluster →
      (admissionRules "shop" Vetted).enabled s (redirects dependency s) :=
    fun _ _ hv => ⟨le_refl _, .edit rfl, hv⟩
  refine ⟨hc _ _ _ ?_, hr _ _, hc _ _ _ ?_, hr _ _, hc _ _ _ ?_, hr _ _, he _ _ ?_, hr _ _,
    he _ _ ?_, trivial⟩
  all_goals
    unfold Vetted
    decide

theorem Vetted.refl (c : Cluster) : Vetted c c :=
  fun wd hwd hf => Or.inl ⟨wd, hwd, rfl, hf, List.Subset.refl _⟩

theorem empty_starts (vetted : Cluster → Cluster → Prop) :
    (admissionRules "shop" vetted).start emptyWorld.cluster := rfl

def mendedRun : Run (admissionRules "shop" Vetted).system :=
  Run.ofScript (empty_starts Vetted) mendedScript mendedScript_playable .environment
    (fun s => ⟨⟨le_refl _, .elsewhere rfl, .refl s.cluster⟩, rfl⟩)

/-- Two of three objects are let in before the edits, and all three after them. -/
theorem mended_acyclic :
    ((mendedRun.state 6).cluster.wds.items.map WorkloadDependency.containsFinalizer).count true =
        2 ∧
      ((mendedRun.state 9).cluster.wds.items.map WorkloadDependency.containsFinalizer).count true =
        3 ∧
      Acyclic (mendedRun.state 9).cluster :=
  ⟨by decide, by decide, accepted_acyclic "shop" mendedRun 9⟩

def ReconciledSince {R : Rules} (r : Run R.system) (i : ℕ) (wd : WorkloadDependency) : Prop :=
  ∃ j < i, (∃ api, r.event j = .reconcile wd.key api) ∧ ∀ l < i + 1, j ≤ l →
    ((r.state l).cluster.getWD wd.key).map WorkloadDependency.spec = some wd.spec

/-- Three objects are let in one after the other; an edit then turns the last one back to the
first, and all of them are reconciled again. -/
def ringScript : List (World → Happening) :=
  [creates (ringObject "web" "api"), runs (ringKey "web") .good,
    creates (ringObject "api" "db"), runs (ringKey "api") .good,
    creates (ringObject "db" "vault"), runs (ringKey "db") .good,
    redirects "web",
    runs (ringKey "web") .good, runs (ringKey "api") .good, runs (ringKey "db") .good]

abbrev anyChange (_ _ : Cluster) : Prop := True

theorem ringScript_playable :
    Playable (admissionRules "shop" anyChange).system emptyWorld ringScript := by
  have hr : ∀ s k, (admissionRules "shop" anyChange).enabled s (runs k .good s) :=
    fun _ _ => ⟨rfl, fun _ _ => Or.inl rfl⟩
  have hc : ∀ s dependent dependency, (admissionRules "shop" anyChange).enabled s
      (creates (ringObject dependent dependency) s) :=
    fun _ _ _ => ⟨le_refl _, .create rfl rfl, trivial⟩
  exact ⟨hc _ _ _, hr _ _, hc _ _ _, hr _ _, hc _ _ _, hr _ _,
    ⟨le_refl _, .edit rfl, trivial⟩, hr _ _, hr _ _, hr _ _, trivial⟩

def ringRun : Run (admissionRules "shop" anyChange).system :=
  Run.ofScript (empty_starts anyChange) ringScript ringScript_playable .environment
    (fun _ => ⟨⟨le_refl _, .elsewhere rfl, trivial⟩, rfl⟩)

/-- Every object has been reconciled since its last edit, and the three accepted ones form a
cycle. -/
theorem edited_into_cycle : ∃ r : Run (admissionRules "shop" anyChange).system, ∃ i,
    (∀ wd ∈ (r.state i).cluster.wds.items, ReconciledSince r i wd) ∧
      ¬ Acyclic (r.state i).cluster := by
  refine ⟨ringRun, 10, ?_, ?_⟩
  · have hkept : ∀ wd ∈ (ringRun.state 10).cluster.wds.items,
        ((wd.key = ringKey "web" ∨ wd.key = ringKey "api" ∨ wd.key = ringKey "db") ∧
          ∀ l < 11, 7 ≤ l → ((ringRun.state l).cluster.getWD wd.key).map
            WorkloadDependency.spec = some wd.spec) := by
      decide
    intro wd hwd
    obtain ⟨hkey, hspec⟩ := hkept wd hwd
    rcases hkey with hk | hk | hk
    · exact ⟨7, by omega, ⟨.good, by rw [hk]; rfl⟩, hspec⟩
    · exact ⟨8, by omega, ⟨.good, by rw [hk]; rfl⟩, fun l hl h => hspec l hl (by omega)⟩
    · exact ⟨9, by omega, ⟨.good, by rw [hk]; rfl⟩, fun l hl h => hspec l hl (by omega)⟩
  · intro hacyclic
    have hcycle : ∃ s, SimpleCycle (AcceptedEdge (ringRun.state 10).cluster) s ∧
        Uses (fun _ _ => True) s := by
      apply exists_uses_iff.mpr
      refine ⟨⟨"Deployment", "shop", "web"⟩, ⟨"Deployment", "shop", "api"⟩,
        ⟨"Deployment", "shop", "db"⟩, [], trivial, by decide, ?_⟩
      unfold AcceptedEdge Joined
      decide
    obtain ⟨s, hs, _⟩ := hcycle
    exact hacyclic s hs

end Klink
