import Klink.ReconcileTransitions

/-! # Which objects a workload change wakes up

`findWDsForWorkload` maps a changed workload to Reconcile requests through two field indexes.
It misses no object whose Reconcile could notice the change.
-/
namespace Klink

def indexDependsOnName (wd : WorkloadDependency) : List String :=
  wd.spec.dependsOn.map (fun dep => wd.dependsOnNs dep ++ "/" ++ dep.name)

def enqueue (requests : List NamespacedName) (wd : WorkloadDependency) : List NamespacedName :=
  if wd.key ∈ requests then requests else requests ++ [wd.key]

/-- A List through a field index. A failing call finds nothing. -/
def Cluster.listMatching (c : Cluster) (call : CallResult) (p : WorkloadDependency → Bool) :
    List WorkloadDependency :=
  if call = .ok then c.wds.items.filter p else []

def findWDsForWorkload (depOnCall dependentCall : CallResult) (c : Cluster) (ns name : String) :
    List NamespacedName :=
  let key := ns ++ "/" ++ name
  let depOnList := c.listMatching depOnCall (fun wd => decide (key ∈ indexDependsOnName wd))
  let dependentList := c.listMatching dependentCall
    (fun wd => decide (indexDependentName wd = key))
  dependentList.foldl enqueue (depOnList.foldl enqueue [])

section Queue

variable {requests : List NamespacedName} {wds : List WorkloadDependency} {k : NamespacedName}

theorem mem_enqueue (wd : WorkloadDependency) :
    k ∈ enqueue requests wd ↔ k ∈ requests ∨ k = wd.key := by
  unfold enqueue
  by_cases h : wd.key ∈ requests
  · rw [if_pos h]
    constructor
    · exact Or.inl
    · rintro (hk | rfl)
      · exact hk
      · exact h
  · rw [if_neg h]
    simp

theorem nodup_enqueue (h : requests.Nodup) (wd : WorkloadDependency) :
    (enqueue requests wd).Nodup := by
  unfold enqueue
  by_cases hk : wd.key ∈ requests
  · rw [if_pos hk]
    exact h
  · rw [if_neg hk, ← List.concat_eq_append]
    exact h.concat hk

theorem mem_foldl_enqueue :
    k ∈ wds.foldl enqueue requests ↔ k ∈ requests ∨ ∃ wd ∈ wds, k = wd.key := by
  induction wds generalizing requests with
  | nil => simp
  | cons wd rest ih =>
    rw [List.foldl_cons, ih, mem_enqueue]
    simp [or_assoc]

theorem nodup_foldl_enqueue (h : requests.Nodup) : (wds.foldl enqueue requests).Nodup := by
  induction wds generalizing requests with
  | nil => exact h
  | cons wd rest ih => exact ih (nodup_enqueue h wd)

end Queue

def WorkloadDependency.RefersTo (wd : WorkloadDependency) (key : NamespacedName) : Prop :=
  wd.dependentKey = key ∨ ∃ dep ∈ wd.spec.dependsOn, wd.dependsOnKey dep = key

section Mapping

variable {c : Cluster} {k key : NamespacedName} {wd : WorkloadDependency}

theorem mem_findWDsForWorkload {depOnCall dependentCall : CallResult} {ns name : String} :
    k ∈ findWDsForWorkload depOnCall dependentCall c ns name ↔ ∃ wd ∈ c.wds.items, k = wd.key ∧
      ((depOnCall = .ok ∧ ns ++ "/" ++ name ∈ indexDependsOnName wd) ∨
        (dependentCall = .ok ∧ indexDependentName wd = ns ++ "/" ++ name)) := by
  have hlisted : ∀ (call : CallResult) (p : WorkloadDependency → Bool) (wd : WorkloadDependency),
      wd ∈ c.listMatching call p ↔ wd ∈ c.wds.items ∧ call = .ok ∧ p wd = true := by
    intro call p wd
    unfold Cluster.listMatching
    by_cases h : call = .ok
    · simp [h]
    · simp [h]
  unfold findWDsForWorkload
  simp only [mem_foldl_enqueue, hlisted, List.not_mem_nil, false_or, decide_eq_true_eq]
  constructor
  · rintro (⟨wd, ⟨hmem, hcall, hindex⟩, rfl⟩ | ⟨wd, ⟨hmem, hcall, hindex⟩, rfl⟩)
    · exact ⟨wd, hmem, rfl, Or.inl ⟨hcall, hindex⟩⟩
    · exact ⟨wd, hmem, rfl, Or.inr ⟨hcall, hindex⟩⟩
  · rintro ⟨wd, hmem, rfl, ⟨hcall, hindex⟩ | ⟨hcall, hindex⟩⟩
    · exact Or.inl ⟨wd, ⟨hmem, hcall, hindex⟩, rfl⟩
    · exact Or.inr ⟨wd, ⟨hmem, hcall, hindex⟩, rfl⟩

/-- Both lists together hold every object that refers to the workload. -/
theorem WorkloadDependency.RefersTo.found (h : wd.RefersTo key) (hg : c.getWD k = some wd) :
    k ∈ findWDsForWorkload .ok .ok c key.ns key.name := by
  rw [mem_findWDsForWorkload]
  refine ⟨wd, c.mem_wds hg, (c.getWD_key hg).symm, ?_⟩
  rcases h with rfl | ⟨dep, hdep, rfl⟩
  · exact Or.inr ⟨rfl, rfl⟩
  · exact Or.inl ⟨rfl, List.mem_map_of_mem hdep⟩

/-- Without a slash in the workload's own name, an index value determines both of its parts. -/
theorem index_split {ns name : String} (hns : '/' ∉ key.ns.toList) (hname : '/' ∉ key.name.toList)
    (h : ns ++ "/" ++ name = key.ns ++ "/" ++ key.name) : (⟨ns, name⟩ : NamespacedName) = key := by
  have hlist : key.ns.toList ++ '/' :: key.name.toList = ns.toList ++ '/' :: name.toList := by
    have := congrArg String.toList h
    simpa using this.symm
  obtain ⟨hn, _, hm⟩ := (List.append_cons_inj_of_notMem hns hname).mp hlist
  rw [← String.toList_inj.mp hn, ← String.toList_inj.mp hm]

theorem refersTo_of_found {depOnCall dependentCall : CallResult} (hns : '/' ∉ key.ns.toList)
    (hname : '/' ∉ key.name.toList)
    (h : k ∈ findWDsForWorkload depOnCall dependentCall c key.ns key.name) :
    ∃ wd, c.getWD k = some wd ∧ wd.RefersTo key := by
  obtain ⟨wd, hmem, rfl, hindex⟩ := mem_findWDsForWorkload.mp h
  refine ⟨wd, (c.wds.get?_eq_some_iff _ _).mpr ⟨hmem, rfl⟩, ?_⟩
  rcases hindex with ⟨_, hindex⟩ | ⟨_, hindex⟩
  · obtain ⟨dep, hdep, heq⟩ := List.mem_map.mp hindex
    exact Or.inr ⟨dep, hdep, index_split hns hname heq⟩
  · exact Or.inl (index_split hns hname hindex)

end Mapping

structure DifferOnlyAt (kind : WorkloadKind) (key : NamespacedName) (c c' : Cluster) : Prop where
  wds : c'.wds = c.wds
  workload : ∀ kind' key', kind' ≠ kind ∨ key' ≠ key →
    c'.workload kind' key' = c.workload kind' key'

/-- The reads of a Reconcile: the stored objects, its dependent and its dependencies. -/
structure SameReads (wd : WorkloadDependency) (c c' : Cluster) : Prop where
  wds : c'.wds = c.wds
  dependent : c'.dependent wd = c.dependent wd
  dependency : ∀ dep ∈ wd.spec.dependsOn, c'.dependency wd dep = c.dependency wd dep

/-- The reads of a Reconcile of `wd`, the object itself apart. -/
structure ReadsAlike (wd : WorkloadDependency) (c c' : Cluster) : Prop where
  dependent : c'.dependent wd = c.dependent wd
  dependency : ∀ dep ∈ wd.spec.dependsOn, c'.dependency wd dep = c.dependency wd dep
  lookup : ∀ dep ∈ wd.spec.dependsOn, ∀ call,
    downStatus call c' dep.name (wd.dependsOnNs dep) =
      downStatus call c dep.name (wd.dependsOnNs dep)
  graph : wd.deletionTimestamp = none → wd.containsFinalizer = false →
    detectCycle (c'.listNamespace wd.ns) wd = detectCycle (c.listNamespace wd.ns) wd

theorem DifferOnlyAt.sameReads {kind : WorkloadKind} {key : NamespacedName} {c c' : Cluster}
    {wd : WorkloadDependency} (h : DifferOnlyAt kind key c c') (hr : ¬ wd.RefersTo key) :
    SameReads wd c c' := by
  obtain ⟨hdep, hall⟩ := not_or.mp hr
  refine ⟨h.wds, h.workload _ _ (Or.inr hdep), ?_⟩
  intro dep hmem
  apply h.workload
  right
  intro heq
  exact hall ⟨dep, hmem, heq⟩

section Reads

variable {c c' : Cluster} {wd : WorkloadDependency} {api : Api} {now : Int}

theorem getWorkload_congr {call : CallResult} {kind name ns : String}
    (h : c'.workload (WorkloadKind.ofString kind) ⟨ns, name⟩ =
      c.workload (WorkloadKind.ofString kind) ⟨ns, name⟩) :
    getWorkload call c' kind name ns = getWorkload call c kind name ns := by
  unfold getWorkload
  rw [h]

theorem depStatus_congr {call : CallResult} {w : WorkloadAccessor} {cond : HealthCondition}
    {ns : String} (h : downStatus call c' w.key.name ns = downStatus call c w.key.name ns) :
    depStatus call c' w cond ns = depStatus call c w cond ns := by
  unfold depStatus replicaStatus
  rw [h]

theorem downStatus_congr (h : c'.wds = c.wds) (call : CallResult) (name ns : String) :
    downStatus call c' name ns = downStatus call c name ns := by
  unfold downStatus isSuspendedByKlink
  rw [h]

theorem evaluateFrom_congr {api' : Api} {wd' : WorkloadDependency} (hns : wd'.ns = wd.ns)
    (hget : ∀ i, api'.getDependency i = api.getDependency i)
    (hlist : ∀ i, api'.listIndex i = api.listIndex i) {deps : List DependsOnEntry}
    (h : ∀ dep ∈ deps, c'.dependency wd dep = c.dependency wd dep)
    (hdown : ∀ dep ∈ deps, c.dependency wd dep ≠ none → ∀ call,
      downStatus call c' dep.name (wd.dependsOnNs dep) =
        downStatus call c dep.name (wd.dependsOnNs dep)) (i : ℕ) (acc : Evaluation) :
    evaluateFrom api' c' wd' i deps acc = evaluateFrom api c wd i deps acc := by
  induction deps generalizing i acc with
  | nil => rfl
  | cons dep rest ih =>
    have hdep : wd'.dependsOnNs dep = wd.dependsOnNs dep := by
      unfold WorkloadDependency.dependsOnNs
      rw [hns]
    have hwork : getWorkload (api.getDependency i) c' dep.kind dep.name (wd.dependsOnNs dep) =
        getWorkload (api.getDependency i) c dep.kind dep.name (wd.dependsOnNs dep) :=
      getWorkload_congr (h dep List.mem_cons_self)
    have hrest := ih (fun d hd => h d (List.mem_cons_of_mem dep hd))
      (fun d hd => hdown d (List.mem_cons_of_mem dep hd))
    unfold evaluateFrom
    simp only [hget, hlist, hdep, hwork, hrest]
    split
    · rfl
    · rfl
    · next w hg =>
      obtain ⟨_, hobj, hkey⟩ := getWorkload_eq_ok hg
      have hfound : c.dependency wd dep ≠ none := by
        intro hnone
        cases hobj.symm.trans hnone
      have hname : downStatus (api.listIndex i) c' w.key.name (wd.dependsOnNs dep) =
          downStatus (api.listIndex i) c w.key.name (wd.dependsOnNs dep) := by
        rw [hkey]
        exact hdown dep List.mem_cons_self hfound _
      rw [depStatus_congr hname]

theorem reconcile_alike {req : NamespacedName} (hg : c.getWD req = some wd)
    (hg' : c'.getWD req = some wd) (h : ReadsAlike wd c c') :
    reconcile api now c' req = reconcile api now c req := by
  have hget : ∀ call, getWorkload call c' wd.spec.dependent.kind wd.spec.dependent.name
      wd.dependentNs = getWorkload call c wd.spec.dependent.kind wd.spec.dependent.name
      wd.dependentNs := fun _ => getWorkload_congr h.dependent
  have hev : evaluateDependencies api c' wd = evaluateDependencies api c wd :=
    evaluateFrom_congr rfl (fun _ => rfl) (fun _ => rfl) h.dependency
      (fun dep hdep _ call => h.lookup dep hdep call) 0 ⟨true, ""⟩
  unfold reconcile
  rw [hg, hg']
  dsimp only
  by_cases hd : wd.deletionTimestamp.isSome
  · have hdel : handleDeletion api c' wd = handleDeletion api c wd := by
      unfold handleDeletion
      rw [hget]
    rw [if_pos hd, if_pos hd, hdel]
  · rw [if_neg hd, if_neg hd]
    by_cases hf : wd.containsFinalizer = false
    · have hnew : ensureFinalizer api now c' wd = ensureFinalizer api now c wd := by
        unfold ensureFinalizer
        rw [h.graph (by simpa using hd) hf]
      rw [if_pos hf, if_pos hf, hnew]
    · have hactive : reconcileActive api now c' wd = reconcileActive api now c wd := by
        unfold reconcileActive
        rw [hget, hev]
      rw [if_neg hf, if_neg hf, hactive]

theorem SameReads.alike (h : SameReads wd c c') : ReadsAlike wd c c' := by
  refine ⟨h.dependent, h.dependency, ?_, ?_⟩
  · intro dep _ call
    exact downStatus_congr h.wds call dep.name (wd.dependsOnNs dep)
  · intro _ _
    unfold Cluster.listNamespace
    rw [h.wds]

end Reads

/-- Watch completeness: an object whose Reconcile behaves differently when a workload changes is
requeued for that workload. No request is made twice, and every request is for an object that
refers to the workload's namespace and name. -/
theorem watch_complete (c : Cluster) (key : NamespacedName) :
    (∀ kind c' k wd api now, c.getWD k = some wd → DifferOnlyAt kind key c c' →
      reconcile api now c' k ≠ reconcile api now c k →
      k ∈ findWDsForWorkload .ok .ok c key.ns key.name) ∧
    ∀ depOnCall dependentCall,
      (findWDsForWorkload depOnCall dependentCall c key.ns key.name).Nodup ∧
      ('/' ∉ key.ns.toList → '/' ∉ key.name.toList →
        ∀ k ∈ findWDsForWorkload depOnCall dependentCall c key.ns key.name,
          ∃ wd, c.getWD k = some wd ∧ wd.RefersTo key) := by
  constructor
  · intro kind c' k wd api now hg hdiffer hne
    by_cases hr : wd.RefersTo key
    · exact hr.found hg
    · have hg' : c'.getWD k = some wd := by
        unfold Cluster.getWD
        rw [hdiffer.wds]
        exact hg
      exact absurd (reconcile_alike hg hg' (hdiffer.sameReads hr).alike) hne
  · intro depOnCall dependentCall
    exact ⟨nodup_foldl_enqueue (nodup_foldl_enqueue List.nodup_nil),
      fun hns hname k hk => refersTo_of_found hns hname hk⟩

end Klink
