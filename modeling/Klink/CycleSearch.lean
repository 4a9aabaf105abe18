import Klink.CycleDetection
import Klink.DirectedCycles
import Klink.DepthFirstSearch

/-! # What cycle detection finds

`DetectCycle` against the graph it builds: it finishes, it reports a path exactly when the new
object closes a simple cycle through three or more workloads, and the path is that cycle.
The graph itself stops at the namespace of the new object.
-/
namespace Klink

open DirectedCycles DepthFirstSearch

abbrev Edges := List (WorkloadKey × WorkloadKey)

def Joined (edges : Edges) (a b : WorkloadKey) : Prop := (a, b) ∈ edges

theorem mem_successors {edges : Edges} {a b : WorkloadKey} :
    b ∈ successors edges a ↔ Joined edges a b := by
  simp [successors, Joined]

section Recursion

variable {graph : WorkloadKey → List WorkloadKey} {target : WorkloadKey}
  {sources : Finset WorkloadKey}

/-- The bounded loop, where it has depth left for every unmarked source, is a finished run of
the unbounded one. -/
def Finishes (graph : WorkloadKey → List WorkloadKey) (target : WorkloadKey)
    (sources : Finset WorkloadKey) (depth : ℕ) : Prop :=
  ∀ path ns visited, ns = [] ∨ pending sources visited < depth →
    Explores graph target path ns visited
      (searchNeighbors (dfs graph target depth) target path ns visited).1
      (searchNeighbors (dfs graph target depth) target path ns visited).2

theorem dfs_returns (hs : ∀ k, graph k ≠ [] → k ∈ sources) {depth : ℕ}
    (hf : Finishes graph target sources depth) (n : WorkloadKey) {visited : List WorkloadKey}
    (path : List WorkloadKey) (hd : pending sources visited < depth + 1) :
    Returns graph target n visited path (dfs graph target (depth + 1) n visited path) := by
  by_cases hv : n ∈ visited
  · exact Or.inl ⟨hv, by simp [dfs, hv]⟩
  have hdeep : graph n = [] ∨ pending sources (n :: visited) < depth := by
    by_cases hg : graph n = []
    · exact Or.inl hg
    · have hlt := pending_cons_lt (hs n hg) hv
      exact Or.inr (by omega)
  refine Or.inr ⟨hv, ?_⟩
  rw [dfs, if_neg hv]
  exact hf path (graph n) (n :: visited) hdeep

theorem finishes (hs : ∀ k, graph k ≠ [] → k ∈ sources) (depth : ℕ) :
    Finishes graph target sources depth := by
  induction depth with
  | zero =>
    intro path ns visited hd
    obtain rfl : ns = [] := hd.resolve_right (by omega)
    exact .done
  | succ depth ih =>
    intro path ns
    induction ns with
    | nil => exact fun _ _ => .done
    | cons n rest ihRest =>
      intro visited hd
      have hd : pending sources visited < depth + 1 := hd.resolve_left (by simp)
      unfold searchNeighbors
      by_cases ht : n = target
      · subst ht
        rw [if_pos rfl]
        exact .hit
      rw [if_neg ht]
      have hcall := dfs_returns hs ih n (path ++ [n]) hd
      generalize dfs graph target (depth + 1) n visited (path ++ [n]) = result at hcall
      obtain ⟨_ | cycle, visited₁⟩ := result
      · have hle : pending sources visited₁ ≤ pending sources visited := pending_mono hcall.subset
        exact hcall.pass ht (ihRest visited₁ (Or.inr (by omega)))
      · exact hcall.found ht

/-- With more depth than sources every call finishes. -/
theorem dfs_returns_of_card (hs : ∀ k, graph k ≠ [] → k ∈ sources) {depth : ℕ}
    (hd : sources.card < depth) (n : WorkloadKey) (visited path : List WorkloadKey) :
    Returns graph target n visited path (dfs graph target depth n visited path) := by
  obtain ⟨depth, rfl⟩ : ∃ d, depth = d + 1 := ⟨depth - 1, by omega⟩
  exact dfs_returns hs (finishes hs depth) n path (lt_of_le_of_lt (pending_le sources visited) hd)

/-- The loop over the neighbours of a start node is the same recursion, with the returns of
length two taken out. -/
theorem searchStart_explores (hs : ∀ k, graph k ≠ [] → k ∈ sources) {depth : ℕ}
    (hd : sources.card < depth) (startKey : WorkloadKey) (ns visited : List WorkloadKey) :
    ∃ visited', Explores graph target [target, startKey]
      (ns.filter (fun n => decide (n ≠ target))) visited
      (searchStart graph depth target startKey ns visited) visited' := by
  induction ns generalizing visited with
  | nil => exact ⟨visited, .done⟩
  | cons n rest ih =>
    unfold searchStart
    by_cases ht : n = target
    · rw [if_pos ht, List.filter_cons_of_neg (by simp [ht])]
      exact ih visited
    rw [if_neg ht, List.filter_cons_of_pos (by simp [ht])]
    have hcall : Returns graph target n visited _ _ :=
      dfs_returns_of_card hs hd n visited [target, startKey, n]
    generalize dfs graph target depth n visited [target, startKey, n] = result at hcall
    obtain ⟨_ | cycle, visited₁⟩ := result
    · obtain ⟨visited', hrest⟩ := ih visited₁
      exact ⟨visited', hcall.pass ht hrest⟩
    · exact ⟨visited₁, hcall.found ht⟩

structure ClosesThrough (graph : WorkloadKey → List WorkloadKey)
    (target startKey c : WorkloadKey) (l : List WorkloadKey) : Prop where
  nodup : (target :: startKey :: c :: l).Nodup
  chain : List.IsChain (fun a b => b ∈ graph a) (startKey :: c :: (l ++ [target]))

theorem searchStart_sound (hs : ∀ k, graph k ≠ [] → k ∈ sources) {depth : ℕ}
    (hd : sources.card < depth) {startKey : WorkloadKey} (hne : startKey ≠ target)
    {p : List WorkloadKey}
    (h : searchStart graph depth target startKey (graph startKey) [startKey] = some p) :
    ∃ c l, p = target :: startKey :: c :: (l ++ [target]) ∧
      ClosesThrough graph target startKey c l := by
  obtain ⟨visited', hrun⟩ := searchStart_explores hs hd startKey (graph startKey) [startKey]
  rw [h] at hrun
  obtain ⟨q, rfl, hq, hv, hhead, hc⟩ := hrun.sound rfl
  cases q with
  | nil =>
    have hmem := hhead target rfl
    simp at hmem
  | cons c l =>
    have hsc : c ∈ graph startKey := (List.mem_filter.mp (hhead c rfl)).1
    refine ⟨c, l, rfl, ?_, List.isChain_cons_cons.mpr ⟨hsc, hc⟩⟩
    apply List.nodup_cons.mpr
    constructor
    · intro hm
      rcases List.mem_cons.mp hm with rfl | hm
      · exact hne rfl
      · exact (hv target hm).2 rfl
    · apply List.nodup_cons.mpr
      exact ⟨fun hm => (hv startKey hm).1 List.mem_cons_self, hq⟩

theorem searchStart_complete (hs : ∀ k, graph k ≠ [] → k ∈ sources) {depth : ℕ}
    (hd : sources.card < depth) {startKey c : WorkloadKey} {l : List WorkloadKey}
    (h : ClosesThrough graph target startKey c l) :
    searchStart graph depth target startKey (graph startKey) [startKey] ≠ none := by
  intro hnone
  obtain ⟨visited', hrun⟩ := searchStart_explores hs hd startKey (graph startKey) [startKey]
  rw [hnone] at hrun
  obtain ⟨hsc, hc⟩ := List.isChain_cons_cons.mp h.chain
  obtain ⟨htarget, hrest⟩ := List.nodup_cons.mp h.nodup
  have hct : c ≠ target := by
    rintro rfl
    simp at htarget
  have hcn : c ∈ (graph startKey).filter (fun n => decide (n ≠ target)) := by
    simp [hsc, hct]
  obtain ⟨v, hv, hmark⟩ := hrun.complete hcn hc
  rw [List.mem_singleton.mp hmark] at hv
  exact (List.nodup_cons.mp hrest).1 hv

theorem searchEntries_eq_some {depth : ℕ} {starts p : List WorkloadKey}
    (h : searchEntries graph depth target starts = some p) :
    ∃ startKey ∈ starts, startKey ≠ target ∧
      searchStart graph depth target startKey (graph startKey) [startKey] = some p := by
  induction starts with
  | nil => cases h
  | cons startKey rest ih =>
    unfold searchEntries at h
    by_cases hst : startKey = target
    · rw [if_pos hst] at h
      obtain ⟨s, hs, hfound⟩ := ih h
      exact ⟨s, List.mem_cons_of_mem _ hs, hfound⟩
    rw [if_neg hst] at h
    cases hrun : searchStart graph depth target startKey (graph startKey) [startKey] with
    | none =>
      rw [hrun] at h
      obtain ⟨s, hs, hfound⟩ := ih h
      exact ⟨s, List.mem_cons_of_mem _ hs, hfound⟩
    | some cycle =>
      rw [hrun] at h
      exact ⟨startKey, List.mem_cons_self, hst, hrun.trans h⟩

theorem searchEntries_eq_none {depth : ℕ} {starts : List WorkloadKey}
    (h : searchEntries graph depth target starts = none) {startKey : WorkloadKey}
    (hs : startKey ∈ starts) (hne : startKey ≠ target) :
    searchStart graph depth target startKey (graph startKey) [startKey] = none := by
  induction starts with
  | nil => cases hs
  | cons first rest ih =>
    unfold searchEntries at h
    by_cases hst : first = target
    · rw [if_pos hst] at h
      rcases List.mem_cons.mp hs with rfl | hs
      · exact absurd hst hne
      · exact ih h hs
    rw [if_neg hst] at h
    cases hrun : searchStart graph depth target first (graph first) [first] with
    | some cycle =>
      rw [hrun] at h
      cases h
    | none =>
      rw [hrun] at h
      rcases List.mem_cons.mp hs with rfl | hs
      · exact hrun
      · exact ih h hs

end Recursion

def WorkloadDependency.workloadKey (wd : WorkloadDependency) : WorkloadKey :=
  resolveKey wd.spec.dependent wd.ns

theorem WorkloadDependency.mem_edges {wd : WorkloadDependency} {a b : WorkloadKey} :
    (a, b) ∈ wd.edges ↔
      a = wd.workloadKey ∧ ∃ dep ∈ wd.spec.dependsOn, resolveDependsOnKey dep wd.ns = b := by
  simp only [edges, List.mem_map, Prod.mk.injEq, workloadKey]
  constructor
  · rintro ⟨dep, hdep, ha, hb⟩
    exact ⟨ha.symm, dep, hdep, hb⟩
  · rintro ⟨ha, dep, hdep, hb⟩
    exact ⟨dep, hdep, ha.symm, hb⟩

/-- The graph has a simple cycle through three or more workloads with an edge of `newWD`. -/
def ClosesCycle (edges : Edges) (newWD : WorkloadDependency) : Prop :=
  ∃ s, SimpleCycle (Joined edges) s ∧ Uses (Joined newWD.edges) s

/-- A path from the dependent of `newWD` along one of its own edges, through at least two more
workloads, back to where it began. -/
structure CyclePath (edges : Edges) (newWD : WorkloadDependency) (path : List WorkloadKey) :
    Prop where
  shape : ∃ b c l, path = newWD.workloadKey :: b :: c :: (l ++ [newWD.workloadKey]) ∧
    Joined newWD.edges newWD.workloadKey b ∧ (newWD.workloadKey :: b :: c :: l).Nodup
  chain : List.IsChain (Joined edges) path

def sourcesOf (edges : Edges) : Finset WorkloadKey := (edges.map Prod.fst).toFinset

theorem mem_sourcesOf {edges : Edges} {k : WorkloadKey} (h : successors edges k ≠ []) :
    k ∈ sourcesOf edges := by
  obtain ⟨b, hb⟩ := List.exists_mem_of_ne_nil _ h
  apply List.mem_toFinset.mpr
  exact List.mem_map.mpr ⟨(k, b), mem_successors.mp hb, rfl⟩

theorem card_sourcesOf_lt (edges : Edges) : (sourcesOf edges).card < edges.length + 1 := by
  have hle := List.toFinset_card_le (edges.map Prod.fst)
  rw [List.length_map] at hle
  exact Nat.lt_succ_of_le hle

theorem own_edges_subset (listed : List WorkloadDependency) (newWD : WorkloadDependency) :
    newWD.edges ⊆ dependencyEdges listed newWD := List.subset_append_right _ _

def detectedPath (listed : List WorkloadDependency) (newWD : WorkloadDependency) :
    Option (List WorkloadKey) :=
  searchEntries (successors (dependencyEdges listed newWD))
    ((dependencyEdges listed newWD).length + 1) newWD.workloadKey
    (newWD.spec.dependsOn.map (fun dep => resolveDependsOnKey dep newWD.ns))

theorem detectCycle_eq (listed : List WorkloadDependency) (newWD : WorkloadDependency) :
    detectCycle listed newWD =
      (detectedPath listed newWD).map (List.map WorkloadKey.toString) := rfl

theorem isChain_successors {edges : Edges} {l : List WorkloadKey} :
    List.IsChain (fun a b => b ∈ successors edges a) l ↔ List.IsChain (Joined edges) l :=
  List.IsChain.iff (fun _ _ => mem_successors)

theorem detectedPath_sound {listed : List WorkloadDependency} {newWD : WorkloadDependency}
    {path : List WorkloadKey} (h : detectedPath listed newWD = some path) :
    CyclePath (dependencyEdges listed newWD) newWD path := by
  obtain ⟨b, hb, hne, hrun⟩ := searchEntries_eq_some h
  obtain ⟨dep, hdep, hkey⟩ := List.mem_map.mp hb
  have hown : Joined newWD.edges newWD.workloadKey b :=
    WorkloadDependency.mem_edges.mpr ⟨rfl, dep, hdep, hkey⟩
  obtain ⟨c, l, rfl, hcycle⟩ := searchStart_sound (fun _ => mem_sourcesOf)
    (card_sourcesOf_lt _) hne hrun
  constructor
  · exact ⟨b, c, l, rfl, hown, hcycle.nodup⟩
  · apply List.isChain_cons_cons.mpr
    exact ⟨own_edges_subset listed newWD hown, isChain_successors.mp hcycle.chain⟩

theorem CyclePath.closesCycle {edges : Edges} {newWD : WorkloadDependency}
    {path : List WorkloadKey} (h : CyclePath edges newWD path) : ClosesCycle edges newWD := by
  obtain ⟨b, c, l, rfl, hown, hn⟩ := h.shape
  exact exists_uses_iff.mpr ⟨newWD.workloadKey, b, c, l, hown, hn, h.chain⟩

theorem detectedPath_complete {listed : List WorkloadDependency} {newWD : WorkloadDependency}
    (h : ClosesCycle (dependencyEdges listed newWD) newWD) :
    detectedPath listed newWD ≠ none := by
  intro hnone
  obtain ⟨a, b, c, l, hown, hn, hchain⟩ := exists_uses_iff.mp h
  obtain ⟨rfl, dep, hdep, hkey⟩ := WorkloadDependency.mem_edges.mp hown
  have hne : b ≠ newWD.workloadKey := by
    rintro rfl
    simp at hn
  have hb : b ∈ newWD.spec.dependsOn.map (fun dep => resolveDependsOnKey dep newWD.ns) :=
    List.mem_map.mpr ⟨dep, hdep, hkey⟩
  have hcycle : ClosesThrough (successors (dependencyEdges listed newWD)) newWD.workloadKey b c l :=
    ⟨hn, isChain_successors.mpr (List.isChain_cons_cons.mp hchain).2⟩
  exact searchStart_complete (fun _ => mem_sourcesOf) (card_sourcesOf_lt _) hcycle
    (searchEntries_eq_none hnone hb hne)

theorem detectCycle_isSome_iff (listed : List WorkloadDependency) (newWD : WorkloadDependency) :
    (detectCycle listed newWD).isSome ↔ ClosesCycle (dependencyEdges listed newWD) newWD := by
  rw [detectCycle_eq, Option.isSome_map]
  constructor
  · intro h
    obtain ⟨path, hpath⟩ := Option.isSome_iff_exists.mp h
    exact (detectedPath_sound hpath).closesCycle
  · intro h
    exact Option.isSome_iff_ne_none.mpr (detectedPath_complete h)

theorem not_closesCycle_of_pairs {edges : Edges} {newWD : WorkloadDependency}
    {partner : WorkloadKey → WorkloadKey} (hp : ∀ k, partner (partner k) = k)
    (he : ∀ a b, Joined edges a b → b = a ∨ b = partner a) : ¬ ClosesCycle edges newWD := by
  intro h
  obtain ⟨a, b, c, l, _, hn, hchain⟩ := exists_uses_iff.mp h
  obtain ⟨hab, hchain⟩ := List.isChain_cons_cons.mp hchain
  obtain ⟨hbc, _⟩ := List.isChain_cons_cons.mp hchain
  have hn' : (a ≠ b ∧ a ≠ c ∧ a ∉ l) ∧ (b ≠ c ∧ b ∉ l) ∧ (c ∉ l ∧ l.Nodup) := by
    simpa [not_or] using hn
  have hb : b = partner a := (he a b hab).resolve_left (fun h => hn'.1.1 h.symm)
  have hc : c = partner b := (he b c hbc).resolve_left (fun h => hn'.2.1.1 h.symm)
  apply hn'.1.2.1
  rw [hc, hb, hp]

/-- Every recursive call of the search finishes. A path is reported exactly when the new object
closes a simple cycle through three or more workloads, and it is such a cycle. The verdict
depends on the edges alone; loops and mutual pairs are never reported. -/
theorem detectCycle_correct (listed : List WorkloadDependency) (newWD : WorkloadDependency) :
    (∀ node visited path, Returns (successors (dependencyEdges listed newWD)) newWD.workloadKey
      node visited path (dfs (successors (dependencyEdges listed newWD)) newWD.workloadKey
        ((dependencyEdges listed newWD).length + 1) node visited path)) ∧
    ((detectCycle listed newWD).isSome ↔ ClosesCycle (dependencyEdges listed newWD) newWD) ∧
    (∀ report, detectCycle listed newWD = some report → ∃ path,
      report = path.map WorkloadKey.toString ∧
        CyclePath (dependencyEdges listed newWD) newWD path) ∧
    (∀ listed' newWD',
      (∀ e, e ∈ dependencyEdges listed' newWD' ↔ e ∈ dependencyEdges listed newWD) →
      (∀ e, e ∈ newWD'.edges ↔ e ∈ newWD.edges) →
      (detectCycle listed' newWD').isSome = (detectCycle listed newWD).isSome) ∧
    ((∃ partner : WorkloadKey → WorkloadKey, (∀ k, partner (partner k) = k) ∧
      ∀ a b, Joined (dependencyEdges listed newWD) a b → b = a ∨ b = partner a) →
      detectCycle listed newWD = none) := by
  refine ⟨?_, detectCycle_isSome_iff listed newWD, ?_, ?_, ?_⟩
  · intro node visited path
    exact dfs_returns_of_card (fun _ => mem_sourcesOf) (card_sourcesOf_lt _) node visited path
  · intro report h
    rw [detectCycle_eq] at h
    obtain ⟨path, hpath, rfl⟩ := Option.map_eq_some_iff.mp h
    exact ⟨path, rfl, detectedPath_sound hpath⟩
  · intro listed' newWD' hall hown
    have hjoined : Joined (dependencyEdges listed' newWD') =
        Joined (dependencyEdges listed newWD) := by
      funext a b
      exact propext (hall (a, b))
    have hjoined' : Joined newWD'.edges = Joined newWD.edges := by
      funext a b
      exact propext (hown (a, b))
    rw [Bool.eq_iff_iff, detectCycle_isSome_iff, detectCycle_isSome_iff]
    unfold ClosesCycle
    rw [hjoined, hjoined']
  · rintro ⟨partner, hp, he⟩
    have hno : ¬ ClosesCycle (dependencyEdges listed newWD) newWD :=
      not_closesCycle_of_pairs hp he
    rw [← detectCycle_isSome_iff] at hno
    simpa using hno

def clusterEdges (c : Cluster) (newWD : WorkloadDependency) : Edges :=
  dependencyEdges c.wds.items newWD

def namespaceEdges (c : Cluster) (newWD : WorkloadDependency) : Edges :=
  (c.wds.items.filter (fun wd => decide (wd.ns = newWD.ns ∧ wd.key ≠ newWD.key))).flatMap
    WorkloadDependency.edges ++ newWD.edges

theorem dependencyEdges_listNamespace (c : Cluster) (newWD : WorkloadDependency) :
    dependencyEdges (c.listNamespace newWD.ns) newWD = namespaceEdges c newWD := by
  unfold dependencyEdges Cluster.listNamespace namespaceEdges
  rw [List.filter_filter]
  congr 3
  funext wd
  simp [Bool.and_comm]

/-- A cycle of the cluster is reported exactly when one of them is made of objects that live in
the namespace of the new object. -/
theorem detectCycle_cluster_iff (c : Cluster) (newWD : WorkloadDependency) :
    (ClosesCycle (clusterEdges c newWD) newWD →
      (detectCycle (c.listNamespace newWD.ns) newWD).isSome) ↔
    (ClosesCycle (clusterEdges c newWD) newWD → ClosesCycle (namespaceEdges c newWD) newWD) := by
  rw [detectCycle_isSome_iff, dependencyEdges_listNamespace]

def crossObject (ns dependent depNs dependency : String) : WorkloadDependency where
  name := dependent
  ns := ns
  generation := 1
  deletionTimestamp := none
  finalizers := []
  annotationPaused := none
  spec :=
    { dependent := ⟨"Deployment", dependent, ""⟩
      dependsOn := [⟨"Deployment", dependency, depNs, ⟨100, 30 * second, 60 * second⟩⟩]
      onDegraded := ⟨0⟩
      mode := .strict
      notify := none }
  status := .empty

def crossCluster : Cluster where
  wds := ⟨[crossObject "shop" "web" "data" "db", crossObject "data" "db" "infra" "vault"],
    by decide⟩
  deployments _ := none
  statefulSets _ := none
  cronJobs _ := none
  rollouts _ := none

/-- Three objects in three namespaces close a cycle, and the last one is let in. -/
theorem cross_namespace_cycle_missed :
    ClosesCycle (clusterEdges crossCluster (crossObject "infra" "vault" "shop" "web"))
      (crossObject "infra" "vault" "shop" "web") ∧
    detectCycle (crossCluster.listNamespace "infra")
      (crossObject "infra" "vault" "shop" "web") = none := by
  constructor
  · apply exists_uses_iff.mpr
    refine ⟨⟨"Deployment", "infra", "vault"⟩, ⟨"Deployment", "shop", "web"⟩,
      ⟨"Deployment", "data", "db"⟩, [], ?_, by decide, ?_⟩
    · exact List.mem_singleton.mpr rfl
    · unfold Joined
      decide
  · decide

end Klink
