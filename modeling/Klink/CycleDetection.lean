import Klink.ClusterState

/-! # Cycle detection on first admission

The search of `DetectCycle`: one visited set per start node, handed from neighbour to
neighbour, and returns of length two skipped as mutual dependencies.
-/
namespace Klink

structure WorkloadKey where
  kind : String
  ns : String
  name : String
  deriving DecidableEq, Repr

def WorkloadKey.toString (k : WorkloadKey) : String := k.kind ++ "/" ++ k.ns ++ "/" ++ k.name

def resolveKey (ref : WorkloadRef) (defaultNs : String) : WorkloadKey :=
  ⟨ref.kind, if ref.ns = "" then defaultNs else ref.ns, ref.name⟩

def resolveDependsOnKey (dep : DependsOnEntry) (defaultNs : String) : WorkloadKey :=
  ⟨dep.kind, if dep.ns = "" then defaultNs else dep.ns, dep.name⟩

def WorkloadDependency.edges (wd : WorkloadDependency) : List (WorkloadKey × WorkloadKey) :=
  wd.spec.dependsOn.map
    (fun dep => (resolveKey wd.spec.dependent wd.ns, resolveDependsOnKey dep wd.ns))

def dependencyEdges (listed : List WorkloadDependency) (newWD : WorkloadDependency) :
    List (WorkloadKey × WorkloadKey) :=
  (listed.filter (fun wd => decide (wd.key ≠ newWD.key))).flatMap WorkloadDependency.edges ++
    newWD.edges

def successors (edges : List (WorkloadKey × WorkloadKey)) (k : WorkloadKey) : List WorkloadKey :=
  (edges.filter (fun e => decide (e.1 = k))).map Prod.snd

abbrev Search := Option (List WorkloadKey) × List WorkloadKey

def searchNeighbors (visit : WorkloadKey → List WorkloadKey → List WorkloadKey → Search)
    (target : WorkloadKey) (path : List WorkloadKey) :
    List WorkloadKey → List WorkloadKey → Search
  | [], visited => (none, visited)
  | neighbor :: rest, visited =>
    if neighbor = target then (some (path ++ [neighbor]), visited)
    else
      match visit neighbor visited (path ++ [neighbor]) with
      | (some cycle, visited) => (some cycle, visited)
      | (none, visited) => searchNeighbors visit target path rest visited

/-- The depth bound only makes the recursion structural: a nested call always has one more
node with outgoing edges behind it, so the number of edges is never exceeded. -/
def dfs (graph : WorkloadKey → List WorkloadKey) (target : WorkloadKey) :
    ℕ → WorkloadKey → List WorkloadKey → List WorkloadKey → Search
  | 0, _, visited, _ => (none, visited)
  | depth + 1, node, visited, path =>
    if node ∈ visited then (none, visited)
    else searchNeighbors (dfs graph target depth) target path (graph node) (node :: visited)

def searchStart (graph : WorkloadKey → List WorkloadKey) (depth : ℕ)
    (newDepKey startKey : WorkloadKey) :
    List WorkloadKey → List WorkloadKey → Option (List WorkloadKey)
  | [], _ => none
  | neighbor :: rest, visited =>
    -- two workloads that need each other are no cycle here
    if neighbor = newDepKey then searchStart graph depth newDepKey startKey rest visited
    else
      match dfs graph newDepKey depth neighbor visited [newDepKey, startKey, neighbor] with
      | (some cycle, _) => some cycle
      | (none, visited) => searchStart graph depth newDepKey startKey rest visited

def searchEntries (graph : WorkloadKey → List WorkloadKey) (depth : ℕ) (newDepKey : WorkloadKey) :
    List WorkloadKey → Option (List WorkloadKey)
  | [] => none
  | startKey :: rest =>
    if startKey = newDepKey then searchEntries graph depth newDepKey rest
    else
      match searchStart graph depth newDepKey startKey (graph startKey) [startKey] with
      | some cycle => some cycle
      | none => searchEntries graph depth newDepKey rest

/-- `listed` is what the List call returned: the WorkloadDependencies in the namespace of
`newWD`. -/
def detectCycle (listed : List WorkloadDependency) (newWD : WorkloadDependency) :
    Option (List String) :=
  let edges := dependencyEdges listed newWD
  (searchEntries (successors edges) (edges.length + 1) (resolveKey newWD.spec.dependent newWD.ns)
    (newWD.spec.dependsOn.map (fun dep => resolveDependsOnKey dep newWD.ns))).map
    (List.map WorkloadKey.toString)

def formatCycle (cycle : List String) : String := " → ".intercalate cycle

def Cluster.listNamespace (c : Cluster) (ns : String) : List WorkloadDependency :=
  c.wds.items.filter (fun wd => decide (wd.ns = ns))

end Klink
