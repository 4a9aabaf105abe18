import Klink.SharedDependents
import Klink.WatchMapping

/-! # Two workloads that depend on each other

Taking one workload down makes it unhealthy for the object of the other one. The lookup behind
`CoSuspended` keeps the second object from following the first, so the two are never suspended
together, whatever happens between their Reconciles.
-/
namespace Klink

open TransitionSystem

def WorkloadDependency.dependsOnTarget (wd : WorkloadDependency) (dep : DependsOnEntry) : Target :=
  ⟨WorkloadKind.ofString dep.kind, ⟨wd.dependsOnNs dep, dep.name⟩⟩

/-- The keys of two objects and the two workloads they have as dependents, one on each side. -/
structure MutualPair where
  key : Bool → NamespacedName
  target : Bool → Target
  plain : ∀ s, (target s).kind.Plain
  keys_ne : key true ≠ key false
  targets_ne : target true ≠ target false

namespace MutualPair

variable (p : MutualPair)

theorem key_ne (s : Bool) : p.key (!s) ≠ p.key s := by
  cases s with
  | true => exact p.keys_ne.symm
  | false => exact p.keys_ne

theorem target_ne (s : Bool) : p.target (!s) ≠ p.target s := by
  cases s with
  | true => exact p.targets_ne.symm
  | false => exact p.targets_ne

structure Joins (s : Bool) (wd : WorkloadDependency) : Prop where
  target : wd.target = p.target s
  dependsOn : ∃ dep, wd.spec.dependsOn = [dep] ∧ wd.dependsOnTarget dep = p.target (!s)

structure Enters (s : Bool) (wd : WorkloadDependency) : Prop where
  joins : p.Joins s wd
  created : wd.Created
  active : wd.Active

/-- Both workloads always exist. Others may scale a workload while its object is not suspended,
and change everything but the two objects at will. -/
def rules : Rules where
  start c := ∀ s, (∃ obj, c.workload (p.target s).kind (p.target s).key = some obj) ∧
    ∀ wd, c.getWD (p.key s) = some wd → p.Enters s wd
  calls _ req api := (∃ s, req = p.key s) ∧ api.AllOk
  disturbs c c' := ∀ s,
    (∃ obj', c'.workload (p.target s).kind (p.target s).key = some obj' ∧
      ∀ wd obj, c.getWD (p.key s) = some wd → wd.status.phase = .suspended →
        c.workload (p.target s).kind (p.target s).key = some obj →
        obj'.getReplicas = obj.getReplicas) ∧
    (c'.getWD (p.key s) = c.getWD (p.key s) ∨ c.getWD (p.key s) = none ∧
      ∀ wd, c'.getWD (p.key s) = some wd → p.Enters s wd)

end MutualPair

theorem depStatus_coSuspended {c : Cluster} {k : NamespacedName} {wd : WorkloadDependency}
    {obj : WorkloadObject} (h : c.getWD k = some wd) (hp : wd.status.phase = .suspended)
    (hk : obj.kind.Plain) (h0 : obj.getReplicas = 0) (cond : HealthCondition) :
    depStatus .ok c ⟨wd.dependentKey, obj⟩ cond wd.dependentKey.ns = .ok .coSuspended := by
  have hany : isSuspendedByKlink .ok c wd.dependentKey.name wd.dependentKey.ns = .ok true := by
    refine congrArg Except.ok (List.any_eq_true.mpr ⟨wd, Cluster.mem_wds h, ?_⟩)
    exact decide_eq_true ⟨rfl, hp⟩
  have hdown : downStatus .ok c wd.dependentKey.name wd.dependentKey.ns = .ok .coSuspended := by
    unfold downStatus
    rw [hany]
  cases obj with
  | deployment w => exact (if_pos h0).trans hdown
  | statefulSet w => exact (if_pos h0).trans hdown
  | cronJob => exact absurd rfl hk.ne_cronJob
  | rollout => rcases hk with hk | hk <;> cases hk

theorem evaluates_coSuspended {api : Api} {c : Cluster} {k : NamespacedName}
    {wd wd' : WorkloadDependency} {dep : DependsOnEntry} {obj : WorkloadObject} (hok : api.AllOk)
    (h : c.getWD k = some wd) (hp : wd.status.phase = .suspended) (hk : obj.kind.Plain)
    (hobj : c.dependent wd = some obj) (h0 : obj.getReplicas = 0)
    (hd : wd'.spec.dependsOn = [dep]) (ht : wd'.dependsOnTarget dep = wd.target) :
    evaluateDependencies api c wd' = .ok ⟨true, ""⟩ := by
  obtain ⟨hkind, hkey⟩ := Target.mk.inj ht
  have hns : wd'.dependsOnNs dep = wd.dependentKey.ns := congrArg NamespacedName.ns hkey
  have hget : getWorkload (api.getDependency 0) c dep.kind dep.name (wd'.dependsOnNs dep) =
      .ok ⟨wd.dependentKey, obj⟩ := by
    have hw : c.workload (WorkloadKind.ofString dep.kind) ⟨wd'.dependsOnNs dep, dep.name⟩ =
        some obj := by
      rw [hkind, hkey]
      exact hobj
    unfold getWorkload
    rw [hok.getDependency 0]
    simp only [hw]
    rw [hkey]
  have hst := depStatus_coSuspended h hp hk h0 dep.condition
  rw [← hns] at hst
  unfold evaluateDependencies
  rw [hd]
  simp only [evaluateFrom, hget, hok.listIndex 0, hst]

structure MutualPair.Safe (p : MutualPair) (c : Cluster) : Prop where
  present : ∀ s, ∃ obj, c.workload (p.target s).kind (p.target s).key = some obj
  joins : ∀ s wd, c.getWD (p.key s) = some wd →
    p.Joins s wd ∧ wd.Active ∧ wd.deletionTimestamp = none
  down : ∀ s wd obj, c.getWD (p.key s) = some wd → wd.status.phase = .suspended →
    c.workload (p.target s).kind (p.target s).key = some obj → obj.getReplicas = 0
  apart : ∀ s wd wd', c.getWD (p.key s) = some wd → c.getWD (p.key (!s)) = some wd' →
    wd.status.phase = .suspended → wd'.status.phase ≠ .suspended

theorem Move.to_suspended {wd : WorkloadDependency} {w : WorkloadObject} {now : Int} {ok : Bool}
    {d : Deed} {caller : Memory} (hm : Move wd w now ok d (some (.suspended, caller))) :
    (wd.status.phase = .suspended ∧ d = .keep) ∨
      (d = .suspend ∧ (wd.status.phase = .suspended ∨ ok = false)) := by
  cases hm with
  | @watch ok _ _ htrue hfalse =>
    cases ok with
    | true => cases htrue rfl
    | false => rcases hfalse rfl with h | h <;> cases h
  | stay _ _ hp => exact Or.inl ⟨hp, rfl⟩
  | enforce _ _ hp => exact Or.inr ⟨rfl, Or.inl hp⟩
  | startRecovery _ hp => exact Or.inl ⟨hp, rfl⟩
  | suspend => exact Or.inr ⟨rfl, Or.inr rfl⟩

theorem Advance.to_suspended {api : Api} {now : Int} {c : Cluster} {req : NamespacedName}
    {wd : WorkloadDependency} {obj obj' : WorkloadObject} {m' : Memory} {ps : List Patch}
    (h : Advance api now c req wd (some obj) m' (some obj') ps) (hok : api.AllOk)
    (hk : obj.kind ≠ .cronJob) (hp : m'.phase = .suspended)
    (hdown : wd.status.phase = .suspended → obj.getReplicas = 0) :
    obj'.getReplicas = 0 ∧ (wd.status.phase = .suspended ∨ found api c req = some false) := by
  rcases h.persisted_present (hok.statusUpdate 0) with
    ⟨rfl, rfl⟩ | ⟨phase, hph, rfl, _⟩ | ⟨s, d, phase, caller, hs, hm, rfl, rfl⟩
  · exact ⟨hdown hp, Or.inl hp⟩
  · rcases hph with rfl | rfl <;> cases hp
  · obtain rfl : phase = .suspended := hp
    rcases hm.to_suspended with ⟨hsame, rfl⟩ | ⟨rfl, hwhy⟩
    · exact ⟨hdown hsame, Or.inl hsame⟩
    · refine ⟨Deed.object_suspend_replicas hk _, hwhy.imp_right (fun hf => ?_)⟩
      rw [found_eq_of_sighting hs, ← hf]

namespace MutualPair

variable {p : MutualPair} {c c' : Cluster}

theorem Safe.obj_plain {s : Bool} {obj : WorkloadObject}
    (hobj : c.workload (p.target s).kind (p.target s).key = some obj) : obj.kind.Plain := by
  rw [c.workload_kind hobj]
  exact p.plain s

/-- While one object is suspended, the evaluation of the other one finds its dependency well. -/
theorem Safe.evaluates (h : p.Safe c) {s : Bool} {wd wd' : WorkloadDependency} {api : Api}
    (hg : c.getWD (p.key s) = some wd) (hp : wd.status.phase = .suspended)
    (hg' : c.getWD (p.key (!s)) = some wd') (hok : api.AllOk) :
    evaluateDependencies api c wd' = .ok ⟨true, ""⟩ := by
  obtain ⟨obj, hobj⟩ := h.present s
  obtain ⟨dep, hdep, hdt⟩ := (h.joins (!s) wd' hg').1.dependsOn
  have ht := (h.joins s wd hg).1.target
  rw [Bool.not_not, ← ht] at hdt
  have hdown := h.down s wd obj hg hp hobj
  have hplain := Safe.obj_plain hobj
  rw [← ht] at hobj
  exact evaluates_coSuspended hok hg hp hplain hobj hdown hdep hdt

theorem Safe.not_found_false (h : p.Safe c) {s : Bool} {wd wd' : WorkloadDependency} {api : Api}
    (hg : c.getWD (p.key s) = some wd) (hp : wd.status.phase = .suspended)
    (hg' : c.getWD (p.key (!s)) = some wd') (hok : api.AllOk) :
    found api c (p.key (!s)) ≠ some false := by
  intro hf
  obtain ⟨si, hs, hfalse⟩ := Option.map_eq_some_iff.mp hf
  have hev := sighting_evaluation hs hg'
  rw [h.evaluates hg hp hg' hok] at hev
  rw [← Except.ok.inj hev] at hfalse
  cases hfalse

theorem Safe.start (h : p.rules.start c) : p.Safe c where
  present s := (h s).1
  joins s wd hg := ⟨((h s).2 wd hg).joins, ((h s).2 wd hg).active, ((h s).2 wd hg).created.2⟩
  down s wd obj hg hp := by
    rw [((h s).2 wd hg).created.phase] at hp
    cases hp
  apart s wd wd' hg _ hp := by
    rw [((h s).2 wd hg).created.phase] at hp
    cases hp

theorem Safe.disturbed (h : p.Safe c) (hd : p.rules.disturbs c c') : p.Safe c' := by
  have hback : ∀ s wd, c'.getWD (p.key s) = some wd →
      c.getWD (p.key s) = some wd ∨ p.Enters s wd := by
    intro s wd hg
    rcases (hd s).2 with hsame | ⟨_, hnew⟩
    · exact Or.inl (hsame.symm.trans hg)
    · exact Or.inr (hnew wd hg)
  have hold : ∀ s wd, c'.getWD (p.key s) = some wd → wd.status.phase = .suspended →
      c.getWD (p.key s) = some wd := by
    intro s wd hg hp
    rcases hback s wd hg with hsame | hnew
    · exact hsame
    · rw [hnew.created.phase] at hp
      cases hp
  refine ⟨?_, ?_, ?_, ?_⟩
  · intro s
    obtain ⟨obj', hobj', _⟩ := (hd s).1
    exact ⟨obj', hobj'⟩
  · intro s wd hg
    rcases hback s wd hg with hsame | hnew
    · exact h.joins s wd hsame
    · exact ⟨hnew.joins, hnew.active, hnew.created.2⟩
  · intro s wd obj' hg hp hobj'
    obtain ⟨obj, hobj⟩ := h.present s
    obtain ⟨obj'', hobj'', hr⟩ := (hd s).1
    obtain rfl := Option.some.inj (hobj'.symm.trans hobj'')
    rw [hr wd obj (hold s wd hg hp) hp hobj]
    exact h.down s wd obj (hold s wd hg hp) hp hobj
  · intro s wd wd' hg hg' hp hp'
    exact h.apart s wd wd' (hold s wd hg hp) (hold (!s) wd' hg' hp') hp hp'

theorem Joins.sameSpec {s : Bool} {wd wd' : WorkloadDependency} (h : p.Joins s wd)
    (hs : wd.SameSpec wd') : p.Joins s wd' := by
  refine ⟨hs.target.target_eq.trans h.target, ?_⟩
  obtain ⟨dep, hdep, ht⟩ := h.dependsOn
  refine ⟨dep, by rw [hs.spec, hdep], ?_⟩
  have hns : wd'.ns = wd.ns := congrArg NamespacedName.ns hs.key
  rw [← ht]
  unfold WorkloadDependency.dependsOnTarget WorkloadDependency.dependsOnNs
  rw [hns]

theorem Safe.change_side (h : p.Safe c) {s : Bool} {wd : WorkloadDependency} {obj : WorkloadObject}
    (hg : c'.getWD (p.key s) = some wd)
    (hobj : c'.workload (p.target s).kind (p.target s).key = some obj)
    (hother : c'.getWD (p.key (!s)) = c.getWD (p.key (!s)))
    (hfar : c'.workload (p.target (!s)).kind (p.target (!s)).key =
      c.workload (p.target (!s)).kind (p.target (!s)).key)
    (hjoins : p.Joins s wd ∧ wd.Active ∧ wd.deletionTimestamp = none)
    (hdown : wd.status.phase = .suspended → obj.getReplicas = 0)
    (hapart : ∀ wd', c.getWD (p.key (!s)) = some wd' → wd.status.phase = .suspended →
      wd'.status.phase ≠ .suspended) : p.Safe c' := by
  refine ⟨?_, ?_, ?_, ?_⟩
  · intro s'
    rcases Bool.eq_or_eq_not s' s with rfl | rfl
    · exact ⟨obj, hobj⟩
    · rw [hfar]
      exact h.present (!s)
  · intro s' w hw
    rcases Bool.eq_or_eq_not s' s with rfl | rfl
    · obtain rfl := Option.some.inj (hg.symm.trans hw)
      exact hjoins
    · rw [hother] at hw
      exact h.joins (!s) w hw
  · intro s' w o hw hp ho
    rcases Bool.eq_or_eq_not s' s with rfl | rfl
    · obtain rfl := Option.some.inj (hg.symm.trans hw)
      obtain rfl := Option.some.inj (hobj.symm.trans ho)
      exact hdown hp
    · rw [hother] at hw
      rw [hfar] at ho
      exact h.down (!s) w o hw hp ho
  · intro s' w w₂ hw hw₂ hp hp₂
    rcases Bool.eq_or_eq_not s' s with rfl | rfl
    · obtain rfl := Option.some.inj (hg.symm.trans hw)
      rw [hother] at hw₂
      exact hapart w₂ hw₂ hp hp₂
    · rw [Bool.not_not] at hw₂
      obtain rfl := Option.some.inj (hg.symm.trans hw₂)
      rw [hother] at hw
      exact hapart w hw hp₂ hp

theorem Safe.reconciled (h : p.Safe c) {api : Api} (hok : api.AllOk) (now : Int) (s : Bool) :
    p.Safe (c.reconciled api now (p.key s)) := by
  cases hg : c.getWD (p.key s) with
  | none =>
    rw [reconcile_absent now hg]
    exact h
  | some wd =>
    obtain ⟨hjoins, hactive, hlive⟩ := h.joins s wd hg
    obtain ⟨obj, hobj⟩ := h.present s
    have hconf := reconcile_confined now hg hok.written
    have htrans := reconcile_transition now hg hok.written
    have hkey : ∀ d : Cluster, d.dependent wd = d.workload (p.target s).kind (p.target s).key := by
      intro d
      rw [← hjoins.target]
      rfl
    rw [hkey, hkey, hobj] at htrans
    obtain ⟨wd', hg', hspec, hadv⟩ := htrans.advance hlive
    obtain ⟨obj', hobj', _⟩ := htrans.dependent_exists
    rw [hobj'] at hadv
    have hother : (c.reconciled api now (p.key s)).getWD (p.key (!s)) = c.getWD (p.key (!s)) :=
      hconf.getWD (p.key_ne s)
    have hfar : (c.reconciled api now (p.key s)).workload (p.target (!s)).kind (p.target (!s)).key =
        c.workload (p.target (!s)).kind (p.target (!s)).key := by
      apply hconf.workload_of_target
      rw [hjoins.target]
      exact (p.target_ne s).symm
    have hsusp : wd'.status.phase = .suspended →
        obj'.getReplicas = 0 ∧ (wd.status.phase = .suspended ∨
          found api c (p.key s) = some false) :=
      fun hp => hadv.to_suspended hok (Safe.obj_plain hobj).ne_cronJob hp
        (fun hp => h.down s wd obj hg hp hobj)
    refine h.change_side hg' hobj' hother hfar ?_ (fun hp => (hsusp hp).1) ?_
    · exact ⟨hjoins.sameSpec hspec,
        ⟨hspec.enforces.mpr hactive.enforces, hspec.isPaused.trans hactive.unpaused⟩,
        hspec.deletionTimestamp.trans hlive⟩
    · intro wd₂ hg₂ hp hp₂
      rcases (hsusp hp).2 with hsame | hf
      · exact h.apart s wd wd₂ hg hg₂ hsame hp₂
      · rw [← Bool.not_not s] at hg hf
        exact h.not_found_false hg₂ hp₂ hg hok hf

theorem safe_all (r : Run p.rules.system) (i : ℕ) : p.Safe (r.state i).cluster := by
  refine Rules.invariant r (fun _ => .start) ?_ ?_ i
  · rintro k _ api _ ⟨⟨s, rfl⟩, hok⟩ hk
    exact hk.reconciled hok _ s
  · intro k c' hdist hk
    exact hk.disturbed hdist

end MutualPair

/-- The two objects are never suspended together. While one of them is, its workload is at zero,
counts as co-suspended, and the evaluation of the other object finds all well. -/
theorem mutual_never_both_suspended (p : MutualPair) (r : Run p.rules.system) (i : ℕ) :
    (∀ wd wd', (r.state i).cluster.getWD (p.key true) = some wd →
      (r.state i).cluster.getWD (p.key false) = some wd' →
      ¬ (wd.status.phase = .suspended ∧ wd'.status.phase = .suspended)) ∧
    ∀ s wd, (r.state i).cluster.getWD (p.key s) = some wd → wd.status.phase = .suspended →
      (∃ obj, (r.state i).cluster.workload (p.target s).kind (p.target s).key = some obj ∧
        obj.getReplicas = 0 ∧ ∀ cond, depStatus .ok (r.state i).cluster
          ⟨(p.target s).key, obj⟩ cond (p.target s).key.ns = .ok .coSuspended) ∧
      ∀ wd' api, (r.state i).cluster.getWD (p.key (!s)) = some wd' → api.AllOk →
        evaluateDependencies api (r.state i).cluster wd' = .ok ⟨true, ""⟩ := by
  have hsafe := MutualPair.safe_all r i
  constructor
  · rintro wd wd' hg hg' ⟨hp, hp'⟩
    exact hsafe.apart true wd wd' hg hg' hp hp'
  · intro s wd hg hp
    obtain ⟨obj, hobj⟩ := hsafe.present s
    have h0 := hsafe.down s wd obj hg hp hobj
    have ht := (hsafe.joins s wd hg).1.target
    refine ⟨⟨obj, hobj, h0, fun cond => ?_⟩, fun wd' api hg' hok => ?_⟩
    · rw [← ht]
      exact depStatus_coSuspended hg hp (MutualPair.Safe.obj_plain hobj) h0 cond
    · exact hsafe.evaluates hg hp hg' hok

def webNeedsDb : NamespacedName := ⟨"shop", "web-needs-db"⟩

def dbNeedsWeb : NamespacedName := ⟨"data", "db-needs-web"⟩

def mutualDemo : World where
  cluster := Cluster.putWorkload (Cluster.putWorkload
    ⟨⟨[{ demoObject "Deployment" .strict 0 with
          ns := "shop"
          spec := ⟨⟨"Deployment", "web", ""⟩, [⟨"StatefulSet", "db", "data", ⟨0, 0, 0⟩⟩], ⟨0⟩,
            .strict, none⟩ },
        { demoObject "StatefulSet" .strict 0 with
          ns := "data"
          name := "db-needs-web"
          spec := ⟨⟨"StatefulSet", "db", ""⟩, [⟨"Deployment", "web", "shop", ⟨0, 0, 0⟩⟩], ⟨0⟩,
            .strict, none⟩ }], by decide⟩,
      fun _ => none, fun _ => none, fun _ => none, fun _ => none⟩
    ⟨"shop", "web"⟩ (.deployment ⟨some 3, 3⟩)) ⟨"data", "db"⟩ (demoDb 0)
  clock := 0

/-- `web` is taken down, and the object of `db` stays Healthy over it. -/
example :
    let s := mutualDemo.after [runs webNeedsDb .good, runs dbNeedsWeb .good,
      runs webNeedsDb .good, waits (31 * second), runs webNeedsDb .good, runs dbNeedsWeb .good]
    (s.cluster.workload .deployment ⟨"shop", "web"⟩).map WorkloadObject.getReplicas = some 0 ∧
      (s.cluster.getWD webNeedsDb).map (fun wd => wd.status.phase) = some .suspended ∧
      (s.cluster.getWD dbNeedsWeb).map (fun wd => wd.status.phase) = some .healthy := by
  decide

def WorkloadObject.downAsDependency : WorkloadObject → Bool
  | .rollout obj => !obj.isHealthyAsDependency
  | obj@(.cronJob _) => obj.isSuspended
  | obj => decide (obj.getReplicas = 0)

theorem downStatus_coSuspended_iff {call : CallResult} {c : Cluster} {name ns : String} :
    downStatus call c name ns = .ok .coSuspended ↔ call = .ok ∧ ∃ wd ∈ c.wds.items,
      indexDependentName wd = ns ++ "/" ++ name ∧ wd.status.phase = .suspended := by
  cases call with
  | conflict => simp [downStatus, isSuspendedByKlink]
  | failed => simp [downStatus, isSuspendedByKlink]
  | ok =>
    unfold downStatus isSuspendedByKlink
    generalize hany : c.wds.items.any _ = found
    cases found with
    | true => simpa using hany
    | false => simpa using hany

theorem replicaStatus_coSuspended_iff {call : CallResult} {c : Cluster} {w : WorkloadAccessor}
    {ready : Int32} {cond : HealthCondition} {ns : String} :
    replicaStatus call c w ready cond ns = .ok .coSuspended ↔
      w.obj.getReplicas = 0 ∧ downStatus call c w.key.name ns = .ok .coSuspended := by
  unfold replicaStatus
  by_cases h0 : w.obj.getReplicas = 0
  · rw [if_pos h0]
    simp [h0]
  · rw [if_neg h0]
    generalize (if cond.minReadyPercent = 0 then (100 : Int32) else cond.minReadyPercent) = least
    dsimp only
    split <;> simp [h0]

theorem depStatus_coSuspended_iff {call : CallResult} {c : Cluster} {w : WorkloadAccessor}
    {cond : HealthCondition} {ns : String} :
    depStatus call c w cond ns = .ok .coSuspended ↔
      w.obj.downAsDependency = true ∧ downStatus call c w.key.name ns = .ok .coSuspended := by
  obtain ⟨key, obj⟩ := w
  cases obj with
  | deployment obj =>
    simp [depStatus, WorkloadObject.downAsDependency, replicaStatus_coSuspended_iff]
  | statefulSet obj =>
    simp [depStatus, WorkloadObject.downAsDependency, replicaStatus_coSuspended_iff]
  | cronJob obj =>
    cases hs : (WorkloadObject.cronJob obj).isSuspended <;>
      simp [depStatus, WorkloadObject.downAsDependency, hs]
  | rollout obj =>
    cases hh : obj.isHealthyAsDependency <;> simp [depStatus, WorkloadObject.downAsDependency, hh]

/-- A suspended object that the lookup for `w` finds, and whose dependent is another workload. -/
structure WorkloadDependency.MistakenFor (wd : WorkloadDependency) (w : WorkloadAccessor) :
    Prop where
  suspended : wd.status.phase = .suspended
  index : indexDependentName wd = w.key.ns ++ "/" ++ w.key.name
  other : wd.target ≠ ⟨w.obj.kind, w.key⟩

theorem WorkloadDependency.MistakenFor.namesake {wd : WorkloadDependency} {w : WorkloadAccessor}
    (h : wd.MistakenFor w) (hns : '/' ∉ w.key.ns.toList) (hname : '/' ∉ w.key.name.toList) :
    wd.dependentKey = w.key ∧ wd.dependentKind ≠ w.obj.kind := by
  have hkey : wd.dependentKey = w.key := index_split hns hname h.index
  refine ⟨hkey, fun hkind => h.other ?_⟩
  unfold WorkloadDependency.target
  rw [hkey, hkind]

/-- The lookup goes by namespace and name. CoSuspended is wrong exactly when a suspended object
is mistaken for one of this workload and there is none of this workload. Without slashes in the
names, such an object has a workload of the same name and of another kind as its dependent. -/
theorem coSuspended_exact_iff (call : CallResult) (c : Cluster) (w : WorkloadAccessor)
    (cond : HealthCondition) :
    ((depStatus call c w cond w.key.ns = .ok .coSuspended →
        ∃ wd ∈ c.wds.items, wd.status.phase = .suspended ∧ wd.target = ⟨w.obj.kind, w.key⟩) ↔
      ¬ (call = .ok ∧ w.obj.downAsDependency = true ∧
        (∃ wd ∈ c.wds.items, wd.MistakenFor w) ∧
        ∀ wd ∈ c.wds.items, wd.status.phase = .suspended → wd.target ≠ ⟨w.obj.kind, w.key⟩)) ∧
    ('/' ∉ w.key.ns.toList → '/' ∉ w.key.name.toList →
      ∀ wd : WorkloadDependency, wd.MistakenFor w →
        wd.dependentKey = w.key ∧ wd.dependentKind ≠ w.obj.kind) := by
  refine ⟨?_, fun hns hname wd hwd => hwd.namesake hns hname⟩
  rw [depStatus_coSuspended_iff, downStatus_coSuspended_iff]
  constructor
  · rintro h ⟨hcall, hdown, ⟨wd, hmem, hwd⟩, hnone⟩
    obtain ⟨wd', hmem', hp', ht'⟩ := h ⟨hdown, hcall, wd, hmem, hwd.index, hwd.suspended⟩
    exact hnone wd' hmem' hp' ht'
  · rintro h ⟨hdown, hcall, wd, hmem, hi, hp⟩
    by_contra hnone
    push Not at hnone
    exact h ⟨hcall, hdown, ⟨wd, hmem, hp, hi, hnone wd hmem hp⟩, hnone⟩

def namesakeCluster : Cluster where
  wds := ⟨[{ demoObject "Deployment" .strict 0 with
    status := { WorkloadDependencyStatus.empty with phase := .suspended } }], by simp⟩
  deployments := Function.update (fun _ => none) webKey (some ⟨some 0, 0⟩)
  statefulSets := Function.update (fun _ => none) webKey (some ⟨some 0, 0⟩)
  cronJobs _ := none
  rollouts _ := none

/-- The StatefulSet is excused, although no object has it as its dependent. -/
theorem namesake_excused :
    depStatus .ok namesakeCluster ⟨webKey, .statefulSet ⟨some 0, 0⟩⟩ ⟨0, 0, 0⟩ webKey.ns =
        .ok .coSuspended ∧
      ¬ ∃ wd ∈ namesakeCluster.wds.items,
        wd.status.phase = .suspended ∧ wd.target = ⟨.statefulSet, webKey⟩ := by
  refine ⟨by rfl, ?_⟩
  rintro ⟨wd, hmem, _, ht⟩
  obtain rfl := List.mem_singleton.mp hmem
  cases ht

end Klink
