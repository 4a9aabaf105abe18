import Mathlib.Data.List.Chain
import Mathlib.Data.Finset.Card

/-! # Depth-first search for a path back to a target

The recursion as a relation: a derivation is one finished run of the loop over the
neighbours of the last vertex of `path`, with the vertices marked before and after it.
Marks are never taken back, so a failed branch is not entered again.
-/
namespace DepthFirstSearch

variable {α : Type*}

inductive Explores (graph : α → List α) (target : α) :
    List α → List α → List α → Option (List α) → List α → Prop where
  | done {path visited} : Explores graph target path [] visited none visited
  | hit {path rest visited} :
      Explores graph target path (target :: rest) visited (some (path ++ [target])) visited
  | seen {path n rest visited out visited'} : n ≠ target → n ∈ visited →
      Explores graph target path rest visited out visited' →
      Explores graph target path (n :: rest) visited out visited'
  | found {path n rest visited p visited'} : n ≠ target → n ∉ visited →
      Explores graph target (path ++ [n]) (graph n) (n :: visited) (some p) visited' →
      Explores graph target path (n :: rest) visited (some p) visited'
  | pass {path n rest visited visited₁ out visited'} : n ≠ target → n ∉ visited →
      Explores graph target (path ++ [n]) (graph n) (n :: visited) none visited₁ →
      Explores graph target path rest visited₁ out visited' →
      Explores graph target path (n :: rest) visited out visited'

variable {graph : α → List α} {target : α} {path ns visited visited' : List α}
  {out : Option (List α)}

theorem Explores.subset (h : Explores graph target path ns visited out visited') :
    visited ⊆ visited' := by
  induction h with
  | done => exact fun _ hv => hv
  | hit => exact fun _ hv => hv
  | seen _ _ _ ih => exact ih
  | found _ _ _ ih => exact fun v hv => ih (List.mem_cons_of_mem _ hv)
  | pass _ _ _ _ ih₁ ih₂ => exact fun v hv => ih₂ (ih₁ (List.mem_cons_of_mem _ hv))

theorem Explores.sound (h : Explores graph target path ns visited out visited') {p : List α}
    (hp : out = some p) :
    ∃ q, p = path ++ (q ++ [target]) ∧ q.Nodup ∧ (∀ v ∈ q, v ∉ visited ∧ v ≠ target) ∧
      (∀ n ∈ (q ++ [target]).head?, n ∈ ns) ∧
      List.IsChain (fun a b => b ∈ graph a) (q ++ [target]) := by
  induction h with
  | done => cases hp
  | hit =>
    obtain rfl := Option.some.inj hp
    refine ⟨[], rfl, List.nodup_nil, nofun, ?_, List.isChain_singleton _⟩
    intro n hn
    rw [← Option.some.inj hn]
    exact List.mem_cons_self
  | seen _ _ _ ih =>
    obtain ⟨q, hpq, hq, hv, hhead, hc⟩ := ih hp
    exact ⟨q, hpq, hq, hv, fun n hn => List.mem_cons_of_mem _ (hhead n hn), hc⟩
  | @found path n rest visited p visited' hne hfresh _ ih =>
    obtain ⟨q, rfl, hq, hv, hhead, hc⟩ := ih hp
    refine ⟨n :: q, by simp, ?_, ?_, ?_, List.isChain_cons.mpr ⟨hhead, hc⟩⟩
    · exact List.nodup_cons.mpr ⟨fun hm => (hv n hm).1 List.mem_cons_self, hq⟩
    · intro v hm
      rcases List.mem_cons.mp hm with rfl | hm
      · exact ⟨hfresh, hne⟩
      · exact ⟨fun h => (hv v hm).1 (List.mem_cons_of_mem _ h), (hv v hm).2⟩
    · intro m hm
      rw [← Option.some.inj hm]
      exact List.mem_cons_self
  | pass _ _ hfail _ _ ih =>
    obtain ⟨q, hpq, hq, hv, hhead, hc⟩ := ih hp
    have hsub := hfail.subset
    refine ⟨q, hpq, hq, ?_, fun n hn => List.mem_cons_of_mem _ (hhead n hn), hc⟩
    intro v hm
    exact ⟨fun h => (hv v hm).1 (hsub (List.mem_cons_of_mem _ h)), (hv v hm).2⟩

/-- After a failure the newly marked vertices are closed under the graph and away from the
target. -/
theorem Explores.closed (h : Explores graph target path ns visited out visited')
    (ho : out = none) :
    (∀ n ∈ ns, n ∈ visited' ∧ n ≠ target) ∧
      ∀ v ∈ visited', v ∉ visited → ∀ n ∈ graph v, n ∈ visited' ∧ n ≠ target := by
  induction h with
  | done => exact ⟨nofun, fun v hv hn => absurd hv hn⟩
  | hit => cases ho
  | seen hne hmem hrest ih =>
    obtain ⟨hall, hclosed⟩ := ih ho
    refine ⟨?_, hclosed⟩
    intro n hn
    rcases List.mem_cons.mp hn with rfl | hn
    · exact ⟨hrest.subset hmem, hne⟩
    · exact hall n hn
  | found => cases ho
  | @pass path n rest visited visited₁ out visited' hne hfresh hfail hrest ih₁ ih₂ =>
    obtain ⟨hall₁, hclosed₁⟩ := ih₁ rfl
    obtain ⟨hall₂, hclosed₂⟩ := ih₂ ho
    have hn : n ∈ visited₁ := hfail.subset List.mem_cons_self
    refine ⟨?_, ?_⟩
    · intro m hm
      rcases List.mem_cons.mp hm with rfl | hm
      · exact ⟨hrest.subset hn, hne⟩
      · exact hall₂ m hm
    · intro v hv hnew m hm
      by_cases hv₁ : v ∈ visited₁
      · have hmark : m ∈ visited₁ ∧ m ≠ target := by
          by_cases hvn : v = n
          · subst hvn
            exact hall₁ m hm
          · exact hclosed₁ v hv₁ (by simp [hvn, hnew]) m hm
        exact ⟨hrest.subset hmark.1, hmark.2⟩
      · exact hclosed₂ v hv hv₁ m hm

/-- A failed search leaves no path of unmarked vertices to the target. -/
theorem Explores.complete (h : Explores graph target path ns visited none visited') {n : α}
    (hn : n ∈ ns) {l : List α}
    (hc : List.IsChain (fun a b => b ∈ graph a) (n :: (l ++ [target]))) :
    ∃ v ∈ n :: l, v ∈ visited := by
  obtain ⟨hall, hclosed⟩ := h.closed rfl
  have hmark : n ∈ visited' := (hall n hn).1
  clear hall hn
  induction l generalizing n with
  | nil =>
    by_contra hno
    have hv : n ∉ visited := fun hv => hno ⟨n, List.mem_cons_self, hv⟩
    exact (hclosed n hmark hv target (List.isChain_pair.mp hc)).2 rfl
  | cons m l ih =>
    by_cases hv : n ∈ visited
    · exact ⟨n, List.mem_cons_self, hv⟩
    · obtain ⟨hnm, hc⟩ := List.isChain_cons_cons.mp hc
      obtain ⟨v, hm, hv⟩ := ih hc (hclosed n hmark hv m hnm).1
      exact ⟨v, List.mem_cons_of_mem _ hm, hv⟩

def Returns (graph : α → List α) (target n : α) (visited path : List α)
    (out : Option (List α) × List α) : Prop :=
  (n ∈ visited ∧ out = (none, visited)) ∨
    (n ∉ visited ∧ Explores graph target path (graph n) (n :: visited) out.1 out.2)

theorem Returns.subset {n : α} {out : Option (List α) × List α}
    (h : Returns graph target n visited path out) : visited ⊆ out.2 := by
  rcases h with ⟨_, rfl⟩ | ⟨_, h⟩
  · exact fun _ hv => hv
  · exact fun v hv => h.subset (List.mem_cons_of_mem _ hv)

theorem Returns.found {n : α} {p rest : List α} (ht : n ≠ target)
    (h : Returns graph target n visited (path ++ [n]) (some p, visited')) :
    Explores graph target path (n :: rest) visited (some p) visited' := by
  rcases h with ⟨_, h⟩ | ⟨hv, h⟩
  · cases h
  · exact .found ht hv h

theorem Returns.pass {n : α} {rest visited₁ : List α} (ht : n ≠ target)
    (h : Returns graph target n visited (path ++ [n]) (none, visited₁))
    (hrest : Explores graph target path rest visited₁ out visited') :
    Explores graph target path (n :: rest) visited out visited' := by
  rcases h with ⟨hv, h⟩ | ⟨hv, h⟩
  · obtain ⟨_, rfl⟩ := Prod.mk.inj h
    exact .seen ht hv hrest
  · exact .pass ht hv h hrest

variable [DecidableEq α]

/-- The vertices with neighbours that are still unmarked: what bounds the recursion depth. -/
def pending (sources : Finset α) (visited : List α) : ℕ := (sources \ visited.toFinset).card

theorem pending_mono {sources : Finset α} (h : visited ⊆ visited') :
    pending sources visited' ≤ pending sources visited := by
  apply Finset.card_le_card
  apply Finset.sdiff_subset_sdiff (Finset.Subset.refl _)
  intro v hv
  exact List.mem_toFinset.mpr (h (List.mem_toFinset.mp hv))

theorem pending_cons_lt {sources : Finset α} {n : α} (hs : n ∈ sources) (hn : n ∉ visited) :
    pending sources (n :: visited) < pending sources visited := by
  apply Finset.card_lt_card
  refine ⟨?_, ?_⟩
  · apply Finset.sdiff_subset_sdiff (Finset.Subset.refl _)
    intro v hv
    simp [List.mem_toFinset.mp hv]
  · intro hsub
    have hmem : n ∈ sources \ visited.toFinset := by simp [hs, hn]
    have hnot := hsub hmem
    simp at hnot

theorem pending_le (sources : Finset α) (visited : List α) :
    pending sources visited ≤ sources.card :=
  Finset.card_le_card Finset.sdiff_subset

end DepthFirstSearch
