import Mathlib.Data.List.Cycle

/-! # Simple cycles of a directed graph

A cycle is a list of vertices up to rotation. Only cycles through at least three vertices
count here: loops and pairs of opposite edges do not.
-/
namespace DirectedCycles

variable {α : Type*}

structure SimpleCycle (edge : α → α → Prop) (s : Cycle α) : Prop where
  nodup : s.Nodup
  three : 3 ≤ s.length
  chain : s.Chain edge

/-- Written from the right vertex on, the cycle begins with an edge of `own`. -/
def Uses (own : α → α → Prop) (s : Cycle α) : Prop :=
  ∃ a b l, s = ((a :: b :: l : List α) : Cycle α) ∧ own a b

theorem SimpleCycle.mono {edge edge' : α → α → Prop} {s : Cycle α} (h : SimpleCycle edge s)
    (hsub : ∀ a b, edge a b → edge' a b) : SimpleCycle edge' s :=
  ⟨h.nodup, h.three, h.chain.imp hsub⟩

theorem SimpleCycle.exists_edge {edge : α → α → Prop} {s : Cycle α} (h : SimpleCycle edge s) :
    ∃ a b, edge a b := by
  obtain ⟨_, h3, hc⟩ := h
  induction s using Quotient.inductionOn' with
  | h l =>
    match l, h3, hc with
    | a :: b :: l, _, hc =>
      exact ⟨a, b, (List.isChain_cons_cons.mp ((Cycle.chain_coe_cons _ _ _).mp hc)).1⟩
    | [a], h3, _ =>
      have h1 : 3 ≤ 1 := h3
      omega
    | [], h3, _ =>
      have h0 : 3 ≤ 0 := h3
      omega

theorem coe_append_comm (l m : List α) :
    ((l ++ m : List α) : Cycle α) = ((m ++ l : List α) : Cycle α) :=
  Cycle.coe_eq_coe.mpr List.isRotated_append

theorem uses_of_split {own : α → α → Prop} {a x y : α} {l p q : List α}
    (hs : a :: (l ++ [a]) = p ++ x :: y :: q) (hl : l ≠ []) (hxy : own x y) :
    Uses own ((a :: l : List α) : Cycle α) := by
  rcases List.eq_nil_or_concat q with rfl | ⟨q, z, rfl⟩
  · have hs' : (a :: l) ++ [a] = (p ++ [x]) ++ [y] := by simpa using hs
    obtain ⟨hp, hy⟩ := List.append_inj' hs' rfl
    obtain rfl : a = y := by simpa using hy
    cases p with
    | nil => exact absurd (by simpa using hp : a = x ∧ l = []).2 hl
    | cons b p =>
      obtain ⟨rfl, rfl⟩ : a = b ∧ l = p ++ [x] := by simpa using hp
      refine ⟨x, a, p, ?_, hxy⟩
      exact coe_append_comm (a :: p) [x]
  · have hs' : (a :: l) ++ [a] = (p ++ x :: y :: q) ++ [z] := by simpa using hs
    obtain ⟨hp, _⟩ := List.append_inj' hs' rfl
    refine ⟨x, y, q ++ p, ?_, hxy⟩
    rw [hp]
    exact coe_append_comm p (x :: y :: q)

theorem SimpleCycle.uses_or_avoids {edge : α → α → Prop} {s : Cycle α} (h : SimpleCycle edge s)
    (own : α → α → Prop) :
    Uses own s ∨ SimpleCycle (fun a b => edge a b ∧ ¬ own a b) s := by
  by_cases hu : Uses own s
  · exact Or.inl hu
  refine Or.inr ⟨h.nodup, h.three, ?_⟩
  obtain ⟨hn, h3, hc⟩ := h
  induction s using Quotient.inductionOn' with
  | h l =>
    cases l with
    | nil => exact Cycle.Chain.nil _
    | cons a l =>
      have hl : l ≠ [] := by
        rintro rfl
        have h1 : 3 ≤ 1 := h3
        omega
      have hc' := (Cycle.chain_coe_cons _ _ _).mp hc
      refine (Cycle.chain_coe_cons _ _ _).mpr ?_
      rw [List.isChain_iff_forall_rel_of_append_cons_cons] at hc' ⊢
      intro x y p q hs
      exact ⟨hc' hs, fun hxy => hu (uses_of_split hs hl hxy)⟩

/-- A cycle that uses an edge of `own`, spelled out from that edge. -/
theorem exists_uses_iff {edge own : α → α → Prop} :
    (∃ s, SimpleCycle edge s ∧ Uses own s) ↔
      ∃ a b c l, own a b ∧ (a :: b :: c :: l).Nodup ∧
        List.IsChain edge (a :: b :: c :: (l ++ [a])) := by
  constructor
  · rintro ⟨_, ⟨hn, h3, hc⟩, a, b, l, rfl, hab⟩
    cases l with
    | nil =>
      have h2 : 3 ≤ 2 := h3
      omega
    | cons c l => exact ⟨a, b, c, l, hab, hn, (Cycle.chain_coe_cons _ _ _).mp hc⟩
  · rintro ⟨a, b, c, l, hab, hn, hc⟩
    refine ⟨((a :: b :: c :: l : List α) : Cycle α), ⟨hn, ?_, ?_⟩, a, b, c :: l, rfl, hab⟩
    · simp
    · exact (Cycle.chain_coe_cons _ _ _).mpr hc

end DirectedCycles
