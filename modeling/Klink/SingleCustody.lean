import Mathlib.Logic.Basic
import Mathlib.Tactic.ByContra

/-! # One value, one place

A value is either in a common pool or held by exactly one of several parties. A step of one
party keeps that as soon as it keeps the pool and the party's own hand in balance and, with the
value held by somebody else, takes nothing.
-/
namespace SingleCustody

variable {α κ : Type*} {full empty pool pool' : α} {held held' : κ → Option α}

/-- As one party sees it: the value is in the pool, or in its own hand. -/
def Settled (full empty pool : α) (hand : Option α) : Prop :=
  (pool = full ∧ hand = none) ∨ (pool = empty ∧ hand = some full)

def Custody (full empty pool : α) (held : κ → Option α) : Prop :=
  (pool = full ∧ ∀ k, held k = none) ∨
    (pool = empty ∧ ∃ k, held k = some full ∧ ∀ j, held j ≠ none → j = k)

theorem Custody.step (h : Custody full empty pool held) (k : κ)
    (frame : ∀ j, j ≠ k → held' j = held j)
    (own : Settled full empty pool (held k) → Settled full empty pool' (held' k))
    (other : pool = empty → held k = none → pool' = empty ∧ held' k = none) :
    Custody full empty pool' held' := by
  have hreturn : (∀ j, j ≠ k → held j = none) → Settled full empty pool' (held' k) →
      Custody full empty pool' held' := by
    rintro hrest (⟨hp, hk⟩ | ⟨hp, hk⟩)
    · refine Or.inl ⟨hp, fun j => ?_⟩
      by_cases hj : j = k
      · rw [hj, hk]
      · rw [frame j hj, hrest j hj]
    · refine Or.inr ⟨hp, k, hk, fun j hne => ?_⟩
      by_contra hj
      rw [frame j hj, hrest j hj] at hne
      exact hne rfl
  rcases h with ⟨hp, hn⟩ | ⟨hp, j, hj, honly⟩
  · exact hreturn (fun j _ => hn j) (own (Or.inl ⟨hp, hn k⟩))
  · by_cases hk : k = j
    · subst hk
      refine hreturn (fun j hne => ?_) (own (Or.inr ⟨hp, hj⟩))
      by_contra hsome
      exact hne (honly j hsome)
    · have hnone : held k = none := by
        by_contra hsome
        exact hk (honly k hsome)
      obtain ⟨hp', hk'⟩ := other hp hnone
      refine Or.inr ⟨hp', j, (frame j (Ne.symm hk)).trans hj, fun l hne => ?_⟩
      by_cases hl : l = k
      · rw [hl] at hne
        exact absurd hk' hne
      · rw [frame l hl] at hne
        exact honly l hne

end SingleCustody
