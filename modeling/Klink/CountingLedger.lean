import Mathlib.Algebra.Order.Ring.Int
import Mathlib.Data.List.Nodup
import Mathlib.Data.List.Perm.Basic

/-! # Gauges that are to count

Things from a fixed list are taken and given back, one at a time. A gauge is raised with every
taking and lowered with every giving back; the holding of a thing is what was last reported of it.
The gauge counts the things held exactly as long as nothing is taken twice, or given back unheld.
-/
namespace CountingLedger

theorem countP_change {α : Type*} [DecidableEq α] {p q : α → Bool} {x : α} {as : List α}
    (hx : x ∈ as) (hn : as.Nodup) (h : ∀ a ∈ as, a ≠ x → q a = p a) :
    (as.countP q : ℤ) - (if q x then 1 else 0) = as.countP p - (if p x then 1 else 0) := by
  have hperm := List.perm_cons_erase hx
  have hrest : (as.erase x).countP q = (as.erase x).countP p := by
    apply List.countP_congr
    intro a ha
    obtain ⟨hne, hmem⟩ := hn.mem_erase_iff.mp ha
    rw [h a hmem hne]
  rw [hperm.countP_eq q, hperm.countP_eq p, List.countP_cons, List.countP_cons, hrest]
  by_cases hp : p x = true <;> by_cases hq : q x = true <;> simp [hp, hq]

structure Ledger (τ ℓ : Type*) where
  things : List τ
  nodup : things.Nodup
  label : τ → ℓ
  report : ℕ → Option (τ × Bool)
  known : ∀ i t b, report i = some (t, b) → t ∈ things

variable {τ ℓ : Type*} [DecidableEq τ]

namespace Ledger

variable (L : Ledger τ ℓ)

def held (t : τ) : ℕ → Bool
  | 0 => false
  | i + 1 =>
    match L.report i with
    | some (t', b) => if t' = t then b else held t i
    | none => held t i

theorem held_succ {L : Ledger τ ℓ} {i : ℕ} {t : τ} {b : Bool}
    (h : L.report i = some (t, b)) (t' : τ) :
    L.held t' (i + 1) = if t = t' then b else L.held t' i := by
  rw [held, h]

theorem held_succ_of_none {L : Ledger τ ℓ} {i : ℕ} (h : L.report i = none) (t : τ) :
    L.held t (i + 1) = L.held t i := by
  rw [held, h]

variable [DecidableEq ℓ]

def change (l : ℓ) (i : ℕ) : ℤ :=
  match L.report i with
  | some (t, b) => if L.label t = l then (if b then 1 else -1) else 0
  | none => 0

def gauge (l : ℓ) : ℕ → ℤ
  | 0 => 0
  | i + 1 => gauge l i + L.change l i

def count (l : ℓ) (i : ℕ) : ℕ :=
  L.things.countP (fun t => decide (L.label t = l) && L.held t i)

def Orderly (i : ℕ) : Prop := ∀ t b, L.report i = some (t, b) → L.held t i = !b

variable {L}

/-- One step: the gauge and the count drift apart exactly by a report out of order. -/
theorem gauge_sub_count_succ {i : ℕ} {t : τ} {b : Bool} (h : L.report i = some (t, b)) (l : ℓ) :
    L.gauge l (i + 1) - L.count l (i + 1) = L.gauge l i - L.count l i +
      if L.label t = l ∧ L.held t i = b then (if b then 1 else -1) else 0 := by
  have hchange : (L.count l (i + 1) : ℤ) -
      (if (decide (L.label t = l) && L.held t (i + 1)) = true then 1 else 0) =
      L.count l i - (if (decide (L.label t = l) && L.held t i) = true then 1 else 0) := by
    apply countP_change (L.known i t b h) L.nodup
    intro a _ hne
    rw [held_succ h, if_neg hne.symm]
  rw [held_succ h, if_pos rfl] at hchange
  rw [gauge, change, h]
  dsimp only
  by_cases hl : L.label t = l
  · cases b <;> cases hh : L.held t i <;> simp [hl, hh] at hchange ⊢ <;> omega
  · simp [hl] at hchange ⊢
    omega

theorem gauge_sub_count_of_none {i : ℕ} (h : L.report i = none) (l : ℓ) :
    L.gauge l (i + 1) - L.count l (i + 1) = L.gauge l i - L.count l i := by
  have hcount : L.count l (i + 1) = L.count l i := by
    unfold count
    simp only [held_succ_of_none h]
  rw [hcount, gauge, change, h]
  simp

theorem Orderly.keeps {i : ℕ} (h : L.Orderly i) (l : ℓ) :
    L.gauge l (i + 1) - L.count l (i + 1) = L.gauge l i - L.count l i := by
  cases hr : L.report i with
  | none => exact gauge_sub_count_of_none hr l
  | some q =>
    obtain ⟨t, b⟩ := q
    rw [gauge_sub_count_succ hr, h t b hr]
    cases b <;> simp

theorem gauge_eq_count {i : ℕ} (h : ∀ j < i, L.Orderly j) (l : ℓ) :
    L.gauge l i = L.count l i := by
  induction i with
  | zero => simp [gauge, count, held]
  | succ i ih =>
    have hprev := ih (fun j hj => h j (by omega))
    have hstep := (h i (by omega)).keeps l
    omega

theorem orderly_of_gauge {i : ℕ} (h : ∀ l, L.gauge l i = L.count l i)
    (h' : ∀ l, L.gauge l (i + 1) = L.count l (i + 1)) : L.Orderly i := by
  intro t b hr
  have hstep := gauge_sub_count_succ hr (L.label t)
  rw [h, h'] at hstep
  by_contra hne
  have hheld : L.held t i = b := by
    cases b <;> cases hh : L.held t i <;> simp [hh] at hne ⊢
  rw [if_pos ⟨rfl, hheld⟩] at hstep
  cases b <;> simp at hstep

theorem gauge_eq_count_iff :
    (∀ i l, L.gauge l i = L.count l i) ↔ ∀ i, L.Orderly i :=
  ⟨fun h i => orderly_of_gauge (h i) (h (i + 1)), fun h _ l => gauge_eq_count (fun j _ => h j) l⟩

end Ledger

end CountingLedger
