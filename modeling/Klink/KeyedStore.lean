import Mathlib.Data.List.Nodup
import Mathlib.Data.List.Basic

/-! # Finite keyed stores

Objects of one type, each held under a key read off the object itself. The stored
list carries its own uniqueness proof, so a lookup and a membership always agree.
-/
namespace KeyedStore

structure Store {α κ : Type*} (key : α → κ) where
  items : List α
  nodup : (items.map key).Nodup

variable {α κ : Type*} {key : α → κ}

theorem Store.key_injOn (s : Store key) {a b : α} (ha : a ∈ s.items) (hb : b ∈ s.items)
    (h : key a = key b) : a = b :=
  List.inj_on_of_nodup_map s.nodup ha hb h

theorem Store.ext {s t : Store key} (h : s.items = t.items) : s = t := by
  cases s
  cases t
  congr

variable [DecidableEq κ]

def Store.get? (s : Store key) (k : κ) : Option α := s.items.find? (fun a => decide (key a = k))

theorem Store.get?_eq_some_iff (s : Store key) (k : κ) (a : α) :
    s.get? k = some a ↔ a ∈ s.items ∧ key a = k := by
  constructor
  · intro h
    exact ⟨List.mem_of_find?_eq_some h, by simpa using List.find?_some h⟩
  · rintro ⟨ha, rfl⟩
    cases h : s.get? (key a) with
    | none => simpa using List.find?_eq_none.mp h a ha
    | some b =>
      have hb : key b = key a := by simpa using List.find?_some h
      rw [s.key_injOn (List.mem_of_find?_eq_some h) ha hb]

theorem Store.get?_key (s : Store key) {k : κ} {a : α} (h : s.get? k = some a) : key a = k :=
  ((s.get?_eq_some_iff k a).mp h).2

def Store.modify (s : Store key) (k : κ) (f : α → α) (hf : ∀ a, key (f a) = key a) : Store key where
  items := s.items.map (fun a => if key a = k then f a else a)
  nodup := by
    have : key ∘ (fun a => if key a = k then f a else a) = key := by
      funext a
      by_cases h : key a = k <;> simp [h, hf]
    rw [List.map_map, this]
    exact s.nodup

theorem Store.get?_modify_self (s : Store key) (k : κ) (f : α → α) (hf) :
    (s.modify k f hf).get? k = (s.get? k).map f := by
  change (s.items.map (fun a => if key a = k then f a else a)).find? _ = (s.items.find? _).map f
  induction s.items with
  | nil => rfl
  | cons a as ih =>
    by_cases h : key a = k
    · simp [h, hf]
    · simpa [h] using ih

theorem Store.get?_modify_ne (s : Store key) {k j : κ} (f : α → α) (hf) (h : j ≠ k) :
    (s.modify k f hf).get? j = s.get? j := by
  change (s.items.map (fun a => if key a = k then f a else a)).find? _ = s.items.find? _
  induction s.items with
  | nil => rfl
  | cons a as ih =>
    by_cases hk : key a = k
    · have hj : key a ≠ j := fun e => h (e.symm.trans hk)
      simpa [hk, hf, h.symm] using ih
    · by_cases hj : key a = j
      · simp [hj, h]
      · simpa [hk, hj] using ih

theorem Store.map_modify {β : Type*} (s : Store key) {k : κ} (f : α → α)
    (hf : ∀ a, key (f a) = key a) {g : α → β} (hg : ∀ a ∈ s.items, key a = k → g (f a) = g a) :
    (s.modify k f hf).items.map g = s.items.map g := by
  change (s.items.map (fun a => if key a = k then f a else a)).map g = s.items.map g
  rw [List.map_map]
  apply List.map_congr_left
  intro a ha
  by_cases hk : key a = k
  · simp [hk, hg a ha hk]
  · simp [hk]

/-- An object under a key that is already taken is not stored. -/
def Store.insert (s : Store key) (a : α) : Store key :=
  if h : key a ∈ s.items.map key then s
  else ⟨s.items ++ [a], by
    rw [List.map_append]
    exact s.nodup.append (List.nodup_singleton _) (by simpa [List.disjoint_singleton] using h)⟩

theorem Store.mem_insert {s : Store key} {a b : α} (h : b ∈ (s.insert a).items) :
    b ∈ s.items ∨ b = a := by
  unfold insert at h
  split at h
  · exact Or.inl h
  · simpa using h

theorem Store.mem_modify {s : Store key} {k : κ} {f : α → α} {hf} {b : α}
    (h : b ∈ (s.modify k f hf).items) : ∃ a ∈ s.items, b = a ∨ b = f a := by
  obtain ⟨a, ha, rfl⟩ := List.mem_map.mp h
  refine ⟨a, ha, ?_⟩
  by_cases hk : key a = k
  · rw [if_pos hk]
    exact Or.inr rfl
  · rw [if_neg hk]
    exact Or.inl rfl

def Store.erase (s : Store key) (k : κ) : Store key where
  items := s.items.filter (fun a => decide (key a ≠ k))
  nodup := (List.filter_sublist.map key).nodup s.nodup

theorem Store.get?_erase_self (s : Store key) (k : κ) : (s.erase k).get? k = none := by
  apply List.find?_eq_none.mpr
  intro a ha
  have := (List.mem_filter.mp ha).2
  simpa using this

theorem Store.get?_erase_ne (s : Store key) {k j : κ} (h : j ≠ k) :
    (s.erase k).get? j = s.get? j := by
  change (s.items.filter (fun a => decide (key a ≠ k))).find? _ = s.items.find? _
  rw [List.find?_filter]
  congr 1
  funext a
  by_cases hj : key a = j
  · simp [hj, h]
  · simp [hj]

def Store.restrict (s : Store key) (p : κ → Bool) : Store key where
  items := s.items.filter (fun a => p (key a))
  nodup := (List.filter_sublist.map key).nodup s.nodup

theorem Store.get?_restrict (s : Store key) (p : κ → Bool) (k : κ) :
    (s.restrict p).get? k = if p k then s.get? k else none := by
  change (s.items.filter (fun a => p (key a))).find? _ = _
  rw [List.find?_filter]
  by_cases hk : p k = true
  · rw [if_pos hk]
    change _ = s.items.find? _
    congr 1
    funext a
    by_cases ha : key a = k
    · simp [ha, hk]
    · simp [ha]
  · rw [if_neg hk]
    apply List.find?_eq_none.mpr
    intro a _
    by_cases ha : key a = k
    · simp [ha, hk]
    · simp [ha]

section Commuting

variable {k j : κ} {f g : α → α} {hf : ∀ a, key (f a) = key a} {hg : ∀ a, key (g a) = key a}

theorem Store.modify_comm (s : Store key) (h : j ≠ k) :
    (s.modify j f hf).modify k g hg = (s.modify k g hg).modify j f hf := by
  apply Store.ext
  change (s.items.map _).map _ = (s.items.map _).map _
  rw [List.map_map, List.map_map]
  apply List.map_congr_left
  intro a _
  by_cases hj : key a = j
  · have hk : key a ≠ k := fun hk => h (hj.symm.trans hk)
    simp [hj, hf, h]
  · by_cases hk : key a = k
    · simp [hk, hg, h.symm]
    · simp [hj, hk]

theorem Store.restrict_modify (s : Store key) (p : κ → Bool) :
    (s.modify j f hf).restrict p = (s.restrict p).modify j f hf := by
  apply Store.ext
  change (s.items.map _).filter _ = (s.items.filter _).map _
  rw [List.filter_map]
  congr 1
  apply List.filter_congr
  intro a _
  by_cases hj : key a = j
  · simp [hj, hf]
  · simp [hj]

theorem Store.erase_modify_comm (s : Store key) :
    (s.modify j f hf).erase k = (s.erase k).modify j f hf :=
  s.restrict_modify (fun i => decide (i ≠ k))

theorem Store.erase_comm (s : Store key) (j k : κ) :
    (s.erase j).erase k = (s.erase k).erase j := by
  apply Store.ext
  exact List.filter_comm _ _ _

theorem Store.restrict_erase (s : Store key) (p : κ → Bool) :
    (s.erase k).restrict p = (s.restrict p).erase k := by
  apply Store.ext
  exact List.filter_comm _ _ _

end Commuting

/-- Rewrites the first object under `k`, or adds one at the end. -/
def upsert (key : α → κ) (k : κ) (f : Option α → α) : List α → List α
  | [] => [f none]
  | a :: as => if key a = k then f (some a) :: as else a :: upsert key k f as

structure Files (key : α → κ) (k : κ) (f : Option α → α) : Prop where
  fresh : key (f none) = k
  kept : ∀ a, key a = k → key (f (some a)) = k

section Upsert

variable {k : κ} {f : Option α → α}

theorem find?_upsert (hf : Files key k f) (as : List α) :
    (upsert key k f as).find? (fun a => decide (key a = k)) =
      some (f (as.find? (fun a => decide (key a = k)))) := by
  induction as with
  | nil => simp [upsert, hf.fresh]
  | cons a as ih =>
    by_cases h : key a = k
    · simp [upsert, h, hf.kept a h]
    · simpa [upsert, h] using ih

theorem getElem?_upsert_ne (hf : Files key k f) {b : α} (hb : key b ≠ k) (as : List α) (l : ℕ) :
    (upsert key k f as)[l]? = some b ↔ as[l]? = some b := by
  induction as generalizing l with
  | nil =>
    cases l with
    | zero =>
      have hne : f none ≠ b := fun h => hb (h ▸ hf.fresh)
      simp [upsert, hne]
    | succ l => simp [upsert]
  | cons a as ih =>
    by_cases h : key a = k
    · cases l with
      | zero =>
        have hne : f (some a) ≠ b := fun he => hb (he ▸ hf.kept a h)
        have hne' : a ≠ b := fun he => hb (he ▸ h)
        simp [upsert, h, hne, hne']
      | succ l => simp [upsert, h]
    · cases l with
      | zero => simp [upsert, h]
      | succ l => simpa [upsert, h] using ih l

theorem map_key_upsert (hf : Files key k f) (as : List α) :
    (upsert key k f as).map key = if k ∈ as.map key then as.map key else as.map key ++ [k] := by
  induction as with
  | nil => simp [upsert, hf.fresh]
  | cons a as ih =>
    by_cases h : key a = k
    · simp [upsert, h, hf.kept a h]
    · have hk : k ≠ key a := fun he => h he.symm
      rw [upsert, if_neg h, List.map_cons, ih, List.map_cons]
      by_cases hm : k ∈ as.map key
      · rw [if_pos hm, if_pos (List.mem_cons_of_mem _ hm)]
      · have hm' : k ∉ key a :: as.map key := by
          rw [List.mem_cons]
          exact not_or.mpr ⟨hk, hm⟩
        rw [if_neg hm, if_neg hm', List.cons_append]

theorem nodup_upsert (hf : Files key k f) {as : List α} (h : (as.map key).Nodup) :
    ((upsert key k f as).map key).Nodup := by
  rw [map_key_upsert hf]
  split
  · exact h
  · next hm => exact h.append (List.nodup_singleton _) (List.disjoint_singleton.mpr hm)

/-- Writing twice is writing once, also where `g` rounds what is stored after each write. -/
theorem map_upsert_map_upsert (hf : Files key k f) (g : α → α) (hkey : ∀ a, key (g a) = key a)
    (hg : ∀ a, g (g a) = g a) (hfg : ∀ o, g (f (some (g (f o)))) = g (f o)) (as : List α) :
    (upsert key k f ((upsert key k f as).map g)).map g = (upsert key k f as).map g := by
  induction as with
  | nil => simp [upsert, hkey, hf.fresh, hfg]
  | cons a as ih =>
    by_cases h : key a = k
    · simp [upsert, h, hkey, hf.kept a h, hfg, hg]
    · simp [upsert, h, hkey, hg, ih]

end Upsert

end KeyedStore
