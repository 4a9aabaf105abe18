import Klink.TransitionSystem
import Mathlib.Algebra.Order.Group.Int
import Mathlib.Logic.Function.Basic

/-! # Level-triggered control loops

A work queue hands keys to a handler. Every change of the state, by the handler or by anybody
else, is reported as the keys it concerns, and these are queued. A handler may ask to be called
again: because it failed, or after some time. The queue is a parameter. Which key it hands out
next, how long it holds back a key that failed and when a timer fires is left open; it must not
lose a key, and must not put off one that it has promised.
-/
namespace LevelTriggered

open TransitionSystem

variable {Q σ κ ι ν : Type*}

/-- What a queue holds: the keys to be handed out, and the times by which others will be. -/
structure Agenda (Q κ : Type*) where
  queued : Q → κ → Prop
  timer : Q → κ → Option Int

namespace Agenda

variable {A : Agenda Q κ} {q q' q'' : Q} {k : κ} {d d' : Int}

def Tended (A : Agenda Q κ) (q : Q) (k : κ) (deadline : Int) : Prop :=
  A.queued q k ∨ ∃ t, A.timer q k = some t ∧ t ≤ deadline

structure Keeps (A : Agenda Q κ) (q q' : Q) (k : κ) : Prop where
  queued : A.queued q k → A.queued q' k
  tended : ∀ deadline, A.Tended q k deadline → A.Tended q' k deadline

theorem Tended.mono (h : A.Tended q k d) (hd : d ≤ d') : A.Tended q k d' := by
  rcases h with h | ⟨t, ht, hle⟩
  · exact Or.inl h
  · exact Or.inr ⟨t, ht, hle.trans hd⟩

theorem Keeps.refl (A : Agenda Q κ) (q : Q) (k : κ) : A.Keeps q q k := ⟨id, fun _ => id⟩

theorem Keeps.trans (h : A.Keeps q q' k) (h' : A.Keeps q' q'' k) : A.Keeps q q'' k :=
  ⟨fun hq => h'.queued (h.queued hq), fun d ht => h'.tended d (h.tended d ht)⟩

theorem Keeps.of_timer (hq : A.queued q k → A.queued q' k)
    (ht : ∀ t, A.timer q k = some t → A.Tended q' k t) : A.Keeps q q' k := by
  refine ⟨hq, ?_⟩
  rintro d (h | ⟨t, h, hle⟩)
  · exact Or.inl (hq h)
  · exact (ht t h).mono hle

end Agenda

/-- The work queue of a control loop. `add` takes reports, `take` hands a key out, `retry` and
`arm` take a key back after a failure and with a timer, and `moves` is what the queue does on its
own as time goes by. -/
structure WorkQueue (Q κ : Type*) extends Agenda Q κ where
  add : List κ → Q → Q
  take : κ → Q → Q
  retry : κ → Q → Q
  arm : κ → Int → Q → Q
  moves : Int → Q → Q → Prop
  add_queued : ∀ ks q k, k ∈ ks → queued (add ks q) k
  add_keeps : ∀ ks q k, toAgenda.Keeps q (add ks q) k
  take_keeps : ∀ j q k, k ≠ j → toAgenda.Keeps q (take j q) k
  retry_queued : ∀ k q, queued (retry k q) k
  retry_keeps : ∀ j q k, toAgenda.Keeps q (retry j q) k
  arm_tended : ∀ k t q, toAgenda.Tended (arm k t q) k t
  arm_keeps : ∀ j t q k, toAgenda.Keeps q (arm j t q) k
  moves_keeps : ∀ now q q' k, moves now q q' → toAgenda.Keeps q q' k

inductive Verdict where
  | retry
  | after (delay : Int)
  | done
  deriving DecidableEq, Repr

def WorkQueue.settle (W : WorkQueue Q κ) (v : Verdict) (k : κ) (now : Int) (q : Q) : Q :=
  match v with
  | .retry => W.retry k q
  | .after d => W.arm k (now + d) q
  | .done => q

theorem WorkQueue.settle_keeps (W : WorkQueue Q κ) (v : Verdict) (j : κ) (now : Int) (q : Q)
    (k : κ) : W.Keeps q (W.settle v j now q) k := by
  cases v with
  | retry => exact W.retry_keeps j q k
  | after d => exact W.arm_keeps j (now + d) q k
  | done => exact .refl _ q k

structure Loop (σ Q : Type*) where
  state : σ
  clock : Int
  queue : Q

structure Handled (σ κ : Type*) where
  state : σ
  reported : List κ
  verdict : Verdict

inductive Event (σ κ ι Q : Type*) where
  | handle (k : κ) (input : ι)
  | change (after : σ) (reported : List κ)
  | pass (time : Int)
  | turn (after : Q)

/-- `listed` are the keys that are reported when the loop starts. -/
structure Controller (σ κ ι Q : Type*) where
  queue : WorkQueue Q κ
  init : Int → σ → Prop
  listed : σ → κ → Prop
  calls : σ → κ → ι → Prop
  handle : ι → Int → σ → κ → Handled σ κ
  watch : σ → σ → List κ → Prop

namespace Controller

variable (C : Controller σ κ ι Q)

def Queued (s : Loop σ Q) (k : κ) : Prop := C.queue.queued s.queue k

def Tended (s : Loop σ Q) (k : κ) (deadline : Int) : Prop := C.queue.Tended s.queue k deadline

def next (s : Loop σ Q) : Event σ κ ι Q → Loop σ Q
  | .handle k input =>
    let h := C.handle input s.clock s.state k
    { state := h.state
      clock := s.clock
      queue := C.queue.settle h.verdict k s.clock
        (C.queue.add h.reported (C.queue.take k s.queue)) }
  | .change after reported => { s with state := after, queue := C.queue.add reported s.queue }
  | .pass time => { s with clock := time }
  | .turn after => { s with queue := after }

def enabled (s : Loop σ Q) : Event σ κ ι Q → Prop
  | .handle k input => C.Queued s k ∧ C.calls s.state k input
  | .change after reported => C.watch s.state after reported
  | .pass time => s.clock ≤ time
  | .turn after => C.queue.moves s.clock s.queue after

def system : System (Loop σ Q) (Event σ κ ι Q) where
  init s := C.init s.clock s.state ∧ ∀ k, C.listed s.state k → C.Queued s k
  enabled := C.enabled
  next := C.next

end Controller

variable {C : Controller σ κ ι Q}

def HandledAt (r : Run C.system) (k : κ) (i : ℕ) : Prop := ∃ input, r.event i = .handle k input

section Steps

variable {r : Run C.system} {i j : ℕ} {k : κ}

theorem clock_succ (r : Run C.system) (i : ℕ) : (r.state i).clock ≤ (r.state (i + 1)).clock := by
  have hv := r.valid i
  rw [r.step i]
  cases he : r.event i with
  | handle k input => exact le_refl _
  | change after reported => exact le_refl _
  | pass time =>
    rw [he] at hv
    exact hv
  | turn after => exact le_refl _

theorem clock_mono (r : Run C.system) (h : i ≤ j) : (r.state i).clock ≤ (r.state j).clock := by
  induction h with
  | refl => exact le_refl _
  | step _ ih => exact ih.trans (clock_succ r _)

theorem HandledAt.clock (h : HandledAt r k i) : (r.state (i + 1)).clock = (r.state i).clock := by
  obtain ⟨input, he⟩ := h
  rw [r.step i, he]
  rfl

/-- Only the handler takes a key out of the queue. -/
theorem keeps_succ (hn : ¬ HandledAt r k i) :
    C.queue.Keeps (r.state i).queue (r.state (i + 1)).queue k := by
  have hv := r.valid i
  rw [r.step i]
  cases he : r.event i with
  | handle j input =>
    have hne : k ≠ j := fun hk => hn ⟨input, hk ▸ he⟩
    exact ((C.queue.take_keeps j _ k hne).trans (C.queue.add_keeps _ _ k)).trans
      (C.queue.settle_keeps _ j _ _ k)
  | change after reported => exact C.queue.add_keeps reported _ k
  | pass time => exact .refl _ _ k
  | turn after =>
    rw [he] at hv
    exact C.queue.moves_keeps _ _ _ k hv

theorem queued_succ (h : C.Queued (r.state i) k) (hn : ¬ HandledAt r k i) :
    C.Queued (r.state (i + 1)) k := (keeps_succ hn).queued h

theorem queued_until (h : C.Queued (r.state i) k) (hij : i ≤ j)
    (hn : ∀ l, i ≤ l → l < j → ¬ HandledAt r k l) : C.Queued (r.state j) k := by
  induction hij with
  | refl => exact h
  | @step j hij ih =>
    apply queued_succ
    · exact ih (fun l hl hlj => hn l hl (Nat.lt_succ_of_lt hlj))
    · exact hn j hij (Nat.lt_succ_self j)

theorem queued_of_reported {input : ι} {s : Loop σ Q} {j : κ}
    (h : k ∈ (C.handle input s.clock s.state j).reported) :
    C.Queued (C.next s (.handle j input)) k :=
  (C.queue.settle_keeps _ j s.clock _ k).queued (C.queue.add_queued _ _ k h)

theorem queued_of_retry {input : ι} {s : Loop σ Q}
    (h : (C.handle input s.clock s.state k).verdict = .retry) :
    C.Queued (C.next s (.handle k input)) k := by
  change C.queue.queued (C.queue.settle (C.handle input s.clock s.state k).verdict k _ _) k
  rw [h]
  exact C.queue.retry_queued k _

theorem exists_first_handled (hij : i ≤ j) (h : HandledAt r k j) :
    ∃ l, i ≤ l ∧ l ≤ j ∧ HandledAt r k l ∧ ∀ l', i ≤ l' → l' < l → ¬ HandledAt r k l' := by
  induction j using Nat.strong_induction_on with
  | _ j ih =>
    by_cases hsome : ∃ l, i ≤ l ∧ l < j ∧ HandledAt r k l
    · obtain ⟨l, hil, hlj, hl⟩ := hsome
      obtain ⟨l', hil', hll', hl', hfirst⟩ := ih l hlj hil hl
      exact ⟨l', hil', by omega, hl', hfirst⟩
    · exact ⟨j, hij, le_refl j, h, fun l' hl hlj hl' => hsome ⟨l', hl, hlj, hl'⟩⟩

end Steps

theorem state_invariant (r : Run C.system) {I : Int → σ → Prop}
    (start : ∀ now s, C.init now s → I now s)
    (handle : ∀ input now s k, C.calls s k input → I now s → I now (C.handle input now s k).state)
    (change : ∀ now s s' reported, C.watch s s' reported → I now s → I now s')
    (pass : ∀ now now' s, now ≤ now' → I now s → I now' s) (i : ℕ) :
    I (r.state i).clock (r.state i).state := by
  refine r.invariant (I := fun _ s => I s.clock s.state) (start _ _ r.start.1) ?_ i
  intro k hk
  have hv := r.valid k
  cases he : r.event k with
  | handle j input =>
    rw [he] at hv
    exact handle input _ _ j hv.2 hk
  | change after reported =>
    rw [he] at hv
    exact change _ _ _ reported hv hk
  | pass time =>
    rw [he] at hv
    exact pass _ _ _ hv hk
  | turn after => exact hk

/-! ## What is not queued is as it was when it was last handled -/

structure Watches (C : Controller σ κ ι Q) (view : σ → κ → ν) : Prop where
  handler : ∀ input now s k j, C.calls s k input →
    view (C.handle input now s k).state j ≠ view s j → j ∈ (C.handle input now s k).reported
  others : ∀ s s' reported, C.watch s s' reported → ∀ j, view s' j ≠ view s j → j ∈ reported

section Views

variable {view : σ → κ → ν} {r : Run C.system} {i : ℕ} {k : κ}

theorem Watches.view_succ (hw : Watches C view) (h : ¬ C.Queued (r.state (i + 1)) k) :
    view (r.state (i + 1)).state k = view (r.state i).state k := by
  by_contra hne
  apply h
  have hv := r.valid i
  rw [r.step i] at hne ⊢
  cases he : r.event i with
  | handle j input =>
    rw [he] at hv hne
    exact queued_of_reported (hw.handler input _ _ j k hv.2 hne)
  | change after reported =>
    rw [he] at hv hne
    exact C.queue.add_queued reported _ k (hw.others _ _ _ hv k hne)
  | pass time =>
    rw [he] at hne
    exact absurd rfl hne
  | turn after =>
    rw [he] at hne
    exact absurd rfl hne

structure Current (r : Run C.system) (view : σ → κ → ν) (k : κ) (j i : ℕ) : Prop where
  before : j < i
  handled : HandledAt r k j
  last : ∀ l, j < l → l < i → ¬ HandledAt r k l
  same : ∀ l, j ≤ l → l ≤ i → view (r.state l).state k = view (r.state i).state k

theorem Current.succ {j : ℕ} (h : Current r view k j i) (hn : ¬ HandledAt r k i)
    (hsame : view (r.state (i + 1)).state k = view (r.state i).state k) :
    Current r view k j (i + 1) := by
  refine ⟨Nat.lt_succ_of_lt h.before, h.handled, ?_, ?_⟩
  · intro l hl hli
    rcases Nat.lt_succ_iff_lt_or_eq.mp hli with hli | rfl
    · exact h.last l hl hli
    · exact hn
  · intro l hl hli
    rcases Nat.le_succ_iff.mp hli with hli | rfl
    · exact (h.same l hl hli).trans hsame.symm
    · rfl

theorem Watches.unqueued (hw : Watches C view) (h : ¬ C.Queued (r.state i) k) :
    (∃ j, Current r view k j i) ∨
      (¬ C.Queued (r.state 0) k ∧ view (r.state i).state k = view (r.state 0).state k) := by
  induction i with
  | zero => exact Or.inr ⟨h, rfl⟩
  | succ i ih =>
    have hsame := hw.view_succ h
    by_cases hk : HandledAt r k i
    · refine Or.inl ⟨i, Nat.lt_succ_self i, hk, ?_, ?_⟩
      · intro l hl hli
        omega
      · intro l hl hli
        rcases Nat.le_succ_iff.mp hli with hli | rfl
        · obtain rfl : l = i := by omega
          exact hsame.symm
        · rfl
    · have hq : ¬ C.Queued (r.state i) k := fun hq => h (queued_succ hq hk)
      rcases ih hq with ⟨j, hj⟩ | ⟨h0, hview⟩
      · exact Or.inl ⟨j, hj.succ hk hsame⟩
      · exact Or.inr ⟨h0, hsame.trans hview⟩

/-- A key that shows anything at all was listed at the start or reported since. -/
theorem Watches.current (hw : Watches C view) {absent : ν}
    (hl : ∀ s k, C.listed s k ∨ view s k = absent) (h : ¬ C.Queued (r.state i) k)
    (hshown : view (r.state i).state k ≠ absent) : ∃ j, Current r view k j i := by
  rcases hw.unqueued h with hj | ⟨h0, hview⟩
  · exact hj
  · rcases hl (r.state 0).state k with hlisted | hnone
    · exact absurd (r.start.2 k hlisted) h0
    · exact absurd (hview.trans hnone) hshown

end Views

/-! ## What needs care is never forgotten -/

def Handled.Returns (h : Handled σ κ) (k : κ) (now deadline : Int) : Prop :=
  h.verdict = .retry ∨ k ∈ h.reported ∨ ∃ d, h.verdict = .after d ∧ now + d ≤ deadline

section Care

variable {r : Run C.system} {i j : ℕ} {k : κ}

theorem Handled.Returns.tended {input : ι} {s : Loop σ Q} {deadline : Int}
    (h : (C.handle input s.clock s.state k).Returns k s.clock deadline) :
    C.Tended (C.next s (.handle k input)) k deadline := by
  rcases h with h | h | ⟨d, hv, hd⟩
  · exact Or.inl (queued_of_retry h)
  · exact Or.inl (queued_of_reported h)
  · change C.queue.Tended (C.queue.settle (C.handle input s.clock s.state k).verdict k _ _) k _
    rw [hv]
    exact (C.queue.arm_tended k (s.clock + d) _).mono hd

theorem tended_succ {deadline : Int} (h : C.Tended (r.state i) k deadline)
    (hn : ¬ HandledAt r k i) : C.Tended (r.state (i + 1)) k deadline :=
  (keeps_succ hn).tended deadline h

/-- `needs` says that a key needs care, and `reach` within which time. -/
structure Cares (C : Controller σ κ ι Q) (I : Int → σ → Prop) (needs : σ → κ → Prop)
    (reach : σ → κ → Int) : Prop where
  listed : ∀ s k, needs s k → C.listed s k
  handled : ∀ input now s k, I now s → C.calls s k input →
    needs (C.handle input now s k).state k →
    (C.handle input now s k).Returns k now (now + reach (C.handle input now s k).state k)
  beside : ∀ input now s k j, C.calls s k input → j ≠ k → needs (C.handle input now s k).state j →
    j ∈ (C.handle input now s k).reported ∨
      (needs s j ∧ reach s j = reach (C.handle input now s k).state j)
  others : ∀ s s' reported j, C.watch s s' reported → needs s' j →
    j ∈ reported ∨ (needs s j ∧ reach s j = reach s' j)

theorem Cares.tended {I : Int → σ → Prop} {needs : σ → κ → Prop} {reach : σ → κ → Int}
    (hc : Cares C I needs reach) (hI : ∀ i, I (r.state i).clock (r.state i).state) (i : ℕ) :
    needs (r.state i).state k →
      C.Tended (r.state i) k ((r.state i).clock + reach (r.state i).state k) := by
  induction i with
  | zero => exact fun h => Or.inl (r.start.2 k (hc.listed _ k h))
  | succ i ih =>
    intro h
    have hv := r.valid i
    have hinv := hI i
    by_cases hk : HandledAt r k i
    · obtain ⟨input, he⟩ := hk
      rw [he] at hv
      rw [r.step i, he] at h ⊢
      exact (hc.handled input _ _ k hinv hv.2 h).tended
    · have hsame : C.Queued (r.state (i + 1)) k ∨ (needs (r.state i).state k ∧
          reach (r.state i).state k = reach (r.state (i + 1)).state k) := by
        rw [r.step i] at h ⊢
        cases he : r.event i with
        | handle j input =>
          have hne : k ≠ j := fun hkj => hk ⟨input, hkj ▸ he⟩
          rw [he] at hv h
          rcases hc.beside input _ _ j k hv.2 hne h with hrep | hold
          · exact Or.inl (queued_of_reported hrep)
          · exact Or.inr hold
        | change after reported =>
          rw [he] at hv h
          rcases hc.others _ _ _ k hv h with hrep | hold
          · exact Or.inl (C.queue.add_queued reported _ k hrep)
          · exact Or.inr hold
        | pass time =>
          rw [he] at h
          exact Or.inr ⟨h, rfl⟩
        | turn after =>
          rw [he] at h
          exact Or.inr ⟨h, rfl⟩
      rcases hsame with hq | ⟨hneeds, hreach⟩
      · exact Or.inl hq
      · have hclock := clock_succ r i
        refine Agenda.Tended.mono (tended_succ (ih hneeds) hk) ?_
        omega

end Care

/-! ## How long it takes -/

/-- A queued key is handled, and a key whose timer is due is queued, before `latency` has passed. -/
structure Served (r : Run C.system) (latency : Int) : Prop where
  nonneg : 0 ≤ latency
  handled : ∀ i j k, C.Queued (r.state i) k → i ≤ j →
    (r.state i).clock + latency < (r.state j).clock → ∃ l, i ≤ l ∧ l < j ∧ HandledAt r k l
  fired : ∀ i j k t, C.queue.timer (r.state i).queue k = some t → i ≤ j →
    max t (r.state i).clock + latency < (r.state j).clock →
      ∃ l, i ≤ l ∧ l < j ∧ (C.Queued (r.state l) k ∨ HandledAt r k l)

section Service

variable {r : Run C.system} {latency deadline : Int} {i j : ℕ} {k : κ}

theorem exists_first_past {t : Int} (hij : i ≤ j) (h : t < (r.state j).clock) :
    ∃ m, i ≤ m ∧ m ≤ j ∧ t < (r.state m).clock ∧
      ∀ l, i ≤ l → l < m → (r.state l).clock ≤ t := by
  induction hij with
  | refl => exact ⟨i, le_refl i, le_refl i, h, fun l hl hlm => by omega⟩
  | @step j hij ih =>
    by_cases hj : t < (r.state j).clock
    · obtain ⟨m, hm, hmj, hpast, hfirst⟩ := ih hj
      exact ⟨m, hm, Nat.le_succ_of_le hmj, hpast, hfirst⟩
    · refine ⟨j + 1, Nat.le_succ_of_le hij, le_refl _, h, ?_⟩
      intro l _ hlj
      exact (clock_mono r (Nat.le_of_lt_succ hlj)).trans (not_lt.mp hj)

theorem Served.handled_by (hs : Served r latency) (ht : C.Tended (r.state i) k deadline)
    (hij : i ≤ j)
    (hlate : max deadline (r.state i).clock + 2 * latency < (r.state j).clock) :
    ∃ l, i ≤ l ∧ l < j ∧ HandledAt r k l := by
  have h0 := hs.nonneg
  rcases ht with hq | ⟨t, ht, hle⟩
  · exact hs.handled i j k hq hij (by omega)
  · have hpast : max deadline (r.state i).clock + latency < (r.state j).clock := by omega
    obtain ⟨m, him, hmj, hm, hfirst⟩ := exists_first_past hij hpast
    obtain ⟨l, hil, hlm, hq | hh⟩ := hs.fired i m k t ht him (by omega)
    · have hbefore := hfirst l hil hlm
      obtain ⟨l', hl', hlj, hh⟩ := hs.handled l j k hq (by omega) (by omega)
      exact ⟨l', by omega, hlj, hh⟩
    · exact ⟨l, hil, by omega, hh⟩

/-- A key that is looked after by a deadline all along is handled after it. -/
theorem Served.handled_after (hs : Served r latency) (hij : i ≤ j)
    (ht : ∀ l, i ≤ l → l < j → C.Tended (r.state l) k deadline)
    (hsoon : (r.state i).clock ≤ deadline + latency)
    (hlate : deadline + 3 * latency < (r.state j).clock) :
    ∃ l, i ≤ l ∧ l < j ∧ HandledAt r k l ∧ deadline ≤ (r.state l).clock := by
  have h0 := hs.nonneg
  have hpast : deadline - 1 < (r.state j).clock := by omega
  obtain ⟨m, him, hmj, hm, hfirst⟩ := exists_first_past hij hpast
  have hin : (r.state m).clock ≤ deadline + latency := by
    rcases Nat.eq_or_lt_of_le him with rfl | hlt
    · exact hsoon
    · obtain ⟨n, rfl⟩ : ∃ n, m = n + 1 := ⟨m - 1, by omega⟩
      have hbefore := hfirst n (by omega) (Nat.lt_succ_self n)
      by_contra hover
      -- the clock would have jumped past the deadline in one step
      have hnot : ∀ l, n ≤ l → l < n + 1 → ¬ HandledAt r k l := by
        intro l hl hln hh
        obtain rfl : l = n := by omega
        have := hh.clock
        omega
      have hidle : ¬ C.Queued (r.state n) k := by
        intro hq
        obtain ⟨l, hl, hln, hh⟩ := hs.handled n (n + 1) k hq (Nat.le_succ n) (by omega)
        exact hnot l hl hln hh
      obtain ⟨t, htimer, hle⟩ := (ht n (by omega) (by omega)).resolve_left hidle
      obtain ⟨l, hl, hln, hq | hh⟩ := hs.fired n (n + 1) k t htimer (Nat.le_succ n) (by omega)
      · obtain rfl : l = n := by omega
        exact hidle hq
      · exact hnot l hl hln hh
  have hlt : m < j := by
    rcases Nat.eq_or_lt_of_le hmj with rfl | hlt
    · omega
    · exact hlt
  obtain ⟨l, hl, hlj, hh⟩ := hs.handled_by (ht m him hlt) hmj (by omega)
  have := clock_mono r hl
  exact ⟨l, him.trans hl, hlj, hh, by omega⟩

def Prompt (r : Run C.system) : Prop :=
  ∀ i time, r.event i = .pass time → (r.state i).clock < time →
    (∀ k, ¬ C.Queued (r.state i) k) ∧
      ∀ k t, C.queue.timer (r.state i).queue k = some t → time ≤ t

theorem clock_passes (h : (r.state i).clock < (r.state (i + 1)).clock) :
    r.event i = .pass (r.state (i + 1)).clock := by
  rw [r.step i] at h ⊢
  cases he : r.event i with
  | handle k input =>
    rw [he] at h
    exact absurd h (lt_irrefl _)
  | change after reported =>
    rw [he] at h
    exact absurd h (lt_irrefl _)
  | pass time => rfl
  | turn after =>
    rw [he] at h
    exact absurd h (lt_irrefl _)

theorem exists_step_past {t : Int} (hij : i ≤ j) (hi : (r.state i).clock ≤ t)
    (hj : t < (r.state j).clock) :
    ∃ l, i ≤ l ∧ l < j ∧ (r.state l).clock ≤ t ∧ t < (r.state (l + 1)).clock := by
  obtain ⟨m, him, hmj, hm, hfirst⟩ := exists_first_past hij hj
  have hne : m ≠ i := by
    rintro rfl
    omega
  obtain ⟨l, rfl⟩ : ∃ l, m = l + 1 := ⟨m - 1, by omega⟩
  exact ⟨l, by omega, by omega, hfirst l (by omega) (Nat.lt_succ_self l), hm⟩

theorem Prompt.served (h : Prompt r) : Served r 0 := by
  refine ⟨le_refl 0, ?_, ?_⟩
  · intro i j k hq hij hlate
    by_contra hnone
    obtain ⟨l, hil, hlj, hl, hl'⟩ := exists_step_past (r := r) hij (le_refl _) (by omega)
    have hkept : C.Queued (r.state l) k :=
      queued_until hq hil (fun m him hml hm => hnone ⟨m, him, by omega, hm⟩)
    exact (h l _ (clock_passes (by omega)) (by omega)).1 k hkept
  · intro i j k t ht hij hlate
    by_contra hnone
    have hkept : ∀ l, i ≤ l → l ≤ j → C.Tended (r.state l) k t := by
      intro l hil
      induction hil with
      | refl => exact fun _ => Or.inr ⟨t, ht, le_refl t⟩
      | @step l hil ih =>
        intro hlj
        exact tended_succ (ih (by omega)) (fun hh => hnone ⟨l, hil, hlj, Or.inr hh⟩)
    obtain ⟨l, hil, hlj, hl, hl'⟩ :=
      exists_step_past (t := max t (r.state i).clock) hij (le_max_right _ _) (by omega)
    obtain ⟨t', ht', hle⟩ := (hkept l hil (Nat.le_of_lt hlj)).resolve_left
      (fun hq => hnone ⟨l, hil, hlj, Or.inl hq⟩)
    have := (h l _ (clock_passes (by omega)) (by omega)).2 k t' ht'
    omega

end Service

/-! ## A queue that holds nothing back -/

structure PlainQueue (κ : Type*) where
  waiting : List κ
  timers : κ → Option Int

namespace PlainQueue

def agenda (κ : Type*) : Agenda (PlainQueue κ) κ :=
  ⟨fun q k => k ∈ q.waiting, fun q k => q.timers k⟩

variable [DecidableEq κ]

def add (ks : List κ) (q : PlainQueue κ) : PlainQueue κ := { q with waiting := ks ∪ q.waiting }

def take (k : κ) (q : PlainQueue κ) : PlainQueue κ :=
  { q with waiting := q.waiting.filter (fun j => decide (j ≠ k)) }

def retry (k : κ) (q : PlainQueue κ) : PlainQueue κ := q.add [k]

def arm (k : κ) (t : Int) (q : PlainQueue κ) : PlainQueue κ :=
  { q with timers := Function.update q.timers k (some ((q.timers k).elim t (min t))) }

def fire (k : κ) (q : PlainQueue κ) : PlainQueue κ :=
  ⟨[k] ∪ q.waiting, Function.update q.timers k none⟩

def moves (now : Int) (q q' : PlainQueue κ) : Prop :=
  ∃ k t, q.timers k = some t ∧ t ≤ now ∧ q' = q.fire k

theorem add_queued (ks : List κ) (q : PlainQueue κ) (k : κ) (h : k ∈ ks) :
    (agenda κ).queued (q.add ks) k := List.mem_union_iff.mpr (Or.inl h)

theorem add_keeps (ks : List κ) (q : PlainQueue κ) (k : κ) : (agenda κ).Keeps q (q.add ks) k :=
  .of_timer (fun h => List.mem_union_iff.mpr (Or.inr h)) (fun t h => Or.inr ⟨t, h, le_refl t⟩)

theorem take_keeps (j : κ) (q : PlainQueue κ) (k : κ) (hk : k ≠ j) :
    (agenda κ).Keeps q (q.take j) k :=
  .of_timer (fun h => List.mem_filter.mpr ⟨h, by simpa using hk⟩)
    (fun t h => Or.inr ⟨t, h, le_refl t⟩)

theorem retry_queued (k : κ) (q : PlainQueue κ) : (agenda κ).queued (q.retry k) k :=
  add_queued [k] q k List.mem_cons_self

theorem retry_keeps (j : κ) (q : PlainQueue κ) (k : κ) : (agenda κ).Keeps q (q.retry j) k :=
  add_keeps [j] q k

theorem arm_tended (k : κ) (t : Int) (q : PlainQueue κ) : (agenda κ).Tended (q.arm k t) k t := by
  refine Or.inr ⟨_, Function.update_self k _ _, ?_⟩
  cases q.timers k with
  | none => exact le_refl t
  | some t₀ => exact min_le_left t t₀

theorem arm_keeps (j : κ) (t : Int) (q : PlainQueue κ) (k : κ) :
    (agenda κ).Keeps q (q.arm j t) k := by
  refine .of_timer id ?_
  intro t₀ h
  have h : q.timers k = some t₀ := h
  by_cases hk : k = j
  · subst hk
    refine Or.inr ⟨_, Function.update_self k _ _, ?_⟩
    rw [h]
    exact min_le_right t t₀
  · exact Or.inr ⟨t₀, (Function.update_of_ne hk _ _).trans h, le_refl t₀⟩

theorem moves_keeps (now : Int) (q q' : PlainQueue κ) (k : κ) (h : moves now q q') :
    (agenda κ).Keeps q q' k := by
  obtain ⟨j, t, _, _, rfl⟩ := h
  refine .of_timer (fun h => List.mem_union_iff.mpr (Or.inr h)) ?_
  intro t₀ h
  by_cases hk : k = j
  · subst hk
    exact Or.inl (List.mem_union_iff.mpr (Or.inl List.mem_cons_self))
  · exact Or.inr ⟨t₀, (Function.update_of_ne hk _ _).trans h, le_refl t₀⟩

end PlainQueue

def plainQueue (κ : Type*) [DecidableEq κ] : WorkQueue (PlainQueue κ) κ where
  toAgenda := PlainQueue.agenda κ
  add := PlainQueue.add
  take := PlainQueue.take
  retry := PlainQueue.retry
  arm := PlainQueue.arm
  moves := PlainQueue.moves
  add_queued := PlainQueue.add_queued
  add_keeps := PlainQueue.add_keeps
  take_keeps := PlainQueue.take_keeps
  retry_queued := PlainQueue.retry_queued
  retry_keeps := PlainQueue.retry_keeps
  arm_tended := PlainQueue.arm_tended
  arm_keeps := PlainQueue.arm_keeps
  moves_keeps := PlainQueue.moves_keeps

end LevelTriggered
