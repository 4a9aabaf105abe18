import Mathlib.Data.List.Basic
import Mathlib.Order.Basic

/-! # Guarded transition systems and their runs

A guard says when an event may happen, `next` says what it does. Runs are infinite;
a finite script becomes one by idling at its end. No fairness is assumed.
-/
namespace TransitionSystem

structure System (σ ε : Type*) where
  init : σ → Prop
  enabled : σ → ε → Prop
  next : σ → ε → σ

variable {σ ε : Type*}

structure Run (S : System σ ε) where
  state : ℕ → σ
  event : ℕ → ε
  start : S.init (state 0)
  valid : ∀ k, S.enabled (state k) (event k)
  step : ∀ k, state (k + 1) = S.next (state k) (event k)

/-- The invariant rule along one run, where the step may use the position it happens at. -/
theorem Run.invariant {S : System σ ε} (r : Run S) {I : ℕ → σ → Prop} (hinit : I 0 (r.state 0))
    (hstep : ∀ k, I k (r.state k) → I (k + 1) (S.next (r.state k) (r.event k))) (k : ℕ) :
    I k (r.state k) := by
  induction k with
  | zero => exact hinit
  | succ k ih => rw [r.step]; exact hstep k ih

/-- Steps that commute while they are unrelated, and stay unrelated as others are made, lead to the
same state in any order. -/
theorem foldl_perm {f : σ → ε → σ} {unrelated : σ → ε → ε → Prop}
    (symm : ∀ s a b, unrelated s a b → unrelated s b a)
    (comm : ∀ s a b, unrelated s a b → f (f s a) b = f (f s b) a)
    (keep : ∀ s a b e, unrelated s e a → unrelated s e b → unrelated s a b →
      unrelated (f s e) a b) {es es' : List ε} (hp : es.Perm es') {s : σ}
    (h : es.Pairwise (unrelated s)) : es.foldl f s = es'.foldl f s := by
  induction hp generalizing s with
  | nil => rfl
  | cons e hp ih =>
    obtain ⟨hall, hrest⟩ := List.pairwise_cons.mp h
    apply ih
    exact hrest.imp_of_mem (fun ha hb hab => keep s _ _ e (hall _ ha) (hall _ hb) hab)
  | swap a b es =>
    have hab : unrelated s b a := (List.pairwise_cons.mp h).1 a List.mem_cons_self
    simp only [List.foldl_cons]
    rw [comm s b a hab]
  | trans hp _ ih ih' => exact (ih h).trans (ih' (h.perm hp (fun hab => symm s _ _ hab)))

/-- The script can be played from `s`: each event, chosen in the state it meets, is enabled. -/
def Playable (S : System σ ε) (s : σ) : List (σ → ε) → Prop
  | [] => True
  | e :: es => S.enabled s (e s) ∧ Playable S (S.next s (e s)) es

def play (S : System σ ε) (s : σ) : List (σ → ε) → σ
  | [] => s
  | e :: es => play S (S.next s (e s)) es

def playFirst (S : System σ ε) (s : σ) (es : List (σ → ε)) (k : ℕ) : σ := play S s (es.take k)

theorem playFirst_cons (S : System σ ε) (s : σ) (e : σ → ε) (es : List (σ → ε)) (k : ℕ) :
    playFirst S s (e :: es) (k + 1) = playFirst S (S.next s (e s)) es k := rfl

theorem playable_step {S : System σ ε} {idle : σ → ε}
    (hi : ∀ s, S.enabled s (idle s) ∧ S.next s (idle s) = s) {s es} (h : Playable S s es)
    (k : ℕ) :
    S.enabled (playFirst S s es k) (es.getD k idle (playFirst S s es k)) ∧
      playFirst S s es (k + 1) =
        S.next (playFirst S s es k) (es.getD k idle (playFirst S s es k)) := by
  induction es generalizing s k with
  | nil => simpa [playFirst, play] using ⟨(hi s).1, (hi s).2.symm⟩
  | cons e es ih =>
    cases k with
    | zero => exact ⟨h.1, by simp [playFirst, play]⟩
    | succ k =>
      rw [playFirst_cons, playFirst_cons, List.getD_cons_succ]
      exact ih h.2 k

def Run.ofScript {S : System σ ε} {s : σ} (hs : S.init s) (es : List (σ → ε))
    (h : Playable S s es) (idle : σ → ε)
    (hi : ∀ s, S.enabled s (idle s) ∧ S.next s (idle s) = s) : Run S where
  state := playFirst S s es
  event k := es.getD k idle (playFirst S s es k)
  start := hs
  valid k := (playable_step hi h k).1
  step k := (playable_step hi h k).2

end TransitionSystem
