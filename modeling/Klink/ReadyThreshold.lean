import Klink.GateScope
import Klink.RoundingError

/-! # The readiness threshold

Both evaluations compare a percentage that went through floating point with the required one. The
two roundings are too small to matter unless exactly the required share of the replicas is ready,
and then only the share itself matters: `29`, `57` and `58` percent come out too low.
-/
namespace Klink

open BinaryRounding

def percentOf (a b : ℕ) : ℕ × ℕ :=
  let quotient := roundSignificant 53 (a, b)
  roundSignificant 53 (quotient.1 * 100, quotient.2)

theorem readyPercent_eq (ready replicas : Int32) :
    readyPercent ready replicas = Int32.ofInt (ready.toInt.sign * replicas.toInt.sign *
      (((percentOf ready.toInt.natAbs replicas.toInt.natAbs).1 /
        (percentOf ready.toInt.natAbs replicas.toInt.natAbs).2 : ℕ) : ℤ)) := rfl

section Percentage

variable {a b m : ℕ}

theorem percentOf_den_pos : 0 < (percentOf a b).2 :=
  roundSignificant_den_pos 53 _

/-- Both roundings together move the percentage by less than `300 / 2 ^ 53`. -/
theorem percentOf_error (hb : 0 < b) (hab : a ≤ b) :
    |value (percentOf a b) - 100 * (a / b)| < 300 / 2 ^ 53 := by
  have hx : value (a, b) ≤ 1 := value_le_one hb hab
  have hx0 : 0 ≤ value (a, b) := value_nonneg (a, b)
  have h₁ := roundSignificant_error 53 (x := (a, b)) hb
  have h₂ := roundSignificant_error 53
    (x := ((roundSignificant 53 (a, b)).1 * 100, (roundSignificant 53 (a, b)).2))
    (roundSignificant_den_pos 53 (a, b))
  rw [value_mul] at h₂
  change |value (percentOf a b) - _| ≤ _ at h₂
  change |value (percentOf a b) - 100 * value (a, b)| < _
  generalize value (roundSignificant 53 (a, b)) = q at h₁ h₂
  generalize value (percentOf a b) = t at h₂ ⊢
  rw [abs_le] at h₁ h₂
  rw [abs_lt]
  constructor <;> linarith

theorem le_percentOf_iff : m ≤ (percentOf a b).1 / (percentOf a b).2 ↔
    (m : ℚ) ≤ value (percentOf a b) :=
  le_div_iff_le_value percentOf_den_pos

theorem percentOf_congr {c d : ℕ} (hb : 0 < b) (hd : 0 < d) (h : a * d = c * b) :
    percentOf a b = percentOf c d := by
  unfold percentOf
  rw [roundSignificant_congr 53 hb hd h]

def Lossy (m : ℕ) : Prop := m = 29 ∨ m = 57 ∨ m = 58

instance : DecidablePred Lossy := fun m => inferInstanceAs (Decidable (m = 29 ∨ m = 57 ∨ m = 58))

theorem le_percentOf_hundred : ∀ m < 101, 0 < m →
    (m ≤ (percentOf m 100).1 / (percentOf m 100).2 ↔ ¬ Lossy m) := by
  decide +kernel

theorem le_percentOf_iff_threshold (hb : 0 < b) (hb' : b < 2 ^ 31) (hab : a ≤ b) (hm : 0 < m)
    (hm' : m ≤ 100) : m ≤ (percentOf a b).1 / (percentOf a b).2 ↔
      m * b ≤ a * 100 ∧ ¬ (Lossy m ∧ a * 100 = m * b) := by
  have hbq : (0 : ℚ) < b := by exact_mod_cast hb
  have hgap : (300 : ℚ) / 2 ^ 53 < 1 / b := by
    rw [lt_div_iff₀ hbq]
    have hbig : (b : ℚ) < 2 ^ 31 := by exact_mod_cast hb'
    linarith
  have herr := abs_lt.mp (percentOf_error hb hab)
  rcases Nat.lt_trichotomy (a * 100) (m * b) with hlt | heq | hgt
  · have hshort : 100 * ((a : ℚ) / b) + 1 / b ≤ m := by
      have hlt' : (a : ℚ) * 100 + 1 ≤ m * b := by exact_mod_cast hlt
      rw [← mul_div_assoc, ← add_div, div_le_iff₀ hbq]
      linarith
    rw [le_percentOf_iff]
    constructor
    · intro h
      linarith
    · intro h
      omega
  · rw [percentOf_congr hb (by omega) heq, le_percentOf_hundred m (by omega) hm]
    simp [heq]
  · have hmore : (m : ℚ) + 1 / b ≤ 100 * ((a : ℚ) / b) := by
      have hgt' : (m : ℚ) * b + 1 ≤ a * 100 := by exact_mod_cast hgt
      rw [← mul_div_assoc, le_div_iff₀ hbq, add_mul, one_div, inv_mul_cancel₀ hbq.ne']
      linarith
    rw [le_percentOf_iff]
    constructor
    · intro _
      omega
    · intro _
      linarith

theorem percentOf_le (hb : 0 < b) (hab : a ≤ b) :
    (percentOf a b).1 / (percentOf a b).2 ≤ 100 := by
  have hx : value (a, b) ≤ 1 := value_le_one hb hab
  change (a : ℚ) / b ≤ 1 at hx
  have herr := abs_lt.mp (percentOf_error hb hab)
  by_contra h
  have h' : (101 : ℕ) ≤ (percentOf a b).1 / (percentOf a b).2 := by omega
  rw [le_percentOf_iff] at h'
  push_cast at h'
  linarith

end Percentage

def EnoughReady (desired ready least : Int32) : Prop :=
  least.toInt * desired.toInt ≤ ready.toInt * 100

/-- Exactly a share is required and ready that floating point makes smaller. -/
def LostInRounding (desired ready least : Int32) : Prop :=
  (least = 29 ∨ least = 57 ∨ least = 58) ∧ ready.toInt * 100 = least.toInt * desired.toInt

section Threshold

variable {desired ready least : Int32}

theorem toInt_readyPercent {a b : ℕ} (ha : ready.toInt = a) (hb : desired.toInt = b)
    (hpos : 0 < b) (hab : a ≤ b) :
    (readyPercent ready desired).toInt = ((percentOf a b).1 / (percentOf a b).2 : ℕ) := by
  have hle := percentOf_le hpos hab
  have hsign : (a : ℤ).sign * ((percentOf a b).1 / (percentOf a b).2 : ℕ) =
      ((percentOf a b).1 / (percentOf a b).2 : ℕ) := by
    cases a with
    | zero => simp [percentOf, roundSignificant]
    | succ k => rw [Int.sign_natCast_of_ne_zero k.succ_ne_zero, Int.one_mul]
  rw [readyPercent_eq, ha, hb, Int.natAbs_natCast, Int.natAbs_natCast,
    Int.sign_natCast_of_ne_zero hpos.ne', Int.mul_one, hsign]
  generalize (percentOf a b).1 / (percentOf a b).2 = percent at hle
  apply Int32.toInt_ofInt_of_le
  · omega
  · omega

theorem le_readyPercent_iff (hd : 0 < desired) (h0 : 0 ≤ ready) (hr : ready ≤ desired)
    (hm : 0 < least) (hm' : least ≤ 100) : least ≤ readyPercent ready desired ↔
      EnoughReady desired ready least ∧ ¬ LostInRounding desired ready least := by
  rw [Int32.lt_iff_toInt_lt] at hd hm
  rw [Int32.le_iff_toInt_le] at h0 hr hm' ⊢
  change (0 : ℤ) < desired.toInt at hd
  change (0 : ℤ) < least.toInt at hm
  change (0 : ℤ) ≤ ready.toInt at h0
  change least.toInt ≤ (100 : ℤ) at hm'
  obtain ⟨a, ha⟩ := Int.eq_ofNat_of_zero_le h0
  obtain ⟨b, hb⟩ := Int.eq_ofNat_of_zero_le hd.le
  obtain ⟨m, hleast⟩ := Int.eq_ofNat_of_zero_le hm.le
  have hb31 := Int32.toInt_lt desired
  have hlossy : least = 29 ∨ least = 57 ∨ least = 58 ↔ Lossy m := by
    rw [← Int32.toInt_inj, ← Int32.toInt_inj, ← Int32.toInt_inj, hleast]
    change (m : ℤ) = 29 ∨ (m : ℤ) = 57 ∨ (m : ℤ) = 58 ↔ _
    unfold Lossy
    omega
  unfold EnoughReady LostInRounding
  rw [hlossy, toInt_readyPercent ha hb (by omega) (by omega), ha, hb, hleast, Int.ofNat_le,
    le_percentOf_iff_threshold (by omega) (by omega) (by omega) (by omega) (by omega)]
  norm_cast

theorem HealthCondition.least_bounds {cond : HealthCondition} (hm : 0 ≤ cond.minReadyPercent)
    (hm' : cond.minReadyPercent ≤ 100) : 0 < cond.least ∧ cond.least ≤ 100 := by
  unfold least
  by_cases h0 : cond.minReadyPercent = 0
  · rw [if_pos h0]
    decide
  · rw [if_neg h0]
    exact ⟨Int32.lt_of_le_of_ne hm (Ne.symm h0), hm'⟩

theorem replicaStatus_healthy_iff {call : CallResult} {c : Cluster} {w : WorkloadAccessor}
    {cond : HealthCondition} {ns : String} (hd : 0 < w.obj.getReplicas) :
    replicaStatus call c w ready cond ns = .ok .healthy ↔
      cond.least ≤ readyPercent ready w.obj.getReplicas := by
  have hne : w.obj.getReplicas ≠ 0 := by
    intro h
    rw [h] at hd
    exact absurd hd (by decide)
  unfold replicaStatus
  rw [if_neg hne]
  dsimp only
  change (if cond.least ≤ _ then _ else _) = _ ↔ _
  by_cases h : cond.least ≤ readyPercent ready w.obj.getReplicas
  · simp [h]
  · simp [h]

theorem checkReplicaHealth_healthy_iff {cond : HealthCondition} {name : String}
    (hd : 0 < desired) : (checkReplicaHealth (some desired) ready cond name).1 = true ↔
      cond.least ≤ readyPercent ready desired := by
  have hne : desired ≠ 0 := by
    rintro rfl
    exact absurd hd (by decide)
  rw [← Bool.not_eq_false, checkReplicaHealth_iff ⟨some desired, ready⟩, ← Int32.not_lt]
  simp [ReplicaWorkload.Short, hne]

theorem agrees_iff_not_lost {verdict : Prop} (hd : 0 < desired) (h0 : 0 ≤ ready)
    (hr : ready ≤ desired) (hm : 0 < least) (hm' : least ≤ 100)
    (hv : verdict ↔ least ≤ readyPercent ready desired) :
    (verdict ↔ EnoughReady desired ready least) ↔ ¬ LostInRounding desired ready least := by
  have hlost : LostInRounding desired ready least → EnoughReady desired ready least := by
    rintro ⟨_, heq⟩
    exact heq.ge
  rw [hv, le_readyPercent_iff hd h0 hr hm hm']
  constructor
  · intro h hl
    exact (h.mpr (hlost hl)).2 hl
  · intro hn
    exact ⟨fun h => h.1, fun h => ⟨h, hn⟩⟩

/-- The operator and the gate both apply the documented threshold, except where exactly 29, 57 or
58 percent of the replicas are required and ready. -/
theorem documented_threshold_iff (desired ready : Int32) (cond : HealthCondition)
    (hd : 0 < desired) (h0 : 0 ≤ ready) (hr : ready ≤ desired)
    (hm : 0 ≤ cond.minReadyPercent) (hm' : cond.minReadyPercent ≤ 100) (replicas : Option Int32)
    (hdesired : replicas.getD 1 = desired) (obj : WorkloadObject)
    (hobj : obj = .deployment ⟨replicas, ready⟩ ∨ obj = .statefulSet ⟨replicas, ready⟩)
    (call : CallResult) (c : Cluster) (key : NamespacedName) (ns name : String) :
    ((depStatus call c ⟨key, obj⟩ cond ns = .ok .healthy ↔
        EnoughReady desired ready cond.least) ↔ ¬ LostInRounding desired ready cond.least) ∧
      (((checkReplicaHealth (some desired) ready cond name).1 = true ↔
        EnoughReady desired ready cond.least) ↔ ¬ LostInRounding desired ready cond.least) := by
  obtain ⟨hleast, hleast'⟩ := HealthCondition.least_bounds hm hm'
  subst hdesired
  constructor
  · apply agrees_iff_not_lost hd h0 hr hleast hleast'
    rcases hobj with rfl | rfl
    · exact replicaStatus_healthy_iff hd
    · exact replicaStatus_healthy_iff hd
  · exact agrees_iff_not_lost hd h0 hr hleast hleast' (checkReplicaHealth_healthy_iff hd)

end Threshold

theorem documented_threshold_two_of_three :
    (depStatus .ok missingCluster ⟨dbKey, .statefulSet ⟨some 3, 2⟩⟩ ⟨66, 0, 0⟩ "default" =
        .ok .healthy ↔ EnoughReady 3 2 66) ∧
      ((checkReplicaHealth (some 3) 2 ⟨66, 0, 0⟩ "db").1 = true ↔ EnoughReady 3 2 66) := by
  have h := documented_threshold_iff 3 2 ⟨66, 0, 0⟩ (by decide) (by decide) (by decide)
    (by decide) (by decide) (some 3) rfl (.statefulSet ⟨some 3, 2⟩) (Or.inr rfl) .ok
    missingCluster dbKey "default" "db"
  have hkept : ¬ LostInRounding 3 2 66 := by
    rintro ⟨hl, _⟩
    revert hl
    decide
  exact ⟨h.1.mpr hkept, h.2.mpr hkept⟩

/-- 29 of 100 replicas are ready and 29 percent are required. -/
theorem twenty_nine_percent_lost :
    EnoughReady 100 29 29 ∧
      depStatus .ok missingCluster ⟨dbKey, .statefulSet ⟨some 100, 29⟩⟩ ⟨29, 0, 0⟩ "default" =
        .ok .unhealthy ∧
      checkReplicaHealth (some 100) 29 ⟨29, 0, 0⟩ "db" = (false, "29/100 ready (28% < 29%)") := by
  unfold EnoughReady
  decide

end Klink
