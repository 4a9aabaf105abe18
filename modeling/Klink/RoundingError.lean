import Klink.BinaryRounding
import Mathlib.Algebra.Order.Field.Basic
import Mathlib.Algebra.Order.Field.Power
import Mathlib.Algebra.Order.Ring.Abs
import Mathlib.Data.Rat.Cast.Order
import Mathlib.Tactic.FieldSimp
import Mathlib.Tactic.Linarith
import Mathlib.Tactic.NormNum

/-! # How far rounding goes

Rounding to `p` significant bits stays within the `2 ^ p`-th part of what is rounded, and it
depends on the number alone, not on the fraction that stands for it.
-/
namespace BinaryRounding

def value (x : ℕ × ℕ) : ℚ := x.1 / x.2

theorem value_le_one {a b : ℕ} (hb : 0 < b) (h : a ≤ b) : value (a, b) ≤ 1 := by
  have hb' : (0 : ℚ) < b := by exact_mod_cast hb
  unfold value
  rw [div_le_one hb']
  exact_mod_cast h

theorem div_eq_add_fraction (a : ℕ) {b : ℕ} (hb : 0 < b) :
    (a : ℚ) / b = (a / b : ℕ) + ((a % b : ℕ) : ℚ) / b := by
  have hb' : (b : ℚ) ≠ 0 := by exact_mod_cast hb.ne'
  have hdiv : ((b * (a / b) + a % b : ℕ) : ℚ) = a := by rw [Nat.div_add_mod]
  rw [← hdiv]
  push_cast
  field_simp

theorem fraction_le_half {r b : ℕ} (hb : 0 < b) (h : 2 * r ≤ b) : (r : ℚ) / b ≤ 1 / 2 := by
  have hb' : (0 : ℚ) < b := by exact_mod_cast hb
  have h' : (2 : ℚ) * r ≤ b := by exact_mod_cast h
  rw [div_le_iff₀ hb']
  linarith

theorem half_le_fraction {r b : ℕ} (hb : 0 < b) (h : b ≤ 2 * r) : 1 / 2 ≤ (r : ℚ) / b := by
  have hb' : (0 : ℚ) < b := by exact_mod_cast hb
  have h' : (b : ℚ) ≤ 2 * r := by exact_mod_cast h
  rw [le_div_iff₀ hb']
  linarith

theorem roundHalfEven_error (a : ℕ) {b : ℕ} (hb : 0 < b) :
    |(roundHalfEven a b : ℚ) - a / b| ≤ 1 / 2 := by
  have hlow : (0 : ℚ) ≤ ((a % b : ℕ) : ℚ) / b := by positivity
  have hhigh : ((a % b : ℕ) : ℚ) / b ≤ 1 := value_le_one hb (Nat.mod_lt a hb).le
  rw [div_eq_add_fraction a hb, abs_le]
  unfold roundHalfEven
  by_cases hlt : 2 * (a % b) < b
  · rw [if_pos hlt]
    have := fraction_le_half hb hlt.le
    constructor <;> linarith
  · rw [if_neg hlt]
    have := half_le_fraction hb (Nat.not_lt.mp hlt)
    by_cases hgt : b < 2 * (a % b)
    · rw [if_pos hgt]
      push_cast
      constructor <;> linarith
    · rw [if_neg hgt]
      have := fraction_le_half hb (Nat.not_lt.mp hgt)
      split
      · constructor <;> linarith
      · push_cast
        constructor <;> linarith

theorem scaleDown_den_pos (e : ℤ) (num : ℕ) {den : ℕ} (hd : 0 < den) :
    0 < (scaleDown e num den).2 := by
  cases e with
  | ofNat k => exact Nat.mul_pos hd (Nat.two_pow_pos k)
  | negSucc k => exact hd

theorem value_scaleDown (e : ℤ) (num den : ℕ) :
    value (scaleDown e num den) = value (num, den) / 2 ^ e := by
  cases e with
  | ofNat k =>
    simp only [value, scaleDown, Int.ofNat_eq_natCast, zpow_natCast]
    push_cast
    rw [div_div]
  | negSucc k =>
    simp only [value, scaleDown, zpow_negSucc]
    push_cast
    rw [div_inv_eq_mul, mul_div_right_comm]

theorem value_scaleUp (e : ℤ) (m : ℕ) : value (scaleUp e m) = m * 2 ^ e := by
  cases e with
  | ofNat k => simp [value, scaleUp]
  | negSucc k =>
    simp only [value, scaleUp, zpow_negSucc]
    push_cast
    rw [div_eq_mul_inv]

theorem value_nonneg (x : ℕ × ℕ) : 0 ≤ value x := by
  unfold value
  positivity

theorem value_mul (x : ℕ × ℕ) (k : ℕ) : value (x.1 * k, x.2) = k * value x := by
  unfold value
  push_cast
  ring

theorem le_div_iff_le_value {x : ℕ × ℕ} (hd : 0 < x.2) {m : ℕ} :
    m ≤ x.1 / x.2 ↔ (m : ℚ) ≤ value x := by
  have hd' : (0 : ℚ) < x.2 := by exact_mod_cast hd
  rw [Nat.le_div_iff_mul_le hd, value, le_div_iff₀ hd']
  exact_mod_cast Iff.rfl

theorem log2_bounds {n : ℕ} (hn : 0 < n) :
    (2 : ℚ) ^ (n.log2 : ℤ) ≤ n ∧ (n : ℚ) < 2 ^ ((n.log2 : ℤ) + 1) := by
  have hlow := Nat.log2_self_le (Nat.pos_iff_ne_zero.mp hn)
  have hhigh := Nat.lt_log2_self (n := n)
  constructor
  · rw [zpow_natCast]
    exact_mod_cast hlow
  · rw [← Nat.cast_succ, zpow_natCast]
    exact_mod_cast hhigh

theorem value_log2_bounds {num den : ℕ} (hn : 0 < num) (hd : 0 < den) :
    (2 : ℚ) ^ ((num.log2 : ℤ) - den.log2 - 1) ≤ value (num, den) ∧
      value (num, den) < (2 : ℚ) ^ ((num.log2 : ℤ) - den.log2 + 1) := by
  have hd' : (0 : ℚ) < den := by exact_mod_cast hd
  obtain ⟨hnl, hnh⟩ := log2_bounds hn
  obtain ⟨hdl, hdh⟩ := log2_bounds hd
  unfold value
  constructor
  · rw [le_div_iff₀ hd']
    calc (2 : ℚ) ^ ((num.log2 : ℤ) - den.log2 - 1) * den
        ≤ 2 ^ ((num.log2 : ℤ) - den.log2 - 1) * 2 ^ ((den.log2 : ℤ) + 1) := by gcongr
      _ = 2 ^ (num.log2 : ℤ) := by
          rw [← zpow_add₀ two_ne_zero]
          congr 1
          omega
      _ ≤ num := hnl
  · rw [div_lt_iff₀ hd']
    calc (num : ℚ) < 2 ^ ((num.log2 : ℤ) + 1) := hnh
      _ = 2 ^ ((num.log2 : ℤ) - den.log2 + 1) * 2 ^ (den.log2 : ℤ) := by
          rw [← zpow_add₀ two_ne_zero]
          congr 1
          omega
      _ ≤ 2 ^ ((num.log2 : ℤ) - den.log2 + 1) * den := by gcongr

theorem scaleDown_reaches_iff (p : ℕ) (e : ℤ) (num : ℕ) {den : ℕ} (hd : 0 < den) :
    (scaleDown e num den).2 * 2 ^ p ≤ (scaleDown e num den).1 ↔
      (2 : ℚ) ^ ((p : ℤ) + e) ≤ value (num, den) := by
  have hpos : (0 : ℚ) < (scaleDown e num den).2 := by
    exact_mod_cast scaleDown_den_pos e num hd
  have hscaled : value (scaleDown e num den) * 2 ^ e = value (num, den) := by
    rw [value_scaleDown, div_mul_cancel₀ _ (zpow_ne_zero e two_ne_zero)]
  rw [← hscaled, zpow_add₀ two_ne_zero, zpow_natCast,
    mul_le_mul_iff_of_pos_right (zpow_pos two_pos e), value, le_div_iff₀ hpos,
    mul_comm (2 ^ p : ℚ)]
  exact_mod_cast Iff.rfl

/-- The exponent puts the number into the binade of `p` bits. -/
theorem exponent_spec (p : ℕ) {num den : ℕ} (hn : 0 < num) (hd : 0 < den) :
    (2 : ℚ) ^ ((p : ℤ) - 1 + exponent p num den) ≤ value (num, den) ∧
      value (num, den) < 2 ^ ((p : ℤ) + exponent p num den) := by
  obtain ⟨hlow, hhigh⟩ := value_log2_bounds hn hd
  unfold exponent
  dsimp only
  split
  · next h =>
    rw [scaleDown_reaches_iff p _ num hd] at h
    constructor
    · convert h using 2
      ring
    · convert hhigh using 2
      ring
  · next h =>
    rw [scaleDown_reaches_iff p _ num hd, not_le] at h
    constructor
    · convert hlow using 2
      ring
    · exact h

theorem roundSignificant_den_pos (p : ℕ) (x : ℕ × ℕ) : 0 < (roundSignificant p x).2 := by
  unfold roundSignificant
  split
  · exact Nat.one_pos
  · dsimp only
    cases exponent p x.1 x.2 with
    | ofNat k => exact Nat.one_pos
    | negSucc k => exact Nat.two_pow_pos (k + 1)

/-- Rounding moves a number by at most its `2 ^ p`-th part. -/
theorem roundSignificant_error (p : ℕ) {x : ℕ × ℕ} (hd : 0 < x.2) :
    |value (roundSignificant p x) - value x| ≤ value x / 2 ^ p := by
  obtain ⟨num, den⟩ := x
  unfold roundSignificant
  by_cases hn : num = 0
  · simp [hn, value]
  · rw [if_neg hn]
    dsimp only
    set e := exponent p num den with he
    obtain ⟨hlow, _⟩ := exponent_spec p (Nat.pos_of_ne_zero hn) hd
    have hstep : (0 : ℚ) < 2 ^ e := zpow_pos two_pos e
    have herr := roundHalfEven_error (scaleDown e num den).1 (scaleDown_den_pos e num hd)
    change |_ - value (scaleDown e num den)| ≤ 1 / 2 at herr
    rw [value_scaleDown] at herr
    rw [value_scaleUp]
    generalize (roundHalfEven (scaleDown e num den).1 (scaleDown e num den).2 : ℚ) = m at herr ⊢
    have hmove : m * 2 ^ e - value (num, den) = (m - value (num, den) / 2 ^ e) * 2 ^ e := by
      field_simp
    have hhalf : (2 : ℚ) ^ e / 2 ≤ value (num, den) / 2 ^ p := by
      rw [le_div_iff₀ (by positivity)]
      refine le_trans (le_of_eq ?_) hlow
      rw [zpow_add₀ two_ne_zero, zpow_sub_one₀ two_ne_zero, zpow_natCast]
      ring
    rw [hmove, abs_mul, abs_of_pos hstep]
    calc |m - value (num, den) / 2 ^ e| * 2 ^ e ≤ 1 / 2 * 2 ^ e := by gcongr
      _ = 2 ^ e / 2 := by ring
      _ ≤ value (num, den) / 2 ^ p := hhalf

theorem roundHalfEven_mul_right (a b : ℕ) {k : ℕ} (hk : 0 < k) :
    roundHalfEven (a * k) (b * k) = roundHalfEven a b := by
  have hdiv : a * k / (b * k) = a / b := Nat.mul_div_mul_right a b hk
  have hmod : a * k % (b * k) = a % b * k := Nat.mul_mod_mul_right k a b
  have hlt : 2 * (a % b * k) < b * k ↔ 2 * (a % b) < b := by
    rw [← Nat.mul_assoc]
    exact Nat.mul_lt_mul_right hk
  have hgt : b * k < 2 * (a % b * k) ↔ b < 2 * (a % b) := by
    rw [← Nat.mul_assoc]
    exact Nat.mul_lt_mul_right hk
  unfold roundHalfEven
  simp only [hdiv, hmod, hlt, hgt]

theorem roundHalfEven_congr {a b c d : ℕ} (hb : 0 < b) (hd : 0 < d) (h : a * d = c * b) :
    roundHalfEven a b = roundHalfEven c d := by
  rw [← roundHalfEven_mul_right a b hd, ← roundHalfEven_mul_right c d hb, h, Nat.mul_comm b d]

theorem exponent_congr (p : ℕ) {a b c d : ℕ} (ha : 0 < a) (hb : 0 < b) (hc : 0 < c) (hd : 0 < d)
    (h : value (a, b) = value (c, d)) : exponent p a b = exponent p c d := by
  obtain ⟨hlow, hhigh⟩ := exponent_spec p ha hb
  obtain ⟨hlow', hhigh'⟩ := exponent_spec p hc hd
  rw [h] at hlow hhigh
  have h₁ := (zpow_lt_zpow_iff_right₀ (one_lt_two (α := ℚ))).mp (hlow.trans_lt hhigh')
  have h₂ := (zpow_lt_zpow_iff_right₀ (one_lt_two (α := ℚ))).mp (hlow'.trans_lt hhigh)
  omega

theorem roundSignificant_congr (p : ℕ) {a b c d : ℕ} (hb : 0 < b) (hd : 0 < d)
    (h : a * d = c * b) : roundSignificant p (a, b) = roundSignificant p (c, d) := by
  have hvalue : value (a, b) = value (c, d) := by
    unfold value
    have hb' : (b : ℚ) ≠ 0 := by exact_mod_cast hb.ne'
    have hd' : (d : ℚ) ≠ 0 := by exact_mod_cast hd.ne'
    rw [div_eq_div_iff hb' hd']
    exact_mod_cast h
  unfold roundSignificant
  by_cases ha : a = 0
  · have hc : c = 0 := by
      rw [ha, Nat.zero_mul] at h
      exact (Nat.mul_eq_zero.mp h.symm).resolve_right hb.ne'
    rw [if_pos ha, if_pos hc]
  · have hc : c ≠ 0 := by
      rintro rfl
      rw [Nat.zero_mul] at h
      exact ha ((Nat.mul_eq_zero.mp h).resolve_right hd.ne')
    rw [if_neg ha, if_neg hc]
    dsimp only
    rw [exponent_congr p (Nat.pos_of_ne_zero ha) hb (Nat.pos_of_ne_zero hc) hd hvalue]
    congr 1
    apply roundHalfEven_congr (scaleDown_den_pos _ a hb) (scaleDown_den_pos _ c hd)
    cases exponent p c d with
    | ofNat k =>
      simp only [scaleDown]
      rw [← Nat.mul_assoc, h, Nat.mul_assoc]
    | negSucc k =>
      simp only [scaleDown]
      rw [Nat.mul_right_comm, h, Nat.mul_right_comm]

end BinaryRounding
