import Mathlib.Data.Nat.Log
import Mathlib.Tactic.Ring

/-! # Rounding to a fixed number of significant bits

Non-negative fractions are pairs of naturals, so every operation computes. Exponents are
unbounded: overflow and subnormal results of a hardware format are outside this model.
-/
namespace BinaryRounding

def roundHalfEven (a b : ℕ) : ℕ :=
  if 2 * (a % b) < b then a / b
  else if b < 2 * (a % b) then a / b + 1
  else if (a / b) % 2 = 0 then a / b
  else a / b + 1

def scaleDown (e : ℤ) (num den : ℕ) : ℕ × ℕ :=
  match e with
  | .ofNat k => (num, den * 2 ^ k)
  | .negSucc k => (num * 2 ^ (k + 1), den)

def scaleUp (e : ℤ) (m : ℕ) : ℕ × ℕ :=
  match e with
  | .ofNat k => (m * 2 ^ k, 1)
  | .negSucc k => (m, 2 ^ (k + 1))

/-- The exponent that brings `num / den` into `[2 ^ (p - 1), 2 ^ p)`. The two logarithms
determine it up to one, and a comparison settles which. -/
def exponent (p num den : ℕ) : ℤ :=
  let e : ℤ := (num.log2 : ℤ) - den.log2 - p
  let q := scaleDown e num den
  if q.2 * 2 ^ p ≤ q.1 then e + 1 else e

def roundSignificant (p : ℕ) (x : ℕ × ℕ) : ℕ × ℕ :=
  if x.1 = 0 then (0, 1)
  else
    let e := exponent p x.1 x.2
    let q := scaleDown e x.1 x.2
    scaleUp e (roundHalfEven q.1 q.2)

end BinaryRounding
