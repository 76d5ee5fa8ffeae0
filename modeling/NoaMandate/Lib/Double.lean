import Mathlib.Algebra.Group.Nat.Defs
import Mathlib.Data.Nat.Log
import Mathlib.Data.Int.Order.Basic
import Mathlib.Tactic.Lemma

/-!
# Integers held in a binary64 number

A program that keeps integers in floating-point numbers computes exactly up to `2 ^ 53` and rounds
to 53 significant bits, ties to even, above that.  `round` is the rounding of an exact integer
result.  Two facts are needed to reason about such a program: small results are exact, and a result
past the exact range stays past it.
-/

namespace Double

/-- The largest integer below which no two integers share a number. -/
def maxSafeInteger : Nat := 2 ^ 53 - 1

/-- A magnitude rounded to 53 significant bits, ties to even. -/
def roundNat (a : Nat) : Nat :=
  if a ≤ 2 ^ 53 then a
  else
    let ulp := 2 ^ (Nat.log 2 a - 52)
    let q := a / ulp
    let r := a % ulp
    if 2 * r > ulp || (2 * r = ulp && q % 2 = 1) then (q + 1) * ulp else q * ulp

/-- The number nearest to an exact integer result. -/
def round (n : Int) : Int := n.sign * roundNat n.natAbs

lemma roundNat_of_le {a : Nat} (h : a ≤ 2 ^ 53) : roundNat a = a := if_pos h

/-- A result in the exact range is exact. -/
lemma round_of_le {n : Int} (h : n.natAbs ≤ 2 ^ 53) : round n = n := by
  rw [round, roundNat_of_le h, Int.sign_mul_natAbs]

lemma le_roundNat {a : Nat} (h : 2 ^ 53 ≤ a) : 2 ^ 53 ≤ roundNat a := by
  unfold roundNat
  split
  · exact h
  · have hlog : 53 ≤ Nat.log 2 a := Nat.le_log_of_pow_le (by decide) h
    have hle : 2 ^ Nat.log 2 a ≤ a := Nat.pow_log_le_self 2 (by omega)
    have hsplit : 2 ^ 52 * 2 ^ (Nat.log 2 a - 52) = 2 ^ Nat.log 2 a := by
      rw [← Nat.pow_add]
      congr 1
      omega
    have hq : 2 ^ 52 ≤ a / 2 ^ (Nat.log 2 a - 52) := by
      rw [Nat.le_div_iff_mul_le (Nat.pow_pos (by decide)), hsplit]
      exact hle
    have hmul : 2 ^ 53 ≤ a / 2 ^ (Nat.log 2 a - 52) * 2 ^ (Nat.log 2 a - 52) :=
      calc 2 ^ 53 ≤ 2 ^ Nat.log 2 a := Nat.pow_le_pow_right (by decide) hlog
        _ = 2 ^ 52 * 2 ^ (Nat.log 2 a - 52) := hsplit.symm
        _ ≤ _ := Nat.mul_le_mul_right _ hq
    simp only
    split
    · exact hmul.trans (Nat.mul_le_mul_right _ (Nat.le_succ _))
    · exact hmul

/-- A nonnegative result that stays below the limit after rounding was below it exactly. -/
lemma le_maxSafeInteger_of_round_le {a : Nat} (h : round a ≤ maxSafeInteger) :
    a ≤ maxSafeInteger := by
  by_contra hlt
  have hbig : 2 ^ 53 ≤ a := by unfold maxSafeInteger at hlt; omega
  have hround : round a = roundNat a := by
    rw [round, Int.natAbs_natCast, Int.sign_natCast_of_ne_zero (by omega), Int.one_mul]
  rw [hround] at h
  have := le_roundNat hbig
  have : roundNat a ≤ maxSafeInteger := by exact_mod_cast h
  unfold maxSafeInteger at this
  omega

end Double
