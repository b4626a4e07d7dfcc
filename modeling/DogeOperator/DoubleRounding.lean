import Mathlib.Algebra.Order.Field.Rat
import Mathlib.Tactic

/-! Integers as doubles: rounded to 53 significant bits, halves to the even neighbour. -/
namespace DogeOperator.DoubleRounding

def roundToDouble (n : ℕ) : ℕ :=
  let unit := 2 ^ (n.log2 - 52)
  let lower := n / unit * unit
  if 2 * (n % unit) < unit ∨ (2 * (n % unit) = unit ∧ n / unit % 2 = 0) then lower
  else lower + unit

/-- `Number.MAX_SAFE_INTEGER` -/
def maxSafeInteger : ℕ := 2 ^ 53 - 1

/-- From here on a double is infinite. -/
def infinity : ℕ := 2 ^ 1024

/-- `Number.isSafeInteger` -/
def IsSafeInteger (x : ℚ) : Prop := x.den = 1 ∧ |x| ≤ maxSafeInteger

instance (x : ℚ) : Decidable (IsSafeInteger x) := inferInstanceAs (Decidable (_ ∧ _))

example : roundToDouble (2 ^ 53 + 1) = 2 ^ 53 ∧ roundToDouble (2 ^ 53 + 3) = 2 ^ 53 + 4 := by decide

theorem roundToDouble_of_lt {n : ℕ} (h : n < 2 ^ 53) : roundToDouble n = n := by
  have hshift : n.log2 - 52 = 0 := by
    by_cases hn : n = 0
    · rw [hn]
      rfl
    · have hlog := (Nat.log2_lt hn).mpr h
      omega
  rw [roundToDouble, hshift]
  simp [Nat.mod_one]

theorem lower_le_roundToDouble (n : ℕ) :
    n / 2 ^ (n.log2 - 52) * 2 ^ (n.log2 - 52) ≤ roundToDouble n := by
  rw [roundToDouble]
  split_ifs
  · exact le_refl _
  · exact Nat.le_add_right _ _

/-- Larger integers stay out of the range where doubles are exact. -/
theorem le_roundToDouble {n : ℕ} (h : 2 ^ 53 ≤ n) : 2 ^ 53 ≤ roundToDouble n := by
  have hn : n ≠ 0 := by
    rintro rfl
    norm_num at h
  have hlog : 53 ≤ n.log2 := (Nat.le_log2 hn).mpr h
  have hlead : 2 ^ 52 ≤ n / 2 ^ (n.log2 - 52) := by
    rw [Nat.le_div_iff_mul_le (by positivity), ← pow_add, Nat.add_sub_cancel' (by omega)]
    exact Nat.log2_self_le hn
  have hunit : 2 ^ 1 ≤ 2 ^ (n.log2 - 52) := Nat.pow_le_pow_right (by norm_num) (by omega)
  calc 2 ^ 53 = 2 ^ 52 * 2 ^ 1 := by norm_num
    _ ≤ n / 2 ^ (n.log2 - 52) * 2 ^ (n.log2 - 52) := Nat.mul_le_mul hlead hunit
    _ ≤ roundToDouble n := lower_le_roundToDouble n

theorem roundToDouble_le (n : ℕ) : roundToDouble n ≤ 2 * n := by
  by_cases hn : n = 0
  · rw [hn]
    decide
  have hunit : 2 ^ (n.log2 - 52) ≤ n := by
    calc 2 ^ (n.log2 - 52) ≤ 2 ^ n.log2 := Nat.pow_le_pow_right (by norm_num) (by omega)
      _ ≤ n := Nat.log2_self_le hn
  have hlower : n / 2 ^ (n.log2 - 52) * 2 ^ (n.log2 - 52) ≤ n := Nat.div_mul_le_self _ _
  rw [roundToDouble]
  split_ifs
  · omega
  · omega

theorem roundToDouble_finite {n : ℕ} (h : n < 2 ^ 1023) : roundToDouble n < infinity := by
  rw [infinity, pow_succ]
  have hle := roundToDouble_le n
  omega

theorem roundToDouble_pos {n : ℕ} : 0 < roundToDouble n ↔ 0 < n := by
  constructor
  · intro h
    have hle := roundToDouble_le n
    omega
  · intro h
    by_cases hsmall : n < 2 ^ 53
    · rwa [roundToDouble_of_lt hsmall]
    · have hle := le_roundToDouble (not_lt.mp hsmall)
      omega

theorem roundToDouble_lt {n bound : ℕ} (hbound : bound ≤ 2 ^ 53) :
    roundToDouble n < bound ↔ n < bound := by
  by_cases hsmall : n < 2 ^ 53
  · rw [roundToDouble_of_lt hsmall]
  · have hle := le_roundToDouble (not_lt.mp hsmall)
    omega

theorem isSafeInteger_roundToDouble (n : ℕ) :
    IsSafeInteger (roundToDouble n : ℚ) ↔ n < 2 ^ 53 := by
  have hdouble := roundToDouble_lt (n := n) (le_refl (2 ^ 53))
  have habs : |(roundToDouble n : ℚ)| ≤ maxSafeInteger ↔ roundToDouble n ≤ maxSafeInteger := by
    rw [Nat.abs_cast, Nat.cast_le]
  rw [IsSafeInteger, habs, and_iff_right (Rat.den_natCast _), ← hdouble, maxSafeInteger]
  omega

end DogeOperator.DoubleRounding
