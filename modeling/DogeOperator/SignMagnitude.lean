import DogeOperator.Bytes
import Mathlib.Data.Nat.Digits.Lemmas

/-! Signed numbers as bytes: the absolute value least significant byte first, and the sign in the
highest bit of the last byte. A number has one shortest encoding. -/
namespace DogeOperator.SignMagnitude
open Bytes

theorem ofLe_append (front rest : ByteString) :
    ofLe (front ++ rest) = ofLe front + 256 ^ front.length * ofLe rest := by
  induction front with
  | nil => simp [ofLe]
  | cons byte front ih =>
    rw [List.cons_append, ofLe, ofLe, ih, List.length_cons, pow_succ]
    ring

/-! Absolute values. -/

/-- The bytes of a number up to its highest one that is not zero. -/
def magnitude (n : ℕ) : ByteString := (Nat.digits 256 n).map UInt8.ofNat

theorem magnitude_zero : magnitude 0 = [] := by simp [magnitude]

theorem magnitude_of_ne_zero {n : ℕ} (h : n ≠ 0) :
    magnitude n = UInt8.ofNat (n % 256) :: magnitude (n / 256) := by
  rw [magnitude, Nat.digits_eq_cons_digits_div (by norm_num) h, List.map_cons, magnitude]

theorem ofLe_map {digits : List ℕ} (h : ∀ digit ∈ digits, digit < 256) :
    ofLe (digits.map UInt8.ofNat) = Nat.ofDigits 256 digits := by
  induction digits with
  | nil => rfl
  | cons digit digits ih =>
    rw [List.forall_mem_cons] at h
    have hdigit : (UInt8.ofNat digit).toNat = digit := by
      rw [UInt8.toNat_ofNat', Nat.mod_eq_of_lt h.1]
    rw [List.map_cons, ofLe, hdigit, ih h.2, Nat.ofDigits_cons]

theorem ofLe_magnitude (n : ℕ) : ofLe (magnitude n) = n := by
  rw [magnitude, ofLe_map fun digit => Nat.digits_lt_base (by norm_num), Nat.ofDigits_digits]

/-- The last byte is not zero. -/
theorem magnitude_eq_concat {n : ℕ} (h : n ≠ 0) :
    ∃ front last, magnitude n = front ++ [last] ∧ last ≠ 0 := by
  have hne : Nat.digits 256 n ≠ [] := Nat.digits_ne_nil_iff_ne_zero.mpr h
  refine ⟨(Nat.digits 256 n).dropLast.map UInt8.ofNat,
    UInt8.ofNat ((Nat.digits 256 n).getLast hne), ?_, ?_⟩
  · rw [magnitude]
    nth_rewrite 1 [← List.dropLast_append_getLast hne]
    rw [List.map_append, List.map_singleton]
  · have hlt : (Nat.digits 256 n).getLast hne < 256 :=
      Nat.digits_lt_base (by norm_num) (List.getLast_mem hne)
    intro hzero
    have htoNat := congrArg UInt8.toNat hzero
    rw [UInt8.toNat_ofNat', Nat.mod_eq_of_lt hlt] at htoNat
    exact Nat.getLast_digit_ne_zero 256 h htoNat

/-! The sign. -/

/-- A byte more when the highest bit is taken, else the sign goes into the last byte. -/
def withSign (negative : Bool) (bytes : ByteString) : ByteString :=
  let last := (bytes.getLastD 0).toNat
  if 128 ≤ last then bytes ++ [if negative then 0x80 else 0x00]
  else if negative then bytes.dropLast ++ [UInt8.ofNat (last + 128)]
  else bytes

def encode (v : ℤ) : ByteString := withSign (v < 0) (magnitude v.natAbs)

def decode (bytes : ByteString) : ℤ :=
  let last := (bytes.getLastD 0).toNat
  let absolute : ℤ := ofLe bytes.dropLast + 256 ^ (bytes.length - 1) * (last % 128)
  if 128 ≤ last then -absolute else absolute

variable (front : ByteString) (last : UInt8)

theorem withSign_concat (negative : Bool) :
    withSign negative (front ++ [last]) =
      if 128 ≤ last.toNat then front ++ [last] ++ [if negative then 0x80 else 0x00]
      else if negative then front ++ [UInt8.ofNat (last.toNat + 128)] else front ++ [last] := by
  simp [withSign]

theorem decode_concat :
    decode (front ++ [last]) = if 128 ≤ last.toNat
      then -(ofLe front + 256 ^ front.length * (last.toNat % 128) : ℤ)
      else ofLe front + 256 ^ front.length * (last.toNat % 128) := by
  simp [decode]

/-- The signed bytes of a number read back as the number with its sign. -/
theorem decode_withSign (negative : Bool) :
    decode (withSign negative (front ++ [last])) =
      if negative then -(ofLe (front ++ [last]) : ℤ) else ofLe (front ++ [last]) := by
  have hlast := last.toNat_lt
  have hvalue : (ofLe (front ++ [last]) : ℤ) = ofLe front + 256 ^ front.length * last.toNat := by
    rw [ofLe_append, ofLe, ofLe]
    push_cast
    ring
  rw [withSign_concat]
  by_cases hhigh : 128 ≤ last.toNat
  · rw [if_pos hhigh, decode_concat]
    cases negative <;> simp
  · rw [if_neg hhigh]
    cases negative with
    | false =>
      have hmod : ((last.toNat : ℤ) % 128) = last.toNat := by omega
      rw [if_neg Bool.false_ne_true, decode_concat, if_neg hhigh, if_neg Bool.false_ne_true, hvalue,
        hmod]
    | true =>
      have hset : (UInt8.ofNat (last.toNat + 128)).toNat = last.toNat + 128 := by
        rw [UInt8.toNat_ofNat', Nat.mod_eq_of_lt (by omega)]
      have hmod : ((last.toNat + 128 : ℕ) : ℤ) % 128 = last.toNat := by omega
      rw [if_pos rfl, decode_concat, hset, if_pos (by omega), if_pos rfl, hvalue, hmod]

theorem decode_encode (v : ℤ) : decode (encode v) = v := by
  by_cases hzero : v = 0
  · subst hzero
    rfl
  · obtain ⟨front, last, hmagnitude, -⟩ := magnitude_eq_concat (Int.natAbs_ne_zero.mpr hzero)
    rw [encode, hmagnitude, decode_withSign, ← hmagnitude, ofLe_magnitude]
    by_cases hneg : v < 0
    · rw [decide_eq_true hneg, if_pos rfl]
      omega
    · rw [decide_eq_false hneg, if_neg Bool.false_ne_true]
      omega

/-! Nothing shorter decodes to the same number. -/

theorem natAbs_decode_lt {bytes : ByteString} (h : bytes ≠ []) :
    (decode bytes).natAbs < 128 * 256 ^ (bytes.length - 1) := by
  obtain ⟨front, last, rfl⟩ := (List.eq_nil_or_concat' bytes).resolve_left h
  have hfront := ofLe_lt front
  have habs : (decode (front ++ [last])).natAbs =
      ofLe front + 256 ^ front.length * (last.toNat % 128) := by
    rw [decode_concat]
    split_ifs
    · rw [Int.natAbs_neg]
      norm_cast
    · norm_cast
  have hmod : last.toNat % 128 ≤ 127 := by omega
  have hmul := Nat.mul_le_mul_left (256 ^ front.length) hmod
  rw [habs, List.length_append, List.length_singleton, Nat.add_sub_cancel]
  omega

theorem length_withSign (negative : Bool) :
    (withSign negative (front ++ [last])).length =
      if 128 ≤ last.toNat then front.length + 2 else front.length + 1 := by
  rw [withSign_concat]
  split_ifs <;> simp

theorem length_encode {v : ℤ} (h : v ≠ 0) :
    (encode v).length = 1 ∨
      2 ≤ (encode v).length ∧ 128 * 256 ^ ((encode v).length - 2) ≤ v.natAbs := by
  obtain ⟨front, last, hmagnitude, hlast⟩ := magnitude_eq_concat (Int.natAbs_ne_zero.mpr h)
  have hpos : 1 ≤ last.toNat := by
    rw [Nat.one_le_iff_ne_zero]
    exact fun hzero => hlast (UInt8.toNat_inj.mp hzero)
  have hvalue : v.natAbs = ofLe front + 256 ^ front.length * last.toNat := by
    rw [← ofLe_magnitude v.natAbs, hmagnitude, ofLe_append, ofLe, ofLe, Nat.mul_zero, Nat.add_zero]
  rw [encode, hmagnitude, length_withSign]
  by_cases hhigh : 128 ≤ last.toNat
  · right
    have hmul := Nat.mul_le_mul_left (256 ^ front.length) hhigh
    rw [if_pos hhigh, Nat.add_sub_cancel]
    omega
  · rw [if_neg hhigh]
    rcases Nat.eq_zero_or_pos front.length with hempty | hfront
    · left
      omega
    · right
      have hpow : 256 ^ front.length = 256 * 256 ^ (front.length - 1) := by
        rw [← pow_succ', Nat.sub_add_cancel hfront]
      have hmul := Nat.mul_le_mul_left (256 ^ front.length) hpos
      have hexponent : front.length + 1 - 2 = front.length - 1 := by omega
      rw [hexponent]
      omega

theorem encode_minimal {bytes : ByteString} {v : ℤ} (h : decode bytes = v) :
    (encode v).length ≤ bytes.length := by
  by_cases hzero : v = 0
  · subst hzero
    have hempty : encode 0 = [] := rfl
    rw [hempty]
    exact Nat.zero_le _
  · have hne : bytes ≠ [] := by
      rintro rfl
      exact hzero h.symm
    have hlt := natAbs_decode_lt hne
    rw [h] at hlt
    rcases length_encode hzero with hone | ⟨htwo, hle⟩
    · rw [hone]
      exact List.length_pos_iff.mpr hne
    · by_contra hshort
      have hpow : 256 ^ (bytes.length - 1) ≤ 256 ^ ((encode v).length - 2) :=
        Nat.pow_le_pow_right (by norm_num) (by omega)
      omega

end DogeOperator.SignMagnitude
