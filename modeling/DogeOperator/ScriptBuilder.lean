import DogeOperator.Panics
import DogeOperator.ScriptSig
import DogeOperator.SignMagnitude
import Mathlib.Data.Nat.Bitwise

/-! The push encoders of the redeem script beside the script builder that they name. The builder
has opcodes without data for the numbers from -1 to 16, also when they come as one byte of data. -/
namespace DogeOperator.Redeem
open Bytes Outcome Panics ScriptPushes

/-! The script builder. -/

/-- The opcode of data that stands for a number from -1 to 16. -/
def smallOpcode : ByteString → Option UInt8
  | [] => some op0
  | [byte] =>
    if byte = 0 then some op0
    else if byte ≤ 16 then some (op1 - 1 + byte)
    else if byte = 0x81 then some op1Negate
    else none
  | _ => none

/-- `AddData` -/
def addData (data : ByteString) : ByteString :=
  match smallOpcode data with
  | some opcode => [opcode]
  | none => shortestPush data

/-- `AddInt64` -/
def addInt64 (v : ℤ) : ByteString :=
  if v = 0 then [op0]
  else if v = -1 ∨ 1 ≤ v ∧ v ≤ 16 then [op1 - 1 + UInt8.ofNat (v % 256).toNat]
  else addData (SignMagnitude.encode v)

/-- One byte that the builder does not push. -/
def SmallByte (data : ByteString) : Prop := ∃ byte, data = [byte] ∧ (byte ≤ 16 ∨ byte = 0x81)

theorem smallOpcode_isSome {data : ByteString} :
    (smallOpcode data).isSome ↔ data = [] ∨ SmallByte data := by
  unfold SmallByte
  match data with
  | [] => simp [smallOpcode]
  | [byte] =>
    rw [smallOpcode]
    split_ifs with hzero hsmall hnegate
    · simp [hzero]
    · simp [hsmall]
    · simp [hnegate]
    · simp [hsmall, hnegate]
  | byte :: next :: rest => simp [smallOpcode]

theorem addData_of_not_small {data : ByteString} (hempty : data ≠ []) (h : ¬ SmallByte data) :
    addData data = shortestPush data := by
  have hnone : smallOpcode data = none := by
    rw [← Option.not_isSome_iff_eq_none, smallOpcode_isSome]
    exact fun hsome => hsome.elim hempty h
  rw [addData, hnone]

/-- The encoder never emits the opcode of a small number for data. -/
theorem pushData_eq_addData_iff (data : ByteString) :
    pushData data = addData data ↔ ¬ SmallByte data := by
  rw [Tx.pushData_eq]
  constructor
  · intro h hsmall
    have hsome := smallOpcode_isSome.mpr (.inr hsmall)
    obtain ⟨opcode, hopcode⟩ := Option.isSome_iff_exists.mp hsome
    obtain ⟨byte, rfl, -⟩ := hsmall
    have hlength := congrArg List.length h
    rw [addData, hopcode, (length_shortestPush_le [byte]).2.2.2 (by simp)] at hlength
    simp at hlength
  · intro hsmall
    by_cases hempty : data = []
    · subst hempty
      rfl
    · exact (addData_of_not_small hempty hsmall).symm

/-! The encoder of numbers and its arithmetic. -/

/-- `+` on `u8` -/
def addU8 (a b : UInt8) : Checked UInt8 :=
  if a.toNat + b.toNat < 2 ^ 8 then .ok (a + b) else .error .panic

/-- `-` on `u8` -/
def subU8 (a b : UInt8) : Checked UInt8 := if b ≤ a then .ok (a - b) else .error .panic

/-- Unary `-` on `i64` -/
def negI64 (v : Int64) : Checked Int64 := if v = Int64.minValue then .error .panic else .ok (-v)

/-- What `push_int` does once it has the sign and the absolute value. -/
def pushMagnitude (neg : Bool) (v : Int64) : ByteString :=
  let magnitude := magnitudeBytes 16 (v.toInt % 2 ^ 128).toNat
  let bytes := if magnitude = [] then [0] else magnitude
  pushData (withSign neg (stripHighZeros bytes))

/-- `push_int` with overflow checks -/
def pushIntChecked (val : Int64) : Checked ByteString :=
  if val = 0 then .ok [op0]
  else if val = -1 then .ok [op1Negate]
  else if 1 ≤ val ∧ val ≤ 16 then do
    let sum ← addU8 op1 (UInt8.ofNat val.toInt.toNat)
    let opcode ← subU8 sum 1
    return [opcode]
  else do
    let neg := decide (val < 0)
    let v ← if neg then negI64 val else .ok val
    return pushMagnitude neg v

variable {val : Int64}

theorem toInt_bounds (h : 1 ≤ val ∧ val ≤ 16) : 1 ≤ val.toInt ∧ val.toInt ≤ 16 := by
  rw [Int64.le_iff_toInt_le, Int64.le_iff_toInt_le] at h
  exact h

theorem pushIntChecked_eq (h : val ≠ Int64.minValue) : pushIntChecked val = .ok (pushInt val) := by
  unfold pushIntChecked pushInt
  split_ifs with hzero hnegate hsmall
  · rfl
  · rfl
  · have hbounds := toInt_bounds hsmall
    have hfits : ∀ n < 17, 1 ≤ n → op1.toNat + (UInt8.ofNat n).toNat < 2 ^ 8 ∧
        1 ≤ op1 + UInt8.ofNat n := by decide
    have hval := hfits val.toInt.toNat (by omega) (by omega)
    rw [addU8, if_pos hval.1]
    change (subU8 (op1 + UInt8.ofNat val.toInt.toNat) 1 >>= _) = _
    rw [subU8, if_pos hval.2]
    rfl
  · dsimp only
    by_cases hneg : decide (val < 0) = true
    · rw [if_pos hneg, if_pos hneg, negI64, if_neg h]
      rfl
    · rw [if_neg hneg, if_neg hneg]
      rfl

/-! The bytes of a number. -/

theorem magnitudeBytes_eq {fuel n : ℕ} (h : n < 256 ^ fuel) :
    magnitudeBytes fuel n = SignMagnitude.magnitude n := by
  induction fuel generalizing n with
  | zero =>
    have hzero : n = 0 := by simpa using h
    rw [hzero, SignMagnitude.magnitude_zero, magnitudeBytes]
  | succ fuel ih =>
    rw [magnitudeBytes]
    by_cases hzero : n = 0
    · rw [if_pos hzero, hzero, SignMagnitude.magnitude_zero]
    · have hdiv : n / 256 < 256 ^ fuel := by
        rw [Nat.div_lt_iff_lt_mul (by norm_num), ← pow_succ]
        exact h
      rw [if_neg hzero, ih hdiv, SignMagnitude.magnitude_of_ne_zero hzero]

/-- Nothing is stripped behind a last byte that is not zero. -/
theorem stripHighZeros_concat (front : ByteString) {last : UInt8} (h : last ≠ 0) :
    stripHighZeros (front ++ [last]) = front ++ [last] := by
  induction front with
  | nil => rfl
  | cons byte front ih =>
    rw [List.cons_append, stripHighZeros, ih]
    match front with
    | [] => simp [h]
    | [next] => rfl
    | next :: other :: rest => rfl

theorem and_signBit (last : UInt8) : last &&& 0x80 ≠ 0 ↔ 128 ≤ last.toNat := by
  have hlt := last.toNat_lt
  have htoNat : (last &&& 0x80).toNat = (last.toNat.testBit 7).toNat * 2 ^ 7 := by
    rw [UInt8.toNat_and, ← Nat.and_two_pow]
    rfl
  rw [Ne, ← UInt8.toNat_inj, htoNat, Nat.testBit_eq_decide_div_mod_eq]
  by_cases hhigh : 128 ≤ last.toNat
  · have hbit : last.toNat / 2 ^ 7 % 2 = 1 := by omega
    rw [decide_eq_true hbit]
    simp [hhigh]
  · have hbit : last.toNat / 2 ^ 7 % 2 ≠ 1 := by omega
    rw [decide_eq_false hbit]
    simp [hhigh]

theorem or_signBit {last : UInt8} (h : last.toNat < 128) :
    last ||| 0x80 = UInt8.ofNat (last.toNat + 128) := by
  have hbits : last.toNat < 2 ^ 7 := h
  have hsum : last.toNat + 128 = last.toNat ||| 128 := by
    rw [Nat.add_comm, Nat.or_comm]
    exact Nat.two_pow_add_eq_or_of_lt hbits 1
  rw [← UInt8.toNat_inj, UInt8.toNat_or, UInt8.toNat_ofNat', Nat.mod_eq_of_lt (by omega), hsum]
  rfl

theorem withSign_eq (neg : Bool) (bytes : ByteString) :
    withSign neg bytes = SignMagnitude.withSign neg bytes := by
  unfold withSign SignMagnitude.withSign
  dsimp only
  simp only [and_signBit]
  by_cases hhigh : 128 ≤ (bytes.getLastD 0).toNat
  · rw [if_pos hhigh, if_pos hhigh]
  · rw [if_neg hhigh, if_neg hhigh, or_signBit (by omega)]

theorem pushMagnitude_eq {neg : Bool} {v : Int64} (h : 0 < v.toInt) :
    pushMagnitude neg v =
      pushData (SignMagnitude.withSign neg (SignMagnitude.magnitude v.toInt.toNat)) := by
  have hlt := v.toInt_lt
  have hmod : (v.toInt % 2 ^ 128).toNat = v.toInt.toNat := by omega
  have hne : v.toInt.toNat ≠ 0 := by omega
  obtain ⟨front, last, hmagnitude, hlast⟩ := SignMagnitude.magnitude_eq_concat hne
  have hnonempty : front ++ [last] ≠ [] := by simp
  rw [pushMagnitude, hmod, magnitudeBytes_eq (by omega), hmagnitude, if_neg hnonempty,
    stripHighZeros_concat front hlast, withSign_eq]

/-- A number outside the small ones is the shortest push of its signed bytes. -/
theorem pushInt_eq (h : val ≠ Int64.minValue) (hlarge : val.toInt < -1 ∨ 16 < val.toInt) :
    pushInt val = shortestPush (SignMagnitude.encode val.toInt) := by
  have hmin : -val.toInt ≠ 2 ^ 63 := by
    intro hmin
    apply h
    rw [← Int64.toInt_inj, Int64.toInt_minValue]
    omega
  have hlow := val.le_toInt
  have hzero : val ≠ 0 := by
    rintro rfl
    simp at hlarge
  have hnegate : val ≠ -1 := by
    rintro rfl
    simp at hlarge
  have hsmall : ¬ (1 ≤ val ∧ val ≤ 16) := by
    intro hsmall
    have hbounds := toInt_bounds hsmall
    omega
  have hpush : pushInt val =
      pushMagnitude (decide (val < 0)) (if decide (val < 0) then -val else val) := by
    rw [pushInt, if_neg hzero, if_neg hnegate, if_neg hsmall]
    rfl
  have hsign : val < 0 ↔ val.toInt < 0 := Int64.lt_iff_toInt_lt
  have hneg : val.toInt < 0 → (-val).toInt = -val.toInt := by
    intro hneg
    rw [Int64.toInt_neg, Int.bmod_eq_of_le] <;> omega
  rw [hpush, SignMagnitude.encode, ← Tx.pushData_eq]
  by_cases hnegative : val.toInt < 0
  · have habs : (-val.toInt).toNat = val.toInt.natAbs := by omega
    rw [decide_eq_true (hsign.mpr hnegative), if_pos rfl,
      pushMagnitude_eq (by rw [hneg hnegative]; omega), hneg hnegative, habs,
      decide_eq_true hnegative]
  · have habs : val.toInt.toNat = val.toInt.natAbs := by omega
    rw [decide_eq_false (mt hsign.mp hnegative), if_neg Bool.false_ne_true,
      pushMagnitude_eq (by omega), habs, decide_eq_false hnegative]

/-- The signed bytes of a number outside the small ones are no small byte. -/
theorem encode_not_small {v : ℤ} (h : v < -1 ∨ 16 < v) :
    SignMagnitude.encode v ≠ [] ∧ ¬ SmallByte (SignMagnitude.encode v) := by
  have hdecode := SignMagnitude.decode_encode v
  constructor
  · intro hempty
    rw [hempty] at hdecode
    have hzero : v = 0 := hdecode.symm
    omega
  · rintro ⟨byte, hbyte, hsmall⟩
    rw [hbyte] at hdecode
    have hconcat := SignMagnitude.decode_concat [] byte
    rw [List.nil_append, hdecode, ofLe, List.length_nil] at hconcat
    rcases hsmall with hsmall | rfl
    · rw [UInt8.le_iff_toNat_le] at hsmall
      have hle : byte.toNat ≤ 16 := hsmall
      rw [if_neg (by omega)] at hconcat
      omega
    · have hnegate : v = -1 := hconcat
      omega

theorem pushInt_eq_addInt64 (h : val ≠ Int64.minValue) : pushInt val = addInt64 val.toInt := by
  unfold addInt64
  by_cases hzero : val.toInt = 0
  · have hval : val = 0 := Int64.toInt_inj.mp hzero
    subst hval
    rfl
  · rw [if_neg hzero]
    by_cases hsmall : val.toInt = -1 ∨ 1 ≤ val.toInt ∧ val.toInt ≤ 16
    · rw [if_pos hsmall]
      rcases hsmall with hnegate | hsmall
      · have hval : val = -1 := Int64.toInt_inj.mp hnegate
        subst hval
        rfl
      · have hopcode : ∀ n < 17, 1 ≤ n →
            op1 + UInt8.ofNat n - 1 = op1 - 1 + UInt8.ofNat n := by decide
        have hmod : (val.toInt % 256).toNat = val.toInt.toNat := by omega
        have hval : val ≠ 0 := by
          rintro rfl
          exact hzero rfl
        have hnegate : val ≠ -1 := by
          rintro rfl
          exact absurd hsmall (by decide)
        have hbounds : 1 ≤ val ∧ val ≤ 16 := by
          rw [Int64.le_iff_toInt_le, Int64.le_iff_toInt_le]
          exact hsmall
        rw [pushInt, if_neg hval, if_neg hnegate, if_pos hbounds, hmod,
          hopcode val.toInt.toNat (by omega) (by omega)]
    · have hlarge : val.toInt < -1 ∨ 16 < val.toInt := by omega
      obtain ⟨hempty, hbyte⟩ := encode_not_small hlarge
      rw [if_neg hsmall, pushInt_eq h hlarge, addData_of_not_small hempty hbyte]

/-- Data is pushed as the builder does exactly when it is not one byte for a small number. Numbers
always are: without overflow, and by their shortest signed bytes. -/
theorem push_builder_iff (data : ByteString) (val : Int64) :
    (data.length ≤ 520 → (pushData data = addData data ↔ ¬ SmallByte data)) ∧
    (val ≠ Int64.minValue →
      pushIntChecked val = .ok (pushInt val) ∧ pushInt val = addInt64 val.toInt ∧
      (val.toInt < -1 ∨ 16 < val.toInt →
        pushInt val = shortestPush (SignMagnitude.encode val.toInt)) ∧
      SignMagnitude.decode (SignMagnitude.encode val.toInt) = val.toInt ∧
      ∀ bytes, SignMagnitude.decode bytes = val.toInt →
        (SignMagnitude.encode val.toInt).length ≤ bytes.length) :=
  ⟨fun _ => pushData_eq_addData_iff data, fun h =>
    ⟨pushIntChecked_eq h, pushInt_eq_addInt64 h, pushInt_eq h, SignMagnitude.decode_encode val.toInt,
      fun _ => SignMagnitude.encode_minimal⟩⟩

/-- One byte of five is the opcode of five in the builder, and data here. -/
theorem pushData_five : pushData [5] = [0x01, 0x05] ∧ addData [5] = [0x55] := by decide

end DogeOperator.Redeem
