import DogeOperator.Preimage

/-! The signature hash beside the legacy one of consensus. The two are the same function for every
base type but SINGLE; under SINGLE they agree only for the first input. -/
namespace DogeOperator.LegacySighash
open Bytes Outcome Crypto Tx

/-! The script code: the redeem script without its code separators. -/

def opCodeSeparator : ByteString := [0xab]

/-- The length of the first operation with the data it pushes; `none` when the data is cut short. -/
def operationLength : ByteString → Option ℕ
  | [] => none
  | opcode :: rest =>
    let length :=
      if opcode < 0x4c then 1 + opcode.toNat
      else if opcode = 0x4c then 2 + ofLe (rest.take 1)
      else if opcode = 0x4d then 3 + ofLe (rest.take 2)
      else if opcode = 0x4e then 5 + ofLe (rest.take 4)
      else 1
    if length ≤ rest.length + 1 then some length else none

/-- A script cut at the boundaries of its operations; what cannot be read stays in one piece. -/
def operations : ℕ → ByteString → List ByteString
  | 0, script => [script]
  | fuel + 1, script =>
    match operationLength script with
    | none => [script]
    | some length => script.take length :: operations fuel (script.drop length)

theorem operations_flatten (fuel : ℕ) (script : ByteString) :
    (operations fuel script).flatten = script := by
  induction fuel generalizing script with
  | zero => simp [operations]
  | succ fuel ih =>
    rw [operations]
    cases operationLength script with
    | none => simp
    | some length => simp [ih]

def HasNoCodeSeparator (script : ByteString) : Prop :=
  opCodeSeparator ∉ operations script.length script

instance (script : ByteString) : Decidable (HasNoCodeSeparator script) :=
  inferInstanceAs (Decidable (¬ _))

def scriptCode (script : ByteString) : ByteString :=
  ((operations script.length script).filter (· ≠ opCodeSeparator)).flatten

theorem scriptCode_eq {script : ByteString} (h : HasNoCodeSeparator script) :
    scriptCode script = script := by
  have hkept : (operations script.length script).filter (· ≠ opCodeSeparator) =
      operations script.length script := by
    rw [List.filter_eq_self]
    intro operation hoperation
    have hne : operation ≠ opCodeSeparator := fun heq => h (heq ▸ hoperation)
    simpa using hne
  rw [scriptCode, hkept, operations_flatten]

/-! What consensus hashes for the input `index` under a hash type. -/

def HashNone (hashType : UInt32) : Prop := hashType &&& 0x1f = 0x02
def HashSingle (hashType : UInt32) : Prop := hashType &&& 0x1f = 0x03
def AnyoneCanPay (hashType : UInt32) : Prop := hashType &&& 0x80 ≠ 0

instance (hashType : UInt32) : Decidable (HashNone hashType) := inferInstanceAs (Decidable (_ = _))
instance (hashType : UInt32) : Decidable (HashSingle hashType) :=
  inferInstanceAs (Decidable (_ = _))
instance (hashType : UInt32) : Decidable (AnyoneCanPay hashType) :=
  inferInstanceAs (Decidable (_ ≠ _))

variable (t : UnsignedTransaction) (script : ByteString) (index : ℕ) (hashType : UInt32)

/-- The signed input carries the script code; the others lose their script, and their sequence
where the outputs are not all signed. -/
def legacyInput (position : ℕ) (input : TxIn) : TxIn where
  prevTxidLe := input.prevTxidLe
  vout := input.vout
  scriptSig := if position = index then scriptCode script else []
  sequence := if position ≠ index ∧ (HashNone hashType ∨ HashSingle hashType) then 0 else input.sequence

def legacyInputs (inputs : List TxIn) : List TxIn :=
  let inputs := inputs.mapIdx (legacyInput script index hashType)
  if AnyoneCanPay hashType then (inputs.drop index).take 1 else inputs

def blankOutput : TxOut := ⟨0xffffffffffffffff, []⟩

def legacyOutputs (outputs : List TxOut) : List TxOut :=
  if HashNone hashType then []
  else if HashSingle hashType then
    (outputs.take (index + 1)).mapIdx fun position output =>
      if position < index then blankOutput else output
  else outputs

def legacyPreimage : ByteString :=
  serializeTransaction t.version (legacyInputs script index hashType t.inputs)
    (legacyOutputs index hashType t.outputs) t.locktime ++ u32Le hashType

/-- The number one as a 256-bit little-endian integer. -/
def digestOne : FixedBytes 32 := ⟨0x01 :: List.replicate 31 0, rfl⟩

def legacySignatureHash [Hashes] : FixedBytes 32 :=
  if HashSingle hashType ∧ t.outputs.length ≤ index then digestOne
  else doubleSha256 (legacyPreimage t script index hashType)

/-! The code hashes the same inputs. -/

section
variable {t script index hashType}

theorem legacyInputs_anyone {input : TxIn} (hcode : HasNoCodeSeparator script)
    (hinput : t.inputs[index]? = some input) (hpay : AnyoneCanPay hashType) :
    legacyInputs script index hashType t.inputs = [{ input with scriptSig := script }] := by
  apply List.ext_getElem?
  intro position
  rw [legacyInputs, if_pos hpay, List.getElem?_take]
  cases position with
  | zero => simp [hinput, legacyInput, scriptCode_eq hcode]
  | succ position => simp

theorem legacyInputs_every (hcode : HasNoCodeSeparator script) (hpay : ¬ AnyoneCanPay hashType) :
    legacyInputs script index hashType t.inputs =
      if HashNone hashType ∨ HashSingle hashType then
        (Preimage.signedInputs t.inputs index script).mapIdx fun position input =>
          if position ≠ index then { input with sequence := 0 } else input
      else Preimage.signedInputs t.inputs index script := by
  apply List.ext_getElem?
  intro position
  rw [legacyInputs, if_neg hpay, List.getElem?_mapIdx]
  by_cases hzero : HashNone hashType ∨ HashSingle hashType
  · rw [if_pos hzero, List.getElem?_mapIdx, Preimage.signedInputs_getElem?]
    cases t.inputs[position]? with
    | none => rfl
    | some input =>
      by_cases hsigned : position = index
      · subst hsigned
        simp [legacyInput, scriptCode_eq hcode]
      · simp [legacyInput, hzero, hsigned, Ne.symm hsigned]
  · rw [if_neg hzero, Preimage.signedInputs_getElem?]
    cases t.inputs[position]? with
    | none => rfl
    | some input =>
      by_cases hsigned : position = index
      · subst hsigned
        simp [legacyInput, scriptCode_eq hcode]
      · simp [legacyInput, hzero, hsigned, Ne.symm hsigned]

end

/-- The outputs the code hashes: under SINGLE only the one of the signed input's index. -/
def hashedOutputs (outputs : List TxOut) : List TxOut :=
  if HashNone hashType then []
  else if HashSingle hashType then outputs[index]?.toList
  else outputs

def hashedPreimage : ByteString :=
  serializeTransaction t.version (legacyInputs script index hashType t.inputs)
    (hashedOutputs index hashType t.outputs) t.locktime ++ u32Le hashType

section
variable {t script index hashType}

theorem sighashPreimage_missing (hindex : index < t.inputs.length)
    (hscript : t.redeemScripts[index]? = some script)
    (hmissing : HashSingle hashType ∧ t.outputs.length ≤ index) :
    t.sighashPreimage index hashType = .ok [0x01] := by
  have hbase : hashType &&& 0x1f = 0x03 := hmissing.1
  simp [UnsignedTransaction.sighashPreimage, List.getElem?_eq_getElem hindex, hscript, hbase,
    hmissing.2]

theorem sighashPreimage_hashed (hindex : index < t.inputs.length)
    (hscript : t.redeemScripts[index]? = some script) (hcode : HasNoCodeSeparator script)
    (hpresent : ¬ (HashSingle hashType ∧ t.outputs.length ≤ index)) :
    t.sighashPreimage index hashType = .ok (hashedPreimage t script index hashType) := by
  have hinput := List.getElem?_eq_getElem hindex
  have hpresent' : ¬ (hashType &&& 0x1f = 0x03 ∧ index ≥ t.outputs.length) := hpresent
  by_cases hpay : AnyoneCanPay hashType
  · rw [hashedPreimage, legacyInputs_anyone hcode hinput hpay]
    have hflag : hashType &&& 0x80 ≠ 0 := hpay
    simp [UnsignedTransaction.sighashPreimage, hinput, hscript, hpresent', hflag, hashedOutputs,
      HashNone, HashSingle]
    rfl
  · rw [hashedPreimage, legacyInputs_every hcode hpay]
    have hflag : hashType &&& 0x80 = 0 := not_not.mp hpay
    simp [UnsignedTransaction.sighashPreimage, hinput, hscript, hpresent', hflag, hashedOutputs,
      HashNone, HashSingle, Preimage.signedInputs]
    rfl

/-! And the same outputs, but for those that SINGLE blanks. -/

theorem hashedOutputs_eq {outputs : List TxOut}
    (h : ¬ HashSingle hashType ∨ index = 0 ∧ 0 < outputs.length) :
    hashedOutputs index hashType outputs = legacyOutputs index hashType outputs := by
  rw [hashedOutputs, legacyOutputs]
  by_cases hnone : HashNone hashType
  · rw [if_pos hnone, if_pos hnone]
  · rw [if_neg hnone, if_neg hnone]
    by_cases hsingle : HashSingle hashType
    · rcases h.resolve_left (not_not.mpr hsingle) with ⟨rfl, hpos⟩
      rw [if_pos hsingle, if_pos hsingle]
      cases outputs with
      | nil => exact absurd hpos (lt_irrefl 0)
      | cons output outputs => simp
    · rw [if_neg hsingle, if_neg hsingle]

theorem legacyOutputs_single {outputs : List TxOut} {output : TxOut}
    (hsingle : HashSingle hashType) (houtput : outputs[index]? = some output) :
    legacyOutputs index hashType outputs = List.replicate index blankOutput ++ [output] := by
  have hnone : ¬ HashNone hashType := fun hnone => absurd (hnone.symm.trans hsingle) (by decide)
  have hlt : index < outputs.length := (List.getElem?_eq_some_iff.mp houtput).1
  rw [legacyOutputs, if_neg hnone, if_pos hsingle]
  apply List.ext_getElem?
  intro position
  rw [List.getElem?_mapIdx, List.getElem?_take]
  rcases lt_trichotomy position index with hbefore | rfl | hafter
  · rw [if_pos (by omega), List.getElem?_append_left (by simpa using hbefore),
      List.getElem?_eq_getElem (hbefore.trans hlt)]
    simp [hbefore]
  · simp [houtput]
  · rw [if_neg (by omega), List.getElem?_append_right (by simp; omega)]
    simp
    omega

theorem writeVarint_length_pos (value : UInt64) : 1 ≤ (writeVarint value).length := by
  unfold writeVarint
  split_ifs <;> simp

/-- Each blanked output takes nine bytes, and a larger count no fewer. -/
theorem serializeTransaction_blanked (version : UInt32) (inputs : List TxIn) (output : TxOut)
    (locktime : UInt32) (hpos : 0 < index) :
    (serializeTransaction version inputs [output] locktime).length <
      (serializeTransaction version inputs (List.replicate index blankOutput ++ [output])
        locktime).length := by
  have hone : (writeVarint (UInt64.ofNat [output].length)).length = 1 := rfl
  have hcount := writeVarint_length_pos
    (UInt64.ofNat (List.replicate index blankOutput ++ [output]).length)
  have hblank : ((List.replicate index blankOutput).flatMap TxOut.serialize).length = 9 * index := by
    rw [List.length_flatMap, List.map_replicate, List.sum_replicate, smul_eq_mul, Nat.mul_comm]
    rfl
  simp only [serializeTransaction, List.length_append, List.flatMap_append, hone, hblank] at hcount ⊢
  omega

theorem hashedPreimage_ne {output : TxOut} (hsingle : HashSingle hashType)
    (houtput : t.outputs[index]? = some output) (hpos : 0 < index) :
    hashedPreimage t script index hashType ≠ legacyPreimage t script index hashType := by
  have hnone : ¬ HashNone hashType := fun hnone => absurd (hnone.symm.trans hsingle) (by decide)
  have hshorter := serializeTransaction_blanked t.version
    (legacyInputs script index hashType t.inputs) output t.locktime hpos
  intro heq
  have hlength := congrArg List.length heq
  rw [hashedPreimage, legacyPreimage, legacyOutputs_single hsingle houtput, hashedOutputs,
    if_neg hnone, if_pos hsingle, houtput, List.length_append, List.length_append] at hlength
  exact absurd (Nat.add_right_cancel hlength) hshorter.ne

section
variable [Hashes]

theorem sighash_eq_legacy (hindex : index < t.inputs.length)
    (hscript : t.redeemScripts[index]? = some script) (hcode : HasNoCodeSeparator script)
    (h : ¬ HashSingle hashType ∨ index = 0 ∧ 0 < t.outputs.length) :
    t.sighash index hashType = .ok (legacySignatureHash t script index hashType) := by
  have hpresent : ¬ (HashSingle hashType ∧ t.outputs.length ≤ index) := by
    rintro ⟨hsingle, hmissing⟩
    rcases h.resolve_left (not_not.mpr hsingle) with ⟨rfl, hpos⟩
    exact absurd hmissing (Nat.not_le.mpr hpos)
  rw [UnsignedTransaction.sighash, sighashPreimage_hashed hindex hscript hcode hpresent,
    legacySignatureHash, if_neg hpresent, hashedPreimage, legacyPreimage, hashedOutputs_eq h]
  rfl

/-- What the operator signs is the legacy hash. -/
theorem sighashAll_eq_legacy (hindex : index < t.inputs.length)
    (hscript : t.redeemScripts[index]? = some script) (hcode : HasNoCodeSeparator script) :
    t.sighashAll index = .ok (legacySignatureHash t script index sighashAllType) :=
  sighash_eq_legacy hindex hscript hcode (.inl (by decide))

/-- Double SHA-256 separates the bytes the code hashes from the bytes consensus hashes, and does
not map the byte one to the number one. -/
structure Separates (t : UnsignedTransaction) (script : ByteString) (index : ℕ)
    (hashType : UInt32) : Prop where
  one : doubleSha256 [0x01] ≠ digestOne
  preimages : doubleSha256 (hashedPreimage t script index hashType) =
      doubleSha256 (legacyPreimage t script index hashType) →
    hashedPreimage t script index hashType = legacyPreimage t script index hashType

theorem sighash_missing_ne (hindex : index < t.inputs.length)
    (hscript : t.redeemScripts[index]? = some script) (hone : doubleSha256 [0x01] ≠ digestOne)
    (hmissing : HashSingle hashType ∧ t.outputs.length ≤ index) :
    t.sighash index hashType ≠ .ok (legacySignatureHash t script index hashType) := by
  intro heq
  rw [UnsignedTransaction.sighash, sighashPreimage_missing hindex hscript hmissing,
    legacySignatureHash, if_pos hmissing] at heq
  exact hone (Except.ok.inj heq)

theorem sighash_blanked_ne (hindex : index < t.inputs.length)
    (hscript : t.redeemScripts[index]? = some script) (hcode : HasNoCodeSeparator script)
    (hdigest : Separates t script index hashType) (hsingle : HashSingle hashType)
    (hpos : 0 < index) (hlt : index < t.outputs.length) :
    t.sighash index hashType ≠ .ok (legacySignatureHash t script index hashType) := by
  have hpresent : ¬ (HashSingle hashType ∧ t.outputs.length ≤ index) :=
    fun h => absurd h.2 (Nat.not_le.mpr hlt)
  intro heq
  rw [UnsignedTransaction.sighash, sighashPreimage_hashed hindex hscript hcode hpresent,
    legacySignatureHash, if_neg hpresent] at heq
  exact hashedPreimage_ne hsingle (List.getElem?_eq_getElem hlt) hpos
    (hdigest.preimages (Except.ok.inj heq))

/-- The signature hash is the legacy one, except under SINGLE for any input but the first. -/
theorem sighash_legacy_iff (hindex : index < t.inputs.length)
    (hscript : t.redeemScripts[index]? = some script) (hcode : HasNoCodeSeparator script)
    (hdigest : Separates t script index hashType) :
    t.sighash index hashType = .ok (legacySignatureHash t script index hashType) ↔
      ¬ HashSingle hashType ∨ index = 0 ∧ 0 < t.outputs.length := by
  constructor
  · intro heq
    by_contra hcondition
    rw [not_or, not_not] at hcondition
    rcases hcondition with ⟨hsingle, hcondition⟩
    by_cases hmissing : t.outputs.length ≤ index
    · exact sighash_missing_ne hindex hscript hdigest.one ⟨hsingle, hmissing⟩ heq
    · exact sighash_blanked_ne hindex hscript hcode hdigest hsingle (by omega) (by omega) heq
  · exact sighash_eq_legacy hindex hscript hcode

end

end

section
open Digests

/-- Two inputs under one redeem script, and two outputs. -/
def localSplit : UnsignedTransaction :=
  .built [⟨List.Vector.replicate 32 9, 0, [0x51]⟩, ⟨List.Vector.replicate 32 9, 1, [0x51]⟩]
    [⟨10000, .p2pkh, List.Vector.replicate 20 0x33⟩, ⟨20000, .p2pkh, List.Vector.replicate 20 0x44⟩]

theorem doubleSha256_one : doubleSha256 [0x01] ≠ digestOne := by decide +kernel

theorem localSplit_separates : Separates localSplit [0x51] 1 0x03 where
  one := doubleSha256_one
  preimages := by
    have hne : doubleSha256 (hashedPreimage localSplit [0x51] 1 0x03) ≠
        doubleSha256 (legacyPreimage localSplit [0x51] 1 0x03) := by decide +kernel
    exact fun heq => absurd heq hne

theorem sighash_legacy_iff_second :
    localSplit.sighash 1 0x03 = .ok (legacySignatureHash localSplit [0x51] 1 0x03) ↔
      ¬ HashSingle 0x03 ∨ 1 = 0 ∧ 0 < localSplit.outputs.length :=
  sighash_legacy_iff (by decide) (by rfl) (by decide) localSplit_separates

/-- Under SINGLE the second input's hash is not the legacy one, whether its output is there or
not. -/
theorem single_second_input :
    HasNoCodeSeparator [0x51] ∧
      localSplit.sighash 1 0x03 ≠ .ok (legacySignatureHash localSplit [0x51] 1 0x03) ∧
      Preimage.localPair.sighash 1 0x03 ≠
        .ok (legacySignatureHash Preimage.localPair [0x51] 1 0x03) := by
  refine ⟨by decide, ?_, ?_⟩
  · exact sighash_blanked_ne (by decide) (by rfl) (by decide) localSplit_separates (by decide)
      (by decide) (by decide)
  · exact sighash_missing_ne (by decide) (by rfl) doubleSha256_one (by decide)

end

end DogeOperator.LegacySighash
