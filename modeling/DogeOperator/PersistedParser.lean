import DogeOperator.Panics
import DogeOperator.Preimage

/-! Recovery from durable bytes accepts exactly the canonical encodings. Below is the parser once
more, with the indexing, slices and array conversions that could panic as they stand in the code. -/
namespace DogeOperator.Tx
open Bytes Outcome Panics Utx0

/-- The first condition of `parse_standard_output`, evaluated from left to right. -/
def isP2pkhChecked (script : ByteString) : Checked Bool := do
  if script.length = 25 then
    let start ← sliceRange script 0 3
    if start = [0x76, 0xa9, 0x14] then
      let last ← sliceRange script 23 script.length
      return last = [0x88, 0xac]
    else
      return false
  else
    return false

/-- The second condition. -/
def isP2shChecked (script : ByteString) : Checked Bool := do
  if script.length = 23 then
    let start ← sliceRange script 0 2
    if start = [0xa9, 0x14] then
      let last ← byteAt script 22
      return last = 0x87
    else
      return false
  else
    return false

def parseStandardOutputChecked (script : ByteString) :
    Checked (UtxoAddressType × FixedBytes 20) := do
  let isP2pkh ← isP2pkhChecked script
  if isP2pkh then
    let address ← arrayRange 20 script 3 23
    return (.p2pkh, address)
  else
    let isP2sh ← isP2shChecked script
    if isP2sh then
      let address ← arrayRange 20 script 2 22
      return (.p2sh, address)
    else
      lift (bail "unsupported output scriptPubKey")

namespace TransactionReader

def readU32Checked (r : TransactionReader) (field : String) :
    Checked (UInt32 × TransactionReader) := do
  let (value, r) ← lift (r.readExact 4 field)
  let word ← intoArray 4 value
  return (u32OfLe word.toList, r)

def readU64Checked (r : TransactionReader) (field : String) :
    Checked (UInt64 × TransactionReader) := do
  let (value, r) ← lift (r.readExact 8 field)
  let word ← intoArray 8 value
  return (u64OfLe word.toList, r)

def readCountChecked (r : TransactionReader) (field : String) :
    Checked (ℕ × TransactionReader) := do
  let (block, r) ← lift (r.readExact 1 field)
  let first ← byteAt block 0
  if first ≤ 0xfc then
    return (first.toNat, r)
  else if first = 0xfd then
    let (value, r) ← lift (r.readExact 2 field)
    let word ← intoArray 2 value
    let value := u16OfLe word.toList
    if value < 0xfd then lift (bail s!"persisted transaction {field} uses a non-canonical varint")
    return (value.toNat, r)
  else if first = 0xfe then
    let (value, r) ← r.readU32Checked field
    if value ≤ 0xffff then
      lift (bail s!"persisted transaction {field} uses a non-canonical varint")
    return (value.toNat, r)
  else
    let (value, r) ← r.readU64Checked field
    if value ≤ 0xffffffff then
      lift (bail s!"persisted transaction {field} uses a non-canonical varint")
    return (value.toNat, r)

end TransactionReader

def readInputChecked (r : TransactionReader) (index : ℕ) (selected : SelectedUtxo) :
    Checked (TxIn × TransactionReader) := do
  let (txid, r) ← lift (r.readExact 32 "input transaction id")
  let prevTxidLe ← intoArray 32 txid
  let (vout, r) ← r.readU32Checked "input vout"
  let (scriptLen, r) ← r.readCountChecked "input script length"
  if scriptLen ≠ 0 then lift (bail s!"persisted unsigned input {index} contains a scriptSig")
  let (sequence, r) ← r.readU32Checked "input sequence"
  if sequence ≠ sequenceFinal then
    lift (bail s!"persisted unsigned input {index} has non-final sequence")
  if prevTxidLe ≠ selected.transactionId.reverse ∨ vout ≠ selected.vout then
    lift (bail s!"persisted unsigned input {index} differs from custody reservation")
  return ({ prevTxidLe, vout, scriptSig := [], sequence }, r)

def readInputsChecked (r : TransactionReader) (index : ℕ) :
    List SelectedUtxo → Checked (List TxIn × TransactionReader)
  | [] => .ok ([], r)
  | selected :: rest => do
    let (input, r) ← readInputChecked r index selected
    let (inputs, r) ← readInputsChecked r (index + 1) rest
    return (input :: inputs, r)

def readOutputChecked (r : TransactionReader) (index : ℕ) :
    Checked ((TxOut × TransactionOutput) × TransactionReader) := do
  let (value, r) ← r.readU64Checked "output value"
  let (scriptLen, r) ← r.readCountChecked "output script length"
  if scriptLen > maxStandardOutputScriptLen then
    lift (bail s!"persisted output {index} scriptPubKey exceeds safety limit")
  let (scriptPubkey, r) ← lift (r.readExact scriptLen "output scriptPubKey")
  let (addressType, address) ← (parseStandardOutputChecked scriptPubkey).mapError fun fault =>
    match fault with
    | .error chain => .error (s!"decode persisted output {index}" :: chain)
    | .panic => .panic
  return (({ value, scriptPubkey }, { amount := value, addressType, address }), r)

def readOutputsChecked (r : TransactionReader) (index : ℕ) :
    ℕ → Checked (List (TxOut × TransactionOutput) × TransactionReader)
  | 0 => .ok ([], r)
  | count + 1 => do
    let (output, r) ← readOutputChecked r index
    let (outputs, r) ← readOutputsChecked r (index + 1) count
    return (output :: outputs, r)

def UnsignedTransaction.fromPersistedBytesChecked (bytes : ByteString)
    (inputs : List SelectedUtxo) : Checked UnsignedTransaction := do
  if inputs.isEmpty then lift (bail "no selected inputs")
  let (version, r) ← (TransactionReader.new bytes).readU32Checked "version"
  if version ≠ txVersion then
    lift (bail s!"unsupported persisted transaction version {version}")
  let (inputCount, r) ← r.readCountChecked "input count"
  if inputCount > maxPersistedInputs then
    lift (bail s!"persisted transaction input count {inputCount} exceeds safety limit")
  if inputCount ≠ inputs.length then
    lift (bail s!"persisted transaction has {inputCount} inputs, reservation has {inputs.length}")
  let (txInputs, r) ← readInputsChecked r 0 inputs
  let (outputCount, r) ← r.readCountChecked "output count"
  if outputCount > maxPersistedOutputs then
    lift (bail s!"persisted transaction output count {outputCount} exceeds safety limit")
  if outputCount = 0 then lift (bail "persisted unsigned transaction has no outputs")
  let (outputs, r) ← readOutputsChecked r 0 outputCount
  let (locktime, r) ← r.readU32Checked "locktime"
  if locktime ≠ 0 then lift (bail "persisted unsigned transaction has nonzero locktime")
  lift r.finish
  let transaction : UnsignedTransaction := {
    version
    inputs := txInputs
    outputs := outputs.map Prod.fst
    logicalOutputs := outputs.map Prod.snd
    locktime
    redeemScripts := inputs.map SelectedUtxo.redeemScript }
  if transaction.serialize ≠ bytes then
    lift (bail "persisted unsigned transaction is not canonically encoded")
  return transaction

namespace TransactionReader

variable {r r' : TransactionReader} {n : ℕ} {field : String} {block : ByteString}

/-- A read returns as many bytes as were asked for. -/
theorem readExact_length
    (h : r.readExact n field = .ok (block, r')) : block.length = n := by
  rcases bind_eq_ok.mp h with ⟨stop, hstop, h⟩
  rcases bind_eq_ok.mp h with ⟨value, hvalue, h⟩
  cases h
  rw [orBail_eq_ok] at hstop hvalue
  split_ifs at hstop hvalue with hin hlen
  cases hstop
  cases hvalue
  rw [List.length_take, List.length_drop]
  omega

theorem readU32Checked_eq (r : TransactionReader) (field : String) :
    r.readU32Checked field = lift (r.readU32 field) := by
  apply bind_pair_eq_lift
  intro value r' h
  rcases intoArray_eq (readExact_length h) with ⟨word, hword, rfl⟩
  dsimp only
  rw [hword]
  rfl

theorem readU64Checked_eq (r : TransactionReader) (field : String) :
    r.readU64Checked field = lift (r.readU64 field) := by
  apply bind_pair_eq_lift
  intro value r' h
  rcases intoArray_eq (readExact_length h) with ⟨word, hword, rfl⟩
  dsimp only
  rw [hword]
  rfl

theorem readCountChecked_eq (r : TransactionReader) (field : String) :
    r.readCountChecked field = lift (r.readCount field) := by
  apply bind_pair_eq_lift
  intro block r' h
  have hlen := readExact_length h
  rcases List.length_eq_one_iff.mp hlen with ⟨first, rfl⟩
  dsimp only
  rw [show byteAt [first] 0 = .ok first from rfl, ok_bind, List.headD_cons]
  by_cases hsmall : first ≤ 0xfc
  · rw [if_pos hsmall, if_pos hsmall]
    rfl
  · rw [if_neg hsmall, if_neg hsmall]
    by_cases htwo : first = 0xfd
    · rw [if_pos htwo, if_pos htwo]
      apply bind_pair_eq_lift
      intro value r'' h
      rcases intoArray_eq (readExact_length h) with ⟨word, hword, rfl⟩
      dsimp only
      rw [hword, ok_bind]
      exact guard_eq_lift fun _ => rfl
    · rw [if_neg htwo, if_neg htwo]
      by_cases hfour : first = 0xfe
      · rw [if_pos hfour, if_pos hfour, readU32Checked_eq]
        apply bind_pair_eq_lift
        intro value r'' _
        exact guard_eq_lift fun _ => rfl
      · rw [if_neg hfour, if_neg hfour, readU64Checked_eq]
        apply bind_pair_eq_lift
        intro value r'' _
        exact guard_eq_lift fun _ => rfl

end TransactionReader

theorem isP2shChecked_eq (script : ByteString) :
    isP2shChecked script = .ok (decide (script.length = 23 ∧ script.take 2 = [0xa9, 0x14] ∧
      script.drop 22 = [0x87])) := by
  unfold isP2shChecked
  by_cases hlen : script.length = 23
  · have hlast : 22 < script.length := by omega
    have hbyte : byteAt script 22 = .ok script[22] := by
      rw [byteAt, List.getElem?_eq_getElem hlast]
    have hend : script.drop 22 = [script[22]] := by
      rw [List.drop_eq_getElem_cons hlast, List.drop_of_length_le (by omega)]
    rw [if_pos hlen, sliceRange_ok (by omega) (by omega), ok_bind, hbyte, hend]
    by_cases hstart : script.take 2 = [0xa9, 0x14] <;> simp [hlen, hstart]
  · simp [hlen]

theorem parseStandardOutputChecked_eq (script : ByteString) :
    parseStandardOutputChecked script = lift (parseStandardOutput script) := by
  have hp2pkh : isP2pkhChecked script = .ok (decide (script.length = 25 ∧
      script.take 3 = [0x76, 0xa9, 0x14] ∧ script.drop 23 = [0x88, 0xac])) := by
    unfold isP2pkhChecked
    by_cases hlen : script.length = 25
    · have hend : (script.drop 23).take (script.length - 23) = script.drop 23 :=
        List.take_of_length_le (by rw [List.length_drop])
      rw [if_pos hlen, sliceRange_ok (by omega) (by omega), ok_bind,
        sliceRange_ok (by omega) (by omega), hend]
      by_cases hstart : script.take 3 = [0x76, 0xa9, 0x14] <;> simp [hlen, hstart]
    · simp [hlen]
  rw [parseStandardOutputChecked, parseStandardOutput, hp2pkh, isP2shChecked_eq]
  simp only [ok_bind, decide_eq_true_eq]
  by_cases hfirst : script.length = 25 ∧ script.take 3 = [0x76, 0xa9, 0x14] ∧
      script.drop 23 = [0x88, 0xac]
  · rcases arrayRange_eq 20 3 rfl (by omega : 23 ≤ script.length)
      with ⟨address, haddress, hbytes⟩
    rw [if_pos hfirst, if_pos hfirst, haddress, toFixed?_eq_some.mpr hbytes.symm]
    rfl
  · rw [if_neg hfirst, if_neg hfirst]
    by_cases hsecond : script.length = 23 ∧ script.take 2 = [0xa9, 0x14] ∧
        script.drop 22 = [0x87]
    · rcases arrayRange_eq 20 2 rfl (by omega : 22 ≤ script.length)
        with ⟨address, haddress, hbytes⟩
      rw [if_pos hsecond, if_pos hsecond, haddress, toFixed?_eq_some.mpr hbytes.symm]
      rfl
    · rw [if_neg hsecond, if_neg hsecond]

theorem readInputChecked_eq (r : TransactionReader) (index : ℕ) (selected : SelectedUtxo) :
    readInputChecked r index selected = lift (readInput r index selected) := by
  simp only [readInputChecked, readInput, TransactionReader.readU32Checked_eq,
    TransactionReader.readCountChecked_eq]
  apply bind_pair_eq_lift
  intro txid r h
  rcases intoArray_eq (TransactionReader.readExact_length h) with ⟨prevTxidLe, hread, rfl⟩
  dsimp only
  rw [hread, toFixed?_toList, ok_bind, orBail_some, ok_bind]
  refine bind_pair_eq_lift fun vout r _ => bind_pair_eq_lift fun scriptLen r _ => ?_
  refine guard_eq_lift fun _ => bind_pair_eq_lift fun sequence r _ => ?_
  dsimp only
  exact guard_eq_lift fun _ => guard_eq_lift fun _ => rfl

theorem readInputsChecked_eq (r : TransactionReader) (index : ℕ) (inputs : List SelectedUtxo) :
    readInputsChecked r index inputs = lift (readInputs r index inputs) := by
  induction inputs generalizing r index with
  | nil => rfl
  | cons selected rest ih =>
    simp only [readInputsChecked, readInputs, readInputChecked_eq, ih]
    exact bind_pair_eq_lift fun input r _ => bind_pair_eq_lift fun inputs r _ => rfl

theorem readOutputChecked_eq (r : TransactionReader) (index : ℕ) :
    readOutputChecked r index = lift (readOutput r index) := by
  simp only [readOutputChecked, readOutput, TransactionReader.readU64Checked_eq,
    TransactionReader.readCountChecked_eq, parseStandardOutputChecked_eq]
  refine bind_pair_eq_lift fun value r _ => bind_pair_eq_lift fun scriptLen r _ => ?_
  refine guard_eq_lift fun _ => bind_pair_eq_lift fun scriptPubkey r _ => ?_
  cases parseStandardOutput scriptPubkey with
  | error chain => rfl
  | ok address => rfl

theorem readOutputsChecked_eq (r : TransactionReader) (index count : ℕ) :
    readOutputsChecked r index count = lift (readOutputs r index count) := by
  induction count generalizing r index with
  | zero => rfl
  | succ count ih =>
    simp only [readOutputsChecked, readOutputs, readOutputChecked_eq, ih]
    exact bind_pair_eq_lift fun output r _ => bind_pair_eq_lift fun outputs r _ => rfl

namespace UnsignedTransaction

/-- No index, slice, conversion or sum of the parser is out of bounds, whatever the bytes are. -/
theorem fromPersistedBytesChecked_eq (bytes : ByteString) (inputs : List SelectedUtxo) :
    fromPersistedBytesChecked bytes inputs = lift (fromPersistedBytes bytes inputs) := by
  simp only [fromPersistedBytesChecked, fromPersistedBytes, TransactionReader.readU32Checked_eq,
    TransactionReader.readCountChecked_eq, readInputsChecked_eq, readOutputsChecked_eq]
  refine guard_eq_lift fun _ => bind_pair_eq_lift fun version r _ => ?_
  refine guard_eq_lift fun _ => bind_pair_eq_lift fun inputCount r _ => ?_
  refine guard_eq_lift fun _ => guard_eq_lift fun _ => bind_pair_eq_lift fun txInputs r _ => ?_
  refine bind_pair_eq_lift fun outputCount r _ => guard_eq_lift fun _ => guard_eq_lift fun _ => ?_
  refine bind_pair_eq_lift fun outputs r _ => bind_pair_eq_lift fun locktime r _ => ?_
  refine guard_eq_lift fun _ => bind_eq_lift fun _ _ => ?_
  exact guard_eq_lift fun _ => rfl

/-- A transaction built for recovery has lengths that a count can say. -/
theorem new_encodable {inputs : List SelectedUtxo} {outputs : List TransactionOutput}
    {t : UnsignedTransaction} (hinputs : inputs.length ≤ maxPersistedInputs)
    (houtputs : outputs.length ≤ maxPersistedOutputs) (h : new inputs outputs = .ok t) :
    Preimage.Encodable t.inputs t.outputs := by
  rcases new_eq_ok.mp h with ⟨-, -, rfl⟩
  simp only [maxPersistedInputs, maxPersistedOutputs] at hinputs houtputs
  refine ⟨?_, ?_, ?_, ?_⟩
  · simp only [built, List.length_map]
    omega
  · intro input hinput
    rcases List.mem_map.mp hinput with ⟨selected, -, rfl⟩
    exact Nat.two_pow_pos 64
  · simp only [built, List.length_map]
    omega
  · intro output houtput
    rcases List.mem_map.mp houtput with ⟨logical, -, rfl⟩
    have hlen := scriptPubKeyFor_length logical.addressType logical.address
    simp only [maxStandardOutputScriptLen] at hlen
    simp only [TransactionOutput.toTxOut]
    omega

/-- Bytes that are accepted are not the start of other bytes that are. -/
theorem fromPersistedBytes_unextended {bytes tail : ByteString} {inputs : List SelectedUtxo}
    {t t' : UnsignedTransaction} (h : fromPersistedBytes bytes inputs = .ok t)
    (h' : fromPersistedBytes (bytes ++ tail) inputs = .ok t') : tail = [] := by
  rcases fromPersistedBytes_eq_ok.mp h with ⟨hinputs, outputs, houtputs, hnew, hbytes⟩
  rcases fromPersistedBytes_eq_ok.mp h' with ⟨-, outputs', houtputs', hnew', hbytes'⟩
  have hencoded : t.serialize ++ tail = t'.serialize ++ [] := by
    rw [← hbytes, hbytes', List.append_nil]
  exact (Preimage.serializeTransaction_inj (new_encodable hinputs houtputs hnew)
    (new_encodable hinputs houtputs' hnew') hencoded).2.2.2.2

/-- Recovery accepts exactly the canonical encoding of a transaction that spends the selected
inputs, and the outputs are then determined; bytes cut off anywhere or with more after them are
errors, as is everything else, and no bytes make the parser panic. -/
theorem fromPersistedBytes_exact (bytes : ByteString) (inputs : List SelectedUtxo) :
    (∀ t, fromPersistedBytes bytes inputs = .ok t ↔
      (1 ≤ inputs.length ∧ inputs.length ≤ 1000) ∧ ∃ outputs : List TransactionOutput,
        (1 ≤ outputs.length ∧ outputs.length ≤ 320) ∧ new inputs outputs = .ok t ∧
          bytes = t.serialize) ∧
    (∀ (outputs outputs' : List TransactionOutput) (t t' : UnsignedTransaction),
      (1 ≤ outputs.length ∧ outputs.length ≤ 320) → (1 ≤ outputs'.length ∧ outputs'.length ≤ 320) →
        inputs.length ≤ 1000 → new inputs outputs = .ok t → new inputs outputs' = .ok t' →
          bytes = t.serialize → bytes = t'.serialize → outputs = outputs') ∧
    (∀ t, fromPersistedBytes bytes inputs = .ok t →
      (∀ n < bytes.length, ∃ chain, fromPersistedBytes (bytes.take n) inputs = .error chain) ∧
        ∀ tail ≠ [], ∃ chain, fromPersistedBytes (bytes ++ tail) inputs = .error chain) ∧
    fromPersistedBytesChecked bytes inputs ≠ .error .panic ∧
    (∀ t, fromPersistedBytesChecked bytes inputs = .ok t ↔
      fromPersistedBytes bytes inputs = .ok t) := by
  refine ⟨?_, ?_, ?_, ?_, ?_⟩
  · intro t
    rw [fromPersistedBytes_eq_ok]
    constructor
    · intro h
      rcases h with ⟨hinputs, outputs, houtputs, hnew, hbytes⟩
      rcases new_eq_ok.mp hnew with ⟨hsome, hpaid, -⟩
      exact ⟨⟨List.length_pos_iff.mpr hsome, hinputs⟩, outputs,
        ⟨List.length_pos_iff.mpr hpaid, houtputs⟩, hnew, hbytes⟩
    · intro h
      rcases h with ⟨hinputs, outputs, houtputs, hnew, hbytes⟩
      exact ⟨hinputs.2, outputs, houtputs.2, hnew, hbytes⟩
  · intro outputs outputs' t t' houtputs _ hinputs hnew hnew' hbytes hbytes'
    rcases new_eq_ok.mp hnew with ⟨-, -, rfl⟩
    rcases new_eq_ok.mp hnew' with ⟨-, -, rfl⟩
    exact built_serialize_outputs_inj (built_serialize_length_lt hinputs houtputs.2)
      (hbytes.symm.trans hbytes')
  · intro t h
    constructor
    · intro n hn
      cases hcut : fromPersistedBytes (bytes.take n) inputs with
      | error chain => exact ⟨chain, rfl⟩
      | ok t' =>
        rw [← List.take_append_drop n bytes] at h
        have hnil := congrArg List.length (fromPersistedBytes_unextended hcut h)
        rw [List.length_drop, List.length_nil] at hnil
        omega
    · intro tail htail
      cases hmore : fromPersistedBytes (bytes ++ tail) inputs with
      | error chain => exact ⟨chain, rfl⟩
      | ok t' => exact absurd (fromPersistedBytes_unextended h hmore) htail
  · rw [fromPersistedBytesChecked_eq]
    exact lift_ne_panic
  · intro t
    rw [fromPersistedBytesChecked_eq]
    exact mapError_eq_ok

/-- One custody UTXO spent to one recipient. -/
def singleTransfer : UnsignedTransaction :=
  built [⟨.replicate 32 0x11, 3, [0x51]⟩] [⟨5000000, .p2pkh, .replicate 20 0x22⟩]

/-- Its encoding is accepted, without its last byte it is not. -/
theorem fromPersistedBytes_exact_single :
    fromPersistedBytes singleTransfer.serialize [⟨.replicate 32 0x11, 3, [0x51]⟩] =
        .ok singleTransfer ∧
      ∃ chain, fromPersistedBytes (singleTransfer.serialize.take 84)
        [⟨.replicate 32 0x11, 3, [0x51]⟩] = .error chain := by
  have hexact := fromPersistedBytes_exact singleTransfer.serialize [⟨.replicate 32 0x11, 3, [0x51]⟩]
  have haccepted := (hexact.1 singleTransfer).mpr
    ⟨by decide, [⟨5000000, .p2pkh, .replicate 20 0x22⟩], by decide, rfl, rfl⟩
  exact ⟨haccepted, (hexact.2.2.1 _ haccepted).1 84 (by decide)⟩

end UnsignedTransaction

end DogeOperator.Tx
