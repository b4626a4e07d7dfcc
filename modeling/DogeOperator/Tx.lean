import DogeOperator.Crypto
import DogeOperator.Utx0

/-! Legacy Dogecoin transactions: construction from selected inputs, the wire encoding, the
signature hash, scriptSig assembly, and recovery from durable unsigned bytes. -/
namespace DogeOperator.Tx
open Bytes Outcome Crypto Utx0

def sighashAllType : UInt32 := 0x01
def txVersion : UInt32 := 1
def sequenceFinal : UInt32 := 0xffffffff
def maxPersistedInputs : ℕ := 1000
def maxPersistedOutputs : ℕ := 320
def maxStandardOutputScriptLen : ℕ := 25

structure SelectedUtxo where
  /-- Display order; reversed for wire encoding. -/
  transactionId : FixedBytes 32
  vout : UInt32
  redeemScript : ByteString
  deriving DecidableEq

structure TransactionOutput where
  amount : UInt64
  addressType : UtxoAddressType
  address : FixedBytes 20
  deriving DecidableEq

def p2pkhScriptPubkey (pubkeyHash : FixedBytes 20) : ByteString :=
  [0x76, 0xa9, 0x14] ++ pubkeyHash.toList ++ [0x88, 0xac]

def p2shScriptPubkey (scriptHash : FixedBytes 20) : ByteString :=
  [0xa9, 0x14] ++ scriptHash.toList ++ [0x87]

def scriptPubKeyFor (addressType : UtxoAddressType) (address : FixedBytes 20) : ByteString :=
  match addressType with
  | .p2pkh => p2pkhScriptPubkey address
  | .p2sh => p2shScriptPubkey address

def writeVarint (value : UInt64) : ByteString :=
  if value < 0xfd then [value.toUInt8]
  else if value ≤ 0xffff then 0xfd :: u16Le value.toUInt16
  else if value ≤ 0xffffffff then 0xfe :: u32Le value.toUInt32
  else 0xff :: u64Le value

structure TxIn where
  prevTxidLe : FixedBytes 32
  vout : UInt32
  scriptSig : ByteString
  sequence : UInt32
  deriving DecidableEq

structure TxOut where
  value : UInt64
  scriptPubkey : ByteString
  deriving DecidableEq

structure UnsignedTransaction where
  version : UInt32
  inputs : List TxIn
  outputs : List TxOut
  logicalOutputs : List TransactionOutput
  locktime : UInt32
  redeemScripts : List ByteString
  deriving DecidableEq

def TxIn.serialize (input : TxIn) : ByteString :=
  input.prevTxidLe.toList ++ u32Le input.vout ++
    writeVarint (UInt64.ofNat input.scriptSig.length) ++ input.scriptSig ++ u32Le input.sequence

def TxOut.serialize (output : TxOut) : ByteString :=
  u64Le output.value ++ writeVarint (UInt64.ofNat output.scriptPubkey.length) ++ output.scriptPubkey

def serializeTransaction (version : UInt32) (inputs : List TxIn) (outputs : List TxOut)
    (locktime : UInt32) : ByteString :=
  u32Le version ++ writeVarint (UInt64.ofNat inputs.length) ++ inputs.flatMap TxIn.serialize ++
    writeVarint (UInt64.ofNat outputs.length) ++ outputs.flatMap TxOut.serialize ++ u32Le locktime

/-- The input an operator-selected UTXO becomes, before any scriptSig. -/
def SelectedUtxo.toTxIn (input : SelectedUtxo) : TxIn where
  prevTxidLe := input.transactionId.reverse
  vout := input.vout
  scriptSig := []
  sequence := sequenceFinal

def TransactionOutput.toTxOut (output : TransactionOutput) : TxOut where
  value := output.amount
  scriptPubkey := scriptPubKeyFor output.addressType output.address

namespace UnsignedTransaction

def new (inputs : List SelectedUtxo) (outputs : List TransactionOutput) :
    Result UnsignedTransaction := do
  if inputs.isEmpty then bail "no selected inputs"
  if outputs.isEmpty then bail "no outputs"
  return {
    version := txVersion
    inputs := inputs.map SelectedUtxo.toTxIn
    outputs := outputs.map TransactionOutput.toTxOut
    logicalOutputs := outputs
    locktime := 0
    redeemScripts := inputs.map SelectedUtxo.redeemScript }

def inputCount (t : UnsignedTransaction) : ℕ := t.inputs.length

def serialize (t : UnsignedTransaction) : ByteString :=
  serializeTransaction t.version t.inputs t.outputs t.locktime

/-- The bytes whose double SHA-256 is the signature hash. -/
def sighashPreimage (t : UnsignedTransaction) (inputIndex : ℕ) (hashType : UInt32) :
    Result ByteString := do
  let input ← orBail t.inputs[inputIndex]?
    s!"input index {inputIndex} out of range [0, {t.inputs.length})"
  let redeemScript ← orBail t.redeemScripts[inputIndex]? s!"no redeem script for input {inputIndex}"
  let base := hashType &&& 0x1f
  let anyoneCanPay := hashType &&& 0x80 ≠ 0
  if base = 0x03 ∧ inputIndex ≥ t.outputs.length then
    return [0x01]
  let inputs := if anyoneCanPay then [input] else t.inputs.map ({ · with scriptSig := [] })
  let signedIndex := if anyoneCanPay then 0 else inputIndex
  let inputs := inputs.modify signedIndex ({ · with scriptSig := redeemScript })
  let inputs := if ¬ anyoneCanPay ∧ (base = 0x02 ∨ base = 0x03) then
      inputs.mapIdx fun index input => if index ≠ signedIndex then { input with sequence := 0 } else input
    else inputs
  let outputs := if base = 0x02 then []
    else if base = 0x03 then t.outputs[inputIndex]?.toList
    else t.outputs
  return serializeTransaction t.version inputs outputs t.locktime ++ u32Le hashType

def sighash [Hashes] (t : UnsignedTransaction) (inputIndex : ℕ) (hashType : UInt32) :
    Result (FixedBytes 32) := do
  let bytes ← t.sighashPreimage inputIndex hashType
  return doubleSha256 bytes

def sighashAll [Hashes] (t : UnsignedTransaction) (inputIndex : ℕ) : Result (FixedBytes 32) :=
  t.sighash inputIndex sighashAllType

def txid [Hashes] (t : UnsignedTransaction) : FixedBytes 32 := (doubleSha256 t.serialize).reverse

end UnsignedTransaction

def pushDataInline (data : ByteString) : ByteString :=
  let len := data.length
  (if len ≤ 0x4b then [UInt8.ofNat len]
  else if len ≤ 0xff then [0x4c, UInt8.ofNat len]
  else if len ≤ 0xffff then 0x4d :: u16Le (UInt16.ofNat len)
  else 0x4e :: u32Le (UInt32.ofNat len)) ++ data

/-- `OP_0`, the signatures in order, then the redeem script. -/
def scriptSigBytes (signatures : List ByteString) (redeemScript : ByteString) : ByteString :=
  [0x00] ++ signatures.flatMap pushDataInline ++ pushDataInline redeemScript

/-- Nothing is written on the error paths. -/
def UnsignedTransaction.applyScriptSig (t : UnsignedTransaction) (inputIndex : ℕ)
    (signatures : List ByteString) : Result UnsignedTransaction := do
  let input ← orBail t.inputs[inputIndex]? s!"input index {inputIndex} out of range"
  let redeemScript ← orBail t.redeemScripts[inputIndex]? s!"no redeem script for input {inputIndex}"
  return { t with
    inputs := t.inputs.set inputIndex { input with scriptSig := scriptSigBytes signatures redeemScript } }

def parseStandardOutput (script : ByteString) : Result (UtxoAddressType × FixedBytes 20) := do
  if script.length = 25 ∧ script.take 3 = [0x76, 0xa9, 0x14] ∧ script.drop 23 = [0x88, 0xac] then
    let address ← orBail (toFixed? 20 ((script.drop 3).take 20)) "source slice length mismatch"
    return (.p2pkh, address)
  else if script.length = 23 ∧ script.take 2 = [0xa9, 0x14] ∧ script.drop 22 = [0x87] then
    let address ← orBail (toFixed? 20 ((script.drop 2).take 20)) "source slice length mismatch"
    return (.p2sh, address)
  else
    bail "unsupported output scriptPubKey"

structure TransactionReader where
  bytes : ByteString
  offset : ℕ

namespace TransactionReader

def new (bytes : ByteString) : TransactionReader := ⟨bytes, 0⟩

def readExact (r : TransactionReader) (len : ℕ) (field : String) :
    Result (ByteString × TransactionReader) := do
  let stop ← orBail (if r.offset + len < 2 ^ 64 then some (r.offset + len) else none)
    s!"persisted transaction {field} length overflow"
  let value ← orBail
    (if stop ≤ r.bytes.length then some ((r.bytes.drop r.offset).take len) else none)
    s!"persisted transaction is truncated at {field}"
  return (value, { r with offset := stop })

def readU32 (r : TransactionReader) (field : String) : Result (UInt32 × TransactionReader) := do
  let (value, r) ← r.readExact 4 field
  return (u32OfLe value, r)

def readU64 (r : TransactionReader) (field : String) : Result (UInt64 × TransactionReader) := do
  let (value, r) ← r.readExact 8 field
  return (u64OfLe value, r)

/-- A canonical varint; the final `usize` conversion cannot fail on a 64-bit target. -/
def readCount (r : TransactionReader) (field : String) : Result (ℕ × TransactionReader) := do
  let (first, r) ← r.readExact 1 field
  let first := first.headD 0
  if first ≤ 0xfc then
    return (first.toNat, r)
  else if first = 0xfd then
    let (value, r) ← r.readExact 2 field
    let value := u16OfLe value
    if value < 0xfd then bail s!"persisted transaction {field} uses a non-canonical varint"
    return (value.toNat, r)
  else if first = 0xfe then
    let (value, r) ← r.readU32 field
    if value ≤ 0xffff then bail s!"persisted transaction {field} uses a non-canonical varint"
    return (value.toNat, r)
  else
    let (value, r) ← r.readU64 field
    if value ≤ 0xffffffff then bail s!"persisted transaction {field} uses a non-canonical varint"
    return (value.toNat, r)

def finish (r : TransactionReader) : Result Unit := do
  if r.offset ≠ r.bytes.length then bail "persisted transaction has trailing bytes"

end TransactionReader

/-- One input of the persisted bytes, checked against the reservation's outpoint. -/
def readInput (r : TransactionReader) (index : ℕ) (selected : SelectedUtxo) :
    Result (TxIn × TransactionReader) := do
  let (txid, r) ← r.readExact 32 "input transaction id"
  let prevTxidLe ← orBail (toFixed? 32 txid) "exact transaction id length"
  let (vout, r) ← r.readU32 "input vout"
  let (scriptLen, r) ← r.readCount "input script length"
  if scriptLen ≠ 0 then bail s!"persisted unsigned input {index} contains a scriptSig"
  let (sequence, r) ← r.readU32 "input sequence"
  if sequence ≠ sequenceFinal then bail s!"persisted unsigned input {index} has non-final sequence"
  if prevTxidLe ≠ selected.transactionId.reverse ∨ vout ≠ selected.vout then
    bail s!"persisted unsigned input {index} differs from custody reservation"
  return ({ prevTxidLe, vout, scriptSig := [], sequence }, r)

def readInputs (r : TransactionReader) (index : ℕ) :
    List SelectedUtxo → Result (List TxIn × TransactionReader)
  | [] => .ok ([], r)
  | selected :: rest => do
    let (input, r) ← readInput r index selected
    let (inputs, r) ← readInputs r (index + 1) rest
    return (input :: inputs, r)

/-- One output: the wire form and the standard address it pays. -/
def readOutput (r : TransactionReader) (index : ℕ) :
    Result ((TxOut × TransactionOutput) × TransactionReader) := do
  let (value, r) ← r.readU64 "output value"
  let (scriptLen, r) ← r.readCount "output script length"
  if scriptLen > maxStandardOutputScriptLen then
    bail s!"persisted output {index} scriptPubKey exceeds safety limit"
  let (scriptPubkey, r) ← r.readExact scriptLen "output scriptPubKey"
  let (addressType, address) ← context s!"decode persisted output {index}"
    (parseStandardOutput scriptPubkey)
  return (({ value, scriptPubkey }, { amount := value, addressType, address }), r)

def readOutputs (r : TransactionReader) (index : ℕ) :
    ℕ → Result (List (TxOut × TransactionOutput) × TransactionReader)
  | 0 => .ok ([], r)
  | count + 1 => do
    let (output, r) ← readOutput r index
    let (outputs, r) ← readOutputs r (index + 1) count
    return (output :: outputs, r)

/-- Recover an unsigned transaction from durable wire bytes and independently
reconstructed selected inputs; redeem scripts come from `inputs`. -/
def UnsignedTransaction.fromPersistedBytes (bytes : ByteString) (inputs : List SelectedUtxo) :
    Result UnsignedTransaction := do
  if inputs.isEmpty then bail "no selected inputs"
  let (version, r) ← (TransactionReader.new bytes).readU32 "version"
  if version ≠ txVersion then bail s!"unsupported persisted transaction version {version}"
  let (inputCount, r) ← r.readCount "input count"
  if inputCount > maxPersistedInputs then
    bail s!"persisted transaction input count {inputCount} exceeds safety limit"
  if inputCount ≠ inputs.length then
    bail s!"persisted transaction has {inputCount} inputs, reservation has {inputs.length}"
  let (txInputs, r) ← readInputs r 0 inputs
  let (outputCount, r) ← r.readCount "output count"
  if outputCount > maxPersistedOutputs then
    bail s!"persisted transaction output count {outputCount} exceeds safety limit"
  if outputCount = 0 then bail "persisted unsigned transaction has no outputs"
  let (outputs, r) ← readOutputs r 0 outputCount
  let (locktime, r) ← r.readU32 "locktime"
  if locktime ≠ 0 then bail "persisted unsigned transaction has nonzero locktime"
  r.finish
  let transaction : UnsignedTransaction := {
    version
    inputs := txInputs
    outputs := outputs.map Prod.fst
    logicalOutputs := outputs.map Prod.snd
    locktime
    redeemScripts := inputs.map SelectedUtxo.redeemScript }
  if transaction.serialize ≠ bytes then
    bail "persisted unsigned transaction is not canonically encoded"
  return transaction

end DogeOperator.Tx
