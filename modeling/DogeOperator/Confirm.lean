import DogeOperator.Prepare

/-! Reading a confirmed withdrawal back from Electrs: its position in the chain, and the
change output that becomes custody again. -/
namespace DogeOperator.Confirm
open Bytes Outcome Crypto Tx Network Records

/-- Block hash text as the `bitcoin` crate reads it. -/
class BlockHashText where
  fromStr : String → Except String (FixedBytes 32)

/-- The combined output index of `psy_bridge_core`: block height, transaction index, vout. -/
class TxoConstants where
  combinedIndex : UInt32 → UInt16 → UInt16 → UInt64

structure ElectrsWithdrawalOutput where
  scriptpubkey : String
  value : UInt64

structure ElectrsWithdrawalStatus where
  confirmed : Bool
  blockHeight : Option UInt32
  blockHash : Option String

structure ElectrsWithdrawalTransaction where
  txid : String
  vout : List ElectrsWithdrawalOutput
  status : ElectrsWithdrawalStatus

structure PersistedWithdrawalGraph where
  transaction : DogecoinTransaction
  process : ProcessWithdrawal
  reservation : CustodyReservation

structure ConfirmedWithdrawal where
  transaction : ElectrsWithdrawalTransaction
  blockHeight : UInt32
  blockHash : FixedBytes 32
  confirmations : UInt32
  txIndex : UInt16

/-- `u16::try_from` of a `usize`. -/
def toU16 (message : String) (value : ℕ) : Result UInt16 :=
  if value < 2 ^ 16 then .ok (UInt16.ofNat value)
  else context message (bail "out of range integral type conversion attempted")

/-- `u32::try_from` of a `usize`. -/
def toU32 (message : String) (value : ℕ) : Result UInt32 :=
  if value < 2 ^ 32 then .ok (UInt32.ofNat value)
  else context message (bail "out of range integral type conversion attempted")

theorem toU32_toNat {message : String} {value : ℕ} {n : UInt32} (h : toU32 message value = .ok n) :
    n.toNat = value := by
  unfold toU32 at h
  split at h
  · rename_i hbound
    cases h
    exact UInt32.toNat_ofNat_of_lt hbound
  · cases h

/-- The depth of a block below the tip, counting the block itself. -/
def confirmationsAt (tipHeight blockHeight : UInt32) : Option UInt32 :=
  if blockHeight ≤ tipHeight ∧ tipHeight.toNat - blockHeight.toNat + 1 < 2 ^ 32 then
    some (tipHeight - blockHeight + 1)
  else none

def planConfirmedWithdrawal [BlockHashText] (transaction : ElectrsWithdrawalTransaction)
    (displayTxid : String) (blockTxids : List String) (tipHeight : UInt32) :
    Result (Option ConfirmedWithdrawal) := do
  if ¬ eqIgnoreAsciiCase transaction.txid displayTxid then
    bail s!"Electrs GET returned txid {transaction.txid}, expected {displayTxid}"
  if ¬ transaction.status.confirmed then
    return none
  let blockHeight ← orBail transaction.status.blockHeight
    "confirmed Electrs transaction is missing block_height"
  let blockHashText ← orBail transaction.status.blockHash
    "confirmed Electrs transaction is missing block_hash"
  let blockHash ← context "parse withdrawal confirmation block hash"
    ((BlockHashText.fromStr blockHashText).mapError ([·]))
  let position ← orBail (blockTxids.findIdx? (eqIgnoreAsciiCase · displayTxid))
    "withdrawal transaction is absent from its confirmation block"
  let txIndex ← toU16 "withdrawal block transaction index exceeds u16" position
  let confirmations ← orBail (confirmationsAt tipHeight blockHeight)
    s!"Electrs tip height {tipHeight} precedes withdrawal height {blockHeight}"
  return some { transaction, blockHeight, blockHash, confirmations, txIndex }

/-- The outpoint alone decides the wire form of an unsigned input, so any script serves. -/
def recoveryInput (utxo : CustodyUtxo) : SelectedUtxo where
  transactionId := utxo.txid.reverse
  vout := utxo.vout
  redeemScript := [0x51]

/-- The last confirmed output is the P2SH output of the prepared transaction; its script
and script hash. -/
def confirmedChangeScript (batch : SnapshotBatch) (graph : PersistedWithdrawalGraph)
    (output : ElectrsWithdrawalOutput) : Result (ByteString × FixedBytes 20) := do
  let script ← context "decode confirmed change script"
    ((hexDecode output.scriptpubkey).mapError ([·]))
  if script.length ≠ 23 ∨ script.take 2 ≠ [0xa9, 0x14] ∨ script.drop 22 ≠ [0x87] then
    bail "confirmed change output is not P2SH"
  let scriptHash ← orBail (toFixed? 20 ((script.drop 2).take 20)) "source slice length mismatch"
  let unsignedBytes ← orBail batch.unsignedTransaction
    "broadcast snapshot batch has no unsigned transaction"
  let recovered ← UnsignedTransaction.fromPersistedBytes unsignedBytes
    (graph.reservation.utxos.map recoveryInput)
  let preparedChange ← orBail recovered.logicalOutputs.getLast?
    "prepared transaction has no change output"
  if preparedChange.amount ≠ output.value ∨ preparedChange.addressType ≠ .p2sh ∨
      preparedChange.address ≠ scriptHash then
    bail "confirmed change output differs from prepared transaction"
  return (script, scriptHash)

/-- One key reference for all selected inputs. -/
def commonKeyReference (utxos : List CustodyUtxo) : Result String := do
  let keyReference ← orBail (utxos.head?.map CustodyUtxo.keyReference)
    "broadcast reservation has no selected custody inputs"
  if utxos.any fun utxo => utxo.keyReference ≠ keyReference then
    bail "selected custody inputs have inconsistent key references"
  return keyReference

/-- The change as a fresh custody UTXO; the recipient is the zero address. -/
def changeUtxo [TxoConstants] (batch : SnapshotBatch) (confirmed : ConfirmedWithdrawal)
    (internalTxid : FixedBytes 32) (expectedVout : UInt32) (vout : UInt16)
    (output : ElectrsWithdrawalOutput) (script : ByteString) (custodyAddress keyReference : String) :
    CustodyUtxo where
  txid := internalTxid
  vout := expectedVout
  amountSats := output.value
  scriptPubkeyHex := hexEncode script
  custodyAddress := custodyAddress
  keyReference := keyReference
  confirmationBlockHash := some confirmed.blockHash
  confirmationHeight := some confirmed.blockHeight
  confirmations := confirmed.confirmations
  leafIndex := TxoConstants.combinedIndex confirmed.blockHeight confirmed.txIndex vout
  status := .available
  reservationId := none
  spendTxid := none
  sourceDepositTxid := none
  sourceSolanaSignature := some batch.solanaSignature
  spendRequestIndex := none
  spendProcessSignature := none
  originalRecipientAddress := List.Vector.replicate 32 0

def deriveConfirmedChange [Base58Check] [TxoConstants] (network : DogeNetwork)
    (batch : SnapshotBatch) (graph : PersistedWithdrawalGraph) (withdrawalOutputCount : ℕ)
    (confirmed : ConfirmedWithdrawal) : Result (Option CustodyUtxo) := do
  if graph.process.returnOutputAmountSats = 0 then
    if confirmed.transaction.vout.length ≠ withdrawalOutputCount then
      bail "zero-change confirmed transaction has an unexpected output count"
    return none
  let expectedVout ← toU32 "withdrawal output count exceeds u32" withdrawalOutputCount
  if graph.process.returnOutputIndex ≠ expectedVout.toUInt64 then
    bail "persisted change output index is not the last prepared output"
  if confirmed.transaction.vout.length ≠ withdrawalOutputCount + 1 then
    bail "confirmed transaction does not end with exactly one change output"
  let output ← orBail confirmed.transaction.vout.getLast? "confirmed transaction has no change output"
  if output.value ≠ graph.process.returnOutputAmountSats then
    bail "confirmed change value differs from prepared plan"
  let (script, scriptHash) ← confirmedChangeScript batch graph output
  let keyReference ← commonKeyReference graph.reservation.utxos
  let vout ← toU16 "withdrawal change vout exceeds u16" expectedVout.toNat
  let internalTxid ← orBail graph.transaction.txid "validated transaction txid"
  let custodyAddress ← network.encodeAddress 1 scriptHash
  return some (changeUtxo batch confirmed internalTxid expectedVout vout output script custodyAddress
    keyReference)

end DogeOperator.Confirm
