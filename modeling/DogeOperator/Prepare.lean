import DogeOperator.Manager
import DogeOperator.Records
import DogeOperator.Redeem

/-! Building the unsigned withdrawal transaction from a payload and a custody reservation,
fresh or from durable bytes. -/
namespace DogeOperator.Prepare
open Bytes Outcome Crypto Utx0 Redeem Tx Network Manager Records

def solanaEmitterChain : UInt16 := 1

def dogecoinChainId : UInt16 := 65

/-- `SNAPSHOT_PROOF_MAX_BATCH`: the requests one snapshot may cover. -/
def snapshotProofMaxBatch : ℕ := 319

structure CustodyTransactionPlan where
  recipientSats : UInt64
  changeSats : UInt64
  feeSats : UInt64
  deriving DecidableEq

/-- Change is exact: the remainder goes to one output or there is none. -/
def planCustodyTransaction (selectedSats recipientSats feeSats dustThresholdSats : UInt64) :
    Result CustodyTransactionPlan := do
  if recipientSats = 0 then
    bail "custody transaction recipient amount must be greater than zero"
  let required ← orBail (checkedAdd recipientSats feeSats) "recipient plus fee overflows u64"
  let changeSats ← orBail (checkedSub selectedSats required)
    s!"insufficient tracked custody funds: selected {selectedSats} sats, need {required} sats"
  if changeSats ≠ 0 ∧ changeSats < dustThresholdSats then
    bail s!"tracked custody change {changeSats} sats is below explicit dust threshold {dustThresholdSats}; select different inputs or fee rather than donating it"
  return { recipientSats, changeSats, feeSats }

/-- The `withdraw` arguments, after the network defaults filled the optional ones. -/
structure Args where
  dogeNetwork : DogeNetwork
  runtimeNetwork : RuntimeNetwork
  requestIndex : Option UInt64
  requestSignature : Option (FixedBytes 64)
  feeSats : UInt64
  dustThresholdSats : UInt64
  solanaRpcUrl : String
  operatorKeypair : String
  payerKeypair : String
  dogeBridgeProgram : Pubkey
  pendingMintProgram : Pubkey
  txoBufferProgram : Pubkey
  genericBufferProgram : Pubkey
  wormholeCoreProgram : Pubkey
  wormholeShimProgram : Pubkey
  bridgeState : Option Pubkey
  managerServiceUrl : Option String
  electrsUrl : String
  pollIntervalMs : UInt64
  signingTimeoutSecs : UInt64
  evidencePath : String
  managerSetIndex : UInt32
  managerSigningEnabled : Bool
  broadcastEnabled : Bool
  resume : Bool

structure PreparedTransaction where
  transaction : UnsignedTransaction
  unsignedBytes : ByteString
  selectedUtxos : List CustodyUtxo
  selectedSats : UInt64
  plan : CustodyTransactionPlan
  changeScriptHash : Option (FixedBytes 20)
  reservationId : String

/-- `try_fold` with `checked_add`. -/
def sumAmounts (outputs : List Utx0Output) : Result UInt64 :=
  outputs.foldlM (fun sum output =>
    orBail (checkedAdd sum output.amount) "withdrawal amount overflow") 0

section
variable [Hashes] [Base58Check]

/-- The redeem script of one reserved UTXO, checked against its recorded address and script. -/
def selectUtxo (args : Args) (bridgeState : Pubkey) (managerSet : ManagerSet) (utxo : CustodyUtxo) :
    Result SelectedUtxo := do
  let redeemScript ← buildRedeemScript solanaEmitterChain bridgeState
    utxo.originalRecipientAddress managerSet.m managerSet.pubkeys
  let scriptHash := hash160 redeemScript
  let expectedAddress ← args.dogeNetwork.encodeAddress 1 scriptHash
  if expectedAddress ≠ utxo.custodyAddress then
    bail s!"custody UTXO {hexEncode utxo.txid.toList}:{utxo.vout} does not match its redeem script"
  if utxo.scriptPubkeyHex ≠ "" ∧
      ¬ eqIgnoreAsciiCase utxo.scriptPubkeyHex (hexEncode (p2shScriptPubkey scriptHash)) then
    bail s!"custody UTXO {hexEncode utxo.txid.toList}:{utxo.vout} scriptPubKey mismatch"
  return { transactionId := utxo.txid.reverse, vout := utxo.vout, redeemScript }

def zeroRecipient : FixedBytes 32 := List.Vector.replicate 32 0

def toTransactionOutput (output : Utx0Output) : TransactionOutput where
  amount := output.amount
  addressType := output.addressType
  address := output.address

/-- The last output returns the change to custody of the bridge itself; the hash is kept. -/
def appendChange (bridgeState : Pubkey) (managerSet : ManagerSet) (changeSats : UInt64)
    (outputs : List TransactionOutput) :
    Result (List TransactionOutput × Option (FixedBytes 20)) :=
  if changeSats = 0 then .ok (outputs, none)
  else do
    let redeemScript ← buildRedeemScript solanaEmitterChain bridgeState zeroRecipient
      managerSet.m managerSet.pubkeys
    let scriptHash := hash160 redeemScript
    return (outputs ++ [{ amount := changeSats, addressType := .p2sh, address := scriptHash }],
      some scriptHash)

/-- Recover the durable transaction, or build a fresh one. -/
def recoverOrBuild (persistedUnsigned : Option ByteString) (inputs : List SelectedUtxo)
    (outputs : List TransactionOutput) : Result UnsignedTransaction :=
  match persistedUnsigned with
  | some bytes => do
    let recovered ← UnsignedTransaction.fromPersistedBytes bytes inputs
    if recovered.logicalOutputs ≠ outputs then
      bail "persisted unsigned transaction outputs differ from payload and reservation"
    return recovered
  | none => UnsignedTransaction.new inputs outputs

def preparedFromReservation (args : Args) (bridgeState : Pubkey) (payload : Utx0UnlockPayload)
    (managerSet : ManagerSet) (reservation : CustodyReservation)
    (persistedUnsigned : Option ByteString) : Result PreparedTransaction := do
  let withdrawalSats ← sumAmounts payload.outputs
  let requiredSats ← orBail (checkedAdd withdrawalSats args.feeSats)
    "required custody amount overflow"
  if reservation.requiredAmountSats ≠ requiredSats then
    bail s!"custody reservation {reservation.reservationId} requires {reservation.requiredAmountSats} sats, persisted payload requires {requiredSats}"
  let selectedSats := reservation.selectedAmountSats
  let plan ← planCustodyTransaction selectedSats withdrawalSats args.feeSats args.dustThresholdSats
  let selectedInputs ← reservation.utxos.mapM (selectUtxo args bridgeState managerSet)
  let outputs := payload.outputs.map toTransactionOutput
  let (transactionOutputs, changeScriptHash) ← appendChange bridgeState managerSet plan.changeSats
    outputs
  let transaction ← recoverOrBuild persistedUnsigned selectedInputs transactionOutputs
  let unsignedBytes := transaction.serialize
  if persistedUnsigned.any (· ≠ unsignedBytes) then
    bail "persisted unsigned transaction bytes drifted during deterministic recovery"
  return {
    transaction
    unsignedBytes
    selectedUtxos := reservation.utxos
    selectedSats
    plan
    changeScriptHash
    reservationId := reservation.reservationId }

end

end DogeOperator.Prepare
