import DogeOperator.Graph
import DogeOperator.Signing
import DogeOperator.Solana

/-! Resuming a persisted snapshot batch, from each of its states. -/
namespace DogeOperator.Resume
open Bytes Outcome Crypto Utx0 Tx Network Manager Prepare Records Json Confirm ManagerClient
  Operations Solana Electrs DogeOperator.Graph Signing

inductive ObservedBatchAction
  | awaitConfirmation
  | resendOriginal
  | fail
  | wait
  deriving DecidableEq, Repr

def selectObservedBatchAction (status : Option Bool) (metadataFound blockhashValid : Bool)
    (snapshotCursor requestStart : UInt64) : ObservedBatchAction :=
  if status = some false then
    if snapshotCursor = requestStart then .fail else .wait
  else if metadataFound ∨ status = some true then .awaitConfirmation
  else if blockhashValid then .resendOriginal
  else if snapshotCursor = requestStart then .fail
  else .wait

/-- Give the custody of a failed batch back. -/
def releaseReserved (batch : SnapshotBatch) : Flow Unit :=
  match batch.reservationId with
  | none => return ()
  | some reservationId => do
    match ← store (.loadReservation reservationId) with
    | none => return ()
    | some reservation =>
      if reservation.status = .reserved then store (.releaseReservation reservationId)
      else return ()

def applyObservedTerminalEffect (batch : SnapshotBatch) : ObservedBatchAction → Flow Unit
  | .fail => do
    releaseReserved batch
    store (.setSnapshotBatchStatus batch.solanaSignature .failed)
    bail s!"persisted snapshot {batch.solanaSignature} failed or expired before advancing the cursor"
  | .wait =>
    bail s!"persisted snapshot {batch.solanaSignature} has ambiguous chain status; refusing a new blockhash"
  | .awaitConfirmation => return ()
  | .resendOriginal => return ()

section
variable [SolanaSdk]

/-- The Wormhole message of the landed snapshot is the batch's. -/
def checkWormholeMessage (args : Args) (bridgeState : Pubkey) (batch : SnapshotBatch) :
    Flow Unit := do
  let signature ← orFail (SolanaSdk.signatureFromStr batch.solanaSignature)
  let noop ← findNoopMessage args bridgeState signature
  bailIf (noop.emitter ≠ bridgeState ∨ noop.dogeTxBytes ≠ batch.payload)
    "snapshot Wormhole message differs from the persisted batch"
  if usesNoopShim args then
    bailIf (noop.nonce.toUInt64 ≠ batch.wormholeSequence)
      "snapshot noop sequence differs from the persisted batch"
  else
    let after ← found (readWormholeSequence bridgeState args.wormholeCoreProgram)
      "Wormhole sequence account missing after snapshot"
    let expectedAfter ← orBail (checkedAdd batch.wormholeSequence 1) "Wormhole sequence overflow"
    bailIf (after ≠ expectedAfter)
      s!"Wormhole sequence is {after}, expected exactly {expectedAfter} for persisted batch"

/-- The batch of a landed snapshot, as it is written back. -/
def confirmedBatch (batch : SnapshotBatch) (metadata : ConfirmedTransaction) : SnapshotBatch :=
  { batch with
    solanaSlot := metadata.slot
    blockTime := metadata.blockTime
    status := if batch.unsignedTransaction.isSome then .constructed else .snapshotted }

/-- The batch behind the `&mut` reference is returned. -/
def finishConfirmedSnapshot (args : Args) (bridgeState : Pubkey) (batch : SnapshotBatch)
    (metadata : ConfirmedTransaction) : Flow SnapshotBatch := do
  let state ← readBridgeState bridgeState args.dogeBridgeProgram
  let cursor := state.withdrawalSnapshot.nextRequestedWithdrawalsTreeIndex
  if metadata.metaStatus.any (·.err.isSome) then
    if cursor = batch.requestStartIndex then
      releaseReserved batch
      store (.setSnapshotBatchStatus batch.solanaSignature .failed)
      bail "persisted snapshot transaction failed before advancing the cursor"
    else
      bail "persisted snapshot transaction failed but the cursor state is ambiguous"
  else
    Batches.checkConfirmedCursor cursor batch.requestEndIndex
    bailIf (state.withdrawalSnapshot.requestedWithdrawalsTreeRoot ≠ batch.snapshotRoot)
      "confirmed snapshot root differs from the persisted batch root"
    checkWormholeMessage args bridgeState batch
    let confirmed := confirmedBatch batch metadata
    store (.upsertSnapshotBatch confirmed)
    setRequestStatuses confirmed confirmed.status
    return confirmed

def confirmSnapshotBatch (args : Args) (bridgeState : Pubkey) (batch : SnapshotBatch) :
    Flow SnapshotBatch := do
  let signature ← orFail (SolanaSdk.signatureFromStr batch.solanaSignature)
  let metadata ← waitForTransactionMeta signature 30000
  finishConfirmedSnapshot args bridgeState batch metadata

/-- The persisted Solana transaction of an observed batch, and its first signature. -/
def decodeObserved (batch : SnapshotBatch) : Result (SolanaTransaction × SolanaSignature) := do
  let bytes ← orBail batch.solanaTransaction
    "observed snapshot batch has no persisted Solana transaction"
  let transaction ← context "decode persisted snapshot Solana transaction"
    (orFail (SolanaSdk.deserializeTransaction bytes))
  let canonical ← orFail (SolanaSdk.serializeTransaction transaction)
  if canonical ≠ bytes then
    bail "persisted snapshot Solana transaction is not canonical bincode"
  let signature ← orBail transaction.signatures.head?
    "persisted snapshot transaction has no signature"
  if SolanaSdk.signatureToString signature ≠ batch.solanaSignature then
    bail "persisted snapshot transaction signature differs from snapshot batch key"
  return (transaction, signature)

structure Observation where
  snapshotCursor : UInt64
  status : Option TransactionStatus
  metadata : Option ConfirmedTransaction
  blockhashValid : Bool

/-- The last read of the chain, made only when nothing is known of the transaction. -/
def readBlockhashValid (unknown : Prop) [Decidable unknown] (blockhash : FixedBytes 32) :
    Flow Bool :=
  if unknown then
    withContext "check persisted snapshot blockhash" (rpc (.isBlockhashValid blockhash))
  else return false

/-- The four reads of the chain, each at its own time; a failed metadata read counts as absent. -/
def observe (args : Args) (bridgeState : Pubkey) (transaction : SolanaTransaction)
    (signature : SolanaSignature) : Flow Observation := do
  let state ← readBridgeState bridgeState args.dogeBridgeProgram
  let statuses ← withContext "query persisted snapshot signature status"
    (rpc (.getSignatureStatusesWithHistory [signature]))
  let status := statuses.head?.join
  let answer ← (rpc (.getTransaction signature)).attempt
  let metadata := answer.toOption
  let blockhashValid ← readBlockhashValid (status.isNone ∧ metadata.isNone)
    transaction.recentBlockhash
  return { snapshotCursor := state.withdrawalSnapshot.nextRequestedWithdrawalsTreeIndex
           status, metadata, blockhashValid }

def Observation.action (seen : Observation) (batch : SnapshotBatch) : ObservedBatchAction :=
  selectObservedBatchAction (seen.status.map (·.err.isNone)) seen.metadata.isSome
    seen.blockhashValid seen.snapshotCursor batch.requestStartIndex

/-- Wait for the landed snapshot, from the metadata if it has been read. -/
def settleObserved (args : Args) (bridgeState : Pubkey) (batch : SnapshotBatch)
    (metadata : Option ConfirmedTransaction) : Flow SnapshotBatch :=
  match metadata with
  | some metadata => finishConfirmedSnapshot args bridgeState batch metadata
  | none => confirmSnapshotBatch args bridgeState batch

/-- Resolve an observed batch; nothing is returned when the run ends here. -/
def resumeObserved (args : Args) (bridgeState : Pubkey) (batch : SnapshotBatch) :
    Flow (Option SnapshotBatch) := do
  let (transaction, signature) ← decodeObserved batch
  let seen ← observe args bridgeState transaction signature
  match seen.action batch with
  | .awaitConfirmation => do
    let confirmed ← settleObserved args bridgeState batch seen.metadata
    return some confirmed
  | .resendOriginal => do
    let returned ← withContext "resend persisted snapshot transaction"
      (rpc (.sendTransaction transaction))
    bailIf (returned ≠ signature) "resubmitted snapshot returned a different signature"
    let confirmed ← settleObserved args bridgeState batch seen.metadata
    return some confirmed
  | .fail => do
    applyObservedTerminalEffect batch .fail
    return none
  | .wait => do
    applyObservedTerminalEffect batch .wait
    return none

end

section
variable [Hashes]

def resumedEvidence (args : Args) (batch : SnapshotBatch) (payload : Utx0UnlockPayload)
    (signedBytes : ByteString) (displayTxid reservationId : String) : Evidence where
  schema := evidenceSchema
  completed := args.broadcastEnabled
  snapshot := snapshotEvidence batch [("resumedAtSignedStage", .bool true)]
  withdrawal := .object [("outputCount", .integer payload.outputs.length)]
  manager := .object [("reusedPersistedSignedTransaction", .bool true)]
  dogecoin := .object [("signedTransactionHex", hexValue signedBytes),
    ("txid", .string displayTxid), ("broadcast", .bool args.broadcastEnabled)]
  custody := .object [("reservationId", .string reservationId)]

def resumeSignedBatch (args : Args) (batch : SnapshotBatch) (payload : Utx0UnlockPayload)
    (graph : PersistedWithdrawalGraph) : Flow Unit := do
  let signedBytes ← orBail graph.transaction.rawTransaction
    "signed Dogecoin transaction has no persisted raw bytes"
  let rawHash := hashSha256 signedBytes
  bailIf (rawHash ≠ graph.transaction.rawHash) "persisted signed Dogecoin raw hash mismatch"
  let internalTxid := doubleSha256 signedBytes
  bailIf (graph.transaction.txid ≠ some internalTxid) "persisted signed Dogecoin txid mismatch"
  let displayTxid := hexEncode internalTxid.reverse.toList
  onlyIf args.broadcastEnabled
    (markBatchBroadcast args batch graph.reservation.reservationId signedBytes rawHash internalTxid
      displayTxid)
  writeEvidence args.evidencePath
    (resumedEvidence args batch payload signedBytes displayTxid graph.reservation.reservationId)

variable [Base58Check] [BlockHashText] [TxoConstants]

/-- Some record of a broadcast batch is not in the Broadcast state. -/
def BroadcastDrifted (graph : PersistedWithdrawalGraph) (internalTxid : FixedBytes 32) : Prop :=
  graph.process.status ≠ .broadcast ∨ graph.transaction.status ≠ .broadcast ∨
    graph.reservation.status ≠ .broadcast ∨ graph.reservation.spendTxid ≠ some internalTxid

instance (graph : PersistedWithdrawalGraph) (internalTxid : FixedBytes 32) :
    Decidable (BroadcastDrifted graph internalTxid) := inferInstanceAs (Decidable (_ ∨ _))

def confirmedTransaction (transaction : DogecoinTransaction) (confirmed : ConfirmedWithdrawal) :
    DogecoinTransaction :=
  { transaction with
    status := .confirmed
    blockHash := some confirmed.blockHash
    blockHeight := some confirmed.blockHeight
    confirmations := confirmed.confirmations }

def resumeBroadcastBatch (args : Args) (batch : SnapshotBatch) (payload : Utx0UnlockPayload) :
    Flow Unit := do
  let graph ← loadPersistedWithdrawalGraph batch
  let signedBytes ← orBail graph.transaction.rawTransaction
    "broadcast Dogecoin transaction has no persisted raw bytes"
  let internalTxid ← orBail graph.transaction.txid "broadcast Dogecoin transaction has no txid"
  bailIf (hashSha256 signedBytes ≠ graph.transaction.rawHash ∨
      doubleSha256 signedBytes ≠ internalTxid)
    "persisted broadcast Dogecoin transaction identity mismatch"
  bailIf (BroadcastDrifted graph internalTxid)
    "persisted Broadcast graph has incomplete or drifted statuses"
  checkRequests batch .broadcast "broadcast"
  let displayTxid := hexEncode internalTxid.reverse.toList
  let confirmed ← found (fetchConfirmedWithdrawal args.electrsUrl displayTxid)
    s!"broadcast Dogecoin transaction {displayTxid} is not yet confirmed"
  let change ← deriveConfirmedChange args.dogeNetwork batch graph payload.outputs.length confirmed
  store (.finalizeConfirmedSnapshot batch.solanaSignature
    (confirmedTransaction graph.transaction confirmed) change)

/-- A batch in the Signed state: the broadcast transition is finished if it has started. -/
def continueSigned (args : Args) (batch : SnapshotBatch) (payload : Utx0UnlockPayload) :
    Flow Unit := do
  let graph ← loadPersistedWithdrawalGraph batch
  if broadcastTransitionStarted graph then
    completeBroadcastTransition batch graph
    let broadcastBatch ← found (store (.snapshotBatchBySignature batch.solanaSignature))
      "broadcast snapshot batch disappeared"
    resumeBroadcastBatch args broadcastBatch payload
  else
    let graph ← loadCompleteSignedGraph batch
    resumeSignedBatch args batch payload graph

variable [Secp256k1]

structure SignedSnapshot where
  prepared : PreparedTransaction
  signatures : ManagerSignatures
  signedVaa : ByteString
  transaction : UnsignedTransaction

/-- Wait for a complete response, or take the one there is. -/
def managerResponse (args : Args) (managerUrl : String) (bridgeState : Pubkey) (sequence : UInt64) :
    Flow ManagerSignatures :=
  if args.managerSigningEnabled then
    waitForManagerSignatures managerUrl bridgeState sequence args.pollIntervalMs.toNat
      (args.signingTimeoutSecs.toNat * 1000)
  else fetchManagerSignatures managerUrl solanaEmitterChain bridgeState sequence

/-- Collect the signatures and put them into the prepared transaction. -/
def obtainSignatures (args : Args) (bridgeState : Pubkey) (batch : SnapshotBatch)
    (payload : Utx0UnlockPayload) (managerSet : ManagerSet) (prepared : PreparedTransaction) :
    Flow SignedSnapshot := do
  let managerUrl ← managerServiceUrl args
  onlyIf args.managerSigningEnabled
    (registerUnsignedTransaction managerUrl bridgeState batch.wormholeSequence batch.payload prepared)
  let signatures ← managerResponse args managerUrl bridgeState batch.wormholeSequence
  let signedVaa ← fetchSignedVaa managerUrl solanaEmitterChain bridgeState batch.wormholeSequence
  assertVaaAndManager signedVaa signatures bridgeState batch.wormholeSequence payload managerSet
  let (verdict, transaction) := applyManagerSignatures prepared.transaction signatures managerSet
  verdict
  return { prepared, signatures, signedVaa, transaction }

def signedTransactionRecord (signedBytes : ByteString) : DogecoinTransaction where
  rawHash := hashSha256 signedBytes
  txid := some (doubleSha256 signedBytes)
  rawTransaction := some signedBytes
  status := .signed
  blockHash := none
  blockHeight := none
  confirmations := 0

def signedProcessRecord (batch : SnapshotBatch) (payload : Utx0UnlockPayload) (changeSats : UInt64)
    (rawHash : FixedBytes 32) : ProcessWithdrawal where
  solanaSignature := batch.solanaSignature
  solanaSlot := batch.solanaSlot
  blockTime := batch.blockTime
  requestStartIndex := batch.requestStartIndex
  requestEndIndex := batch.requestEndIndex
  snapshotRoot := batch.snapshotRoot
  dogecoinRawHash := rawHash
  returnOutputIndex := UInt64.ofNat payload.outputs.length
  returnOutputAmountSats := changeSats
  oldSpentTxoRoot := List.Vector.replicate 32 0
  newSpentTxoRoot := List.Vector.replicate 32 0
  status := .signed

def signedEvidence (args : Args) (batch : SnapshotBatch) (payload : Utx0UnlockPayload)
    (managerUrl displayTxid : String) (signed : SignedSnapshot) : Evidence where
  schema := evidenceSchema
  completed := args.broadcastEnabled
  snapshot := snapshotEvidence batch []
  withdrawal := .object [("outputCount", .integer payload.outputs.length),
    ("outputs", .array (payload.outputs.map outputEvidence))]
  manager := .object [("serviceUrl", .string managerUrl),
    ("vaaHashHex", hexValue signed.signatures.vaaHash.toList),
    ("signedVaaSha256Hex", hexValue (hashSha256 signed.signedVaa).toList),
    ("required", ofU32 signed.signatures.required), ("total", ofU32 signed.signatures.total),
    ("signerIndices", .array (signed.signatures.signatures.map fun signer =>
      .integer signer.signerIndex.toNat))]
  dogecoin := .object [("unsignedTransactionHex", hexValue signed.prepared.unsignedBytes),
    ("signedTransactionHex", hexValue signed.transaction.serialize),
    ("txid", .string displayTxid), ("broadcast", .bool args.broadcastEnabled)]
  custody := .object [("reservationId", .string signed.prepared.reservationId),
    ("selectedSats", ofU64 signed.prepared.selectedSats), ("minerFeeSats", ofU64 args.feeSats),
    ("changeSats", ofU64 signed.prepared.plan.changeSats),
    ("changeScriptHashHex", signed.prepared.changeScriptHash.elim .null fun hash =>
      hexValue hash.toList),
    ("inputs", .array (signed.prepared.selectedUtxos.map inputEvidence))]

/-- Persist the signed transaction before anything is posted. -/
def persistAndBroadcast (args : Args) (batch : SnapshotBatch) (payload : Utx0UnlockPayload)
    (signed : SignedSnapshot) : Flow Unit := do
  let signedBytes := signed.transaction.serialize
  let rawHash := hashSha256 signedBytes
  let internalTxid := doubleSha256 signedBytes
  let displayTxid := hexEncode signed.transaction.txid.toList
  store (.persistSignedSnapshot batch.solanaSignature signed.prepared.reservationId
    (signedTransactionRecord signedBytes)
    (signedProcessRecord batch payload signed.prepared.plan.changeSats rawHash))
  onlyIf args.broadcastEnabled
    (markBatchBroadcast args batch signed.prepared.reservationId signedBytes rawHash internalTxid
      displayTxid)
  let managerUrl ← managerServiceUrl args
  writeEvidence args.evidencePath (signedEvidence args batch payload managerUrl displayTxid signed)

/-- A batch that is not signed yet. -/
def signSnapshotBatch (args : Args) (bridgeState : Pubkey) (batch : SnapshotBatch)
    (payload : Utx0UnlockPayload) : Flow Unit := do
  let managerSet ← managerSetForIndex payload.delegatedManagerSetIndex
  let reservationId ← orBail batch.reservationId "snapshot batch has no custody reservation"
  let reservation ← found (store (.loadReservation reservationId))
    s!"snapshot custody reservation {reservationId} is missing"
  let persistedUnsigned ← orBail batch.unsignedTransaction
    "snapshot batch has no unsigned Dogecoin transaction"
  let prepared ← preparedFromReservation args bridgeState payload managerSet reservation
    (some persistedUnsigned)
  let signed ← obtainSignatures args bridgeState batch payload managerSet prepared
  persistAndBroadcast args batch payload signed

def continueSnapshotBatch (args : Args) (bridgeState : Pubkey) (batch : SnapshotBatch) :
    Flow Unit := do
  let payload ← Utx0UnlockPayload.parse batch.payload
  bailIf (payload.destinationChain ≠ dogecoinChainId ∨
      payload.delegatedManagerSetIndex ≠ args.managerSetIndex ∨
      hashSha256 batch.payload ≠ batch.payloadHash)
    "persisted snapshot payload identity mismatch"
  match batch.status with
  | .broadcast => resumeBroadcastBatch args batch payload
  | .signed => continueSigned args batch payload
  | _ => signSnapshotBatch args bridgeState batch payload

/-- The payload of the batch, when it is one the arguments allow. -/
structure PayloadIdentity (args : Args) (batch : SnapshotBatch) (payload : Utx0UnlockPayload) :
    Prop where
  parsed : Utx0UnlockPayload.parse batch.payload = .ok payload
  identity : ¬ (payload.destinationChain ≠ dogecoinChainId ∨
    payload.delegatedManagerSetIndex ≠ args.managerSetIndex ∨
    hashSha256 batch.payload ≠ batch.payloadHash)

theorem continueSnapshotBatch_of_identity {args : Args} {bridgeState : Pubkey}
    {batch : SnapshotBatch} {payload : Utx0UnlockPayload} (h : PayloadIdentity args batch payload) :
    continueSnapshotBatch args bridgeState batch =
      match batch.status with
      | .broadcast => resumeBroadcastBatch args batch payload
      | .signed => continueSigned args batch payload
      | _ => signSnapshotBatch args bridgeState batch payload := by
  simp only [continueSnapshotBatch, Program.bind_eq, Program.liftM_eq, h.parsed,
    Program.done_ok_bind, bailIf_of_not h.identity]

def resumeSnapshotBatch [SolanaSdk] (args : Args) (bridgeState : Pubkey) (batch : SnapshotBatch) :
    Flow Unit := do
  if batch.status = .observed then
    match ← resumeObserved args bridgeState batch with
    | some batch => continueSnapshotBatch args bridgeState batch
    | none => return ()
  else continueSnapshotBatch args bridgeState batch

end

end DogeOperator.Resume

namespace DogeOperator.Localnet
open Bytes Outcome Records Operations Solana Resume

/-- A batch that carries the transaction under its own signature. -/
structure CarriesLocal (batch : SnapshotBatch) : Prop where
  bytes : batch.solanaTransaction = some (transactionBytes localTransaction)
  key : batch.solanaSignature = SolanaSdk.signatureToString localSignature

theorem decodeObserved_local {batch : SnapshotBatch} (h : CarriesLocal batch) :
    decodeObserved batch = .ok (localTransaction, localSignature) := by
  have hread : SolanaSdk.deserializeTransaction (transactionBytes localTransaction) =
      .ok localTransaction := if_pos rfl
  have hwritten : SolanaSdk.serializeTransaction localTransaction =
      .ok (transactionBytes localTransaction) := rfl
  have hsigned : localTransaction.signatures.head? = some localSignature := rfl
  simp [decodeObserved, h.bytes, hread, hwritten, hsigned, h.key, orFail, Except.mapError]

end DogeOperator.Localnet
