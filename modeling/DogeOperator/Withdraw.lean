import DogeOperator.Resume

/-! One withdraw run: the oldest incomplete batch is resumed, or else a new snapshot batch is
planned, authorized on Solana and carried on. -/
namespace DogeOperator.Withdraw
open Bytes Outcome Crypto Utx0 Network Manager Prepare Records Confirm Batches Operations Solana
  Signing Resume

def readKeypair (path role : String) : Flow Keypair :=
  (system (.readKeypairFile path)).mapError fun error =>
    [s!"read {role} keypair {path}: {error.headD default}"]

section
variable [SolanaSdk] [UrlParser]

def validateNetworkBoundary (args : Args) : Result Unit := do
  args.runtimeNetwork.validateRemoteUrl "Solana RPC" args.solanaRpcUrl
  args.runtimeNetwork.validateRemoteUrl "Electrs" args.electrsUrl
  let managerUrl ← managerServiceUrl args
  args.runtimeNetwork.validateRemoteUrl "Manager service" managerUrl
  args.runtimeNetwork.validateManagerSet args.managerSetIndex
  args.runtimeNetwork.validateWormholePrograms (SolanaSdk.pubkeyToString args.wormholeCoreProgram)
    (SolanaSdk.pubkeyToString args.wormholeShimProgram)

def bridgeStateAddress (dogeBridgeProgram : Pubkey) : Pubkey :=
  SolanaSdk.findProgramAddress [asciiBytes "bridge_state"] dogeBridgeProgram

/-- What a run checks of its arguments before it touches anything. -/
structure AdmissibleArgs (args : Args) : Prop where
  network : validateNetworkBoundary args = .ok ()
  selection : ¬ (args.requestIndex.isSome ∧ args.requestSignature.isSome)
  bridgeState : ¬ args.bridgeState.any (· ≠ bridgeStateAddress args.dogeBridgeProgram)

/-- The record of a request, first observed. -/
def observedRequest (request : IndexedRequest) : Result WithdrawalRequest := do
  let feeSats ← orBail (checkedSub request.record.amountSats request.record.netAmountSats)
    "request net amount exceeds gross amount"
  return {
    requestIndex := request.index
    solanaSignature := SolanaSdk.signatureToString request.record.signature
    solanaSlot := request.record.slot
    blockTime := request.record.blockTime
    userPubkey := SolanaSdk.pubkeyToString request.record.userPubkey
    grossAmountSats := request.record.amountSats
    feeAmountSats := feeSats
    netAmountSats := request.record.netAmountSats
    addressType := request.record.addressType
    recipient := request.record.recipientAddress
    status := .observed }

/-- A stored request must be the reconstructed one, and keeps its status. -/
def recordRequest (request : IndexedRequest) : Flow Unit := do
  let observed ← observedRequest request
  match ← store (.withdrawalRequestByIndex request.index) with
  | none => store (.upsertWithdrawalRequest observed)
  | some existing => do
    bailIf ({ existing with status := .observed } ≠ observed)
      s!"persisted withdrawal request {request.index} differs from reconstructed history"
    store (.upsertWithdrawalRequest { observed with status := existing.status })

def recordRequests (requests : List IndexedRequest) : Flow Unit :=
  Program.forEach recordRequest requests

def withdrawalLeaf (request : IndexedRequest) : PsyWithdrawalRequest where
  recipientAddress := request.record.recipientAddress
  amountSats := request.record.netAmountSats
  addressType := request.record.addressType

/-- A new batch before anything is written. -/
structure SnapshotPlan where
  requestStart : UInt64
  requestEnd : UInt64
  requests : List IndexedRequest
  proofBytes : ByteString
  requestedTreeRoot : FixedBytes 32
  snapshotRoot : FixedBytes 32
  payload : Utx0UnlockPayload
  payloadBytes : ByteString

def planSnapshot (args : Args) (history : List IndexedRequest) (state : BridgeProgramState) :
    Result SnapshotPlan := do
  let requestStart := state.withdrawalSnapshot.nextRequestedWithdrawalsTreeIndex
  let requestedTip := state.requestedWithdrawalsTree.nextIndex
  let requestEnd := cappedBatchEnd requestStart requestedTip
  checkNewBatch history requestStart requestedTip args.requestIndex args.requestSignature
  let proofBytes ← orBail
    (SolanaSdk.fromTreeLeaves (history.map withdrawalLeaf) requestStart requestEnd)
    "build withdrawal snapshot range proof"
  let requestedTreeRoot ← orBail (SolanaSdk.computeRoot requestStart requestEnd proofBytes)
    "reconstruct requested-withdrawals tip root"
  if requestedTreeRoot ≠ state.requestedWithdrawalsTree.root then
    bail "reconstructed withdrawal history root differs from on-chain requested tree"
  let snapshotRoot ← orBail (SolanaSdk.computePrefixRoot requestStart requestEnd proofBytes)
    "reconstruct withdrawal snapshot prefix root"
  let requests ← historyRange history requestStart requestEnd
  let payload ← payloadForRequests requests args.managerSetIndex
  let payloadBytes ← payload.serialize
  return { requestStart, requestEnd, requests, proofBytes, requestedTreeRoot, snapshotRoot,
           payload, payloadBytes }

/-- A generic buffer with the data, written and read back. -/
def postGenericBuffer (args : Args) (payer operator : Keypair) (data : ByteString) : Flow Pubkey := do
  let buffer ← createGenericBuffer payer operator args.genericBufferProgram data
  verifyGenericBuffer buffer args.genericBufferProgram operator.pubkey data
  return buffer

/-- The sequence number the snapshot's Wormhole message will have. -/
def nextWormholeSequence (args : Args) (bridgeState : Pubkey) (requestStart : UInt64) :
    Flow UInt64 :=
  if usesNoopShim args then return requestStart
  else do
    let sequence ← readWormholeSequence bridgeState args.wormholeCoreProgram
    return sequence.getD 0

variable [Hashes]

/-- Fund the fee accounts, and sign the snapshot instruction with a recent blockhash. -/
def buildSnapshotTransaction (args : Args) (payer operator : Keypair)
    (utx0Buffer proofBuffer managerSetAccount : Pubkey) (sequence : UInt64) (plan : SnapshotPlan) :
    Flow SolanaTransaction := do
  let snapshotInstruction := SolanaSdk.snapshotWithdrawals
    { dogeBridgeProgram := args.dogeBridgeProgram
      operator := operator.pubkey
      utx0Buffer
      proofBuffer
      managerSetAccount
      wormholeShimProgram := args.wormholeShimProgram
      wormholeCoreProgram := args.wormholeCoreProgram }
    { expectedRequestStart := plan.requestStart
      expectedRequestEnd := plan.requestEnd
      managerSetIndex := args.managerSetIndex
      expectedWormholeSequence := sequence
      expectedRequestedTreeRoot := plan.requestedTreeRoot
      expectedSnapshotRoot := plan.snapshotRoot
      expectedPayloadHash := hashSha256 plan.payloadBytes }
  let feeCollector := SolanaSdk.findProgramAddress [asciiBytes "fee_collector"]
    args.wormholeCoreProgram
  ensureFeeCollectorFunding payer feeCollector
  ensureOperatorFeeFunding payer operator
  let feePrepay := SolanaSdk.transfer operator.pubkey feeCollector wormholeFeePrepayLamports
  let blockhash ← rpc .getLatestBlockhash
  return signedSolanaTransaction payer
    [SolanaSdk.requestHeapFrame (256 * 1024), SolanaSdk.setComputeUnitLimit snapshotComputeUnits,
      feePrepay, snapshotInstruction] [operator] blockhash

variable [Base58Check]

/-- The observed batch that a reservation allows; a preparation error is the store's refusal. -/
def observedBatch (args : Args) (bridgeState : Pubkey) (managerSet : ManagerSet)
    (sequence : UInt64) (plan : SnapshotPlan) (reservationId solanaSignature : String)
    (solanaTransaction : ByteString) (reservation : CustodyReservation) : Result SnapshotBatch := do
  let prepared ← (preparedFromReservation args bridgeState plan.payload managerSet reservation
    none).mapError fun error => [error.headD default]
  return {
    solanaSignature
    solanaSlot := 0
    blockTime := none
    requestStartIndex := plan.requestStart
    requestEndIndex := plan.requestEnd
    snapshotRoot := plan.snapshotRoot
    payload := plan.payloadBytes
    payloadHash := hashSha256 plan.payloadBytes
    wormholeSequence := sequence
    solanaTransaction := some solanaTransaction
    unsignedTransaction := some prepared.unsignedBytes
    reservationId := some reservationId
    status := .observed }

/-- Custody is reserved and the batch persisted in one store call, before the chain sees it. -/
def reserveSnapshot (args : Args) (bridgeState : Pubkey) (payer operator : Keypair)
    (plan : SnapshotPlan) : Flow SnapshotBatch := do
  let utx0Buffer ← postGenericBuffer args payer operator plan.payloadBytes
  let proofBuffer ← postGenericBuffer args payer operator plan.proofBytes
  let sequence ← nextWormholeSequence args bridgeState plan.requestStart
  let managerSet ← managerSetForIndex args.managerSetIndex
  let unique ← system .newUniqueSignature
  let reservationId :=
    s!"withdrawal-snapshot-{plan.requestStart}-{plan.requestEnd}-{SolanaSdk.signatureToString unique}"
  let withdrawalSats ← sumAmounts plan.payload.outputs
  let requiredSats ← orBail (checkedAdd withdrawalSats args.feeSats)
    "required custody amount overflow"
  let managerSetAccount ← managerSetPda args.managerSetIndex
  let transaction ← buildSnapshotTransaction args payer operator utx0Buffer proofBuffer
    managerSetAccount sequence plan
  let signature ← orBail transaction.signatures.head?
    "signed snapshot transaction has no signature"
  let transactionBytes ← orFail (SolanaSdk.serializeTransaction transaction)
  let (reservation, batch) ← withContext "atomically reserve custody and persist observed snapshot"
    (store (.reserveCustodyForSnapshot reservationId requiredSats
      (observedBatch args bridgeState managerSet sequence plan reservationId
        (SolanaSdk.signatureToString signature) transactionBytes)))
  bailIf (batch.reservationId ≠ some reservation.reservationId)
    "atomic observed persistence returned a mismatched reservation"
  let returned ← withContext "submit persisted snapshot_withdrawals transaction"
    (rpc (.sendTransaction transaction))
  bailIf (returned ≠ signature)
    s!"Solana RPC returned snapshot signature {SolanaSdk.signatureToString returned}, expected {SolanaSdk.signatureToString signature}"
  return batch

variable [Secp256k1] [BlockHashText] [TxoConstants]

def startSnapshotBatch (args : Args) (bridgeState : Pubkey) (payer operator : Keypair) :
    Flow Unit := do
  let history ← loadIndexedRequests args bridgeState
  let stateBefore ← readBridgeState bridgeState args.dogeBridgeProgram
  let plan ← planSnapshot args history stateBefore
  recordRequests plan.requests
  let batch ← reserveSnapshot args bridgeState payer operator plan
  let confirmed ← confirmSnapshotBatch args bridgeState batch
  continueSnapshotBatch args bridgeState confirmed

def runWithStore (args : Args) : Flow Unit := do
  validateNetworkBoundary args
  bailIf (args.requestIndex.isSome ∧ args.requestSignature.isSome)
    "provide at most one of --request-index or --request-signature"
  let bridgeState := bridgeStateAddress args.dogeBridgeProgram
  bailIf (args.bridgeState.any (· ≠ bridgeState))
    s!"--bridge-state mismatch: expected {SolanaSdk.pubkeyToString bridgeState}, got {SolanaSdk.pubkeyToString (args.bridgeState.getD bridgeState)}"
  let operator ← readKeypair args.operatorKeypair "operator"
  let payer ← readKeypair args.payerKeypair "payer"
  let incomplete ← store .oldestIncompleteSnapshotBatch
  bailIf (args.resume ∧ incomplete.isNone)
    "--resume requested but the operator store has no incomplete snapshot batch"
  match incomplete with
  | some batch => resumeSnapshotBatch args bridgeState batch
  | none => startSnapshotBatch args bridgeState payer operator

/-- A run that finds an incomplete batch resumes it. -/
theorem runWithStore_resumes {σ : Type} {handler : Program.Handler Op.Answer ErrorChain σ} {w : σ}
    {args : Args} {keypair : Keypair} {batch : SnapshotBatch} (hargs : AdmissibleArgs args)
    (hkeypair : ∀ path, handler (.system (.readKeypairFile path)) w = (.ok keypair, w))
    (holdest : handler (.store .oldestIncompleteSnapshotBatch) w = (.ok (some batch), w)) :
    (runWithStore args).runWith handler w =
      (resumeSnapshotBatch args (bridgeStateAddress args.dogeBridgeProgram) batch).runWith handler
        w := by
  have hincomplete : ¬ (args.resume ∧ (some batch).isNone) := fun h => nomatch h.2
  have hread : ∀ path role, (readKeypair path role).runWith handler w = (.ok keypair, w) := by
    intro path role
    simp [readKeypair, system, Program.invoke, hkeypair, Except.mapError]
  have hfound : (store .oldestIncompleteSnapshotBatch).runWith handler w = (.ok (some batch), w) :=
    holdest
  simp only [runWithStore, Program.bind_eq, Program.liftM_eq, hargs.network, Program.done_ok_bind,
    bailIf_of_not hargs.selection, bailIf_of_not hargs.bridgeState, Program.runWith_bind, hread,
    hfound, bailIf_of_not hincomplete]

end

end DogeOperator.Withdraw

namespace DogeOperator.Localnet
open Network Prepare Withdraw Digests

/-- On the local network no endpoint is parsed. -/
scoped instance : UrlParser where
  parse _ := .error "relative URL without a base"
  ipv6FromStr _ := none

theorem localArgs_admissible : AdmissibleArgs localArgs where
  network := rfl
  selection := fun h => nomatch h.1
  bridgeState := fun h => nomatch h

end DogeOperator.Localnet
