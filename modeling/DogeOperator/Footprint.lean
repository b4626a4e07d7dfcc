import DogeOperator.Withdraw

/-! Which operations each part of a withdraw run may call. Most parts only look records up and ask
the outside; the few that change a batch or post a transaction are met one by one later. -/
namespace DogeOperator.Footprint
open Bytes Crypto Utx0 Network Manager Prepare Records Confirm Batches Store Operations Solana
  Electrs DogeOperator.Graph Signing Resume Withdraw Program

/-- The store is at most read, and no raw transaction is posted. -/
def Quiet : Op → Prop
  | .store op => op.IsRead
  | .http (.postTransaction _ _ _) => False
  | _ => True

/-- Quiet, or a change to reservations, requests or process records only. -/
def Preliminary : Op → Prop
  | .store (.releaseReservation _) => True
  | .store (.upsertWithdrawalRequest _) => True
  | .store (.setWithdrawalRequestStatus _ _) => True
  | .store (.markReservationBroadcast _ _) => True
  | .store (.setProcessWithdrawalStatus _ _) => True
  | op => Quiet op

theorem quiet_preliminary (op : Op) (h : Quiet op) : Preliminary op := by
  cases op with
  | store op => cases op <;> first | exact h | trivial
  | rpc op => trivial
  | http op => exact h
  | system op => trivial

/-- Such a change leaves batches and transactions alone. -/
theorem effect_preliminary {v v' : StoreView} {op : StoreOp} {answer : op.Answer}
    (h : Preliminary (.store op)) (heffect : Effect v op answer v') :
    v'.batch = v.batch ∧ v'.transaction = v.transaction := by
  by_cases hread : op.IsRead
  · cases effect_read hread heffect
    exact ⟨rfl, rfl⟩
  cases op with
  | releaseReservation =>
    rcases heffect with ⟨released, -, rfl⟩
    exact ⟨rfl, rfl⟩
  | upsertWithdrawalRequest =>
    cases heffect
    exact ⟨rfl, rfl⟩
  | setWithdrawalRequestStatus =>
    cases heffect
    exact ⟨rfl, rfl⟩
  | setProcessWithdrawalStatus =>
    cases heffect
    exact ⟨rfl, rfl⟩
  | markReservationBroadcast =>
    cases heffect
    exact ⟨rfl, rfl⟩
  | _ => exact absurd h hread

section Electrs

theorem electrsGetHeight_quiet (electrsUrl : String) : (electrsGetHeight electrsUrl).Calls Quiet := by
  simp [electrsGetHeight, http, invoke, calls_bind, Quiet]

theorem electrsGetJson_quiet {α : Type} (decode : Json.Value → Json.Decoded α) (url : String) :
    (electrsGetJson decode url).Calls Quiet := by
  simp [electrsGetJson, http, invoke, calls_bind, Quiet]

theorem electrsHasTransaction_quiet (electrsUrl displayTxid : String) :
    (electrsHasTransaction electrsUrl displayTxid).Calls Quiet := by
  simp [electrsHasTransaction, http, invoke, calls_bind, Quiet]

theorem fetchConfirmedWithdrawal_quiet [BlockHashText] (electrsUrl displayTxid : String) :
    (fetchConfirmedWithdrawal electrsUrl displayTxid).Calls Quiet := by
  simp [fetchConfirmedWithdrawal, calls_bind, electrsGetJson_quiet, electrsGetHeight_quiet]

end Electrs

section Graph

theorem loadPersistedWithdrawalGraph_quiet (batch : SnapshotBatch) :
    (loadPersistedWithdrawalGraph batch).Calls Quiet := by
  simp [loadPersistedWithdrawalGraph, found, store, invoke, calls_bind, Quiet, StoreOp.IsRead]

theorem checkRequests_quiet (batch : SnapshotBatch) (status : OperatorStatus) (label : String) :
    (checkRequests batch status label).Calls Quiet :=
  Calls.forEach (fun _ => by simp [found, store, invoke, calls_bind, Quiet, StoreOp.IsRead]) _

theorem loadCompleteSignedGraph_quiet (batch : SnapshotBatch) :
    (loadCompleteSignedGraph batch).Calls Quiet := by
  simp [loadCompleteSignedGraph, calls_bind, loadPersistedWithdrawalGraph_quiet, checkRequests_quiet]

theorem setRequestStatuses_preliminary (batch : SnapshotBatch) (status : OperatorStatus) :
    (setRequestStatuses batch status).Calls Preliminary :=
  Calls.forEach (fun _ => by simp [store, invoke, Preliminary]) _

theorem completeReservation_preliminary (reservation : CustodyReservation)
    (internalTxid : FixedBytes 32) :
    (completeReservation reservation internalTxid).Calls Preliminary := by
  unfold completeReservation
  split <;> simp [store, invoke, Preliminary]

end Graph

section Signing

theorem fetchManagerSignatures_quiet (baseUrl : String) (chain : UInt16) (emitter : Pubkey)
    (sequence : UInt64) : (fetchManagerSignatures baseUrl chain emitter sequence).Calls Quiet := by
  simp [fetchManagerSignatures, http, invoke, calls_bind, Quiet]

theorem fetchSignedVaa_quiet (baseUrl : String) (chain : UInt16) (emitter : Pubkey)
    (sequence : UInt64) : (fetchSignedVaa baseUrl chain emitter sequence).Calls Quiet := by
  simp [fetchSignedVaa, http, invoke, calls_bind, Quiet]

theorem registerUnsignedTransaction_quiet (managerUrl : String) (emitter : Pubkey)
    (sequence : UInt64) (payload : ByteString) (prepared : PreparedTransaction) :
    (registerUnsignedTransaction managerUrl emitter sequence payload prepared).Calls Quiet := by
  simp [registerUnsignedTransaction, http, invoke, calls_bind, Quiet]

theorem pollManagerSignatures_quiet (managerUrl : String) (emitter : Pubkey) (sequence : UInt64)
    (attempts : ℕ) : (pollManagerSignatures managerUrl emitter sequence attempts).Calls Quiet := by
  induction attempts with
  | zero =>
    apply Calls.bind (calls_attempt.mpr (fetchManagerSignatures_quiet _ _ _ _))
    intro response
    cases response <;> simp
  | succ attempts ih =>
    apply Calls.bind (calls_attempt.mpr (fetchManagerSignatures_quiet _ _ _ _))
    intro response
    cases response <;> simp [ih]

theorem waitForManagerSignatures_quiet (managerUrl : String) (emitter : Pubkey) (sequence : UInt64)
    (intervalMs timeoutMs : ℕ) :
    (waitForManagerSignatures managerUrl emitter sequence intervalMs timeoutMs).Calls Quiet := by
  simp [waitForManagerSignatures, system, invoke, calls_bind, pollManagerSignatures_quiet, Quiet]

theorem writeEvidence_quiet (path : String) (evidence : Evidence) :
    (writeEvidence path evidence).Calls Quiet := by
  simp [writeEvidence, system, invoke, calls_bind, Quiet]

end Signing

section Solana
variable [SolanaSdk]

theorem readBridgeState_quiet (bridgeState owner : Pubkey) :
    (readBridgeState bridgeState owner).Calls Quiet := by
  simp [readBridgeState, rpc, invoke, calls_bind, Quiet]

omit [SolanaSdk] in
theorem loadIndexedRequests_quiet (args : Args) (bridgeState : Pubkey) :
    (loadIndexedRequests args bridgeState).Calls Quiet := by
  simp [loadIndexedRequests, rpc, invoke, calls_bind, Quiet]

theorem sendSolanaTransactionWithSigners_quiet (payer : Keypair)
    (instructions : List SolanaSdk.Instruction) (extraSigners : List Keypair) :
    (sendSolanaTransactionWithSigners payer instructions extraSigners).Calls Quiet :=
  Calls.bind (by simp [rpc, invoke, Quiet]) fun _ => by simp [rpc, invoke, Quiet]

theorem writeChunks_quiet (payer writer : Keypair) (programId account : Pubkey) (index : ℕ)
    (chunks : List ByteString) :
    (writeChunks payer writer programId account index chunks).Calls Quiet := by
  induction chunks generalizing index with
  | nil => trivial
  | cons chunk chunks ih =>
    simp [writeChunks, calls_bind, sendSolanaTransactionWithSigners_quiet, ih]

theorem createGenericBuffer_quiet (payer writer : Keypair) (programId : Pubkey) (data : ByteString) :
    (createGenericBuffer payer writer programId data).Calls Quiet := by
  simp [createGenericBuffer, rpc, system, invoke, calls_bind,
    sendSolanaTransactionWithSigners_quiet, writeChunks_quiet, Quiet]

omit [SolanaSdk] in
theorem verifyGenericBuffer_quiet (address owner writer : Pubkey) (payload : ByteString) :
    (verifyGenericBuffer address owner writer payload).Calls Quiet := by
  simp [verifyGenericBuffer, rpc, invoke, calls_bind, Quiet]

theorem ensureFeeCollectorFunding_quiet (payer : Keypair) (feeCollector : Pubkey) :
    (ensureFeeCollectorFunding payer feeCollector).Calls Quiet := by
  simp [ensureFeeCollectorFunding, sendSolanaTransaction, rpc, invoke, calls_bind,
    sendSolanaTransactionWithSigners_quiet, Quiet]

theorem ensureOperatorFeeFunding_quiet (payer operator : Keypair) :
    (ensureOperatorFeeFunding payer operator).Calls Quiet := by
  simp [ensureOperatorFeeFunding, sendSolanaTransaction, rpc, invoke, calls_bind,
    sendSolanaTransactionWithSigners_quiet, Quiet]

theorem readWormholeSequence_quiet (emitter wormholeCoreProgram : Pubkey) :
    (readWormholeSequence emitter wormholeCoreProgram).Calls Quiet := by
  apply Calls.bind (by simp [rpc, invoke, Quiet])
  intro answer
  cases answer <;> simp [calls_bind]

theorem pollTransactionMeta_quiet (signature : SolanaSignature) (attempts : ℕ) :
    (pollTransactionMeta signature attempts).Calls Quiet := by
  induction attempts with
  | zero =>
    apply Calls.bind (by simp [rpc, invoke, Quiet])
    intro answer
    cases answer <;> simp
  | succ attempts ih =>
    apply Calls.bind (by simp [rpc, invoke, Quiet])
    intro answer
    cases answer <;> simp [ih]

theorem waitForTransactionMeta_quiet (signature : SolanaSignature) (timeoutMs : ℕ) :
    (waitForTransactionMeta signature timeoutMs).Calls Quiet := by
  simp [waitForTransactionMeta, system, invoke, calls_bind, pollTransactionMeta_quiet, Quiet]

theorem searchShimHistory_quiet (config : NoopShimMonitorConfig) (signature : SolanaSignature)
    (pages : ℕ) (before : Option SolanaSignature) :
    (searchShimHistory config signature pages before).Calls Quiet := by
  induction pages generalizing before with
  | zero => trivial
  | succ pages ih =>
    apply Calls.bind (by simp [rpc, invoke, Quiet])
    intro page
    split
    · trivial
    · simp [ih]

theorem checkWormholeMessage_quiet (args : Args) (bridgeState : Pubkey) (batch : SnapshotBatch) :
    (checkWormholeMessage args bridgeState batch).Calls Quiet := by
  simp [checkWormholeMessage, findNoopMessage, found, calls_bind, searchShimHistory_quiet,
    readWormholeSequence_quiet]

theorem observe_quiet (args : Args) (bridgeState : Pubkey) (transaction : SolanaTransaction)
    (signature : SolanaSignature) : (observe args bridgeState transaction signature).Calls Quiet := by
  simp [observe, readBlockhashValid, rpc, invoke, calls_bind, readBridgeState_quiet, Quiet]

omit [SolanaSdk] in
theorem releaseReserved_preliminary (batch : SnapshotBatch) :
    (releaseReserved batch).Calls Preliminary := by
  unfold releaseReserved
  split
  · trivial
  · apply Calls.bind (by simp [store, invoke, Preliminary, Quiet, StoreOp.IsRead])
    intro reservation
    cases reservation <;> simp [store, invoke, Preliminary]

omit [SolanaSdk] in
theorem readKeypair_quiet (path role : String) : (readKeypair path role).Calls Quiet := by
  simp [readKeypair, system, invoke, Quiet]

theorem postGenericBuffer_quiet (args : Args) (payer operator : Keypair) (data : ByteString) :
    (postGenericBuffer args payer operator data).Calls Quiet := by
  simp [postGenericBuffer, calls_bind, createGenericBuffer_quiet, verifyGenericBuffer_quiet]

theorem nextWormholeSequence_quiet (args : Args) (bridgeState : Pubkey) (requestStart : UInt64) :
    (nextWormholeSequence args bridgeState requestStart).Calls Quiet := by
  simp [nextWormholeSequence, calls_bind, readWormholeSequence_quiet]

theorem recordRequests_preliminary (requests : List IndexedRequest) :
    (recordRequests requests).Calls Preliminary := by
  refine Calls.forEach (fun request => ?_) _
  refine Calls.bind trivial fun observed => ?_
  apply Calls.bind (by simp [store, invoke, Preliminary, Quiet, StoreOp.IsRead])
  intro existing
  cases existing <;> simp [store, invoke, calls_bind, Preliminary]

variable [Hashes]

theorem buildSnapshotTransaction_quiet (args : Args) (payer operator : Keypair)
    (utx0Buffer proofBuffer managerSetAccount : Pubkey) (sequence : UInt64) (plan : SnapshotPlan) :
    (buildSnapshotTransaction args payer operator utx0Buffer proofBuffer managerSetAccount sequence
      plan).Calls Quiet := by
  simp [buildSnapshotTransaction, rpc, invoke, calls_bind, ensureFeeCollectorFunding_quiet,
    ensureOperatorFeeFunding_quiet, Quiet]

end Solana

theorem managerResponse_quiet (args : Args) (managerUrl : String) (bridgeState : Pubkey)
    (sequence : UInt64) : (managerResponse args managerUrl bridgeState sequence).Calls Quiet := by
  simp [managerResponse, waitForManagerSignatures_quiet, fetchManagerSignatures_quiet]

theorem obtainSignatures_quiet [Hashes] [Secp256k1] (args : Args) (bridgeState : Pubkey)
    (batch : SnapshotBatch) (payload : Utx0UnlockPayload) (managerSet : ManagerSet)
    (prepared : PreparedTransaction) :
    (obtainSignatures args bridgeState batch payload managerSet prepared).Calls Quiet := by
  simp [obtainSignatures, onlyIf, calls_bind, registerUnsignedTransaction_quiet,
    managerResponse_quiet, fetchSignedVaa_quiet]

end DogeOperator.Footprint
