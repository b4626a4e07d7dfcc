import DogeOperator.Electrs

/-! The persisted withdrawal graph of a signed batch: loading it with its links checked, and its
transition to the broadcast state, one record after another. -/
namespace DogeOperator.Graph
open Bytes Outcome Records Prepare Confirm Operations Electrs

/-- The process record describes another batch. -/
def ProcessDrifted (batch : SnapshotBatch) (process : ProcessWithdrawal) : Prop :=
  process.solanaSignature ≠ batch.solanaSignature ∨
    process.requestStartIndex ≠ batch.requestStartIndex ∨
    process.requestEndIndex ≠ batch.requestEndIndex ∨ process.snapshotRoot ≠ batch.snapshotRoot

/-- Not one mapping per request, in order, to the transaction. -/
def MappingsDrifted (batch : SnapshotBatch) (internalTxid : FixedBytes 32) (count : UInt64)
    (mappings : List RequestMapping) : Prop :=
  mappings.length ≠ count.toNat ∨
    ∃ entry ∈ mappings.zipIdx,
      entry.1.requestIndex ≠ batch.requestStartIndex + UInt64.ofNat entry.2 ∨
      entry.1.processSolanaSignature ≠ batch.solanaSignature ∨ entry.1.dogecoinTxid ≠ internalTxid

/-- The reservation or one of its UTXOs is not linked to the batch. -/
def CustodyDrifted (batch : SnapshotBatch) (reservationId : String)
    (reservation : CustodyReservation) : Prop :=
  reservation.utxos = [] ∨ reservation.requestIndex ≠ some batch.requestStartIndex ∨
    reservation.processSolanaSignature ≠ some batch.solanaSignature ∨
    ∃ utxo ∈ reservation.utxos,
      utxo.reservationId ≠ some reservationId ∨
      utxo.spendRequestIndex ≠ some batch.requestStartIndex ∨
      utxo.spendProcessSignature ≠ some batch.solanaSignature

/-- Some record of the graph has left the Signed state. -/
def SignedDrifted (graph : PersistedWithdrawalGraph) : Prop :=
  graph.transaction.status ≠ .signed ∨ graph.process.status ≠ .signed ∨
    graph.reservation.status ≠ .reserved ∨ graph.reservation.spendTxid ≠ none ∨
    ∃ utxo ∈ graph.reservation.utxos, utxo.status ≠ .reserved ∨ utxo.spendTxid ≠ none

instance (batch : SnapshotBatch) (process : ProcessWithdrawal) :
    Decidable (ProcessDrifted batch process) := inferInstanceAs (Decidable (_ ∨ _))

instance (batch : SnapshotBatch) (internalTxid : FixedBytes 32) (count : UInt64)
    (mappings : List RequestMapping) :
    Decidable (MappingsDrifted batch internalTxid count mappings) :=
  inferInstanceAs (Decidable (_ ∨ _))

instance (batch : SnapshotBatch) (reservationId : String) (reservation : CustodyReservation) :
    Decidable (CustodyDrifted batch reservationId reservation) := inferInstanceAs (Decidable (_ ∨ _))

instance (graph : PersistedWithdrawalGraph) : Decidable (SignedDrifted graph) :=
  inferInstanceAs (Decidable (_ ∨ _))

def loadPersistedWithdrawalGraph (batch : SnapshotBatch) : Flow PersistedWithdrawalGraph := do
  let reservationId ← orBail batch.reservationId
    "persisted snapshot batch has no custody reservation"
  let reservation ← found (store (.loadReservation reservationId))
    s!"snapshot custody reservation {reservationId} is missing"
  let process ← found (store (.processWithdrawalBySignature batch.solanaSignature))
    "signed snapshot batch has no process-withdrawal record"
  bailIf (ProcessDrifted batch process)
    "persisted signed process-withdrawal record drifted from snapshot batch"
  let transaction ← found (store (.dogecoinTransactionByProcessSignature batch.solanaSignature))
    "signed snapshot batch has no linked Dogecoin transaction"
  bailIf (transaction.rawHash ≠ process.dogecoinRawHash)
    "persisted signed Dogecoin transaction raw hash drifted"
  let internalTxid ← orBail transaction.txid "persisted signed Dogecoin transaction has no txid"
  let mappings ← store (.mappingsByProcessSignature batch.solanaSignature)
  let expectedMappingCount ← orBail (checkedSub batch.requestEndIndex batch.requestStartIndex)
    "persisted snapshot request range underflow"
  bailIf (MappingsDrifted batch internalTxid expectedMappingCount mappings)
    "persisted signed request-to-Dogecoin mappings are incomplete or drifted"
  bailIf (CustodyDrifted batch reservationId reservation)
    "persisted signed custody links are incomplete or drifted"
  return { transaction, process, reservation }

/-- Every request of the batch is stored with the status. -/
def checkRequests (batch : SnapshotBatch) (status : OperatorStatus) (label : String) : Flow Unit :=
  Program.forEach (fun requestIndex => do
    let request ← found (store (.withdrawalRequestByIndex requestIndex))
      s!"persisted {label} request {requestIndex} is missing"
    bailIf (request.status ≠ status) s!"persisted {label} request {requestIndex} status drifted")
    (requestIndices batch.requestStartIndex batch.requestEndIndex)

def loadCompleteSignedGraph (batch : SnapshotBatch) : Flow PersistedWithdrawalGraph := do
  bailIf (batch.status ≠ .signed) s!"snapshot batch {batch.solanaSignature} is not signed"
  let graph ← loadPersistedWithdrawalGraph batch
  bailIf (SignedDrifted graph) "persisted Signed graph has incomplete or drifted statuses"
  checkRequests batch .signed "signed"
  return graph

def broadcastTransitionStarted (graph : PersistedWithdrawalGraph) : Bool :=
  graph.reservation.status = .broadcast || graph.transaction.status = .broadcast ||
    graph.process.status = .broadcast ||
    graph.reservation.utxos.any fun utxo => utxo.status = .broadcast

/-- The reservation is the first record of the transition, and may have made it already. -/
def completeReservation (reservation : CustodyReservation) (internalTxid : FixedBytes 32) :
    Flow Unit :=
  match reservation.status with
  | .reserved => store (.markReservationBroadcast reservation.reservationId internalTxid)
  | .broadcast =>
    bailIf (reservation.spendTxid ≠ some internalTxid)
      "cannot recover Broadcast from reservation status Broadcast"
  | .released => bail "cannot recover Broadcast from reservation status Released"
  | .spent => bail "cannot recover Broadcast from reservation status Spent"

def setRequestStatuses (batch : SnapshotBatch) (status : OperatorStatus) : Flow Unit :=
  Program.forEach (fun requestIndex => store (.setWithdrawalRequestStatus requestIndex status))
    (requestIndices batch.requestStartIndex batch.requestEndIndex)

def completeBroadcastTransition (batch : SnapshotBatch) (graph : PersistedWithdrawalGraph) :
    Flow Unit := do
  let internalTxid ← orBail graph.transaction.txid
    "signed transaction has no txid during Broadcast recovery"
  completeReservation graph.reservation internalTxid
  store (.setDogecoinTransactionStatusByRawHash graph.transaction.rawHash .broadcast)
  store (.setProcessWithdrawalStatus batch.solanaSignature .broadcast)
  setRequestStatuses batch .broadcast
  store (.setSnapshotBatchStatus batch.solanaSignature .broadcast)

def markBatchBroadcast (args : Args) (batch : SnapshotBatch) (reservationId : String)
    (signedBytes : ByteString) (rawHash internalTxid : FixedBytes 32) (displayTxid : String) :
    Flow Unit := do
  broadcastElectrsIdempotent batch.solanaSignature args.electrsUrl signedBytes displayTxid
  let graph ← loadPersistedWithdrawalGraph batch
  bailIf (graph.reservation.reservationId ≠ reservationId ∨ graph.transaction.rawHash ≠ rawHash ∨
      graph.transaction.txid ≠ some internalTxid)
    "persisted Signed graph differs before Broadcast transition"
  completeBroadcastTransition batch graph

end DogeOperator.Graph
