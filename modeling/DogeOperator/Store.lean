import DogeOperator.Records

/-! The durable operator store as the withdrawal code uses it: its operations, and what each does
to the records when it succeeds. Every operation is atomic, and a failed one changes nothing. -/
namespace DogeOperator.Store
open Bytes Outcome Records

inductive StoreOp
  | oldestIncompleteSnapshotBatch
  | snapshotBatchBySignature (solanaSignature : String)
  | loadReservation (reservationId : String)
  | releaseReservation (reservationId : String)
  | reserveCustodyForSnapshot (reservationId : String) (requiredSats : UInt64)
      (build : CustodyReservation → Result SnapshotBatch)
  | upsertSnapshotBatch (batch : SnapshotBatch)
  | setSnapshotBatchStatus (solanaSignature : String) (status : OperatorStatus)
  | withdrawalRequestByIndex (requestIndex : UInt64)
  | upsertWithdrawalRequest (request : WithdrawalRequest)
  | setWithdrawalRequestStatus (requestIndex : UInt64) (status : OperatorStatus)
  | processWithdrawalBySignature (solanaSignature : String)
  | setProcessWithdrawalStatus (solanaSignature : String) (status : OperatorStatus)
  | dogecoinTransactionByProcessSignature (solanaSignature : String)
  | setDogecoinTransactionStatusByRawHash (rawHash : FixedBytes 32) (status : OperatorStatus)
  | mappingsByProcessSignature (solanaSignature : String)
  | persistSignedSnapshot (solanaSignature reservationId : String)
      (transaction : DogecoinTransaction) (process : ProcessWithdrawal)
  | markReservationBroadcast (reservationId : String) (spendTxid : FixedBytes 32)
  | finalizeConfirmedSnapshot (solanaSignature : String) (transaction : DogecoinTransaction)
      (change : Option CustodyUtxo)

@[reducible] def StoreOp.Answer : StoreOp → Type
  | oldestIncompleteSnapshotBatch => Option SnapshotBatch
  | snapshotBatchBySignature _ => Option SnapshotBatch
  | loadReservation _ => Option CustodyReservation
  | reserveCustodyForSnapshot _ _ _ => CustodyReservation × SnapshotBatch
  | withdrawalRequestByIndex _ => Option WithdrawalRequest
  | processWithdrawalBySignature _ => Option ProcessWithdrawal
  | dogecoinTransactionByProcessSignature _ => Option DogecoinTransaction
  | mappingsByProcessSignature _ => List RequestMapping
  | _ => Unit

/-- The operations that only look records up. -/
def StoreOp.IsRead : StoreOp → Prop
  | oldestIncompleteSnapshotBatch => True
  | snapshotBatchBySignature _ => True
  | loadReservation _ => True
  | withdrawalRequestByIndex _ => True
  | processWithdrawalBySignature _ => True
  | dogecoinTransactionByProcessSignature _ => True
  | mappingsByProcessSignature _ => True
  | _ => False

/-- The records, each under the key it is looked up by. -/
structure StoreView where
  batch : String → Option SnapshotBatch
  reservation : String → Option CustodyReservation
  request : UInt64 → Option WithdrawalRequest
  process : String → Option ProcessWithdrawal
  transaction : String → Option DogecoinTransaction
  mappings : String → List RequestMapping

def Incomplete (status : OperatorStatus) : Prop := status ≠ .confirmed ∧ status ≠ .failed

instance : DecidablePred Incomplete := fun status =>
  inferInstanceAs (Decidable (status ≠ .confirmed ∧ status ≠ .failed))

structure OldestIncomplete (v : StoreView) (batch : SnapshotBatch) : Prop where
  stored : v.batch batch.solanaSignature = some batch
  incomplete : Incomplete batch.status
  oldest : ∀ key other, v.batch key = some other → Incomplete other.status →
    batch.requestStartIndex ≤ other.requestStartIndex

/-- A reservation and its UTXOs, spent by the broadcast transaction. -/
def broadcastReservation (spendTxid : FixedBytes 32) (reservation : CustodyReservation) :
    CustodyReservation :=
  { reservation with
    status := .broadcast
    spendTxid := some spendTxid
    utxos := reservation.utxos.map ({ · with status := .broadcast, spendTxid := some spendTxid }) }

namespace StoreView

def setBatchStatus (v : StoreView) (key : String) (status : OperatorStatus) : StoreView :=
  { v with batch := Function.update v.batch key ((v.batch key).map ({ · with status })) }

def setRequestStatus (v : StoreView) (index : UInt64) (status : OperatorStatus) : StoreView :=
  { v with request := Function.update v.request index ((v.request index).map ({ · with status })) }

def setProcessStatus (v : StoreView) (key : String) (status : OperatorStatus) : StoreView :=
  { v with process := Function.update v.process key ((v.process key).map ({ · with status })) }

/-- Every link to the transaction sees the new status. -/
def setTransactionStatus (v : StoreView) (rawHash : FixedBytes 32) (status : OperatorStatus) :
    StoreView :=
  { v with
    transaction := fun key => (v.transaction key).map fun transaction =>
      if transaction.rawHash = rawHash then { transaction with status } else transaction }

def markReservation (v : StoreView) (reservationId : String) (spendTxid : FixedBytes 32) :
    StoreView :=
  { v with
    reservation := Function.update v.reservation reservationId
      ((v.reservation reservationId).map (broadcastReservation spendTxid)) }

end StoreView

/-- What a successful operation answers, and what it does to the records. -/
def Effect (v : StoreView) : (op : StoreOp) → op.Answer → StoreView → Prop
  | .oldestIncompleteSnapshotBatch, answer, v' =>
    v' = v ∧ (∀ batch, answer = some batch → OldestIncomplete v batch) ∧
      (answer = none → ∀ key batch, v.batch key = some batch → ¬ Incomplete batch.status)
  | .snapshotBatchBySignature key, answer, v' => v' = v ∧ answer = v.batch key
  | .loadReservation reservationId, answer, v' => v' = v ∧ answer = v.reservation reservationId
  | .releaseReservation reservationId, _, v' =>
    ∃ released : CustodyReservation, released.status = .released ∧
      v' = { v with reservation := Function.update v.reservation reservationId (some released) }
  | .reserveCustodyForSnapshot reservationId requiredSats build, (reservation, batch), v' =>
    reservation.reservationId = reservationId ∧ reservation.requiredAmountSats = requiredSats ∧
      reservation.status = .reserved ∧ build reservation = .ok batch ∧
      -- a new row: the store keeps one batch per signature
      v.batch batch.solanaSignature = none ∧
      v' = { v with
        batch := Function.update v.batch batch.solanaSignature (some batch)
        reservation := Function.update v.reservation reservationId (some reservation) }
  | .upsertSnapshotBatch batch, _, v' =>
    v' = { v with batch := Function.update v.batch batch.solanaSignature (some batch) }
  | .setSnapshotBatchStatus key status, _, v' => v' = v.setBatchStatus key status
  | .withdrawalRequestByIndex index, answer, v' => v' = v ∧ answer = v.request index
  | .upsertWithdrawalRequest request, _, v' =>
    v' = { v with request := Function.update v.request request.requestIndex (some request) }
  | .setWithdrawalRequestStatus index status, _, v' => v' = v.setRequestStatus index status
  | .processWithdrawalBySignature key, answer, v' => v' = v ∧ answer = v.process key
  | .setProcessWithdrawalStatus key status, _, v' => v' = v.setProcessStatus key status
  | .dogecoinTransactionByProcessSignature key, answer, v' => v' = v ∧ answer = v.transaction key
  | .setDogecoinTransactionStatusByRawHash rawHash status, _, v' =>
    v' = v.setTransactionStatus rawHash status
  | .mappingsByProcessSignature key, answer, v' => v' = v ∧ answer = v.mappings key
  | .persistSignedSnapshot key _ transaction process, _, v' =>
    ∃ reservation request mappings, v' = { v.setBatchStatus key .signed with
      transaction := Function.update v.transaction key (some transaction)
      process := Function.update v.process key (some process)
      reservation, request, mappings }
  | .markReservationBroadcast reservationId spendTxid, _, v' =>
    v' = v.markReservation reservationId spendTxid
  | .finalizeConfirmedSnapshot key transaction _, _, v' =>
    ∃ reservation request process, v' = { v.setBatchStatus key .confirmed with
      transaction := Function.update v.transaction key (some transaction)
      reservation, request, process }

/-- The lookups by key. -/
def StoreOp.IsLookup : StoreOp → Prop
  | oldestIncompleteSnapshotBatch => False
  | op => op.IsRead

/-- What a lookup finds. -/
def lookups (v : StoreView) : (op : StoreOp) → Result op.Answer
  | .snapshotBatchBySignature key => .ok (v.batch key)
  | .loadReservation reservationId => .ok (v.reservation reservationId)
  | .withdrawalRequestByIndex index => .ok (v.request index)
  | .processWithdrawalBySignature key => .ok (v.process key)
  | .dogecoinTransactionByProcessSignature key => .ok (v.transaction key)
  | .mappingsByProcessSignature key => .ok (v.mappings key)
  | _ => bail "not a lookup"

theorem lookup_read {op : StoreOp} (h : op.IsLookup) : op.IsRead := by
  cases op <;> first | exact h | exact h.elim

theorem effect_lookup {v v' : StoreView} {op : StoreOp} {answer : op.Answer} (hlookup : op.IsLookup)
    (heffect : Effect v op answer v') : lookups v op = .ok answer := by
  cases op with
  | snapshotBatchBySignature => exact congrArg _ heffect.2.symm
  | loadReservation => exact congrArg _ heffect.2.symm
  | withdrawalRequestByIndex => exact congrArg _ heffect.2.symm
  | processWithdrawalBySignature => exact congrArg _ heffect.2.symm
  | dogecoinTransactionByProcessSignature => exact congrArg _ heffect.2.symm
  | mappingsByProcessSignature => exact congrArg _ heffect.2.symm
  | _ => exact hlookup.elim

/-- The operator store library: its own state, of which the code sees the records. -/
class OperatorStore where
  State : Type
  view : State → StoreView
  exec : (op : StoreOp) → State → Result op.Answer → State → Prop
  /-- Atomicity. -/
  failed : ∀ {op s error s'}, exec op s (.error error) s' → view s' = view s
  effect : ∀ {op s answer s'}, exec op s (.ok answer) s' → Effect (view s) op answer (view s')

/-- A lookup leaves the records alone. -/
theorem effect_read {v v' : StoreView} {op : StoreOp} {answer : op.Answer} (hread : op.IsRead)
    (heffect : Effect v op answer v') : v' = v := by
  cases op with
  | oldestIncompleteSnapshotBatch => exact heffect.1
  | snapshotBatchBySignature => exact heffect.1
  | loadReservation => exact heffect.1
  | withdrawalRequestByIndex => exact heffect.1
  | processWithdrawalBySignature => exact heffect.1
  | dogecoinTransactionByProcessSignature => exact heffect.1
  | mappingsByProcessSignature => exact heffect.1
  | _ => exact hread.elim

theorem read_view [OperatorStore] {op : StoreOp} {s s' : OperatorStore.State}
    {answer : Result op.Answer} (hread : op.IsRead) (hexec : OperatorStore.exec op s answer s') :
    OperatorStore.view s' = OperatorStore.view s := by
  cases answer with
  | error e => exact OperatorStore.failed hexec
  | ok a => exact effect_read hread (OperatorStore.effect hexec)

/-- The store that does exactly what the operations promise, and may refuse any of them. -/
@[reducible] def promisedStore : OperatorStore where
  State := StoreView
  view := id
  exec op v answer v' :=
    match answer with
    | .error _ => v' = v
    | .ok answer => Effect v op answer v'
  failed h := h
  effect h := h

/-- One way to serve the operations: lookups and status changes succeed, the rest is refused. The
oldest incomplete batch is served if it is the given one. -/
noncomputable def serve (oldest : SnapshotBatch) :
    (op : StoreOp) → StoreView → Result op.Answer × StoreView
  | .oldestIncompleteSnapshotBatch, v =>
    open Classical in (if OldestIncomplete v oldest then .ok (some oldest) else bail "busy", v)
  | .releaseReservation reservationId, v =>
    match v.reservation reservationId with
    | none => (bail "no reservation", v)
    | some reservation =>
      (.ok (), { v with
        reservation := Function.update v.reservation reservationId
          (some { reservation with status := .released }) })
  | .setSnapshotBatchStatus key status, v => (.ok (), v.setBatchStatus key status)
  | .setWithdrawalRequestStatus index status, v => (.ok (), v.setRequestStatus index status)
  | .setProcessWithdrawalStatus key status, v => (.ok (), v.setProcessStatus key status)
  | .setDogecoinTransactionStatusByRawHash rawHash status, v =>
    (.ok (), v.setTransactionStatus rawHash status)
  | .markReservationBroadcast reservationId spendTxid, v =>
    (.ok (), v.markReservation reservationId spendTxid)
  | op, v => (lookups v op, v)

theorem lookups_effect {v : StoreView} {op : StoreOp} {answer : op.Answer}
    (h : lookups v op = .ok answer) : Effect v op answer v := by
  cases op with
  | snapshotBatchBySignature => exact ⟨rfl, (Except.ok.inj h).symm⟩
  | loadReservation => exact ⟨rfl, (Except.ok.inj h).symm⟩
  | withdrawalRequestByIndex => exact ⟨rfl, (Except.ok.inj h).symm⟩
  | processWithdrawalBySignature => exact ⟨rfl, (Except.ok.inj h).symm⟩
  | dogecoinTransactionByProcessSignature => exact ⟨rfl, (Except.ok.inj h).symm⟩
  | mappingsByProcessSignature => exact ⟨rfl, (Except.ok.inj h).symm⟩
  | _ => exact nomatch h

theorem serve_lookup {oldest : SnapshotBatch} {v : StoreView} {op : StoreOp} (h : op.IsLookup) :
    serve oldest op v = (lookups v op, v) := by
  cases op <;> first | rfl | exact h.elim

/-- Serving so is one of the things the store may do. -/
theorem serve_exec (oldest : SnapshotBatch) (op : StoreOp) (v : StoreView) :
    promisedStore.exec op v (serve oldest op v).1 (serve oldest op v).2 := by
  by_cases hlookup : op.IsLookup
  · rw [serve_lookup hlookup]
    cases hanswer : lookups v op with
    | error e => exact rfl
    | ok answer => exact lookups_effect hanswer
  cases op with
  | oldestIncompleteSnapshotBatch =>
    by_cases holdest : OldestIncomplete v oldest
    · rw [serve, if_pos holdest]
      refine ⟨rfl, fun batch hbatch => ?_, fun hnone => nomatch hnone⟩
      cases hbatch
      exact holdest
    · rw [serve, if_neg holdest]
      exact rfl
  | releaseReservation reservationId =>
    cases hreservation : v.reservation reservationId with
    | none =>
      rw [serve, hreservation]
      exact rfl
    | some reservation =>
      rw [serve, hreservation]
      exact ⟨{ reservation with status := .released }, rfl, rfl⟩
  | snapshotBatchBySignature => exact absurd trivial hlookup
  | loadReservation => exact absurd trivial hlookup
  | withdrawalRequestByIndex => exact absurd trivial hlookup
  | processWithdrawalBySignature => exact absurd trivial hlookup
  | dogecoinTransactionByProcessSignature => exact absurd trivial hlookup
  | mappingsByProcessSignature => exact absurd trivial hlookup
  | _ => exact rfl

end DogeOperator.Store
