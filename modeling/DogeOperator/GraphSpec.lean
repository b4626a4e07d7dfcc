import DogeOperator.Finalize
import DogeOperator.Footprint

/-! What the loaders of the persisted graph accept, as a condition on the stored records. -/
namespace DogeOperator.GraphSpec
open Outcome Panics Records Confirm Store Operations DogeOperator.Graph Program

/-- The records answer the lookups by key; nothing else is asked. -/
def lookupOracle (v : StoreView) : (op : Op) → Result op.Answer
  | .store op => lookups v op
  | .rpc _ => bail "not a lookup"
  | .http _ => bail "not a lookup"
  | .system _ => bail "not a lookup"

def IsLookupCall : Op → Prop
  | .store op => op.IsLookup
  | _ => False

section
variable {v : StoreView}

@[simp] theorem eval_bailIf {condition : Prop} [Decidable condition] {message : String} :
    (bailIf condition message).eval (lookupOracle v) =
      if condition then bail message else .ok () := rfl

@[simp] theorem eval_found {α : Type} {x : Flow (Option α)} {message : String} :
    (found x message).eval (lookupOracle v) =
      x.eval (lookupOracle v) >>= fun record => orBail record message := eval_bind

theorem eval_found_eq_ok {α : Type} {x : Flow (Option α)} {message : String} {a : α} :
    (found x message).eval (lookupOracle v) = .ok a ↔ x.eval (lookupOracle v) = .ok (some a) := by
  rw [eval_found, bind_eq_ok]
  constructor
  · intro h
    rcases h with ⟨record, hx, hrecord⟩
    rw [hx, orBail_eq_ok.mp hrecord]
  · intro h
    exact ⟨some a, h, rfl⟩

theorem eval_bailIf_eq_ok {condition : Prop} [Decidable condition] {message : String} {u : Unit} :
    (bailIf condition message).eval (lookupOracle v) = .ok u ↔ ¬ condition := guard_eq_ok

end

/-- The records of the batch are stored, and linked to it and to each other. -/
structure PersistedGraph (v : StoreView) (batch : SnapshotBatch) (graph : PersistedWithdrawalGraph) :
    Prop where
  reservation : ∃ reservationId, batch.reservationId = some reservationId ∧
    v.reservation reservationId = some graph.reservation ∧
    ¬ CustodyDrifted batch reservationId graph.reservation
  process : v.process batch.solanaSignature = some graph.process
  identity : ¬ ProcessDrifted batch graph.process
  transaction : v.transaction batch.solanaSignature = some graph.transaction
  rawHash : graph.transaction.rawHash = graph.process.dogecoinRawHash
  mappings : ∃ internalTxid count, graph.transaction.txid = some internalTxid ∧
    checkedSub batch.requestEndIndex batch.requestStartIndex = some count ∧
    ¬ MappingsDrifted batch internalTxid count (v.mappings batch.solanaSignature)

theorem loadPersistedWithdrawalGraph_eq_ok {v : StoreView} {batch : SnapshotBatch}
    {graph : PersistedWithdrawalGraph} :
    (loadPersistedWithdrawalGraph batch).eval (lookupOracle v) = .ok graph ↔
      PersistedGraph v batch graph := by
  unfold loadPersistedWithdrawalGraph
  simp only [bind_eq, liftM_eq, pure_eq, eval_bind, bind_eq_ok, eval_done, eval_found_eq_ok,
    eval_bailIf_eq_ok, store, invoke, eval_call, lookupOracle, lookups, orBail_eq_ok,
    Except.ok.injEq, not_not]
  constructor
  · intro h
    rcases h with ⟨reservationId, hid, reservation, hreservation, process, hprocess, -, hidentity,
      transaction, htransaction, -, hhash, internalTxid, htxid, _, rfl, count, hcount, -, hmappings,
      -, hcustody, rfl⟩
    exact ⟨⟨reservationId, hid, hreservation, hcustody⟩, hprocess, hidentity, htransaction, hhash,
      ⟨internalTxid, count, htxid, hcount, hmappings⟩⟩
  · intro h
    rcases h.reservation with ⟨reservationId, hid, hreservation, hcustody⟩
    rcases h.mappings with ⟨internalTxid, count, htxid, hcount, hmappings⟩
    exact ⟨reservationId, hid, _, hreservation, _, h.process, (), h.identity, _, h.transaction, (),
      h.rawHash, internalTxid, htxid, _, rfl, count, hcount, (), hmappings, (), hcustody, rfl⟩

/-- A graph that was loaded has its txid, so that nothing panics where its change is derived. -/
theorem PersistedGraph.change_checked [Crypto.Base58Check] [TxoConstants] {v : StoreView}
    {batch : SnapshotBatch} {graph : PersistedWithdrawalGraph} (h : PersistedGraph v batch graph)
    (network : Network.DogeNetwork) (withdrawalOutputCount : ℕ) (confirmed : ConfirmedWithdrawal) :
    deriveConfirmedChangeChecked network batch graph withdrawalOutputCount confirmed ≠
      .error .panic := by
  rcases h.mappings with ⟨internalTxid, count, htxid, -, -⟩
  have hsome : graph.transaction.txid.isSome := by simp [htxid]
  rw [deriveConfirmedChangeChecked_eq network batch withdrawalOutputCount confirmed hsome]
  exact lift_ne_panic

/-- Every request of the batch is stored with the status. -/
def RequestsAre (v : StoreView) (batch : SnapshotBatch) (status : OperatorStatus) : Prop :=
  ∀ index, batch.requestStartIndex ≤ index → index < batch.requestEndIndex →
    ∃ request, v.request index = some request ∧ request.status = status

theorem forEach_eval_eq_ok {β : Type} {v : StoreView} {f : β → Flow Unit} {xs : List β} :
    (forEach f xs).eval (lookupOracle v) = .ok () ↔
      ∀ x ∈ xs, (f x).eval (lookupOracle v) = .ok () := by
  induction xs with
  | nil => simp [forEach]
  | cons x xs ih =>
    rw [forEach, eval_bind, bind_eq_ok, List.forall_mem_cons, ← ih]
    exact ⟨fun ⟨_, h⟩ => h, fun h => ⟨(), h⟩⟩

theorem checkRequests_eq_ok {v : StoreView} {batch : SnapshotBatch} {status : OperatorStatus}
    {label : String} {u : Unit} :
    (checkRequests batch status label).eval (lookupOracle v) = .ok u ↔
      RequestsAre v batch status := by
  unfold checkRequests RequestsAre
  rw [forEach_eval_eq_ok]
  simp only [mem_requestIndices, bind_eq, eval_bind, bind_eq_ok, eval_found_eq_ok, store, invoke,
    eval_call, eval_done, lookupOracle, lookups, Except.ok.injEq, eval_bailIf_eq_ok, not_not, and_imp]

/-- The graph of a batch in the Signed state, all of it Signed. -/
structure SignedGraph (v : StoreView) (batch : SnapshotBatch) (graph : PersistedWithdrawalGraph) :
    Prop where
  status : batch.status = .signed
  persisted : PersistedGraph v batch graph
  signed : ¬ SignedDrifted graph
  requests : RequestsAre v batch .signed

theorem loadCompleteSignedGraph_eq_ok {v : StoreView} {batch : SnapshotBatch}
    {graph : PersistedWithdrawalGraph} :
    (loadCompleteSignedGraph batch).eval (lookupOracle v) = .ok graph ↔
      SignedGraph v batch graph := by
  unfold loadCompleteSignedGraph
  simp only [bind_eq, pure_eq, eval_bind, bind_eq_ok, eval_done, eval_bailIf_eq_ok,
    loadPersistedWithdrawalGraph_eq_ok, checkRequests_eq_ok, Except.ok.injEq, not_not]
  constructor
  · intro h
    rcases h with ⟨-, hstatus, _, hgraph, -, hsigned, -, hrequests, rfl⟩
    exact ⟨hstatus, hgraph, hsigned, hrequests⟩
  · intro h
    exact ⟨(), h.status, graph, h.persisted, (), h.signed, (), h.requests, rfl⟩

/-- A signed graph does not look like one whose transition has started. -/
theorem not_started_of_signed {graph : PersistedWithdrawalGraph} (h : ¬ SignedDrifted graph) :
    broadcastTransitionStarted graph = false := by
  simp only [SignedDrifted, not_or, not_not, not_exists, not_and] at h
  rcases h with ⟨htransaction, hprocess, hreservation, -, hutxos⟩
  have hnone : graph.reservation.utxos.any (fun utxo => utxo.status = .broadcast) = false := by
    rw [List.any_eq_false]
    intro utxo hutxo
    simp [(hutxos utxo hutxo).1]
  simp [broadcastTransitionStarted, htransaction, hprocess, hreservation, hnone]

/-! The loaders are made of lookups. -/

theorem found_store_propagates {α : Type} {x : Flow (Option α)} {message : String}
    (h : x.Propagates) : (found x message).Propagates := h.bind fun _ => trivial

theorem loadPersistedWithdrawalGraph_lookups (batch : SnapshotBatch) :
    (loadPersistedWithdrawalGraph batch).Calls IsLookupCall := by
  simp [loadPersistedWithdrawalGraph, found, store, invoke, calls_bind, IsLookupCall,
    StoreOp.IsLookup, StoreOp.IsRead]

theorem loadPersistedWithdrawalGraph_propagates (batch : SnapshotBatch) :
    (loadPersistedWithdrawalGraph batch).Propagates := by
  refine Propagates.bind (propagates_done _) fun reservationId => ?_
  refine Propagates.bind (found_store_propagates (propagates_invoke _)) fun reservation => ?_
  refine Propagates.bind (found_store_propagates (propagates_invoke _)) fun process => ?_
  refine Propagates.bind (propagates_done _) fun _ => ?_
  refine Propagates.bind (found_store_propagates (propagates_invoke _)) fun transaction => ?_
  refine Propagates.bind (propagates_done _) fun _ => ?_
  refine Propagates.bind (propagates_done _) fun internalTxid => ?_
  refine Propagates.bind (propagates_invoke _) fun mappings => ?_
  refine Propagates.bind (propagates_done _) fun count => ?_
  refine Propagates.bind (propagates_done _) fun _ => ?_
  exact Propagates.bind (propagates_done _) fun _ => propagates_done _

theorem checkRequests_lookups (batch : SnapshotBatch) (status : OperatorStatus) (label : String) :
    (checkRequests batch status label).Calls IsLookupCall :=
  Calls.forEach (fun _ => by
    simp [found, store, invoke, calls_bind, IsLookupCall, StoreOp.IsLookup, StoreOp.IsRead]) _

theorem checkRequests_propagates (batch : SnapshotBatch) (status : OperatorStatus)
    (label : String) : (checkRequests batch status label).Propagates :=
  Propagates.forEach (fun _ => (found_store_propagates (propagates_invoke _)).bind fun _ =>
    propagates_done _) _

theorem loadCompleteSignedGraph_lookups (batch : SnapshotBatch) :
    (loadCompleteSignedGraph batch).Calls IsLookupCall := by
  simp [loadCompleteSignedGraph, calls_bind, loadPersistedWithdrawalGraph_lookups,
    checkRequests_lookups]

theorem loadCompleteSignedGraph_propagates (batch : SnapshotBatch) :
    (loadCompleteSignedGraph batch).Propagates := by
  refine Propagates.bind (propagates_done _) fun _ => ?_
  refine Propagates.bind (loadPersistedWithdrawalGraph_propagates batch) fun graph => ?_
  refine Propagates.bind (propagates_done _) fun _ => ?_
  exact Propagates.bind (checkRequests_propagates batch _ _) fun _ => propagates_done _

end DogeOperator.GraphSpec

/-! A store of the local network with one batch, and what is persisted of it when it is signed. -/

namespace DogeOperator.Localnet
open Bytes Crypto Utx0 Tx Network Manager Prepare Records Confirm Store Operations Solana
  DogeOperator.Graph Resume Withdraw GraphSpec Digests

/-- A store with one batch and its reservation. -/
def loneView (batch : SnapshotBatch) (reservation : CustodyReservation) : StoreView where
  batch := Function.update (fun _ => none) batch.solanaSignature (some batch)
  reservation := Function.update (fun _ => none) reservation.reservationId (some reservation)
  request _ := none
  process _ := none
  transaction _ := none
  mappings _ := []

theorem loneView_batch {batch other : SnapshotBatch} {reservation : CustodyReservation}
    {key : String} (h : (loneView batch reservation).batch key = some other) : other = batch := by
  by_cases hkey : key = batch.solanaSignature
  · simpa [loneView, hkey] using h.symm
  · simp [loneView, hkey] at h

theorem loneView_oldest {batch : SnapshotBatch} {reservation : CustodyReservation}
    (h : Incomplete batch.status) : OldestIncomplete (loneView batch reservation) batch where
  stored := by simp [loneView]
  incomplete := h
  oldest := by
    intro key other hother _
    rw [loneView_batch hother]
    exact UInt64.le_refl _

/-- The payload of the local withdrawal, as it is persisted. -/
def localPayloadBytes : ByteString :=
  utx0Prefix ++ u16Be 65 ++ u32Be 0 ++ u32Be 1 ++ localPayload.outputs.flatMap Utx0Output.serialize

theorem localPayload_parse : Utx0UnlockPayload.parse localPayloadBytes = .ok localPayload := rfl

def localKey : String := SolanaSdk.signatureToString localSignature

/-- The one batch of the local store, for one request. -/
def heldBatch (status : OperatorStatus) : SnapshotBatch where
  solanaSignature := localKey
  solanaSlot := 1
  blockTime := none
  requestStartIndex := 0
  requestEndIndex := 1
  snapshotRoot := List.Vector.replicate 32 7
  payload := localPayloadBytes
  payloadHash := hashSha256 localPayloadBytes
  wormholeSequence := 0
  solanaTransaction := some (transactionBytes localTransaction)
  unsignedTransaction := some (localPrepared (localDeposit 1)).unsignedBytes
  reservationId := some (localReservation []).reservationId
  status

theorem heldBatch_carries (status : OperatorStatus) : CarriesLocal (heldBatch status) := ⟨rfl, rfl⟩

/-- A custody UTXO held for the batch. -/
def heldUtxo (utxo : CustodyUtxo) : CustodyUtxo :=
  { utxo with
    status := .reserved
    reservationId := some (localReservation []).reservationId
    spendRequestIndex := some 0
    spendProcessSignature := some localKey }

def heldReservation : CustodyReservation :=
  { localReservation ((localDeposit 1).map heldUtxo) with
    requestIndex := some 0
    processSolanaSignature := some localKey }

def heldRequest (status : OperatorStatus) : WithdrawalRequest where
  requestIndex := 0
  solanaSignature := localKey
  solanaSlot := 1
  blockTime := none
  userPubkey := SolanaSdk.pubkeyToString localOperator.pubkey
  grossAmountSats := 9000000
  feeAmountSats := 0
  netAmountSats := 9000000
  addressType := 0
  recipient := List.Vector.replicate 20 0x33
  status

/-- Bytes of the size of a transaction. -/
def localRaw : ByteString := (localPrepared (localDeposit 1)).unsignedBytes

variable (raw : ByteString)

/-- The records of the batch, signed with a raw transaction. -/
def signedGraph : PersistedWithdrawalGraph where
  transaction := signedTransactionRecord raw
  process := signedProcessRecord (heldBatch .constructed) localPayload localPlan.changeSats
    (hashSha256 raw)
  reservation := heldReservation

def signedView : StoreView :=
  { loneView (heldBatch .signed) heldReservation with
    request := Function.update (fun _ => none) 0 (some (heldRequest .signed))
    process := Function.update (fun _ => none) localKey (some (signedGraph raw).process)
    transaction := Function.update (fun _ => none) localKey (some (signedGraph raw).transaction)
    mappings := Function.update (fun _ => []) localKey [{
      requestIndex := 0
      processSolanaSignature := localKey
      dogecoinTxid := doubleSha256 raw }] }

theorem heldReservation_linked :
    ¬ CustodyDrifted (heldBatch .signed) (localReservation []).reservationId heldReservation := by
  simp [CustodyDrifted, heldReservation, localReservation, localDeposit, heldUtxo, heldBatch]

theorem signedView_mapped : ¬ MappingsDrifted (heldBatch .signed) (doubleSha256 raw) 1
    ((signedView raw).mappings localKey) := by
  simp [MappingsDrifted, signedView, heldBatch]

theorem signedView_graph : SignedGraph (signedView raw) (heldBatch .signed) (signedGraph raw) where
  status := rfl
  persisted := {
    reservation := ⟨_, rfl, by simp [signedView, loneView, signedGraph, heldReservation,
      localReservation], heldReservation_linked⟩
    process := by simp [signedView, heldBatch]
    identity := by simp [ProcessDrifted, signedGraph, signedProcessRecord, heldBatch]
    transaction := by simp [signedView, heldBatch]
    rawHash := rfl
    mappings := ⟨_, 1, rfl, rfl, signedView_mapped raw⟩ }
  signed := by
    simp [SignedDrifted, signedGraph, signedTransactionRecord, signedProcessRecord, heldReservation,
      localReservation, localDeposit, heldUtxo, localUtxo, custodyUtxo]
  requests := by
    intro index _ hlt
    have hzero : index = 0 := by
      have hone : index.toNat < 1 := UInt64.lt_iff_toNat_lt.mp hlt
      exact UInt64.toNat_inj.mp (Nat.lt_one_iff.mp hone)
    exact ⟨heldRequest .signed, by simp [signedView, hzero], rfl⟩

theorem heldBatch_payload (status : OperatorStatus) :
    PayloadIdentity localArgs (heldBatch status) localPayload where
  parsed := localPayload_parse
  identity := by simp [localPayload, localArgs, heldBatch, dogecoinChainId]

theorem signedView_oldest : OldestIncomplete (signedView raw) (heldBatch .signed) where
  stored := by simp [signedView, loneView]
  incomplete := by decide
  oldest := by
    intro key other hother _
    have hbatch : (loneView (heldBatch .signed) heldReservation).batch key = some other := hother
    rw [loneView_batch hbatch]
    exact UInt64.le_refl _

end DogeOperator.Localnet
