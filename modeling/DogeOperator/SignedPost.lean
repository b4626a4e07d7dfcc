import DogeOperator.Postings

/-! A run that posts: the transaction of a signed batch, to an Electrs that does not know it and
whose answer is lost. -/
namespace DogeOperator.SignedPost
open Bytes Outcome Crypto Utx0 Network Prepare Records Confirm Store Operations Solana Electrs
  DogeOperator.Graph Resume Withdraw Program GraphSpec Postings

section
attribute [local instance] promisedStore

/-- Electrs knows nothing, and the answer to a post is lost. -/
noncomputable def losing (batch : SnapshotBatch) (keypair : Keypair) :
    Handler Op.Answer ErrorChain World
  | .store op, w => ((serve batch op w.store).1, { w with store := (serve batch op w.store).2 })
  | .rpc _, w => (bail "connection refused", w)
  | .http (.get _), w =>
    (.ok { status := 404, text := "Transaction not found", json := .error "expected value" }, w)
  | .http (.postTransaction key _ body), w =>
    (bail "operation timed out",
      { w with posted := w.posted ++ [⟨key, body, persistedRaw w.view key⟩] })
  | .http (.postJson _ _), w => (bail "connection refused", w)
  | .system (.readKeypairFile _), w => (.ok keypair, w)
  | .system _, w => (bail "busy", w)

variable {batch : SnapshotBatch} {keypair : Keypair} {v : StoreView}
  {graph : PersistedWithdrawalGraph} {raw : ByteString}

theorem losing_exec (op : Op) (w : World) :
    exec op w (losing batch keypair op w).1 (losing batch keypair op w).2 := by
  cases op with
  | store op => exact ⟨serve_exec batch op w.store, rfl⟩
  | rpc op => rfl
  | http op => cases op <;> rfl
  | system op => cases op <;> rfl

theorem losing_lookup (w : World) (op : Op) (h : IsLookupCall op) :
    losing batch keypair op w = (lookupOracle w.view op, w) := by
  cases op with
  | store op =>
    have hserve : serve batch op w.store = (lookups w.store op, w.store) := serve_lookup h
    simp only [losing, hserve]
    rfl
  | _ => exact h.elim

/-- The world after a post of the persisted transaction. -/
def afterPost (w : World) (key : String) (raw : ByteString) : World :=
  { w with posted := w.posted ++ [⟨key, hexEncode raw, persistedRaw w.view key⟩] }

theorem markBatchBroadcast_losing {args : Args} (w : World) {reservationId displayTxid : String}
    {rawHash internalTxid : FixedBytes 32} :
    (markBatchBroadcast args batch reservationId raw rawHash internalTxid displayTxid).runWith
        (losing batch keypair) w =
      (bail "operation timed out", afterPost w batch.solanaSignature raw) := by
  have hunknown : ∀ w' : World, (electrsHasTransaction args.electrsUrl displayTxid).runWith
      (losing batch keypair) w' = (.ok false, w') := by
    intro w'
    simp [electrsHasTransaction, withContext, http, invoke, losing, Except.mapError]
  simp [markBatchBroadcast, broadcastElectrsIdempotent, hunknown, broadcastElectrs, http, invoke,
    losing, bail, afterPost]

variable [Hashes]

/-- A complete signed graph whose raw transaction is the one recorded. -/
structure Postable (v : StoreView) (batch : SnapshotBatch) (graph : PersistedWithdrawalGraph)
    (raw : ByteString) : Prop where
  signed : SignedGraph v batch graph
  persisted : graph.transaction.rawTransaction = some raw
  rawHash : graph.transaction.rawHash = hashSha256 raw
  txid : graph.transaction.txid = some (doubleSha256 raw)

theorem resumeSignedBatch_losing {args : Args} {payload : Utx0UnlockPayload} {w : World}
    (h : Postable w.view batch graph raw) (hbroadcast : args.broadcastEnabled = true) :
    (resumeSignedBatch args batch payload graph).runWith (losing batch keypair) w =
      (bail "operation timed out", afterPost w batch.solanaSignature raw) := by
  have hhash : ¬ hashSha256 raw ≠ graph.transaction.rawHash := not_not.mpr h.rawHash.symm
  have htxid : ¬ graph.transaction.txid ≠ some (doubleSha256 raw) := not_not.mpr h.txid
  simp only [resumeSignedBatch, h.persisted, orBail_some, bind_eq, liftM_eq, done_ok_bind,
    bailIf_of_not hhash, bailIf_of_not htxid, onlyIf, if_pos hbroadcast, runWith_bind,
    markBatchBroadcast_losing]
  rfl

variable [Base58Check] [BlockHashText] [TxoConstants]

theorem continueSigned_losing {args : Args} {payload : Utx0UnlockPayload} {w : World}
    (h : Postable w.view batch graph raw) (hbroadcast : args.broadcastEnabled = true) :
    (continueSigned args batch payload).runWith (losing batch keypair) w =
      (bail "operation timed out", afterPost w batch.solanaSignature raw) := by
  have hload : (loadPersistedWithdrawalGraph batch).runWith (losing batch keypair) w =
      (.ok graph, w) := by
    rw [runWith_oracle (loadPersistedWithdrawalGraph_lookups batch) (losing_lookup w),
      loadPersistedWithdrawalGraph_eq_ok.mpr h.signed.persisted]
  have hcomplete : (loadCompleteSignedGraph batch).runWith (losing batch keypair) w =
      (.ok graph, w) := by
    rw [runWith_oracle (loadCompleteSignedGraph_lookups batch) (losing_lookup w),
      loadCompleteSignedGraph_eq_ok.mpr h.signed]
  have hstarted : ¬ broadcastTransitionStarted graph = true := by
    simp [not_started_of_signed h.signed.signed]
  simp only [continueSigned, bind_eq, runWith_bind, hload, if_neg hstarted, hcomplete,
    resumeSignedBatch_losing h hbroadcast]

variable [SolanaSdk] [UrlParser] [Secp256k1]

/-- A run that finds a complete signed batch posts the raw transaction that is persisted for it. -/
theorem runWithStore_posts (keypair : Keypair) {args : Args} {payload : Utx0UnlockPayload} {w : World}
    (hargs : AdmissibleArgs args) (hbroadcast : args.broadcastEnabled = true)
    (holdest : OldestIncomplete w.view batch) (hpayload : PayloadIdentity args batch payload)
    (h : Postable w.view batch graph raw) :
    Session exec (runWithStore args) w (afterPost w batch.solanaSignature raw) := by
  have hfound : losing batch keypair (.store .oldestIncompleteSnapshotBatch) w =
      (.ok (some batch), w) := by
    have hview : OldestIncomplete w.store batch := holdest
    simp only [losing, serve, if_pos hview]
  have hkeypair : ∀ path, losing batch keypair (.system (.readKeypairFile path)) w =
      (.ok keypair, w) := fun _ => rfl
  have hstatus : batch.status ≠ .observed := by
    rw [h.signed.status]
    decide
  have hexec : ∀ op w, True → exec op w (losing batch keypair op w).1 (losing batch keypair op w).2 ∧
      True := fun op w _ => ⟨losing_exec op w, trivial⟩
  have hrun : Completes exec (runWithStore args) w _ _ := completes_runWith hexec _ trivial
  rw [runWithStore_resumes hargs hkeypair hfound, resumeSnapshotBatch, if_neg hstatus,
    continueSnapshotBatch_of_identity hpayload, h.signed.status,
    continueSigned_losing h hbroadcast] at hrun
  exact hrun.session

end

end DogeOperator.SignedPost
