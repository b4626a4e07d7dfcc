import DogeOperator.CompletedEvidence
import DogeOperator.WaitingDaemon

/-! Which evidence a run writes, whatever it is answered from outside: none while it broadcasts or
confirms, and at the end the one of its kind. -/
namespace DogeOperator.EvidenceRuns
open Bytes Outcome Crypto Json Utx0 Tx Network Manager Prepare Records Confirm Store ManagerClient
  Operations Solana Electrs DogeOperator.Graph Signing Resume Program GraphSpec DoubleRounding
  EvidenceValidator CompletedEvidence

/-! Parts that write no file. -/

def Unwritten : Op → Prop
  | .system (.writeFile _ _) => False
  | _ => True

theorem lookup_unwritten (op : Op) (h : IsLookupCall op) : Unwritten op := by
  cases op with
  | store op => trivial
  | _ => exact h.elim

theorem electrsGetJson_unwritten {α : Type} (decode : Value → Decoded α) (url : String) :
    (electrsGetJson decode url).Calls Unwritten := by
  simp [electrsGetJson, http, invoke, calls_bind, Unwritten]

theorem fetchConfirmedWithdrawal_unwritten [BlockHashText] (electrsUrl displayTxid : String) :
    (fetchConfirmedWithdrawal electrsUrl displayTxid).Calls Unwritten := by
  simp [fetchConfirmedWithdrawal, electrsGetHeight, calls_bind, electrsGetJson_unwritten, http, invoke,
    Unwritten]

theorem broadcastElectrsIdempotent_unwritten (key electrsUrl : String) (raw : ByteString)
    (displayTxid : String) :
    (broadcastElectrsIdempotent key electrsUrl raw displayTxid).Calls Unwritten := by
  have hknown : (electrsHasTransaction electrsUrl displayTxid).Calls Unwritten := by
    simp [electrsHasTransaction, http, invoke, calls_bind, Unwritten]
  have hpost : (broadcastElectrs key electrsUrl raw).Calls Unwritten := by
    simp [broadcastElectrs, http, invoke, calls_bind, Unwritten]
  apply Calls.bind hknown
  intro known
  simp only [calls_ite]
  refine ⟨fun _ => trivial, fun _ => Calls.bind (calls_attempt.mpr hpost) fun answer => ?_⟩
  cases answer with
  | ok returned => simp
  | error e => exact Calls.bind hknown fun known => by simp

theorem completeBroadcastTransition_unwritten (batch : SnapshotBatch)
    (graph : PersistedWithdrawalGraph) :
    (completeBroadcastTransition batch graph).Calls Unwritten := by
  have hrequests : (setRequestStatuses batch .broadcast).Calls Unwritten :=
    Calls.forEach (fun _ => by simp [store, invoke, Unwritten]) _
  have hreservation : ∀ txid, (completeReservation graph.reservation txid).Calls Unwritten := by
    intro txid
    unfold completeReservation
    split <;> simp [store, invoke, Unwritten]
  simp [completeBroadcastTransition, store, invoke, calls_bind, hreservation, hrequests, Unwritten]

theorem markBatchBroadcast_unwritten (args : Args) (batch : SnapshotBatch) (reservationId : String)
    (signedBytes : ByteString) (rawHash internalTxid : FixedBytes 32) (displayTxid : String) :
    (markBatchBroadcast args batch reservationId signedBytes rawHash internalTxid
      displayTxid).Calls Unwritten := by
  have hload := (loadPersistedWithdrawalGraph_lookups batch).mono lookup_unwritten
  simp [markBatchBroadcast, calls_bind, broadcastElectrsIdempotent_unwritten, hload,
    completeBroadcastTransition_unwritten]

theorem fetchManagerSignatures_unwritten (baseUrl : String) (chain : UInt16) (emitter : Pubkey)
    (sequence : UInt64) : (fetchManagerSignatures baseUrl chain emitter sequence).Calls Unwritten := by
  simp [fetchManagerSignatures, http, invoke, calls_bind, Unwritten]

theorem pollManagerSignatures_unwritten (managerUrl : String) (emitter : Pubkey) (sequence : UInt64)
    (attempts : ℕ) :
    (pollManagerSignatures managerUrl emitter sequence attempts).Calls Unwritten := by
  induction attempts with
  | zero =>
    apply Calls.bind (calls_attempt.mpr (fetchManagerSignatures_unwritten _ _ _ _))
    intro response
    cases response <;> simp
  | succ attempts ih =>
    apply Calls.bind (calls_attempt.mpr (fetchManagerSignatures_unwritten _ _ _ _))
    intro response
    cases response <;> simp [ih]

theorem managerResponse_unwritten (args : Args) (managerUrl : String) (bridgeState : Pubkey)
    (sequence : UInt64) : (managerResponse args managerUrl bridgeState sequence).Calls Unwritten := by
  simp [managerResponse, waitForManagerSignatures, system, invoke, calls_bind,
    pollManagerSignatures_unwritten, fetchManagerSignatures_unwritten, Unwritten]

theorem registerUnsignedTransaction_unwritten (managerUrl : String) (emitter : Pubkey)
    (sequence : UInt64) (payload : ByteString) (prepared : PreparedTransaction) :
    (registerUnsignedTransaction managerUrl emitter sequence payload prepared).Calls Unwritten := by
  simp [registerUnsignedTransaction, http, invoke, calls_bind, Unwritten]

theorem fetchSignedVaa_unwritten (baseUrl : String) (chain : UInt16) (emitter : Pubkey)
    (sequence : UInt64) : (fetchSignedVaa baseUrl chain emitter sequence).Calls Unwritten := by
  simp [fetchSignedVaa, http, invoke, calls_bind, Unwritten]

section
variable [Hashes] [Base58Check] [BlockHashText] [TxoConstants]

theorem resumeBroadcastBatch_unwritten (args : Args) (batch : SnapshotBatch)
    (payload : Utx0UnlockPayload) : (resumeBroadcastBatch args batch payload).Calls Unwritten := by
  have hload := (loadPersistedWithdrawalGraph_lookups batch).mono lookup_unwritten
  have hrequests : (checkRequests batch .broadcast "broadcast").Calls Unwritten :=
    Calls.forEach (fun _ => by simp [found, store, invoke, calls_bind, Unwritten]) _
  simp [resumeBroadcastBatch, found, store, invoke, calls_bind, hload, hrequests,
    fetchConfirmedWithdrawal_unwritten, Unwritten]

end

/-! The quorum. -/

/-- Both sets that a run may use are five of seven. -/
theorem managerSetForIndex_quorum {index : UInt32} {set : ManagerSet}
    (h : managerSetForIndex index = .ok set) : set.m = 5 ∧ set.n = 7 ∧ set.pubkeys.length = 7 := by
  rw [managerSetForIndex] at h
  split_ifs at h
  · cases h
    exact ⟨rfl, rfl, rfl⟩
  · obtain ⟨body, hdecode, hsize⟩ := ManagerSet.officialText
    obtain ⟨official, hparse, hserialize⟩ :=
      ManagerSet.serialize_parse (m := 5) (n := 7) hsize
    rw [officialTestnetManagerSet1, hdecode] at h
    have hset : ManagerSet.parse (1 :: 5 :: 7 :: body) = .ok set := h
    rw [hparse, Except.ok.injEq] at hset
    rw [← hset]
    obtain ⟨-, hm, hn, hbody⟩ : (0 : UInt8) = 0 ∧ official.m = 5 ∧ official.n = 7 ∧
        official.pubkeys.flatMap List.Vector.toList = body := by
      simpa [ManagerSet.serialize] using hserialize
    have hlength := congrArg List.length hbody
    rw [List.length_flatMap, hsize] at hlength
    refine ⟨hm, hn, ?_⟩
    simp at hlength
    omega
  · cases h

theorem assertVaaAndManager_metadata [Hashes] {signedVaa : ByteString} {signatures : ManagerSignatures}
    {emitter : Pubkey} {sequence : UInt64} {payload : Utx0UnlockPayload} {managerSet : ManagerSet}
    (h : assertVaaAndManager signedVaa signatures emitter sequence payload managerSet = .ok ()) :
    signatures.required = managerSet.m.toUInt32 ∧ signatures.total = managerSet.n.toUInt32 := by
  obtain ⟨matched, -, h⟩ := bind_eq_ok.mp h
  obtain ⟨-, h⟩ := guard_bind_eq_ok.mp h
  obtain ⟨vaa, -, h⟩ := bind_eq_ok.mp h
  obtain ⟨identified, -, h⟩ := bind_eq_ok.mp h
  obtain ⟨-, h⟩ := guard_bind_eq_ok.mp h
  have hmetadata := guard_eq_ok.mp h
  simp only [not_or, not_not] at hmetadata
  exact ⟨hmetadata.2.2.1, hmetadata.2.2.2⟩

section
variable [Hashes] {args : Args} {bridgeState : Pubkey} {batch : SnapshotBatch}
  {payload : Utx0UnlockPayload} {managerSet : ManagerSet} {prepared : PreparedTransaction}

/-- What is prepared pays out something, and is the reservation's. -/
theorem prepared_facts [Base58Check] {reservation : CustodyReservation} {persisted : Option ByteString}
    (h : preparedFromReservation args bridgeState payload managerSet reservation persisted =
      .ok prepared) :
    payload.outputs ≠ [] ∧ WellFormed prepared.transaction ∧
      prepared.reservationId = reservation.reservationId := by
  obtain ⟨withdrawalSats, plan, hchecks, -, rfl⟩ := preparedFromReservation_eq_ok.mp h
  have hsats : withdrawalSats ≠ 0 := (planCustodyTransaction_eq_ok.mp hchecks.planned).1
  refine ⟨payload_outputs_ne_nil hchecks.sum hsats, built_wellFormed _ ?_, rfl⟩
  rw [ne_eq, List.map_eq_nil_iff]
  exact hchecks.nonempty

variable [Secp256k1]

theorem signedByQuorum {index : UInt32} {signedVaa : ByteString} {signatures : ManagerSignatures}
    (hset : managerSetForIndex index = .ok managerSet) (hwellFormed : WellFormed prepared.transaction)
    (hassert : assertVaaAndManager signedVaa signatures bridgeState batch.wormholeSequence payload
      managerSet = .ok ())
    (hverdict : (applyManagerSignatures prepared.transaction signatures managerSet).1 = .ok ()) :
    SignedByQuorum signatures := by
  obtain ⟨hm, hn, hkeys⟩ := managerSetForIndex_quorum hset
  obtain ⟨hrequired, htotal⟩ := assertVaaAndManager_metadata hassert
  have haccepts : Accepts prepared.transaction managerSet signatures.signatures := by
    by_contra hrefused
    obtain ⟨error, hrefuse⟩ := applyManagerSignatures_refused hwellFormed hrefused
    rw [hrefuse] at hverdict
    cases hverdict
  rw [hm] at hrequired
  rw [hn] at htotal
  refine ⟨hrequired, htotal, haccepts.distinct, ?_, ?_⟩
  · rw [← hkeys]
    exact haccepts.inRange
  · have hquorum := haccepts.quorum
    rwa [hm] at hquorum

/-- Signatures are obtained for the prepared transaction, from a quorum. -/
theorem obtainSignatures_returns {index : UInt32} {signed : SignedSnapshot}
    (hset : managerSetForIndex index = .ok managerSet) (hwellFormed : WellFormed prepared.transaction)
    (h : (obtainSignatures args bridgeState batch payload managerSet prepared).Returns signed) :
    signed.prepared = prepared ∧ SignedByQuorum signed.signatures := by
  obtain ⟨managerUrl, -, h⟩ := returns_bind h
  obtain ⟨_, -, h⟩ := returns_bind h
  obtain ⟨signatures, -, h⟩ := returns_bind h
  obtain ⟨signedVaa, -, h⟩ := returns_bind h
  obtain ⟨_, hassert, h⟩ := returns_bind h
  obtain ⟨_, hverdict, h⟩ := returns_bind h
  cases h
  exact ⟨rfl, signedByQuorum hset hwellFormed hassert hverdict⟩

theorem obtainSignatures_unwritten :
    (obtainSignatures args bridgeState batch payload managerSet prepared).Calls Unwritten := by
  simp [obtainSignatures, onlyIf, calls_bind, registerUnsignedTransaction_unwritten,
    managerResponse_unwritten, fetchSignedVaa_unwritten]

end

/-! The verdict on what is written. -/

section
variable [FloatLiterals] [Hashes] {args : Args} {bridgeState : Pubkey} {batch : SnapshotBatch}
  {payload : Utx0UnlockPayload}

theorem unwritten_verdict (op : Op) (h : Unwritten op) : EvidenceVerdict args batch op := by
  cases op with
  | system op =>
    cases op with
    | writeFile path contents => exact h.elim
    | _ => trivial
  | _ => trivial

theorem writeEvidence_verdict {path : String} {evidence : Evidence}
    (h : isOk (validateWithdrawalEvidence (evidenceFields evidence)) = true ↔
      Completable args batch ∧ Evident batch) :
    (writeEvidence path evidence).CallsGiven FoundById (EvidenceVerdict args batch) := by
  refine callsGiven_invoke_bind trivial fun _ _ => Calls.given ?_
  rw [calls_withContext, system, calls_invoke]
  exact ⟨evidenceFields evidence, toJson_eq evidence, h⟩

/-- A signed batch leaves evidence that is refused. -/
theorem resumeSignedBatch_verdict {graph : PersistedWithdrawalGraph} (hsigned : batch.status = .signed) :
    (resumeSignedBatch args batch payload graph).CallsGiven FoundById
      (EvidenceVerdict args batch) := by
  refine callsGiven_done_bind fun signedBytes _ => ?_
  refine callsGiven_done_bind fun _ _ => ?_
  refine callsGiven_done_bind fun _ _ => ?_
  have hmark : (onlyIf args.broadcastEnabled (markBatchBroadcast args batch
      graph.reservation.reservationId signedBytes (hashSha256 signedBytes) (doubleSha256 signedBytes)
      (hexEncode (doubleSha256 signedBytes).reverse.toList))).Calls Unwritten := by
    simp [onlyIf, markBatchBroadcast_unwritten]
  refine (hmark.mono unwritten_verdict).given.bind fun _ _ => writeEvidence_verdict ?_
  rw [resumedEvidence_refused]
  exact iff_of_false Bool.false_ne_true fun h => h.2.unsigned hsigned

theorem persistAndBroadcast_verdict {signed : SignedSnapshot} {reservationId : String}
    (hparse : Utx0UnlockPayload.parse batch.payload = .ok payload) (hunsigned : batch.status ≠ .signed)
    (hfilled : payload.outputs ≠ []) (hquorum : SignedByQuorum signed.signatures)
    (hreserved : batch.reservationId = some reservationId)
    (hreservation : signed.prepared.reservationId = reservationId) :
    (persistAndBroadcast args batch payload signed).CallsGiven FoundById
      (EvidenceVerdict args batch) := by
  have hmark : (onlyIf args.broadcastEnabled (markBatchBroadcast args batch
      signed.prepared.reservationId signed.transaction.serialize
      (hashSha256 signed.transaction.serialize) (doubleSha256 signed.transaction.serialize)
      (hexEncode signed.transaction.txid.toList))).Calls Unwritten := by
    simp [onlyIf, markBatchBroadcast_unwritten]
  have hamounts : (∀ output ∈ payload.outputs, 0 < output.amount) ↔
      ∀ parsed, Utx0UnlockPayload.parse batch.payload = .ok parsed →
        ∀ output ∈ parsed.outputs, 0 < output.amount := by
    simp [hparse]
  have hcustody : signed.prepared.reservationId ≠ "" ↔ batch.reservationId ≠ some "" := by
    rw [hreserved, hreservation, ne_eq, ne_eq, Option.some.injEq]
  refine callsGiven_invoke_bind trivial fun _ _ => ?_
  refine (hmark.mono unwritten_verdict).given.bind fun _ _ => ?_
  refine callsGiven_done_bind fun managerUrl _ => writeEvidence_verdict ?_
  rw [signedEvidence_accepted_iff hparse hfilled hquorum, hamounts, hcustody]
  constructor
  · rintro ⟨⟨hnamed, hslot, hrange, hsafe⟩, hpositive, hbroadcast, hid⟩
    exact ⟨⟨hbroadcast, hslot, hid, hpositive⟩, hunsigned, hnamed, hrange, hsafe⟩
  · rintro ⟨hcompletable, hevident⟩
    exact ⟨⟨hevident.named, hcompletable.confirmed, hevident.range, hevident.safe⟩,
      hcompletable.amounts, hcompletable.broadcasts, hcompletable.reserved⟩

/-- A batch signed by the run leaves evidence that is accepted whenever it suffices. -/
theorem signSnapshotBatch_verdict [Base58Check] [Secp256k1]
    (hparse : Utx0UnlockPayload.parse batch.payload = .ok payload)
    (hunsigned : batch.status ≠ .signed) :
    (signSnapshotBatch args bridgeState batch payload).CallsGiven FoundById
      (EvidenceVerdict args batch) := by
  refine callsGiven_done_bind fun managerSet hset => ?_
  refine callsGiven_done_bind fun reservationId hreserved => ?_
  refine ⟨trivial, fun answer hfound => ?_⟩
  cases answer with
  | error e => trivial
  | ok record =>
    refine callsGiven_done_bind fun reservation hrecord => ?_
    cases orBail_eq_ok.mp hrecord
    refine callsGiven_done_bind fun unsigned _ => ?_
    refine callsGiven_done_bind fun prepared hprepared => ?_
    obtain ⟨hfilled, hwellFormed, hid⟩ := prepared_facts hprepared
    refine (obtainSignatures_unwritten.mono unwritten_verdict).given.bind fun signed hsigned => ?_
    obtain ⟨rfl, hquorum⟩ := obtainSignatures_returns hset hwellFormed hsigned
    exact persistAndBroadcast_verdict hparse hunsigned hfilled hquorum (orBail_eq_ok.mp hreserved)
      (hid.trans hfound)

variable [Base58Check] [BlockHashText] [TxoConstants]

theorem continueSigned_verdict (hsigned : batch.status = .signed) :
    (continueSigned args batch payload).CallsGiven FoundById (EvidenceVerdict args batch) := by
  have hload : (loadPersistedWithdrawalGraph batch).Calls Unwritten :=
    (loadPersistedWithdrawalGraph_lookups batch).mono lookup_unwritten
  have hcomplete : (loadCompleteSignedGraph batch).Calls Unwritten :=
    (loadCompleteSignedGraph_lookups batch).mono lookup_unwritten
  refine (hload.mono unwritten_verdict).given.bind fun graph _ => ?_
  split
  · have hfinish : (do
        completeBroadcastTransition batch graph
        let broadcastBatch ← found (store (.snapshotBatchBySignature batch.solanaSignature))
          "broadcast snapshot batch disappeared"
        resumeBroadcastBatch args broadcastBatch payload : Flow Unit).Calls Unwritten := by
      simp [found, store, invoke, calls_bind, completeBroadcastTransition_unwritten,
        resumeBroadcastBatch_unwritten, Unwritten]
    exact (hfinish.mono unwritten_verdict).given
  · exact (hcomplete.mono unwritten_verdict).given.bind fun graph _ =>
      resumeSignedBatch_verdict hsigned

variable [Secp256k1]

/-- Evidence is accepted exactly when the batch is one that can complete, it is not resumed at the
signed stage and the numbers it names fit the schema. -/
theorem evidence_accepted_iff (args : Args) (bridgeState : Pubkey) (batch : SnapshotBatch) :
    (continueSnapshotBatch args bridgeState batch).CallsGiven FoundById
      (EvidenceVerdict args batch) := by
  refine callsGiven_done_bind fun payload hparse => ?_
  refine callsGiven_done_bind fun _ _ => ?_
  split
  · exact ((resumeBroadcastBatch_unwritten args batch payload).mono unwritten_verdict).given
  · exact continueSigned_verdict ‹_›
  · rename_i hunsigned
    exact signSnapshotBatch_verdict hparse fun h => hunsigned h

end

section
open Localnet Digests BroadcastRecovery WaitingDaemon

/-- The evidence of the local batch names integers only. -/
local instance : FloatLiterals := ⟨fun _ => none⟩

/-- The store is served, Electrs knows the transaction, and the files that are written are kept. -/
noncomputable def filing : Handler Op.Answer ErrorChain (StoreView × List Value)
  | .store op, (v, files) =>
    ((serve (heldBatch .signed) op v).1, (serve (heldBatch .signed) op v).2, files)
  | .http (.get _), w => (.ok mempoolAnswer, w)
  | .http _, w => (bail "busy", w)
  | .rpc _, w => (bail "busy", w)
  | .system (.createParentDirectory _), w => (.ok (), w)
  | .system (.writeFile _ contents), (v, files) => (.ok (), v, files ++ [contents])
  | .system _, w => (bail "busy", w)

theorem filing_lookup (v : StoreView) (files : List Value) (op : Op) (h : IsLookupCall op) :
    filing op (v, files) = (lookupOracle v op, (v, files)) := by
  cases op with
  | store op =>
    have hserve : serve (heldBatch .signed) op v = (lookups v op, v) := serve_lookup h
    simp only [filing, hserve]
    rfl
  | _ => exact h.elim

theorem completeBroadcastTransition_filing : ∃ v',
    (completeBroadcastTransition (heldBatch .signed) (signedGraph localRaw)).runWith filing
        (signedView localRaw, []) = (.ok (), v', []) ∧
      v'.batch localKey = some (heldBatch .broadcast) := by
  refine ⟨_, rfl, ?_⟩
  have hstored : (signedView localRaw).batch localKey = some (heldBatch .signed) :=
    (signedView_oldest localRaw).stored
  have hkey : (heldBatch .signed).solanaSignature = localKey := rfl
  simp only [serve, hkey, StoreView.setBatchStatus, StoreView.setRequestStatus,
    StoreView.setProcessStatus, StoreView.setTransactionStatus, StoreView.markReservation,
    Function.update_self, hstored]
  rfl

/-- A transaction that is known already is not posted again. -/
theorem markBatchBroadcast_known {σ : Type} {handler : Handler Op.Answer ErrorChain σ} {w w' : σ}
    {args : Args} {batch : SnapshotBatch} {graph : PersistedWithdrawalGraph}
    {reservationId displayTxid : String} {raw : ByteString} {rawHash internalTxid : FixedBytes 32}
    (hknown : (electrsHasTransaction args.electrsUrl displayTxid).runWith handler w = (.ok true, w))
    (hload : (loadPersistedWithdrawalGraph batch).runWith handler w = (.ok graph, w))
    (hidentity : ¬ (graph.reservation.reservationId ≠ reservationId ∨
      graph.transaction.rawHash ≠ rawHash ∨ graph.transaction.txid ≠ some internalTxid))
    (hcomplete : (completeBroadcastTransition batch graph).runWith handler w = (.ok (), w')) :
    (markBatchBroadcast args batch reservationId raw rawHash internalTxid displayTxid).runWith handler
      w = (.ok (), w') := by
  simp [markBatchBroadcast, broadcastElectrsIdempotent, hknown, hload, bailIf_of_not hidentity,
    hcomplete]

/-- Once the transaction is broadcast its evidence is written. -/
theorem continueSigned_posted {σ : Type} {handler : Handler Op.Answer ErrorChain σ} {w w' : σ}
    {args : Args} {batch : SnapshotBatch} {payload : Utx0UnlockPayload}
    {graph : PersistedWithdrawalGraph} {raw : ByteString}
    (hload : (loadPersistedWithdrawalGraph batch).runWith handler w = (.ok graph, w))
    (hcomplete : (loadCompleteSignedGraph batch).runWith handler w = (.ok graph, w))
    (hstarted : ¬ broadcastTransitionStarted graph = true)
    (hraw : graph.transaction.rawTransaction = some raw)
    (hhash : ¬ hashSha256 raw ≠ graph.transaction.rawHash)
    (htxid : ¬ graph.transaction.txid ≠ some (doubleSha256 raw))
    (hbroadcast : args.broadcastEnabled = true)
    (hmark : (markBatchBroadcast args batch graph.reservation.reservationId raw (hashSha256 raw)
      (doubleSha256 raw) (hexEncode (doubleSha256 raw).reverse.toList)).runWith handler w =
        (.ok (), w')) :
    (continueSigned args batch payload).runWith handler w =
      (writeEvidence args.evidencePath (resumedEvidence args batch payload raw
        (hexEncode (doubleSha256 raw).reverse.toList) graph.reservation.reservationId)).runWith
          handler w' := by
  rw [continueSigned_verified hload hcomplete hstarted hraw hhash htxid, onlyIf, if_pos hbroadcast,
    runWith_bind, hmark]

/-- An answer that names the transaction. -/
theorem electrsHasTransaction_known {σ : Type} {handler : Handler Op.Answer ErrorChain σ} {w : σ}
    {electrsUrl displayTxid : String} {answer : HttpAnswer}
    (hget : ∀ url, handler (.http (.get url)) w = (.ok answer, w)) (hstatus : answer.status = 200)
    (htxid : (answer.json >>= fun json => asFields ["txid"] json >>= required "txid" asString) =
      .ok displayTxid) :
    (electrsHasTransaction electrsUrl displayTxid).runWith handler w = (.ok true, w) := by
  have hsuccess : answer.isSuccess = true := by simp [HttpAnswer.isSuccess, hstatus]
  simp [electrsHasTransaction, withContext, http, invoke, hget, hstatus, hsuccess, htxid, bailIf,
    eqIgnoreAsciiCase_refl, Except.mapError, context]

theorem mempoolAnswer_txid :
    (mempoolAnswer.json >>= fun json => asFields ["txid"] json >>= required "txid" asString) =
      .ok localTxid := rfl

theorem writeEvidence_filing (path : String) (evidence : Evidence) (v : StoreView)
    (files : List Value) : (writeEvidence path evidence).runWith filing (v, files) =
      (.ok (), v, files ++ [.object (evidenceFields evidence)]) := rfl

/-- A batch resumed at its signed stage is posted and marked broadcast, and the evidence of it is
refused. -/
theorem resumed_evidence_refused : ∃ v' evidence,
    (continueSnapshotBatch localArgs localBridgeState (heldBatch .signed)).runWith filing
        (signedView localRaw, []) = (.ok (), v', [.object evidence]) ∧
      v'.batch localKey = some (heldBatch .broadcast) ∧
      property evidence "schema" = some (.string "doge-process-withdrawal-v5-durable-snapshot") ∧
      property evidence "completed" = some (.bool true) ∧
      Completable localArgs (heldBatch .signed) ∧
      isOk (validateWithdrawalEvidence evidence) = false := by
  have hsigned : SignedGraph (signedView localRaw) (heldBatch .signed) (signedGraph localRaw) :=
    signedView_graph localRaw
  have hload : (loadPersistedWithdrawalGraph (heldBatch .signed)).runWith filing
      (signedView localRaw, []) = (.ok (signedGraph localRaw), signedView localRaw, []) := by
    rw [runWith_oracle (loadPersistedWithdrawalGraph_lookups _) (filing_lookup _ _),
      loadPersistedWithdrawalGraph_eq_ok.mpr hsigned.persisted]
  have hcomplete : (loadCompleteSignedGraph (heldBatch .signed)).runWith filing
      (signedView localRaw, []) = (.ok (signedGraph localRaw), signedView localRaw, []) := by
    rw [runWith_oracle (loadCompleteSignedGraph_lookups _) (filing_lookup _ _),
      loadCompleteSignedGraph_eq_ok.mpr hsigned]
  have hstarted : ¬ broadcastTransitionStarted (signedGraph localRaw) = true := by
    simp [not_started_of_signed hsigned.signed]
  have hidentity : ¬ ((signedGraph localRaw).reservation.reservationId ≠
      (signedGraph localRaw).reservation.reservationId ∨
      (signedGraph localRaw).transaction.rawHash ≠ hashSha256 localRaw ∨
      (signedGraph localRaw).transaction.txid ≠ some (doubleSha256 localRaw)) := by
    simp [signedGraph, signedTransactionRecord]
  obtain ⟨v', htransition, hbatch⟩ := completeBroadcastTransition_filing
  have hmark : (markBatchBroadcast localArgs (heldBatch .signed)
      (signedGraph localRaw).reservation.reservationId localRaw (hashSha256 localRaw)
      (doubleSha256 localRaw) (hexEncode (doubleSha256 localRaw).reverse.toList)).runWith filing
        (signedView localRaw, []) = (.ok (), v', []) :=
    markBatchBroadcast_known (electrsHasTransaction_known (fun _ => rfl) rfl mempoolAnswer_txid) hload
      hidentity htransition
  refine ⟨v', evidenceFields (resumedEvidence localArgs (heldBatch .signed) localPayload localRaw
    (hexEncode (doubleSha256 localRaw).reverse.toList)
    (signedGraph localRaw).reservation.reservationId), ?_, hbatch, rfl, rfl, ?_,
    resumedEvidence_refused⟩
  · rw [continueSnapshotBatch_of_identity (heldBatch_payload .signed)]
    change (continueSigned _ _ _).runWith _ _ = _
    rw [continueSigned_posted hload hcomplete hstarted rfl (not_not.mpr rfl) (not_not.mpr rfl) rfl
      hmark]
    exact writeEvidence_filing _ _ _ _
  · refine ⟨rfl, by decide, ?_, ?_⟩
    · simp [heldBatch, localReservation]
    · intro payload hparse
      cases (heldBatch_payload .signed).parsed.symm.trans hparse
      simp [localPayload]

end

end DogeOperator.EvidenceRuns
