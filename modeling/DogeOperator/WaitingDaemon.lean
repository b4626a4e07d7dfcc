import DogeOperator.BroadcastRecovery
import DogeOperator.DispatchedArgs
import DogeOperator.PollFailures

/-! A daemon whose oldest batch waits for its Dogecoin confirmation: every poll cycle counts as a
failure, and the loop gives up at the threshold. -/
namespace DogeOperator.WaitingDaemon
open Bytes Outcome Crypto Utx0 Network Prepare Records Confirm Json Store Operations Solana Electrs
  DogeOperator.Graph Resume Withdraw Program Footprint GraphSpec Daemon PollFailures

/-- The answer describes no confirmed transaction. -/
def Unconfirmed (answer : HttpAnswer) : Prop :=
  ∀ transaction, answer.json >>= ElectrsWithdrawalTransaction.fromJson = .ok transaction →
    transaction.status.confirmed = false

section
variable {σ : Type}

/-- While the world is such, the oldest incomplete batch is broadcast and Electrs does not report it
confirmed; asking changes nothing about that. -/
structure Waits (exec : Exec Op.Answer ErrorChain σ) (W : σ → Prop) : Prop where
  quiet : ∀ op w answer w', Quiet op → exec op w answer w' → W w → W w'
  oldest : ∀ w found w', W w → exec (.store .oldestIncompleteSnapshotBatch) w (.ok found) w' →
    ∃ batch, found = some batch ∧ batch.status = .broadcast
  unconfirmed : ∀ url w answer w', W w → exec (.http (.get url)) w (.ok answer) w' →
    Unconfirmed answer

variable {exec : Exec Op.Answer ErrorChain σ} {W : σ → Prop} {w : σ} {α β : Type}

/-- The world still waits, and the program has failed. -/
def Failed (W : σ → Prop) (result : Result α) (w : σ) : Prop := W w ∧ ∃ error, result = .error error

theorem failed_error {error : ErrorChain} (hw : W w) : Failed W (.error error : Result α) w :=
  ⟨hw, error, rfl⟩

theorem after_quiet (hwaits : Waits exec W) {p : Flow α} {f : α → Flow β} (hw : W w)
    (hcalls : p.Calls Quiet) (hf : ∀ a w, W w → Safe exec W (Failed W) (f a) w) :
    Safe exec W (Failed W) (p.bind f) w :=
  (Safe.of_calls hcalls hwaits.quiet hw).bind (fun a w' hw' => hf a w' hw')
    fun _ _ hw' => failed_error hw'

theorem after_failed {p : Flow α} {f : α → Flow β} (hp : Safe exec W (Failed W) p w) :
    Safe exec W (Failed W) (p.bind f) w :=
  hp.bind (fun _ _ h => by rcases h.2 with ⟨_, ⟨⟩⟩) fun _ _ h => failed_error h.1

/-- The oldest incomplete batch is read, and it is a broadcast one. -/
theorem after_oldest (hwaits : Waits exec W) (hw : W w) {f : Option SnapshotBatch → Flow β}
    (hf : ∀ batch w, W w → batch.status = .broadcast → Safe exec W (Failed W) (f (some batch)) w) :
    Safe exec W (Failed W) ((store .oldestIncompleteSnapshotBatch).bind f) w := by
  intro answer w' hexec
  have hw' : W w' := hwaits.quiet _ w answer w' trivial hexec hw
  refine ⟨hw', ?_⟩
  cases answer with
  | error error => exact failed_error hw'
  | ok incomplete =>
    rcases hwaits.oldest w incomplete w' hw hexec with ⟨batch, rfl, hbatch⟩
    exact hf batch w' hw' hbatch

theorem electrsGetJson_waits (hwaits : Waits exec W) (hw : W w) (url : String) :
    Safe exec W (fun result w' => W w' ∧ ∀ transaction, result = .ok transaction →
        transaction.status.confirmed = false)
      (electrsGetJson ElectrsWithdrawalTransaction.fromJson url) w := by
  have hget : Safe exec W (fun result w' => W w' ∧ ∀ answer, result = .ok answer →
      Unconfirmed answer) (withContext s!"GET {url}" (http (.get url))) w := by
    apply safe_mapError.mpr
    intro answer w' hexec
    have hw' : W w' := hwaits.quiet _ w answer w' trivial hexec hw
    refine ⟨hw', hw', fun a ha => ?_⟩
    rw [mapError_eq_ok.mp ha] at hexec
    exact hwaits.unconfirmed url w a w' hw hexec
  refine hget.bind (fun answer w₁ h₁ => ?_) fun _ _ h => ⟨h.1, fun _ h => by cases h⟩
  simp only [Program.bind_eq, bailIf]
  split
  · exact ⟨h₁.1, fun _ h => by cases h⟩
  · refine ⟨h₁.1, fun transaction htransaction => ?_⟩
    exact h₁.2 answer rfl transaction (mapError_eq_ok.mp (context_eq_ok.mp htransaction))

/-- Electrs is asked for the transaction, and it is not confirmed. -/
theorem fetchConfirmedWithdrawal_waits [BlockHashText] (hwaits : Waits exec W) (hw : W w)
    (electrsUrl displayTxid : String) :
    Safe exec W (fun result w' => W w' ∧ ∀ confirmed, result = .ok confirmed → confirmed = none)
      (fetchConfirmedWithdrawal electrsUrl displayTxid) w := by
  refine (electrsGetJson_waits hwaits hw _).bind (fun transaction w₁ h₁ => ?_)
    fun _ _ h => ⟨h.1, fun _ h => by cases h⟩
  have hunconfirmed : ¬ transaction.status.confirmed = true := by simp [h₁.2 transaction rfl]
  simp only [Program.bind_eq, bailIf, if_pos hunconfirmed]
  split
  · exact ⟨h₁.1, fun _ h => by cases h⟩
  · exact ⟨h₁.1, fun _ h => (Except.ok.inj h).symm⟩

section
variable [Hashes] [Base58Check] [BlockHashText] [TxoConstants]

/-- A broadcast batch is not finalized. -/
theorem resumeBroadcastBatch_fails (hwaits : Waits exec W) (hw : W w) (args : Prepare.Args)
    (batch : SnapshotBatch) (payload : Utx0UnlockPayload) :
    Safe exec W (Failed W) (resumeBroadcastBatch args batch payload) w := by
  refine after_quiet hwaits hw (loadPersistedWithdrawalGraph_quiet batch) fun graph w hw => ?_
  refine after_quiet hwaits hw trivial fun signedBytes w hw => ?_
  refine after_quiet hwaits hw trivial fun internalTxid w hw => ?_
  refine after_quiet hwaits hw trivial fun _ w hw => ?_
  refine after_quiet hwaits hw trivial fun _ w hw => ?_
  refine after_quiet hwaits hw (checkRequests_quiet batch .broadcast "broadcast") fun _ w hw => ?_
  refine after_failed ((fetchConfirmedWithdrawal_waits hwaits hw _ _).bind (fun confirmed w h => ?_)
    fun _ _ h => failed_error h.1)
  rw [h.2 confirmed rfl]
  exact failed_error h.1

variable [SolanaSdk] [UrlParser] [Secp256k1]

omit [UrlParser] in
theorem resumeSnapshotBatch_fails (hwaits : Waits exec W) (hw : W w) (args : Prepare.Args)
    (bridgeState : Pubkey) {batch : SnapshotBatch} (hbatch : batch.status = .broadcast) :
    Safe exec W (Failed W) (resumeSnapshotBatch args bridgeState batch) w := by
  have hobserved : ¬ batch.status = .observed := by simp [hbatch]
  rw [resumeSnapshotBatch, if_neg hobserved]
  refine after_quiet hwaits hw trivial fun payload w hw => ?_
  refine after_quiet hwaits hw trivial fun _ w hw => ?_
  rw [hbatch]
  exact resumeBroadcastBatch_fails hwaits hw args batch payload

/-- A withdraw run with any arguments. -/
theorem runWithStore_fails (hwaits : Waits exec W) (hw : W w) (args : Prepare.Args) :
    Safe exec W (Failed W) (runWithStore args) w := by
  have hkeypair : ∀ path role, (readKeypair path role).Calls Quiet := by
    intro path role
    simp [readKeypair, system, invoke, Quiet]
  refine after_quiet hwaits hw trivial fun _ w hw => ?_
  refine after_quiet hwaits hw trivial fun _ w hw => ?_
  refine after_quiet hwaits hw trivial fun _ w hw => ?_
  refine after_quiet hwaits hw (hkeypair _ _) fun operator w hw => ?_
  refine after_quiet hwaits hw (hkeypair _ _) fun payer w hw => ?_
  refine after_oldest hwaits hw fun batch w hw hbatch => ?_
  refine after_quiet hwaits hw trivial fun _ w hw => ?_
  exact resumeSnapshotBatch_fails hwaits hw args _ hbatch

/-- A poll cycle. -/
theorem pollOnce_fails (hwaits : Waits exec W) (hw : W w) (args : Daemon.Args)
    (client : BridgeClient) : Safe exec W (Failed W) (pollOnce args client) w := by
  refine after_oldest hwaits hw fun batch w hw _ => ?_
  refine after_quiet hwaits hw trivial fun withdrawArgs w hw => ?_
  refine safe_mapError.mpr ((runWithStore_fails hwaits hw withdrawArgs).imp fun result w' h => ?_)
  rcases h with ⟨hw', error, rfl⟩
  exact failed_error hw'

end

variable [Hashes] [Base58Check] [BlockHashText] [TxoConstants] [SolanaSdk] [UrlParser] [Secp256k1]

/-- A daemon that waits for a confirmation returns an error exactly when it has waited for five
cycles. -/
theorem waiting_stops_iff (hwaits : Waits exec W) (hw : W w) (args : Daemon.Args)
    (client : BridgeClient) (cycles : ℕ) {result : Result Unit} {w' : σ}
    (hrun : Completes exec
      (pollLoop (pollOnce args client) cycles (PollFailureTracker.new pollFailureThreshold)) w result
      w') :
    (∃ error, result = .error error) ↔ 5 ≤ cycles := by
  obtain ⟨outcomes, hruns, hends⟩ := pollLoop_completes.mp hrun
  have herrors : ∀ outcome ∈ outcomes, ∃ error, outcome = .error error :=
    Safe.repeats (fun w hw => pollOnce_fails hwaits hw args client) hw hruns
  refine hends.error_iff (by decide) fun outcome houtcome => ?_
  obtain ⟨error, rfl⟩ := herrors outcome houtcome
  rfl

end

section
open Localnet Digests BroadcastRecovery Transition

def localView : StoreView := localOrigin.broadcast

def localTxid : String := hexEncode (doubleSha256 localRaw).reverse.toList

/-- Electrs has the transaction in its mempool. -/
def mempoolAnswer : HttpAnswer where
  status := 200
  text := ""
  json := .ok (.object [("txid", .string localTxid), ("vout", .array []),
    ("status", .object [("confirmed", .bool false)])])

/-- The store is served, every read of Electrs succeeds, and so does reading the keypairs. -/
noncomputable def mempool : Handler Op.Answer ErrorChain StoreView
  | .store op, v => serve (heldBatch .broadcast) op v
  | .http (.get _), v => (.ok mempoolAnswer, v)
  | .http _, v => (bail "busy", v)
  | .rpc _, v => (bail "busy", v)
  | .system (.readKeypairFile _), v => (.ok localOperator, v)
  | .system _, v => (bail "busy", v)

theorem localView_oldest : OldestIncomplete localView (heldBatch .broadcast) where
  stored := broadcast_allMoved localOrigin .batch trivial
  incomplete := by decide
  oldest := by
    intro key other hother _
    by_cases hkey : key = localKey
    · have hbatch := broadcast_allMoved localOrigin .batch trivial
      rw [hkey] at hother
      cases hother.symm.trans hbatch
      exact UInt64.le_refl _
    · have hbatch : (loneView (heldBatch .signed) heldReservation).batch key = some other := by
        rw [← hother]
        exact (Function.update_of_ne hkey _ _).symm
      rw [loneView_batch hbatch]
      exact UInt64.le_refl _

theorem mempool_lookup (v : StoreView) (op : Op) (h : IsLookupCall op) :
    mempool op v = (lookupOracle v op, v) := by
  cases op with
  | store op => exact serve_lookup h
  | _ => exact h.elim

theorem localView_graph :
    PersistedGraph localView (heldBatch .broadcast) localOrigin.broadcastGraph ∧
      ¬ BroadcastDrifted localOrigin.broadcastGraph localOrigin.txid ∧
      RequestsAre localView (heldBatch .broadcast) .broadcast := by
  refine ⟨broadcast_persisted localOrigin, ?_,
    (allMoved_broadcast (broadcast_allMoved localOrigin)).requests⟩
  simp [BroadcastDrifted, Origin.broadcastGraph, broadcastReservation]

theorem mempoolAnswer_decodes : ∃ transaction,
    mempoolAnswer.json >>= ElectrsWithdrawalTransaction.fromJson = .ok transaction ∧
      transaction.txid = localTxid ∧ transaction.status.confirmed = false := ⟨_, rfl, rfl, rfl⟩

theorem fetchConfirmedWithdrawal_mempool (electrsUrl : String) (v : StoreView) :
    (fetchConfirmedWithdrawal electrsUrl localTxid).runWith mempool v = (.ok none, v) := by
  rcases mempoolAnswer_decodes with ⟨transaction, hdecoded, htxid, hconfirmed⟩
  have hsuccess : mempoolAnswer.isSuccess = true := rfl
  simp [fetchConfirmedWithdrawal, electrsGetJson, withContext, http, invoke, mempool, Except.mapError,
    bailIf, hsuccess, hdecoded, htxid, hconfirmed, eqIgnoreAsciiCase_refl]

/-- A consistent broadcast graph whose transaction Electrs does not report confirmed. -/
theorem resumeBroadcastBatch_unconfirmed {σ : Type} {handler : Handler Op.Answer ErrorChain σ} {w : σ}
    {args : Prepare.Args} {batch : SnapshotBatch} {payload : Utx0UnlockPayload}
    {graph : PersistedWithdrawalGraph} {raw : ByteString} {txid : FixedBytes 32}
    (hload : (loadPersistedWithdrawalGraph batch).runWith handler w = (.ok graph, w))
    (hraw : graph.transaction.rawTransaction = some raw) (htxid : graph.transaction.txid = some txid)
    (hidentity : ¬ (hashSha256 raw ≠ graph.transaction.rawHash ∨ doubleSha256 raw ≠ txid))
    (hdrifted : ¬ BroadcastDrifted graph txid)
    (hcheck : (checkRequests batch .broadcast "broadcast").runWith handler w = (.ok (), w))
    (hfetch : (fetchConfirmedWithdrawal args.electrsUrl (hexEncode txid.reverse.toList)).runWith
      handler w = (.ok none, w)) :
    (resumeBroadcastBatch args batch payload).runWith handler w =
      (bail s!"broadcast Dogecoin transaction {hexEncode txid.reverse.toList} is not yet confirmed",
        w) := by
  simp only [resumeBroadcastBatch, Program.bind_eq, runWith_bind, hload, hraw, htxid, orBail_some,
    liftM_eq, done_ok_bind, bailIf_of_not hidentity, bailIf_of_not hdrifted, hcheck, found, hfetch]
  rfl

/-- The failure of a waiting cycle: nothing else has failed. -/
def notConfirmed : String := s!"broadcast Dogecoin transaction {localTxid} is not yet confirmed"

theorem resumeBroadcastBatch_mempool (args : Prepare.Args) :
    (resumeBroadcastBatch args (heldBatch .broadcast) localPayload).runWith mempool localView =
      (bail notConfirmed, localView) := by
  rcases localView_graph with ⟨hgraph, hdrifted, hrequests⟩
  have hload : (loadPersistedWithdrawalGraph (heldBatch .broadcast)).runWith mempool localView =
      (.ok localOrigin.broadcastGraph, localView) := by
    rw [runWith_oracle (loadPersistedWithdrawalGraph_lookups _) (mempool_lookup localView),
      loadPersistedWithdrawalGraph_eq_ok.mpr hgraph]
  have hcheck : (checkRequests (heldBatch .broadcast) .broadcast "broadcast").runWith mempool
      localView = (.ok (), localView) := by
    rw [runWith_oracle (checkRequests_lookups _ _ _) (mempool_lookup localView),
      checkRequests_eq_ok.mpr hrequests]
  have hidentity : ¬ (hashSha256 localRaw ≠ localOrigin.broadcastGraph.transaction.rawHash ∨
      doubleSha256 localRaw ≠ localOrigin.txid) := by
    simp [Origin.broadcastGraph, localOrigin, signedGraph, signedTransactionRecord]
  exact resumeBroadcastBatch_unconfirmed hload rfl rfl hidentity hdrifted hcheck
    (fetchConfirmedWithdrawal_mempool _ _)

theorem localResumed_admissible : AdmissibleArgs localResumed where
  network := localArgs_admissible.network
  selection := localArgs_admissible.selection
  bridgeState := localArgs_admissible.bridgeState

theorem localResumed_payload : PayloadIdentity localResumed (heldBatch .broadcast) localPayload :=
  ⟨(heldBatch_payload .broadcast).parsed, (heldBatch_payload .broadcast).identity⟩

/-- Not asked while there is a batch to resume. -/
def localClient : BridgeClient where
  getCurrentBridgeState := .done (bail "busy")

def waitingError : ErrorChain := ["process or resume withdrawal snapshot batch", notConfirmed]

theorem pollOnce_mempool :
    (pollOnce localDaemon localClient).runWith mempool localView = (.error waitingError, localView) := by
  have holdest : mempool (.store .oldestIncompleteSnapshotBatch) localView =
      (.ok (some (heldBatch .broadcast)), localView) := by
    simp only [mempool, serve, if_pos localView_oldest]
  have hkeypair : ∀ path, mempool (.system (.readKeypairFile path)) localView =
      (.ok localOperator, localView) := fun _ => rfl
  have hstatus : ¬ (heldBatch .broadcast).status = .observed := by decide
  have hbroadcast : (heldBatch .broadcast).status = .broadcast := rfl
  have hrun : (runWithStore localResumed).runWith mempool localView = (bail notConfirmed, localView) := by
    rw [runWithStore_resumes localResumed_admissible hkeypair holdest, resumeSnapshotBatch,
      if_neg hstatus, continueSnapshotBatch_of_identity localResumed_payload, hbroadcast]
    exact resumeBroadcastBatch_mempool localResumed
  simp only [pollOnce, store, invoke, Program.bind_eq, runWith_bind, runWith_call, runWith_done,
    holdest, dispatchWithdrawal, liftM_eq, localDaemon_dispatches, done_ok_bind, withContext,
    runWith_mapError, hrun]
  rfl

def stoppedError : ErrorChain :=
  ["process or resume withdrawal snapshot batch",
    s!"operator-daemon aborting after {pollFailureThreshold} consecutive poll failures"]

/-- The loop over these cycles is the count alone. -/
theorem pollLoop_mempool {failures : PollFailureTracker} {cycles : ℕ} :
    (pollLoop (pollOnce localDaemon localClient) (cycles + 1) failures).runWith mempool localView =
      if failures.recordFailure.1 then (.error stoppedError, localView)
      else (pollLoop (pollOnce localDaemon localClient) cycles failures.recordFailure.2).runWith mempool
        localView := by
  simp only [pollLoop, Program.bind_eq, runWith_bind, runWith_attempt, pollOnce_mempool]
  split <;> rfl

theorem mempoolAnswer_unconfirmed : Unconfirmed mempoolAnswer := by
  intro transaction htransaction
  rcases mempoolAnswer_decodes with ⟨decoded, hdecoded, -, hconfirmed⟩
  cases htransaction.symm.trans hdecoded
  exact hconfirmed

/-- Five cycles in which all that is wrong is that the transaction is not confirmed yet. -/
theorem fifth_cycle_stops :
    OldestIncomplete localView (heldBatch .broadcast) ∧
      PersistedGraph localView (heldBatch .broadcast) localOrigin.broadcastGraph ∧
      ¬ BroadcastDrifted localOrigin.broadcastGraph localOrigin.txid ∧
      RequestsAre localView (heldBatch .broadcast) .broadcast ∧
      (∀ url, mempool (.http (.get url)) localView = (.ok mempoolAnswer, localView)) ∧
      mempoolAnswer.isSuccess = true ∧ Unconfirmed mempoolAnswer ∧
      (pollOnce localDaemon localClient).runWith mempool localView =
        (.error waitingError, localView) ∧
      (pollLoop (pollOnce localDaemon localClient) 5
        (PollFailureTracker.new pollFailureThreshold)).runWith mempool localView =
          (.error stoppedError, localView) := by
  refine ⟨localView_oldest, localView_graph.1, localView_graph.2.1, localView_graph.2.2,
    fun _ => rfl, rfl, mempoolAnswer_unconfirmed, pollOnce_mempool, ?_⟩
  simp only [pollLoop_mempool]
  rfl

/-- The possible runs in that environment. -/
def mempoolExec : Exec Op.Answer ErrorChain StoreView :=
  fun op v answer v' => mempool op v = (answer, v')

theorem mempool_waits : Waits mempoolExec (· = localView) where
  quiet := by
    intro op v answer v' hquiet hexec hv
    have hsame : (mempool op v).2 = v := by
      cases op with
      | store op => cases op <;> first | rfl | exact hquiet.elim
      | rpc op => rfl
      | http op => cases op <;> rfl
      | system op => cases op <;> rfl
    rw [mempoolExec] at hexec
    rw [hexec] at hsame
    exact Eq.trans hsame hv
  oldest := by
    intro v found v' hv hexec
    have hserved : (mempool (.store .oldestIncompleteSnapshotBatch) v).1 =
        .ok (some (heldBatch .broadcast)) := by
      have holdest : OldestIncomplete v (heldBatch .broadcast) := by
        rw [show v = localView from hv]
        exact localView_oldest
      simp only [mempool, serve, if_pos holdest]
    rw [mempoolExec] at hexec
    rw [hexec] at hserved
    exact ⟨_, Except.ok.inj hserved, rfl⟩
  unconfirmed := by
    intro url v answer v' _ hexec
    cases hexec
    exact mempoolAnswer_unconfirmed

theorem waiting_stops_iff_local :
    (∃ error, ((pollLoop (pollOnce localDaemon localClient) 4
        (PollFailureTracker.new pollFailureThreshold)).runWith mempool localView).1 = .error error) ↔
      5 ≤ 4 := by
  have hexec : ∀ op v, True → mempoolExec op v (mempool op v).1 (mempool op v).2 ∧ True :=
    fun _ _ _ => ⟨rfl, trivial⟩
  exact waiting_stops_iff mempool_waits rfl localDaemon localClient 4
    (completes_runWith hexec _ trivial)

end

end DogeOperator.WaitingDaemon
