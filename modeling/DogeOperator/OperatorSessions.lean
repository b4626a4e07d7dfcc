import DogeOperator.BatchLifecycle
import DogeOperator.Daemon
import DogeOperator.SingleBroadcast

/-! Withdraw commands and daemon loops on one store, one after another under the operator lock, each
stopped anywhere. What every withdraw run keeps, and what questions to the services keep, all of them
keep. -/
namespace DogeOperator.OperatorSessions
open Bytes Outcome Crypto Network Prepare Records Confirm Store Operations Solana Electrs Withdraw Daemon
  Program Footprint Postings KeyedRecords BatchLifecycle Relation

section
variable [SolanaSdk] [UrlParser] [Hashes] [Base58Check] [Secp256k1] [BlockHashText] [TxoConstants]

/-- The programs that an operator starts: the withdraw command, or the daemon with a bridge client
that only asks. -/
inductive Operates : Flow Unit → Prop
  | withdraw (args : Prepare.Args) : Operates (runWithStore args)
  | daemon (args : Daemon.Args) (client : BridgeClient) (cycles : ℕ)
      (hclient : client.getCurrentBridgeState.Calls Quiet) :
      Operates (pollLoop (pollOnce args client) cycles (PollFailureTracker.new pollFailureThreshold))

/-- Kept by every withdraw run, and by every question. -/
structure KeptByRuns {σ : Type} (exec : Exec Op.Answer ErrorChain σ) (Inv : σ → Prop) : Prop where
  run : ∀ args w, Inv w → Safe exec Inv (fun _ => Inv) (runWithStore args) w
  quiet : ∀ op w answer w', Quiet op → exec op w answer w' → Inv w → Inv w'

variable {σ : Type} {exec : Exec Op.Answer ErrorChain σ} {Inv : σ → Prop} {w w₀ : σ}

theorem dispatchWithdrawal_kept (h : KeptByRuns exec Inv) (hw : Inv w) (args : Daemon.Args)
    (requestIndex : Option UInt64) (resume : Bool) :
    Safe exec Inv (fun _ => Inv) (dispatchWithdrawal args requestIndex resume) w := by
  refine after_done (fun withdrawArgs _ => ?_) fun _ => hw
  exact safe_mapError.mpr (h.run withdrawArgs w hw)

theorem pollOnce_kept (h : KeptByRuns exec Inv) (hw : Inv w) (args : Daemon.Args)
    {client : BridgeClient} (hclient : client.getCurrentBridgeState.Calls Quiet) :
    Safe exec Inv (fun _ => Inv) (pollOnce args client) w := by
  have holdest : Quiet (.store .oldestIncompleteSnapshotBatch) := trivial
  refine after_invoke (fun incomplete w₁ hexec => ?_) fun e w₁ hexec => ?_
  · have hw₁ := h.quiet _ _ _ _ holdest hexec hw
    refine ⟨hw₁, ?_⟩
    cases incomplete with
    | some batch => exact dispatchWithdrawal_kept h hw₁ args none true
    | none =>
      have hstate : Safe exec Inv (fun _ => Inv)
          (withContext "read current bridge state" client.getCurrentBridgeState) w₁ :=
        safe_mapError.mpr (Safe.of_calls hclient h.quiet hw₁)
      refine hstate.bind (fun state w₂ hw₂ => ?_) fun _ _ => id
      split
      · exact dispatchWithdrawal_kept h hw₂ args none true
      · exact dispatchWithdrawal_kept h hw₂ args _ false
      · exact hw₂
  · have hw₁ := h.quiet _ _ _ _ holdest hexec hw
    exact ⟨hw₁, hw₁⟩

omit [SolanaSdk] [UrlParser] [Hashes] [Base58Check] [Secp256k1] [BlockHashText] [TxoConstants] in
theorem pollLoop_kept {cycle : Flow Unit} (hcycle : ∀ w, Inv w → Safe exec Inv (fun _ => Inv) cycle w)
    (cycles : ℕ) (failures : PollFailureTracker) (hw : Inv w) :
    Safe exec Inv (fun _ => Inv) (pollLoop cycle cycles failures) w := by
  induction cycles generalizing w failures with
  | zero => exact hw
  | succ cycles ih =>
    have hattempt : Safe exec Inv (fun _ => Inv) cycle.attempt w := safe_attempt.mpr (hcycle w hw)
    refine hattempt.bind (fun outcome w₁ hw₁ => ?_) fun _ _ => id
    cases outcome with
    | ok _ => exact ih _ hw₁
    | error e =>
      dsimp only
      split
      · exact hw₁
      · exact ih _ hw₁

/-- What any sequence of operator programs keeps, wherever each of them stops. -/
theorem sessions_kept (h : KeptByRuns exec Inv) (hw₀ : Inv w₀)
    (hruns : Sessions exec (fun _ p => Operates p) w₀ w) : Inv w := by
  refine Sessions.invariant (fun w p hw hp => ?_) hw₀ hruns
  have hsafe : Safe exec Inv (fun _ => Inv) p w := by
    cases hp with
    | withdraw args => exact h.run args w hw
    | daemon args client cycles hclient =>
      exact pollLoop_kept (fun w hw => pollOnce_kept h hw args hclient) cycles _ hw
  exact hsafe.imp fun _ _ _ => trivial

end

section
variable [OperatorStore] [SolanaSdk] [UrlParser] [Hashes] [Base58Check] [Secp256k1] [BlockHashText]
  [TxoConstants] {w w₀ : World}

/-- The stored batches refine the lives of batches, over any sequence of operator programs. -/
theorem sessions_refine (hruns : Sessions exec (fun _ p => Operates p) w₀ w) :
    TableRun batchLife (batches w₀) (batches w) := by
  have hkept : KeptByRuns exec (Lived w₀) := {
    run := fun args _ h => BatchLifecycle.runWithStore_safe args h
    quiet := fun op _ _ _ hquiet hexec h => h.of_eq (exec_steady (quiet_steady op hquiet) hexec) }
  have hstart : Lived w₀ w₀ := .refl
  have hlived : Lived w₀ w := sessions_kept hkept hstart hruns
  exact hlived

/-- The batches after any operator programs: at most one is still incomplete if it was so before; a
batch keeps what it is about, stays signed once signed, and stays as it is once it is at its end; and
a new batch carries its unsigned transaction, so that it is never stuck without one. -/
theorem sessions_batches (hone : OneActive batchLife (batches w₀))
    (hruns : Sessions exec (fun _ p => Operates p) w₀ w) :
    OneActive batchLife (batches w) ∧
      (∀ key batch, batches w₀ key = some batch → ∃ batch', batches w key = some batch' ∧
        identity batch' = identity batch ∧
        (SignedOrLater batch.status → SignedOrLater batch'.status) ∧
        (¬ Incomplete batch.status → batch' = batch)) ∧
      ∀ key batch, batches w₀ key = none → batches w key = some batch →
        batch.status ≠ .snapshotted ∧ batch.unsignedTransaction.isSome := by
  have hrun := sessions_refine hruns
  refine ⟨hrun.oneActive batchLife_retires hone, ?_, ?_⟩
  · intro key batch hstored
    rcases hrun.stored hstored with ⟨batch', hstored', hlife⟩
    refine ⟨batch', hstored', ?_, ?_, ?_⟩
    · exact Life.run_keeps (P := fun b => identity b = identity batch)
        (fun _ _ hedge h => (BatchEdge.identity_eq hedge).trans h) hlife rfl
    · exact Life.run_keeps (P := fun b => SignedOrLater b.status)
        (fun _ _ => BatchEdge.signedOrLater) hlife
    · intro hended
      have hfinal := hrun.final hstored fun _ hedge => hended hedge.incomplete
      exact Option.some.inj (hstored'.symm.trans hfinal)
  · intro key batch habsent hstored
    rcases hrun.created habsent hstored with ⟨first, hfresh, hlife⟩
    have hsignable : Signable first := ⟨by simp [hfresh.1], hfresh.2⟩
    exact Life.run_keeps (P := Signable) (fun _ _ => BatchEdge.signable) hlife hsignable

theorem faithful_kept : KeptByRuns (σ := World) exec Faithful where
  run args _ hw := SingleBroadcast.runWithStore_safe args hw
  quiet op _ _ _ hquiet hexec hw := (exec_preliminary (quiet_preliminary op hquiet) hexec).faithful hw

/-- All that a daemon and withdraw commands between them ever post for a batch is one raw
transaction, the one that is persisted for it. -/
theorem sessions_post_one {key : String} (hstart : w₀.posted = [])
    (hruns : Sessions exec (fun _ p => Operates p) w₀ w) {posting posting' : Posting}
    (hposting : posting ∈ w.posted) (hposting' : posting' ∈ w.posted)
    (hkey : posting.solanaSignature = key) (hkey' : posting'.solanaSignature = key) :
    posting.body = posting'.body ∧
      ∃ raw, persistedRaw w.view key = some raw ∧ posting.body = hexEncode raw := by
  have hw₀ : Faithful w₀ := by
    intro posting hmem
    rw [hstart] at hmem
    exact absurd hmem List.not_mem_nil
  have hw := sessions_kept faithful_kept hw₀ hruns
  rcases hw posting hposting with ⟨raw, hbody, -, hsigned⟩
  rcases hw posting' hposting' with ⟨raw', hbody', -, hsigned'⟩
  rw [hkey] at hsigned
  rw [hkey'] at hsigned'
  cases hsigned.persisted.symm.trans hsigned'.persisted
  exact ⟨hbody.trans hbody'.symm, raw, hsigned.persisted, hbody⟩

end

/-! A local store whose one batch expires. -/

section
open Resume Digests Localnet

attribute [local instance] promisedStore

/-- The cursor stands still, and the transaction is unknown, its blockhash expired. -/
noncomputable def expiring : Handler Op.Answer ErrorChain World
  | .store op, w =>
    ((serve (heldBatch .observed) op w.store).1,
      { w with store := (serve (heldBatch .observed) op w.store).2 })
  | .rpc (.getAccount _), w => (.ok (bridgeAccount 0), w)
  | .rpc (.getSignatureStatusesWithHistory _), w => (.ok [none], w)
  | .rpc (.isBlockhashValid _), w => (.ok false, w)
  | .rpc _, w => (bail "not found", w)
  | .http (.postTransaction key _ body), w =>
    (bail "busy", { w with posted := w.posted ++ [⟨key, body, persistedRaw w.view key⟩] })
  | .http _, w => (bail "busy", w)
  | .system (.readKeypairFile _), w => (.ok localOperator, w)
  | .system _, w => (bail "busy", w)

theorem expiring_exec (op : Op) (w : World) : exec op w (expiring op w).1 (expiring op w).2 := by
  cases op with
  | store op => exact ⟨serve_exec _ op w.store, rfl⟩
  | rpc op => cases op <;> rfl
  | http op => cases op <;> rfl
  | system op => cases op <;> rfl

def observedView : StoreView := loneView (heldBatch .observed) (localReservation (localDeposit 1))

theorem observe_expiring (bridgeState : Pubkey) (w : World) :
    (observe localArgs bridgeState localTransaction localSignature).runWith expiring w =
      (.ok { snapshotCursor := 0, status := none, metadata := none, blockhashValid := false }, w) := by
  rcases bridgeAccount_decodes 0 with ⟨state, hdecoded, hcursor⟩
  have howner : ¬ (bridgeAccount 0).owner ≠ localArgs.dogeBridgeProgram := not_not.mpr rfl
  have hstate : (readBridgeState bridgeState localArgs.dogeBridgeProgram).runWith expiring w =
      (.ok state, w) := by
    simp only [readBridgeState, rpc, invoke, bind_eq, runWith_bind, runWith_call, runWith_done,
      expiring, bailIf_of_not howner, hdecoded]
    rfl
  simp [observe, readBlockhashValid, hstate, rpc, invoke, withContext, expiring, Except.mapError,
    Except.toOption, hcursor, bail]

/-- What the run does to the store: custody is given back, and the batch is failed. -/
noncomputable def failedView : StoreView :=
  (serve (heldBatch .observed) (.releaseReservation (localReservation []).reservationId)
    observedView).2.setBatchStatus localKey .failed

theorem applyFail_expiring : (applyObservedTerminalEffect (heldBatch .observed) .fail).runWith expiring
    ⟨observedView, []⟩ =
      (bail s!"persisted snapshot {localKey} failed or expired before advancing the cursor",
        ⟨failedView, []⟩) := by
  have hrelease : (releaseReserved (heldBatch .observed)).runWith expiring ⟨observedView, []⟩ =
      (.ok (), ⟨(serve (heldBatch .observed)
        (.releaseReservation (localReservation []).reservationId) observedView).2, []⟩) := by
    simp [releaseReserved, heldBatch, store, invoke, expiring, serve, lookups, observedView, loneView,
      localReservation]
  simp only [applyObservedTerminalEffect, bind_eq, runWith_bind, hrelease]
  rfl

theorem resumeSnapshotBatch_expiring (bridgeState : Pubkey) :
    (resumeSnapshotBatch localArgs bridgeState (heldBatch .observed)).runWith expiring
        ⟨observedView, []⟩ =
      (bail s!"persisted snapshot {localKey} failed or expired before advancing the cursor",
        ⟨failedView, []⟩) := by
  have hobserved : (heldBatch .observed).status = .observed := rfl
  have hdecoded := decodeObserved_local (heldBatch_carries .observed)
  have haction : Observation.action
      { snapshotCursor := 0, status := none, metadata := none, blockhashValid := false }
      (heldBatch .observed) = .fail := by decide
  simp only [resumeSnapshotBatch, if_pos hobserved, resumeObserved, bind_eq, liftM_eq, hdecoded,
    runWith_bind, done_ok_bind, observe_expiring, haction, applyFail_expiring, bail]

theorem observed_fails :
    Session exec (runWithStore localArgs) (⟨observedView, []⟩ : World) ⟨failedView, []⟩ := by
  have holdest : OldestIncomplete observedView (heldBatch .observed) := loneView_oldest (by decide)
  have hfound : expiring (.store .oldestIncompleteSnapshotBatch) ⟨observedView, []⟩ =
      (.ok (some (heldBatch .observed)), ⟨observedView, []⟩) := by
    simp only [expiring, serve, if_pos holdest]
  have hkeypair : ∀ path, expiring (.system (.readKeypairFile path)) ⟨observedView, []⟩ =
      (.ok localOperator, ⟨observedView, []⟩) := fun _ => rfl
  have hexec : ∀ op (w : World), True → exec op w (expiring op w).1 (expiring op w).2 ∧ True :=
    fun op w _ => ⟨expiring_exec op w, trivial⟩
  have hrun : Completes exec (runWithStore localArgs) (⟨observedView, []⟩ : World) _ _ :=
    completes_runWith hexec _ trivial
  rw [runWithStore_resumes localArgs_admissible hkeypair hfound, resumeSnapshotBatch_expiring] at hrun
  exact hrun.session

theorem local_sessions :
    Sessions exec (fun _ p => Operates p) (⟨observedView, []⟩ : World) ⟨failedView, []⟩ :=
  .single ⟨_, .withdraw localArgs, observed_fails⟩

theorem sessions_refine_local :
    TableRun batchLife (batches ⟨observedView, []⟩) (batches ⟨failedView, []⟩) :=
  sessions_refine local_sessions

theorem observedView_batch (key : String) :
    observedView.batch key = if key = localKey then some (heldBatch .observed) else none := by
  have hkey : (heldBatch .observed).solanaSignature = localKey := rfl
  simp only [observedView, loneView, hkey, Function.update_apply]

theorem observedView_one : OneActive batchLife (batches ⟨observedView, []⟩) := by
  intro key batch key' batch' hstored _ hstored' _
  have hkey : ∀ {key : String} {batch : SnapshotBatch},
      batches (⟨observedView, []⟩ : World) key = some batch → key = localKey := by
    intro key batch hbatch
    by_contra hne
    have hnone := observedView_batch key
    rw [if_neg hne] at hnone
    cases hnone.symm.trans hbatch
  exact (hkey hstored).trans (hkey hstored').symm

theorem sessions_batches_local : OneActive batchLife (batches ⟨failedView, []⟩) ∧
    ∃ batch, batches ⟨failedView, []⟩ localKey = some batch ∧
      identity batch = identity (heldBatch .observed) := by
  have hbatches := sessions_batches observedView_one local_sessions
  have hstored : observedView.batch localKey = some (heldBatch .observed) := by
    rw [observedView_batch, if_pos rfl]
  rcases hbatches.2.1 _ _ hstored with ⟨batch, hbatch, hidentity, -⟩
  exact ⟨hbatches.1, batch, hbatch, hidentity⟩

/-- The first post is lost on the way back, and the second run posts again. -/
theorem sessions_post_one_local : ∃ w : World, w.posted.length = 2 ∧
    ∀ posting ∈ w.posted, ∀ posting' ∈ w.posted,
      posting.solanaSignature = localKey → posting'.solanaSignature = localKey →
      posting.body = posting'.body := by
  have hpostable : SignedPost.Postable (signedView localRaw) (heldBatch .signed)
      (signedGraph localRaw) localRaw := ⟨signedView_graph localRaw, rfl, rfl, rfl⟩
  have hrun : ∀ w : World, w.view = signedView localRaw →
      Session exec (runWithStore localArgs) w (SignedPost.afterPost w localKey localRaw) := by
    intro w hw
    have holdest : OldestIncomplete w.view (heldBatch .signed) := hw ▸ signedView_oldest localRaw
    rw [← hw] at hpostable
    exact SignedPost.runWithStore_posts localOperator localArgs_admissible rfl holdest
      (heldBatch_payload .signed) hpostable
  have hruns : Sessions exec (fun _ p => Operates p) (⟨signedView localRaw, []⟩ : World)
      (SignedPost.afterPost (SignedPost.afterPost ⟨signedView localRaw, []⟩ localKey localRaw)
        localKey localRaw) :=
    .tail (.single ⟨_, .withdraw localArgs, hrun _ rfl⟩) ⟨_, .withdraw localArgs, hrun _ rfl⟩
  exact ⟨_, rfl, fun posting hposting posting' hposting' hkey hkey' =>
    (sessions_post_one rfl hruns hposting hposting' hkey hkey').1⟩

end

end DogeOperator.OperatorSessions
