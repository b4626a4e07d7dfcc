import DogeOperator.ApplySignatures
import DogeOperator.ChainReads
import DogeOperator.GraphSpec
import DogeOperator.Spendable

/-! A missed landing: the transaction lands after its status was read, and its blockhash expires
before that is read, so the run sees neither and fails the batch of a snapshot that succeeded. -/
namespace DogeOperator.MissedLanding
open Outcome Crypto Network Manager Prepare Records Confirm Store Operations Solana Resume Withdraw
  Program ChainReads Relation

attribute [local instance] promisedStore

section
variable [SolanaSdk] (t : Snapshot) (batch : SnapshotBatch) (account : Account) (keypair : Keypair)
  (later : Chain)

open Classical in
/-- The environment of the run: nothing is known of the transaction when it is asked for, and the
chain has moved on when the blockhash is. -/
noncomputable def unseen : Handler Op.Answer ErrorChain World
  | .store op, w => ((serve batch op w.store).1, { w with store := (serve batch op w.store).2 })
  | .rpc (.getAccount address), w =>
    (if Truthful t w.chain (.getAccount address) account then .ok account else bail "busy", w)
  | .rpc (.getSignatureStatusesWithHistory _), w =>
    (if w.chain.landed = .no then .ok [none] else bail "busy", w)
  | .rpc (.isBlockhashValid _), w =>
    if ReflTransGen (ChainStep t) w.chain later ∧ later.blockhashValid = false then
      (.ok false, { w with chain := later })
    else (bail "busy", w)
  | .rpc _, w => (bail "not found", w)
  | .http _, w => (bail "busy", w)
  | .system (.readKeypairFile _), w => (.ok keypair, w)
  | .system _, w => (bail "busy", w)

variable {t} in
theorem chainMoves_of_run {s : StoreView} {c c' : Chain} (h : ReflTransGen (ChainStep t) c c') :
    ReflTransGen (ChainMoves t) (⟨s, c⟩ : World) ⟨s, c'⟩ := by
  induction h with
  | refl => exact .refl
  | tail _ hstep ih => exact ih.tail ⟨rfl, hstep⟩

/-- Every answer is one the chain can give, now or later. -/
theorem unseen_respond (op : Op) (w : World) :
    ∃ v, ReflTransGen (ChainMoves t) w v ∧ (v.chain = w.chain ∨ v.chain = later) ∧
      (unseen t batch account keypair later op w).2.chain = v.chain ∧
      respond t op v (unseen t batch account keypair later op w).1
        (unseen t batch account keypair later op w).2 := by
  cases op with
  | store op => exact ⟨w, .refl, .inl rfl, rfl, serve_exec batch op w.store, rfl⟩
  | http op => exact ⟨w, .refl, .inl rfl, rfl, rfl⟩
  | system op => cases op <;> exact ⟨w, .refl, .inl rfl, rfl, rfl⟩
  | rpc op =>
    cases op with
    | getAccount address =>
      refine ⟨w, .refl, .inl rfl, rfl, rfl, fun a ha => ?_⟩
      by_cases htrue : Truthful t w.chain (.getAccount address) account
      · rw [unseen, if_pos htrue] at ha
        cases ha
        exact htrue
      · rw [unseen, if_neg htrue] at ha
        exact nomatch ha
    | getSignatureStatusesWithHistory signatures =>
      refine ⟨w, .refl, .inl rfl, rfl, rfl, fun a ha _ => ?_⟩
      by_cases hlanded : w.chain.landed = .no
      · rw [unseen, if_pos hlanded] at ha
        cases ha
        simp [hlanded, Landing.status]
      · rw [unseen, if_neg hlanded] at ha
        exact nomatch ha
    | isBlockhashValid blockhash =>
      by_cases hlater : ReflTransGen (ChainStep t) w.chain later ∧ later.blockhashValid = false
      · rw [unseen, if_pos hlater]
        refine ⟨{ w with chain := later }, chainMoves_of_run hlater.1, .inr rfl, rfl, rfl,
          fun a ha _ => ?_⟩
        cases ha
        exact hlater.2.symm
      · rw [unseen, if_neg hlater]
        exact ⟨w, .refl, .inl rfl, rfl, rfl, fun a ha => nomatch ha⟩
    | _ => exact ⟨w, .refl, .inl rfl, rfl, rfl, fun a ha => nomatch ha⟩

variable {t batch account keypair later}

theorem unseen_exec (op : Op) (w : World) :
    exec t op w (unseen t batch account keypair later op w).1
      (unseen t batch account keypair later op w).2 := by
  rcases unseen_respond t batch account keypair later op w with ⟨v, hmoves, -, -, hrespond⟩
  exact ⟨v, hmoves, hrespond⟩

theorem unseen_timelyExec (hlater : later.landed ≠ .ok) (op : Op) (w : World)
    (hw : w.chain.landed ≠ .ok) :
    timelyExec t op w (unseen t batch account keypair later op w).1
        (unseen t batch account keypair later op w).2 ∧
      (unseen t batch account keypair later op w).2.chain.landed ≠ .ok := by
  rcases unseen_respond t batch account keypair later op w with ⟨v, hmoves, hchain, hnext, hrespond⟩
  have hv : v.chain.landed ≠ .ok := by
    rcases hchain with h | h
    · rw [h]
      exact hw
    · rw [h]
      exact hlater
  refine ⟨⟨v, hmoves, ?_, hrespond⟩, hnext ▸ hv⟩
  cases op with
  | rpc op =>
    cases op with
    | isBlockhashValid => exact fun _ h => hv h.1
    | _ => trivial
  | _ => trivial

/-- The account reads as the bridge state at the cursor, and the transaction has not landed; later
its blockhash has expired, whether it landed or not. -/
structure Unseen (t : Snapshot) (args : Args) (account : Account) (c later : Chain) : Prop where
  owner : account.owner = args.dogeBridgeProgram
  state : ∃ state, SolanaSdk.decodeBridgeState account.data = .ok state ∧
    state.withdrawalSnapshot.nextRequestedWithdrawalsTreeIndex = c.cursor
  notLanded : c.landed = .no
  moves : ReflTransGen (ChainStep t) c later
  expired : later.blockhashValid = false

variable {args : Args} {bridgeState : Pubkey} {v : StoreView} {c : Chain}

theorem observe_unseen (h : Unseen t args account c later) :
    (observe args bridgeState t.transaction t.signature).runWith
        (unseen t batch account keypair later) ⟨v, c⟩ =
      (.ok { snapshotCursor := c.cursor, status := none, metadata := none, blockhashValid := false },
        ⟨v, later⟩) := by
  rcases h.state with ⟨state, hdecoded, hcursor⟩
  have htrue : Truthful t c (.getAccount bridgeState) account := by
    intro _ other hother
    cases hdecoded.symm.trans hother
    exact hcursor
  have howner : ¬ account.owner ≠ args.dogeBridgeProgram := not_not.mpr h.owner
  have hstate : (readBridgeState bridgeState args.dogeBridgeProgram).runWith
      (unseen t batch account keypair later) ⟨v, c⟩ = (.ok state, ⟨v, c⟩) := by
    simp only [readBridgeState, rpc, invoke, bind_eq, runWith_bind, runWith_call, runWith_done, unseen,
      if_pos htrue, bailIf_of_not howner, hdecoded]
    rfl
  have hmoved := And.intro h.moves h.expired
  simp [observe, readBlockhashValid, hstate, rpc, invoke, withContext, unseen, h.notLanded, hmoved,
    Except.mapError, Except.toOption, hcursor, bail]

variable (t batch account keypair later) in
/-- Giving custody back leaves the batches alone. -/
theorem releaseReserved_unseen (v : StoreView) (c : Chain) : ∃ v' : StoreView,
    (releaseReserved batch).runWith (unseen t batch account keypair later) ⟨v, c⟩ =
        (.ok (), ⟨v', c⟩) ∧ v'.batch = v.batch := by
  unfold releaseReserved
  cases batch.reservationId with
  | none => exact ⟨v, rfl, rfl⟩
  | some reservationId =>
    cases hreservation : v.reservation reservationId with
    | none =>
      refine ⟨v, ?_, rfl⟩
      simp [store, invoke, unseen, serve, lookups, hreservation]
    | some reservation =>
      by_cases hreserved : reservation.status = .reserved
      · refine ⟨(serve batch (.releaseReservation reservationId) v).2, ?_, ?_⟩
        · simp [store, invoke, unseen, serve, lookups, hreservation, hreserved]
        · simp [serve, hreservation]
      · refine ⟨v, ?_, rfl⟩
        simp [store, invoke, unseen, serve, lookups, hreservation, hreserved]

variable (t account keypair later c) in
theorem applyFail_unseen {own : SnapshotBatch} (hstored : v.batch batch.solanaSignature = some own) :
    ∃ result, ∃ v' : StoreView, (applyObservedTerminalEffect batch .fail).runWith
        (unseen t batch account keypair later) ⟨v, c⟩ = (.error result, ⟨v', c⟩) ∧
      v'.batch batch.solanaSignature = some { own with status := .failed } := by
  rcases releaseReserved_unseen t batch account keypair later v c with ⟨v', hrelease, hbatch⟩
  refine ⟨[s!"persisted snapshot {batch.solanaSignature} failed or expired before advancing the cursor"],
    v'.setBatchStatus batch.solanaSignature .failed, ?_, ?_⟩
  · simp only [applyObservedTerminalEffect, bind_eq, runWith_bind, hrelease]
    rfl
  · simp [StoreView.setBatchStatus, hbatch, hstored]

variable [Hashes] [Base58Check] [Secp256k1] [BlockHashText] [TxoConstants]

theorem resumeSnapshotBatch_unseen (h : Unseen t args account c later)
    (hobserved : batch.status = .observed)
    (hdecoded : decodeObserved batch = .ok (t.transaction, t.signature))
    (hstart : c.cursor = batch.requestStartIndex)
    (hstored : v.batch batch.solanaSignature = some batch) : ∃ result, ∃ v' : StoreView,
    (resumeSnapshotBatch args bridgeState batch).runWith (unseen t batch account keypair later)
        ⟨v, c⟩ = (result, ⟨v', later⟩) ∧
      v'.batch batch.solanaSignature = some { batch with status := .failed } := by
  rcases applyFail_unseen t account keypair later later hstored with ⟨e, v', hfail, hfailed⟩
  refine ⟨.error e, v', ?_, hfailed⟩
  have haction : Observation.action
      { snapshotCursor := c.cursor, status := none, metadata := none, blockhashValid := false }
      batch = .fail := by
    simp [Observation.action, selectObservedBatchAction, hstart]
  simp only [resumeSnapshotBatch, if_pos hobserved, resumeObserved, bind_eq, liftM_eq, hdecoded,
    runWith_bind, done_ok_bind, observe_unseen h, haction, hfail]

variable [UrlParser]

/-- From every world in which the batch is the oldest incomplete one, with its cursor not advanced,
a run marks it failed while the chain reaches any state with the blockhash expired. -/
theorem runWithStore_unseen {exec : Exec Op.Answer ErrorChain World} {Inv : World → Prop}
    (hexec : ∀ op w, Inv w → exec op w (unseen t batch account keypair later op w).1
      (unseen t batch account keypair later op w).2 ∧ Inv (unseen t batch account keypair later op w).2)
    (hinv : Inv ⟨v, c⟩) (hargs : AdmissibleArgs args) (h : Unseen t args account c later)
    (holdest : OldestIncomplete v batch) (hobserved : batch.status = .observed)
    (hdecoded : decodeObserved batch = .ok (t.transaction, t.signature))
    (hstart : c.cursor = batch.requestStartIndex) : ∃ v' : StoreView,
    Session exec (runWithStore args) ⟨v, c⟩ ⟨v', later⟩ ∧
      v'.batch batch.solanaSignature = some { batch with status := .failed } := by
  have hfound : unseen t batch account keypair later (.store .oldestIncompleteSnapshotBatch) ⟨v, c⟩ =
      (.ok (some batch), ⟨v, c⟩) := by
    simp only [unseen, serve, if_pos holdest]
  have hkeypair : ∀ path, unseen t batch account keypair later (.system (.readKeypairFile path))
      ⟨v, c⟩ = (.ok keypair, ⟨v, c⟩) := fun _ => rfl
  have hrun := completes_runWith hexec (runWithStore args) hinv
  rw [runWithStore_resumes hargs hkeypair hfound] at hrun
  rcases resumeSnapshotBatch_unseen h hobserved hdecoded hstart holdest.stored with
    ⟨result, v', hresume, hfailed⟩
  rw [hresume] at hrun
  exact ⟨v', hrun.session, hfailed⟩

end

/-! The local snapshot. -/

section
open Digests Localnet

def localSnapshot : Snapshot where
  transaction := localTransaction
  signature := localSignature
  signed := rfl
  text := if_pos rfl
  bridgeState := localBridgeState
  requestEndIndex := 1

def localWorld (batch : SnapshotBatch) : World where
  store := loneView batch (localReservation (localDeposit 1))
  chain := { cursor := 0, landed := .no, blockhashValid := true }

def landedChain : Chain := { cursor := 1, landed := .ok, blockhashValid := false }

def expiredChain : Chain := { cursor := 0, landed := .no, blockhashValid := false }

theorem localSnapshot_unseen {later : Chain}
    (hmoves : ReflTransGen (ChainStep localSnapshot) (localWorld (heldBatch .observed)).chain later)
    (hexpired : later.blockhashValid = false) :
    Unseen localSnapshot localArgs (bridgeAccount 0) (localWorld (heldBatch .observed)).chain later where
  owner := rfl
  state := bridgeAccount_decodes 0
  notLanded := rfl
  moves := hmoves
  expired := hexpired

theorem local_failed {exec : Exec Op.Answer ErrorChain World} {later : Chain} {Inv : World → Prop}
    (hexec : ∀ op w, Inv w →
      exec op w (unseen localSnapshot (heldBatch .observed) (bridgeAccount 0) localOperator later op w).1
          (unseen localSnapshot (heldBatch .observed) (bridgeAccount 0) localOperator later op w).2 ∧
        Inv (unseen localSnapshot (heldBatch .observed) (bridgeAccount 0) localOperator later op w).2)
    (hinv : Inv (localWorld (heldBatch .observed)))
    (hmoves : ReflTransGen (ChainStep localSnapshot) (localWorld (heldBatch .observed)).chain later)
    (hexpired : later.blockhashValid = false) : ∃ v' : StoreView,
    Session exec (runWithStore localArgs) (localWorld (heldBatch .observed)) ⟨v', later⟩ ∧
      v'.batch localSnapshot.key = some (heldBatch .failed) :=
  runWithStore_unseen hexec hinv localArgs_admissible (localSnapshot_unseen hmoves hexpired)
    (loneView_oldest (by decide)) rfl (decodeObserved_local (heldBatch_carries _)) rfl

end

end DogeOperator.MissedLanding
