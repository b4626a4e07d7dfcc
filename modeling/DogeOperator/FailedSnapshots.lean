import DogeOperator.MissedLanding
import DogeOperator.WithdrawRuns

/-! Failing a snapshot batch: when every blockhash read is timely, a batch is failed only after its
transaction can no longer land. -/
namespace DogeOperator.FailedSnapshots
open Bytes Outcome Crypto Utx0 Network Prepare Records Confirm Store Operations Solana Electrs
  DogeOperator.Graph Resume Withdraw Program Footprint WithdrawRuns ChainReads Relation

theorem quiet_benign (op : Op) (h : Quiet op) : Benign op := by
  cases op with
  | store op => cases op <;> trivial
  | rpc op => trivial
  | http op => trivial
  | system op => trivial

theorem preliminary_benign (op : Op) (h : Preliminary op) : Benign op := by
  cases op with
  | store op => cases op <;> trivial
  | rpc op => trivial
  | http op => trivial
  | system op => trivial

/-! Carrying a batch on never fails it. -/

theorem broadcastElectrsIdempotent_benign (key electrsUrl : String) (raw : ByteString)
    (displayTxid : String) :
    (broadcastElectrsIdempotent key electrsUrl raw displayTxid).Calls Benign := by
  have hknown := (electrsHasTransaction_quiet electrsUrl displayTxid).mono quiet_benign
  have hpost : (broadcastElectrs key electrsUrl raw).Calls Benign := by
    simp [broadcastElectrs, http, invoke, calls_bind, Benign]
  apply Calls.bind hknown
  intro known
  simp only [calls_ite]
  refine ⟨fun _ => trivial, fun _ => Calls.bind (calls_attempt.mpr hpost) fun answer => ?_⟩
  cases answer with
  | ok returned => simp
  | error e => exact Calls.bind hknown fun known => by simp

theorem completeBroadcastTransition_benign (batch : SnapshotBatch)
    (graph : PersistedWithdrawalGraph) :
    (completeBroadcastTransition batch graph).Calls Benign := by
  have hreservation := fun txid =>
    (completeReservation_preliminary graph.reservation txid).mono preliminary_benign
  have hrequests := (setRequestStatuses_preliminary batch .broadcast).mono preliminary_benign
  simp [completeBroadcastTransition, store, invoke, calls_bind, hreservation, hrequests, Benign]

theorem markBatchBroadcast_benign (args : Args) (batch : SnapshotBatch) (reservationId : String)
    (signedBytes : ByteString) (rawHash internalTxid : FixedBytes 32) (displayTxid : String) :
    (markBatchBroadcast args batch reservationId signedBytes rawHash internalTxid
      displayTxid).Calls Benign := by
  have hload := (loadPersistedWithdrawalGraph_quiet batch).mono quiet_benign
  simp [markBatchBroadcast, calls_bind, broadcastElectrsIdempotent_benign, hload,
    completeBroadcastTransition_benign]

section
variable [Hashes]

theorem resumeSignedBatch_benign (args : Args) (batch : SnapshotBatch) (payload : Utx0UnlockPayload)
    (graph : PersistedWithdrawalGraph) : (resumeSignedBatch args batch payload graph).Calls Benign := by
  have hevidence := fun evidence => (writeEvidence_quiet args.evidencePath evidence).mono quiet_benign
  simp [resumeSignedBatch, onlyIf, calls_bind, markBatchBroadcast_benign, hevidence]

variable [Base58Check] [BlockHashText] [TxoConstants]

theorem resumeBroadcastBatch_benign (args : Args) (batch : SnapshotBatch)
    (payload : Utx0UnlockPayload) : (resumeBroadcastBatch args batch payload).Calls Benign := by
  have hload := (loadPersistedWithdrawalGraph_quiet batch).mono quiet_benign
  have hrequests := (checkRequests_quiet batch .broadcast "broadcast").mono quiet_benign
  have hfetch := fun displayTxid =>
    (fetchConfirmedWithdrawal_quiet args.electrsUrl displayTxid).mono quiet_benign
  simp [resumeBroadcastBatch, found, store, invoke, calls_bind, hload, hrequests, hfetch, Benign]

theorem continueSigned_benign (args : Args) (batch : SnapshotBatch) (payload : Utx0UnlockPayload) :
    (continueSigned args batch payload).Calls Benign := by
  have hload := (loadPersistedWithdrawalGraph_quiet batch).mono quiet_benign
  have hcomplete := (loadCompleteSignedGraph_quiet batch).mono quiet_benign
  simp [continueSigned, found, store, invoke, calls_bind, hload, hcomplete,
    completeBroadcastTransition_benign, resumeBroadcastBatch_benign, resumeSignedBatch_benign, Benign]

variable [Secp256k1]

omit [BlockHashText] [TxoConstants] in
theorem signSnapshotBatch_benign (args : Args) (bridgeState : Pubkey) (batch : SnapshotBatch)
    (payload : Utx0UnlockPayload) : (signSnapshotBatch args bridgeState batch payload).Calls Benign := by
  have hsignatures := fun managerSet prepared =>
    (obtainSignatures_quiet args bridgeState batch payload managerSet prepared).mono quiet_benign
  have hevidence := fun evidence => (writeEvidence_quiet args.evidencePath evidence).mono quiet_benign
  simp [signSnapshotBatch, persistAndBroadcast, onlyIf, found, store, invoke, calls_bind, hsignatures,
    hevidence, markBatchBroadcast_benign, Benign]

theorem continueSnapshotBatch_benign (args : Args) (bridgeState : Pubkey) (batch : SnapshotBatch) :
    (continueSnapshotBatch args bridgeState batch).Calls Benign := by
  refine Calls.bind trivial fun payload => ?_
  refine Calls.bind trivial fun _ => ?_
  split
  · exact resumeBroadcastBatch_benign args batch payload
  · exact continueSigned_benign args batch payload
  · exact signSnapshotBatch_benign args bridgeState batch payload

end

section
variable [SolanaSdk] [OperatorStore] {t : Snapshot} {w w₀ : World} {α β : Type}

theorem safe_benign {p : Flow α} (hcalls : p.Calls Benign) (h : FailedIsDead t w) :
    Safe (timelyExec t) (FailedIsDead t) (fun _ => Later t w) p w :=
  (Safe.of_calls hcalls (fun _ _ _ _ hallowed hexec hlater =>
    hlater.trans (timelyExec_benign hlater.invariant hallowed hexec)) ⟨h, .refl⟩).mono
    (fun _ => Later.invariant) fun _ _ => id

theorem after_benign {p : Flow α} {f : α → Flow β} {Q : Result β → World → Prop}
    (h : Later t w₀ w) (hcalls : p.Calls Benign)
    (hok : ∀ a w', Later t w₀ w' → Safe (timelyExec t) (FailedIsDead t) Q (f a) w')
    (herror : ∀ e w', Later t w₀ w' → Q (.error e) w') :
    Safe (timelyExec t) (FailedIsDead t) Q (p.bind f) w :=
  (safe_benign hcalls h.invariant).bind (fun a w' h' => hok a w' (h.trans h'))
    fun e w' h' => herror e w' (h.trans h')

theorem after_quiet {p : Flow α} {f : α → Flow β} {Q : Result β → World → Prop}
    (h : Later t w₀ w) (hcalls : p.Calls Quiet)
    (hok : ∀ a w', Later t w₀ w' → Safe (timelyExec t) (FailedIsDead t) Q (f a) w')
    (herror : ∀ e w', Later t w₀ w' → Q (.error e) w') :
    Safe (timelyExec t) (FailedIsDead t) Q (p.bind f) w :=
  after_benign h (hcalls.mono quiet_benign) hok herror

/-- Failing a batch whose transaction is dead, or another batch. -/
theorem setFailed_safe {key : String} (h : Later t w₀ w) (hdead : key = t.key → Dead w₀.chain) :
    Safe (timelyExec t) (FailedIsDead t) (fun _ => Later t w₀)
      (store (.setSnapshotBatchStatus key .failed)) w := by
  intro answer w' hexec
  have hcareful : ∀ c, ReflTransGen (ChainStep t) w.chain c →
      Careful t c (.setSnapshotBatchStatus key .failed) :=
    fun c hrun hkey _ => dead_run (hdead hkey) (h.chain.trans hrun)
  have hlater := h.trans (timelyExec_store h.invariant hcareful hexec)
  exact ⟨hlater.invariant, hlater⟩

/-- The metadata is about the batch's own transaction, when it reports a failure. -/
def Reports (t : Snapshot) (batch : SnapshotBatch) (metadata : ConfirmedTransaction) (c : Chain) :
    Prop :=
  batch.solanaSignature = t.key → metadata.metaStatus.any (·.err.isSome) → Dead c

theorem finishConfirmedSnapshot_safe {args : Args} {bridgeState : Pubkey} {batch : SnapshotBatch}
    {metadata : ConfirmedTransaction} (h : FailedIsDead t w)
    (hcarries : batch.solanaSignature = t.key → Carries t batch)
    (hreports : Reports t batch metadata w.chain) :
    Safe (timelyExec t) (FailedIsDead t) (fun _ => Later t w)
      (finishConfirmedSnapshot args bridgeState batch metadata) w := by
  refine after_quiet ⟨h, .refl⟩ (readBridgeState_quiet _ _) (fun state w₁ h₁ => ?_) fun _ _ => id
  dsimp only
  split
  · rename_i hfailed
    split
    · refine after_benign h₁ ((releaseReserved_preliminary batch).mono preliminary_benign)
        (fun _ w₂ h₂ => ?_) fun _ _ => id
      exact (setFailed_safe h₂ fun hkey => hreports hkey hfailed).bind (fun _ _ => id) fun _ _ => id
    · exact h₁
  · refine after_done (fun _ _ => ?_) fun _ => h₁
    refine after_done (fun _ _ => ?_) fun _ => h₁
    refine after_quiet h₁ (checkWormholeMessage_quiet _ _ _) (fun _ w₂ h₂ => ?_) fun _ _ => id
    have hupsert : Safe (timelyExec t) (FailedIsDead t) (fun _ => Later t w)
        (store (.upsertSnapshotBatch (confirmedBatch batch metadata))) w₂ := by
      intro answer w₃ hexec
      have hcareful : ∀ c, ReflTransGen (ChainStep t) w₂.chain c →
          Careful t c (.upsertSnapshotBatch (confirmedBatch batch metadata)) := by
        intro c _ hkey
        refine ⟨hcarries hkey, ?_⟩
        unfold confirmedBatch
        cases batch.unsignedTransaction <;> simp
      have h₃ := h₂.trans (timelyExec_store h₂.invariant hcareful hexec)
      exact ⟨h₃.invariant, h₃⟩
    refine hupsert.bind (fun _ w₃ h₃ => ?_) fun _ _ => id
    exact after_benign h₃ ((setRequestStatuses_preliminary _ _).mono preliminary_benign)
      (fun _ w₄ h₄ => h₄) fun _ _ => id

/-- Metadata that was read reports a failure only of a dead transaction. -/
def ReportsDead (t : Snapshot) (signature : SolanaSignature) (result : Result ConfirmedTransaction)
    (c : Chain) : Prop :=
  ∀ metadata, result = .ok metadata → signature = t.signature →
    metadata.metaStatus.any (·.err.isSome) → Dead c

theorem getTransaction_safe (signature : SolanaSignature) (h : Later t w₀ w) :
    Safe (timelyExec t) (FailedIsDead t)
      (fun result w' => Later t w₀ w' ∧ ReportsDead t signature result w'.chain)
      (rpc (.getTransaction signature)) w := by
  intro answer w' hexec
  have hbenign : Benign (.rpc (.getTransaction signature)) := trivial
  have hlater := h.trans (timelyExec_benign h.invariant hbenign hexec)
  refine ⟨hlater.invariant, hlater, ?_⟩
  intro metadata hmetadata hsignature herr
  rcases hexec with ⟨w₁, -, -, rfl, htruthful⟩
  exact .inl ((htruthful metadata hmetadata hsignature).2 herr)

/-- The same read with its failure as a value, and what comes after it. -/
theorem after_getTransaction {signature : SolanaSignature} {Q : Result β → World → Prop}
    {f : Result ConfirmedTransaction → Flow β} (h : Later t w₀ w)
    (hnext : ∀ answer w', Later t w₀ w' → ReportsDead t signature answer w'.chain →
      Safe (timelyExec t) (FailedIsDead t) Q (f answer) w') :
    Safe (timelyExec t) (FailedIsDead t) Q
      ((rpc (.getTransaction signature)).attempt.bind f) w := by
  refine Safe.bind (R := fun result w' => ∃ answer, result = .ok answer ∧ Later t w₀ w' ∧
    ReportsDead t signature answer w'.chain) (safe_attempt.mpr ?_) (fun answer w' hread => ?_)
    fun e w' hread => ?_
  · exact (getTransaction_safe signature h).imp fun answer w' hread => ⟨answer, rfl, hread⟩
  · rcases hread with ⟨_, heq, hread⟩
    cases heq
    exact hnext _ w' hread.1 hread.2
  · rcases hread with ⟨_, heq, -⟩
    exact nomatch heq

theorem pollTransactionMeta_safe (signature : SolanaSignature) (attempts : ℕ) (h : Later t w₀ w) :
    Safe (timelyExec t) (FailedIsDead t)
      (fun result w' => Later t w₀ w' ∧ ReportsDead t signature result w'.chain)
      (pollTransactionMeta signature attempts) w := by
  induction attempts generalizing w with
  | zero =>
    apply after_getTransaction h
    intro answer w' h' hreports
    cases answer with
    | ok metadata => exact ⟨h', hreports⟩
    | error e => exact ⟨h', fun _ heq => nomatch heq⟩
  | succ attempts ih =>
    apply after_getTransaction h
    intro answer w' h' hreports
    cases answer with
    | ok metadata => exact ⟨h', hreports⟩
    | error e => exact ih h'

theorem waitForTransactionMeta_safe (signature : SolanaSignature) (timeoutMs : ℕ)
    (h : Later t w₀ w) :
    Safe (timelyExec t) (FailedIsDead t)
      (fun result w' => Later t w₀ w' ∧ ReportsDead t signature result w'.chain)
      (waitForTransactionMeta signature timeoutMs) w := by
  have hclock : (system (.attemptsWithin timeoutMs 250)).Calls Benign := calls_invoke.mpr trivial
  refine after_benign h hclock (fun attempts w' h' => ?_) fun e w' h' => ?_
  · exact pollTransactionMeta_safe signature attempts h'
  · exact ⟨h', fun _ heq => nomatch heq⟩

omit [OperatorStore] in
/-- The reports a batch's own metadata gives. -/
theorem reportsDead_reports {batch : SnapshotBatch} {signature : SolanaSignature}
    {metadata : ConfirmedTransaction} {c : Chain}
    (hsignature : batch.solanaSignature = t.key → signature = t.signature)
    (h : ReportsDead t signature (.ok metadata) c) : Reports t batch metadata c :=
  fun hkey herr => h metadata rfl (hsignature hkey) herr

theorem confirmSnapshotBatch_safe {args : Args} {bridgeState : Pubkey} {batch : SnapshotBatch}
    (h : FailedIsDead t w) (hcarries : batch.solanaSignature = t.key → Carries t batch) :
    Safe (timelyExec t) (FailedIsDead t) (fun _ => Later t w)
      (confirmSnapshotBatch args bridgeState batch) w := by
  refine after_done (fun signature hparsed => ?_) fun _ => ⟨h, .refl⟩
  have hsignature : batch.solanaSignature = t.key → signature = t.signature := by
    intro hkey
    have htext : SolanaSdk.signatureFromStr batch.solanaSignature = .ok t.signature := by
      rw [hkey]
      exact t.text
    rw [htext] at hparsed
    exact (Except.ok.inj hparsed).symm
  refine (waitForTransactionMeta_safe signature 30000 ⟨h, .refl⟩).bind
    (fun metadata w₁ h₁ => ?_) fun _ _ h₁ => h₁.1
  have hreports := reportsDead_reports hsignature h₁.2
  exact (finishConfirmedSnapshot_safe h₁.1.invariant hcarries hreports).imp
    fun _ _ h₂ => h₁.1.trans h₂

omit [OperatorStore] in
/-- The batch of the transaction decodes to it and to its signature. -/
theorem decodeObserved_carried {batch : SnapshotBatch} {transaction : SolanaTransaction}
    {signature : SolanaSignature} (hcarries : Carries t batch)
    (hdecoded : decodeObserved batch = .ok (transaction, signature)) :
    transaction = t.transaction ∧ signature = t.signature := by
  rcases hcarries with ⟨bytes, hbytes, htransaction⟩
  rw [decodeObserved, hbytes, orBail_some, ok_bind, htransaction] at hdecoded
  rcases bind_eq_ok.mp hdecoded with ⟨_, hparsed, hdecoded⟩
  cases hparsed
  rcases bind_eq_ok.mp hdecoded with ⟨canonical, -, hdecoded⟩
  have hdecoded := (guard_bind_eq_ok.mp hdecoded).2
  rw [t.signed, orBail_some, ok_bind] at hdecoded
  cases (guard_bind_eq_ok.mp hdecoded).2
  exact ⟨rfl, rfl⟩

/-- What an observation of the transaction says about the chain, from then on. -/
structure Observed (t : Snapshot) (seen : Observation) (c : Chain) : Prop where
  status : ∀ status, seen.status = some status → status.err.isSome → Dead c
  metadata : ∀ metadata, seen.metadata = some metadata → metadata.metaStatus.any (·.err.isSome) →
    Dead c
  expired : seen.status = none → seen.metadata = none → seen.blockhashValid = false → Dead c

omit [OperatorStore] in
/-- A batch is failed for a failed status, or for an expired blockhash with nothing else known. -/
theorem action_fail {seen : Observation} {batch : SnapshotBatch} {c : Chain}
    (h : Observed t seen c) (haction : seen.action batch = .fail) : Dead c := by
  unfold Observation.action selectObservedBatchAction at haction
  cases hstatus : seen.status with
  | some status =>
    cases herr : status.err with
    | some e => exact h.status status hstatus (by rw [herr]; rfl)
    | none => simp [hstatus, herr] at haction
  | none =>
    cases hmetadata : seen.metadata with
    | some metadata => simp [hstatus, hmetadata] at haction
    | none =>
      cases hvalid : seen.blockhashValid with
      | true => simp [hstatus, hmetadata, hvalid] at haction
      | false => exact h.expired hstatus hmetadata hvalid

theorem getStatus_safe (h : Later t w₀ w) :
    Safe (timelyExec t) (FailedIsDead t) (fun result w' => Later t w₀ w' ∧
        ∀ statuses, result = .ok statuses → ∀ status, statuses.head?.join = some status →
          status.err.isSome → Dead w'.chain)
      (withContext "query persisted snapshot signature status"
        (rpc (.getSignatureStatusesWithHistory [t.signature]))) w := by
  apply safe_mapError.mpr
  intro answer w' hexec
  have hbenign : Benign (.rpc (.getSignatureStatusesWithHistory [t.signature])) := trivial
  have hlater := h.trans (timelyExec_benign h.invariant hbenign hexec)
  refine ⟨hlater.invariant, hlater, ?_⟩
  intro statuses hstatuses status hstatus herr
  rcases hexec with ⟨w₁, -, -, rfl, htruthful⟩
  have hlanded := htruthful statuses (mapError_eq_ok.mp hstatuses) rfl
  have hfailed : status.err.isNone = false := by simpa using herr
  rw [hstatus, Option.map_some, hfailed] at hlanded
  cases hcase : w'.chain.landed with
  | failed => exact .inl hcase
  | no => simp [hcase, Landing.status] at hlanded
  | ok => simp [hcase, Landing.status] at hlanded

/-- An expired blockhash that was read in time is that of a transaction that did not land. -/
theorem isBlockhashValid_safe (h : Later t w₀ w) :
    Safe (timelyExec t) (FailedIsDead t)
      (fun result w' => Later t w₀ w' ∧ (result = .ok false → Dead w'.chain))
      (withContext "check persisted snapshot blockhash"
        (rpc (.isBlockhashValid t.transaction.recentBlockhash))) w := by
  apply safe_mapError.mpr
  intro answer w' hexec
  have hbenign : Benign (.rpc (.isBlockhashValid t.transaction.recentBlockhash)) := trivial
  have hlater := h.trans (timelyExec_benign h.invariant hbenign hexec)
  refine ⟨hlater.invariant, hlater, ?_⟩
  intro hfalse
  rcases hexec with ⟨w₁, -, htimely, rfl, htruthful⟩
  have hvalid : w'.chain.blockhashValid = false := by
    have := htruthful false (mapError_eq_ok.mp hfalse) rfl
    exact this.symm
  cases hcase : w'.chain.landed with
  | failed => exact .inl hcase
  | no => exact .inr ⟨hcase, hvalid⟩
  | ok => exact absurd ⟨hcase, hvalid⟩ (htimely rfl)

theorem observe_safe {args : Args} {bridgeState : Pubkey} (h : FailedIsDead t w) :
    Safe (timelyExec t) (FailedIsDead t) (fun result w' => Later t w w' ∧
        ∀ seen, result = .ok seen → Observed t seen w'.chain)
      (observe args bridgeState t.transaction t.signature) w := by
  have hfails : ∀ (e : ErrorChain) (w' : World), Later t w w' → Later t w w' ∧
      ∀ seen : Observation, (.error e : Result Observation) = .ok seen → Observed t seen w'.chain :=
    fun _ _ h' => ⟨h', fun _ heq => nomatch heq⟩
  refine after_quiet ⟨h, .refl⟩ (readBridgeState_quiet _ _) (fun state w₁ h₁ => ?_) hfails
  refine (getStatus_safe ⟨h₁.invariant, .refl⟩).bind (fun statuses w₂ h₂ => ?_)
    fun e w₂ h₂ => hfails e w₂ (h₁.trans h₂.1)
  apply after_getTransaction ⟨h₂.1.invariant, .refl⟩
  intro answer w₃ h₃ hreports
  have hlater := (h₁.trans h₂.1).trans h₃
  have hstatus : ∀ status, statuses.head?.join = some status → status.err.isSome →
      Dead w₃.chain :=
    fun status hsome herr => dead_run (h₂.2 statuses rfl status hsome herr) h₃.chain
  have hmetadata : ∀ metadata, answer.toOption = some metadata →
      metadata.metaStatus.any (·.err.isSome) → Dead w₃.chain := by
    intro metadata hsome
    cases answer with
    | error e => exact nomatch hsome
    | ok found =>
      cases hsome
      exact hreports metadata rfl rfl
  dsimp only
  unfold readBlockhashValid
  split
  · refine (isBlockhashValid_safe ⟨h₃.invariant, .refl⟩).bind (fun valid w₄ h₄ => ?_)
      fun e w₄ h₄ => hfails e w₄ (hlater.trans h₄.1)
    refine ⟨hlater.trans h₄.1, ?_⟩
    intro seen hseen
    cases hseen
    exact ⟨fun status hsome herr => dead_run (hstatus status hsome herr) h₄.1.chain,
      fun metadata hsome herr => dead_run (hmetadata metadata hsome herr) h₄.1.chain,
      fun _ _ hvalid => h₄.2 (congrArg _ hvalid)⟩
  · rename_i hknown
    refine ⟨hlater, ?_⟩
    intro seen hseen
    cases hseen
    refine ⟨hstatus, hmetadata, fun hnone hnone' _ => absurd ⟨?_, ?_⟩ hknown⟩
    · exact Option.isNone_iff_eq_none.mpr hnone
    · exact Option.isNone_iff_eq_none.mpr hnone'

theorem applyFail_safe {batch : SnapshotBatch} (h : Later t w₀ w)
    (hdead : batch.solanaSignature = t.key → Dead w.chain) :
    Safe (timelyExec t) (FailedIsDead t) (fun _ => Later t w₀)
      (applyObservedTerminalEffect batch .fail) w := by
  refine after_benign ⟨h.invariant, .refl⟩ ((releaseReserved_preliminary batch).mono preliminary_benign)
    (fun _ w₁ h₁ => ?_) fun _ _ h₁ => h.trans h₁
  refine ((setFailed_safe h₁ hdead).imp fun _ _ h₂ => h.trans h₂).bind (fun _ _ h₂ => h₂)
    fun _ _ h₂ => h₂

theorem settleObserved_safe {args : Args} {bridgeState : Pubkey} {batch : SnapshotBatch}
    {metadata : Option ConfirmedTransaction} (h : FailedIsDead t w)
    (hcarries : batch.solanaSignature = t.key → Carries t batch)
    (hreports : ∀ found, metadata = some found → Reports t batch found w.chain) :
    Safe (timelyExec t) (FailedIsDead t) (fun _ => Later t w)
      (settleObserved args bridgeState batch metadata) w := by
  cases metadata with
  | some found => exact finishConfirmedSnapshot_safe h hcarries (hreports found rfl)
  | none => exact confirmSnapshotBatch_safe h hcarries

theorem resumeObserved_safe {args : Args} {bridgeState : Pubkey} {batch : SnapshotBatch}
    (h : FailedIsDead t w) (hcarries : batch.solanaSignature = t.key → Carries t batch) :
    Safe (timelyExec t) (FailedIsDead t) (fun _ => Later t w)
      (resumeObserved args bridgeState batch) w := by
  refine after_done (fun decoded hdecoded => ?_) fun _ => ⟨h, .refl⟩
  rcases decoded with ⟨transaction, signature⟩
  have hobserve : Safe (timelyExec t) (FailedIsDead t) (fun result w' => Later t w w' ∧
      ∀ seen, result = .ok seen → batch.solanaSignature = t.key → Observed t seen w'.chain)
      (observe args bridgeState transaction signature) w := by
    by_cases hkey : batch.solanaSignature = t.key
    · rcases decodeObserved_carried (hcarries hkey) hdecoded with ⟨rfl, rfl⟩
      exact (observe_safe h).imp fun _ _ h' => ⟨h'.1, fun seen hseen _ => h'.2 seen hseen⟩
    · apply (safe_benign ((observe_quiet _ _ _ _).mono quiet_benign) h).imp
      intro _ _ h'
      exact ⟨h', fun _ _ hsame => absurd hsame hkey⟩
  refine hobserve.bind (fun seen w₁ h₁ => ?_) fun _ _ h₁ => h₁.1
  have hseen := h₁.2 seen rfl
  have hsettle : ∀ w₂, Later t w₁ w₂ → Safe (timelyExec t) (FailedIsDead t) (fun _ => Later t w)
      (settleObserved args bridgeState batch seen.metadata) w₂ := by
    intro w₂ h₂
    refine (settleObserved_safe h₂.invariant hcarries fun found hfound hkey herr => ?_).imp
      fun _ _ h₃ => (h₁.1.trans h₂).trans h₃
    exact dead_run ((hseen hkey).metadata found hfound herr) h₂.chain
  split
  · exact (hsettle w₁ ⟨h₁.1.invariant, .refl⟩).bind (fun _ _ h₂ => h₂) fun _ _ h₂ => h₂
  · have hsend : (withContext "resend persisted snapshot transaction"
        (rpc (.sendTransaction transaction))).Calls Benign :=
      calls_withContext.mpr (calls_invoke.mpr trivial)
    refine after_benign ⟨h₁.1.invariant, .refl⟩ hsend (fun returned w₂ h₂ => ?_)
      fun _ _ h₂ => h₁.1.trans h₂
    refine after_done (fun _ _ => ?_) fun _ => h₁.1.trans h₂
    exact (hsettle w₂ h₂).bind (fun _ _ h₃ => h₃) fun _ _ h₃ => h₃
  · rename_i haction
    refine (applyFail_safe h₁.1 fun hkey => action_fail (hseen hkey) haction).bind (fun _ _ h₂ => h₂)
      fun _ _ h₂ => h₂
  · exact h₁.1

end

section
variable [SolanaSdk] [OperatorStore] {t : Snapshot} {w w' : World}

/-- The batch under the key of the transaction is the one that carries it. -/
theorem stored_carries {batch : SnapshotBatch} (h : FailedIsDead t w)
    (hstored : w.view.batch batch.solanaSignature = some batch)
    (hkey : batch.solanaSignature = t.key) : Carries t batch := by
  rcases h with ⟨own, hown, hcarries, -⟩
  rw [hkey, hown] at hstored
  cases hstored
  exact hcarries

variable [Hashes] [Base58Check] [Secp256k1] [BlockHashText] [TxoConstants]

theorem after_continue {args : Args} {bridgeState : Pubkey} {batch : SnapshotBatch} {w₀ : World}
    (h : Later t w₀ w) :
    Safe (timelyExec t) (FailedIsDead t) (fun _ => Later t w₀)
      (continueSnapshotBatch args bridgeState batch) w :=
  (safe_benign (continueSnapshotBatch_benign args bridgeState batch) h.invariant).imp
    fun _ _ => h.trans

theorem resumeSnapshotBatch_safe {args : Args} {bridgeState : Pubkey} {batch : SnapshotBatch}
    (h : FailedIsDead t w) (hcarries : batch.solanaSignature = t.key → Carries t batch) :
    Safe (timelyExec t) (FailedIsDead t) (fun _ => Later t w)
      (resumeSnapshotBatch args bridgeState batch) w := by
  unfold resumeSnapshotBatch
  split
  · refine (resumeObserved_safe h hcarries).bind (fun resumed w₁ h₁ => ?_) fun _ _ h₁ => h₁
    cases resumed with
    | none => exact h₁
    | some resumed => exact after_continue h₁
  · exact after_continue ⟨h, .refl⟩

omit [Hashes] [Base58Check] [Secp256k1] [BlockHashText] [TxoConstants] in
theorem failedIsDead_stable : Stable (timelyExec t) (FailedIsDead t) :=
  fun op _ _ _ hallowed hexec h =>
    (timelyExec_benign h (preliminary_benign op hallowed) hexec).invariant

/-- A new batch has a key of its own, and an incomplete one under the key of the transaction
carries it. -/
theorem failedIsDead_parts : KeptByParts (timelyExec t) (FailedIsDead t) (fun _ => True)
    (fun batch _ => batch.solanaSignature ≠ t.key)
    (fun batch _ => batch.solanaSignature = t.key → Carries t batch) where
  steady := failedIsDead_stable
  idle := failedIsDead_stable.and fun _ _ _ _ _ _ => id
  reserved batch := failedIsDead_stable.and fun _ _ _ _ _ _ => id
  oldest w answer w' h hexec := by
    have hbenign : Benign (.store .oldestIncompleteSnapshotBatch) := trivial
    have hlater := timelyExec_benign h hbenign hexec
    refine ⟨hlater.invariant, fun _ => trivial, fun batch hbatch => ?_⟩
    cases hbatch
    rcases hexec with ⟨w₁, -, -, hexec, -⟩
    have heffect := OperatorStore.effect hexec
    have hview : w'.view = w₁.view := heffect.1
    apply stored_carries hlater.invariant
    rw [hview]
    exact (heffect.2.1 batch rfl).stored
  reserve reservationId requiredSats build w answer w' h _ _ hexec := by
    have hbenign : Benign (.store (.reserveCustodyForSnapshot reservationId requiredSats build)) :=
      trivial
    refine ⟨(timelyExec_benign h hbenign hexec).invariant, fun reserved heq hkey => ?_⟩
    rcases hexec with ⟨w₁, hmoves, -, hexec, -⟩
    rw [heq] at hexec
    rcases OperatorStore.effect hexec with ⟨-, -, -, -, hfresh, -⟩
    rcases failedIsDead_chainMoves h hmoves with ⟨own, hown, -⟩
    rw [hkey] at hfresh
    cases hown.symm.trans hfresh
  confirm args bridgeState batch w h hother := by
    refine (confirmSnapshotBatch_safe h fun hkey => absurd hkey hother).bind
      (fun confirmed w₁ h₁ => ?_) fun _ _ h₁ => h₁.invariant
    exact (after_continue h₁).imp fun _ _ h₂ => h₂.invariant
  resume args bridgeState batch w h hcarries :=
    (resumeSnapshotBatch_safe h hcarries).imp fun _ _ h₁ => h₁.invariant

variable [UrlParser]

theorem runWithStore_safe (args : Args) (h : FailedIsDead t w) :
    Safe (timelyExec t) (FailedIsDead t) (fun _ => FailedIsDead t) (runWithStore args) w :=
  runWithStore_kept failedIsDead_parts args h

/-- One move of the chain, or one run of the operator. -/
theorem operatorStep_failedIsDead (h : FailedIsDead t w)
    (hstep : OperatorStep t (timelyExec t) w w') : FailedIsDead t w' := by
  cases hstep with
  | inl hmove => exact failedIsDead_chainMoves h (.single hmove)
  | inr hrun =>
    rcases hrun with ⟨args, hsession⟩
    exact (runWithStore_safe args h).session h hsession

theorem operatorRun_failedIsDead (h : FailedIsDead t w)
    (hrun : ReflTransGen (OperatorStep t (timelyExec t)) w w') : FailedIsDead t w' := by
  induction hrun with
  | refl => exact h
  | tail _ hstep ih => exact operatorStep_failedIsDead ih hstep

/-- When no blockhash is read after the transaction landed and its blockhash expired, a failed
batch is one whose transaction never lands, whatever the chain does and wherever a run stops. -/
theorem failed_neverLands {batch : SnapshotBatch} (hstored : w.view.batch t.key = some batch)
    (hcarries : Carries t batch) (hobserved : batch.status = .observed)
    (hrun : ReflTransGen (OperatorStep t (timelyExec t)) w w') {failed : SnapshotBatch}
    (hfailed : w'.view.batch t.key = some failed) (hstatus : failed.status = .failed) :
    NeverLands t w'.chain := by
  have hstart : FailedIsDead t w := by
    refine ⟨batch, hstored, hcarries, fun h => ?_⟩
    rw [hobserved] at h
    exact nomatch h
  rcases operatorRun_failedIsDead hstart hrun with ⟨own, hown, -, hdead⟩
  rw [hfailed] at hown
  cases hown
  exact neverLands_iff.mpr (hdead hstatus)

end

section
open Digests Localnet MissedLanding

attribute [local instance] promisedStore

theorem failed_neverLands_local : ∃ w' : World,
    ReflTransGen (OperatorStep localSnapshot (timelyExec localSnapshot))
        (localWorld (heldBatch .observed)) w' ∧
      w'.view.batch localSnapshot.key = some (heldBatch .failed) ∧
      NeverLands localSnapshot w'.chain := by
  have hmoves : ReflTransGen (ChainStep localSnapshot) (localWorld (heldBatch .observed)).chain
      expiredChain := .single .expire
  rcases local_failed (unseen_timelyExec (by decide)) (by decide) hmoves rfl with
    ⟨v', hsession, hfailed⟩
  have hrun : ReflTransGen (OperatorStep localSnapshot (timelyExec localSnapshot))
      (localWorld (heldBatch .observed)) ⟨v', expiredChain⟩ := .single (.inr ⟨localArgs, hsession⟩)
  have hstored : (localWorld (heldBatch .observed)).view.batch localSnapshot.key =
      some (heldBatch .observed) := (loneView_oldest (by decide)).stored
  have hcarries : Carries localSnapshot (heldBatch .observed) := ⟨_, rfl, if_pos rfl⟩
  exact ⟨_, hrun, hfailed, failed_neverLands hstored hcarries rfl hrun hfailed rfl⟩

/-- The run against a landing that is not seen: the batch is failed, the snapshot has landed. -/
theorem failed_but_landed :
    ∃ w' : World, ReflTransGen (OperatorStep localSnapshot (exec localSnapshot))
        (localWorld (heldBatch .observed)) w' ∧
      w'.view.batch localSnapshot.key = some (heldBatch .failed) ∧
      w'.chain.landed = .ok ∧ ¬ NeverLands localSnapshot w'.chain := by
  have hmoves : ReflTransGen (ChainStep localSnapshot) (localWorld (heldBatch .observed)).chain
      landedChain := .tail (.single (.landOk rfl rfl)) .expire
  rcases local_failed (fun op w (_ : True) => ⟨unseen_exec op w, trivial⟩) trivial hmoves rfl
    with ⟨v', hsession, hfailed⟩
  exact ⟨_, .single (.inr ⟨localArgs, hsession⟩), hfailed, rfl, fun h => h _ .refl rfl⟩

end

end DogeOperator.FailedSnapshots
