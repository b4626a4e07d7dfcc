import DogeOperator.ApplySignatures
import DogeOperator.SignedPost
import DogeOperator.Spendable

/-! The withdraw run, part by part: what it posts is the persisted transaction of the batch. -/
namespace DogeOperator.SingleBroadcast
open Bytes Outcome Crypto Utx0 Network Manager Prepare Records Confirm Store Operations Solana
  Electrs DogeOperator.Graph Resume Withdraw Program Footprint WithdrawRuns GraphSpec
  Postings

section
variable [OperatorStore] {w w₀ : World} {key : String} {raw : ByteString}

/-- Posting the persisted transaction of a signed batch. -/
theorem broadcastElectrs_safe (hw : Faithful w) (hsigned : SignedWith w.view key raw)
    (electrsUrl : String) :
    Safe exec Faithful (fun _ => Faithful) (broadcastElectrs key electrsUrl raw) w := by
  have hpost : Safe exec Faithful (fun _ => Faithful)
      (http (.postTransaction key s!"{trimTrailingSlashes electrsUrl}/tx" (hexEncode raw))) w := by
    intro answer w' hexec
    cases hexec
    have hposted : Faithful { w with posted := w.posted ++
        [⟨key, hexEncode raw, persistedRaw w.view key⟩] } := by
      intro posting hmem
      cases List.mem_append.mp hmem with
      | inl hold => exact hw posting hold
      | inr hnew =>
        cases List.mem_singleton.mp hnew
        exact ⟨raw, rfl, hsigned.persisted, hsigned⟩
    exact ⟨hposted, hposted⟩
  exact hpost.bind (fun _ _ hw' => safe_benign (by simp [calls_bind]) hw') fun _ _ => id

theorem broadcastElectrsIdempotent_safe (hw : Faithful w) (hsigned : SignedWith w.view key raw)
    (electrsUrl displayTxid : String) :
    Safe exec Faithful (fun _ => Faithful)
      (broadcastElectrsIdempotent key electrsUrl raw displayTxid) w := by
  refine after_quiet hw (SameBatches.refl w) (electrsHasTransaction_quiet _ _)
    (fun known w₁ hsame => ?_) fun _ _ => id
  split
  · exact hsame.faithful hw
  · refine Safe.bind (R := fun _ => Faithful) (safe_attempt.mpr (broadcastElectrs_safe
      (hsame.faithful hw) (hsame.signedWith hsigned) electrsUrl)) (fun answer w₂ hw₂ => ?_)
      fun _ _ => id
    cases answer with
    | ok returned => exact safe_benign (by simp) hw₂
    | error e =>
      exact after_quiet hw₂ (SameBatches.refl w₂) (electrsHasTransaction_quiet _ _)
        (fun known w₃ hsame => safe_benign (by simp) (hsame.faithful hw₂)) fun _ _ => id

omit [OperatorStore] in
theorem completeBroadcastTransition_benign (batch : SnapshotBatch)
    (graph : PersistedWithdrawalGraph) :
    (completeBroadcastTransition batch graph).Calls Benign := by
  have hbroadcast : SignedOrLater .broadcast := .inr (.inl rfl)
  have hreservation := fun txid =>
    (completeReservation_preliminary graph.reservation txid).mono preliminary_benign
  have hrequests := (setRequestStatuses_preliminary batch .broadcast).mono preliminary_benign
  simp [completeBroadcastTransition, store, invoke, calls_bind, hreservation, hrequests, Benign,
    Careful, hbroadcast]

/-- The rest of a run after lookups by key. -/
theorem after_lookups {α β : Type} {p : Flow α} {f : α → Flow β} {Q : Result β → World → Prop}
    (hw : Faithful w) (hcalls : p.Calls IsLookupCall) (hpropagates : p.Propagates)
    (hok : ∀ a w', SameBatches w w' → p.eval (lookupOracle w.view) = .ok a →
      Safe exec Faithful Q (f a) w')
    (herror : ∀ e w', Faithful w' → Q (.error e) w') : Safe exec Faithful Q (p.bind f) w := by
  have hsame : ∀ w' : World, w'.posted = w.posted ∧ w'.view = w.view → SameBatches w w' :=
    fun w' h => ⟨h.1, congrArg _ h.2, congrArg _ h.2⟩
  refine ((lookups_safe hcalls hpropagates).mono (fun w' h => (hsame w' h).faithful hw)
    fun _ _ => id).bind
    (fun a w' h => ?_) fun e w' h => herror e w' ((hsame w' h.1).faithful hw)
  exact hok a w' (hsame w' h.1) (h.2 a rfl)

theorem after_load {batch : SnapshotBatch} {β : Type} {f : PersistedWithdrawalGraph → Flow β}
    {Q : Result β → World → Prop} (hw : Faithful w)
    (hok : ∀ graph w', SameBatches w w' → PersistedGraph w.view batch graph →
      Safe exec Faithful Q (f graph) w')
    (herror : ∀ e w', Faithful w' → Q (.error e) w') :
    Safe exec Faithful Q ((loadPersistedWithdrawalGraph batch).bind f) w :=
  after_lookups hw (loadPersistedWithdrawalGraph_lookups batch)
    (loadPersistedWithdrawalGraph_propagates batch)
    (fun graph w' hsame h => hok graph w' hsame (loadPersistedWithdrawalGraph_eq_ok.mp h)) herror

theorem markBatchBroadcast_safe {args : Args} {batch : SnapshotBatch} {reservationId : String}
    {signedBytes : ByteString} {rawHash internalTxid : FixedBytes 32} {displayTxid : String}
    (hw : Faithful w) (hsigned : SignedWith w.view batch.solanaSignature signedBytes) :
    Safe exec Faithful (fun _ => Faithful) (markBatchBroadcast args batch reservationId signedBytes
      rawHash internalTxid displayTxid) w := by
  refine (broadcastElectrsIdempotent_safe hw hsigned _ _).bind (fun _ w₁ hw₁ => ?_) fun _ _ => id
  refine after_quiet hw₁ (SameBatches.refl w₁) (loadPersistedWithdrawalGraph_quiet batch)
    (fun graph w₂ hsame => ?_) fun _ _ => id
  refine after_done (fun _ _ => ?_) fun _ => hsame.faithful hw₁
  exact safe_benign (completeBroadcastTransition_benign batch graph) (hsame.faithful hw₁)

variable [Hashes]

theorem resumeSignedBatch_safe {args : Args} {batch : SnapshotBatch} {payload : Utx0UnlockPayload}
    {graph : PersistedWithdrawalGraph} (hw : Faithful w)
    (hbatch : ∃ stored, w.view.batch batch.solanaSignature = some stored ∧
      SignedOrLater stored.status)
    (htransaction : w.view.transaction batch.solanaSignature = some graph.transaction) :
    Safe exec Faithful (fun _ => Faithful) (resumeSignedBatch args batch payload graph) w := by
  refine after_done (fun signedBytes hbytes => ?_) fun _ => hw
  have hsigned : SignedWith w.view batch.solanaSignature signedBytes := by
    refine ⟨hbatch, ?_⟩
    rw [persistedRaw, htransaction]
    exact orBail_eq_ok.mp hbytes
  refine after_done (fun _ _ => ?_) fun _ => hw
  refine after_done (fun _ _ => ?_) fun _ => hw
  have hmark : Safe exec Faithful (fun _ => Faithful) (onlyIf args.broadcastEnabled
      (markBatchBroadcast args batch graph.reservation.reservationId signedBytes
        (hashSha256 signedBytes) (doubleSha256 signedBytes)
        (hexEncode (doubleSha256 signedBytes).reverse.toList))) w := by
    unfold onlyIf
    split
    · exact markBatchBroadcast_safe hw hsigned
    · exact hw
  refine hmark.bind (fun _ w₁ hw₁ => ?_) fun _ _ => id
  exact (safe_preliminary ((writeEvidence_quiet _ _).mono quiet_preliminary) hw₁).imp
    fun _ _ hsame => hsame.faithful hw₁

variable [Base58Check] [BlockHashText] [TxoConstants]

theorem resumeBroadcastBatch_safe {args : Args} {batch : SnapshotBatch}
    {payload : Utx0UnlockPayload} (hw : Faithful w) :
    Safe exec Faithful (fun _ => Faithful) (resumeBroadcastBatch args batch payload) w := by
  refine after_load hw (fun graph w₁ hsame₁ hgraph => ?_) fun _ _ => id
  refine after_done (fun signedBytes _ => ?_) fun _ => hsame₁.faithful hw
  refine after_done (fun internalTxid _ => ?_) fun _ => hsame₁.faithful hw
  refine after_done (fun _ _ => ?_) fun _ => hsame₁.faithful hw
  refine after_done (fun _ _ => ?_) fun _ => hsame₁.faithful hw
  refine after_quiet hw hsame₁ (checkRequests_quiet batch .broadcast "broadcast")
    (fun _ w₂ hsame₂ => ?_) fun _ _ => id
  refine after_quiet hw hsame₂ (calls_found (fetchConfirmedWithdrawal_quiet _ _))
    (fun confirmed w₃ hsame₃ => ?_) fun _ _ => id
  refine after_done (fun change _ => ?_) fun _ => hsame₃.faithful hw
  intro answer w₄ hexec
  have hcareful : Careful w₃.view (.finalizeConfirmedSnapshot batch.solanaSignature
      (confirmedTransaction graph.transaction confirmed) change) := by
    rw [Careful, persistedRaw, hsame₃.transaction, hgraph.transaction]
    rfl
  have hw₄ := exec_store_faithful (hsame₃.faithful hw) hcareful hexec
  exact ⟨hw₄, hw₄⟩

theorem continueSigned_safe {args : Args} {batch : SnapshotBatch} {payload : Utx0UnlockPayload}
    (hw : Faithful w) (hstored : w.view.batch batch.solanaSignature = some batch)
    (hstatus : batch.status = .signed) :
    Safe exec Faithful (fun _ => Faithful) (continueSigned args batch payload) w := by
  refine after_load hw (fun graph w₁ hsame₁ hgraph => ?_) fun _ _ => id
  split
  · refine (safe_benign (completeBroadcastTransition_benign batch graph)
      (hsame₁.faithful hw)).bind (fun _ w₂ hw₂ => ?_) fun _ _ => id
    refine after_quiet hw₂ (SameBatches.refl w₂)
      (calls_found (by simp [store, invoke, Quiet, StoreOp.IsRead]))
      (fun broadcastBatch w₃ hsame₃ => ?_) fun _ _ => id
    exact resumeBroadcastBatch_safe (hsame₃.faithful hw₂)
  · refine after_lookups (hsame₁.faithful hw) (loadCompleteSignedGraph_lookups batch)
      (loadCompleteSignedGraph_propagates batch) (fun graph w₂ hsame₂ h => ?_) fun _ _ => id
    have hsigned := loadCompleteSignedGraph_eq_ok.mp h
    refine resumeSignedBatch_safe (hsame₂.faithful (hsame₁.faithful hw)) ⟨batch, ?_, .inl hstatus⟩ ?_
    · rw [hsame₂.batch, hsame₁.batch]
      exact hstored
    · rw [hsame₂.transaction]
      exact hsigned.persisted.transaction

variable [Secp256k1]

omit [OperatorStore] [Base58Check] [BlockHashText] [TxoConstants] [Secp256k1] in
/-- Persisting the signed transaction of an unsigned batch binds the batch to it. -/
theorem persist_signedWith {batch : SnapshotBatch} {reservationId : String}
    {process : ProcessWithdrawal} {signedBytes : ByteString} {v v' : StoreView} {u : Unit}
    (hunsigned : Unsigned v batch.solanaSignature)
    (heffect : Effect v (.persistSignedSnapshot batch.solanaSignature reservationId
      (signedTransactionRecord signedBytes) process) u v') :
    SignedWith v' batch.solanaSignature signedBytes := by
  rcases heffect with ⟨reservation, request, mappings, rfl⟩
  rcases hunsigned with ⟨stored, hstored, -⟩
  refine ⟨⟨{ stored with status := .signed }, ?_, .inl rfl⟩, ?_⟩
  · simp [StoreView.setBatchStatus, hstored]
  · simp [persistedRaw, signedTransactionRecord]

omit [Base58Check] [BlockHashText] [TxoConstants] [Secp256k1] in
theorem persistAndBroadcast_safe {args : Args} {batch : SnapshotBatch}
    {payload : Utx0UnlockPayload} {signed : SignedSnapshot} (hw : Faithful w)
    (hunsigned : Unsigned w.view batch.solanaSignature) :
    Safe exec Faithful (fun _ => Faithful) (persistAndBroadcast args batch payload signed) w := by
  have hpersist : Safe exec Faithful (fun result w' => Faithful w' ∧ ∀ u, result = .ok u →
      SignedWith w'.view batch.solanaSignature signed.transaction.serialize)
      (store (.persistSignedSnapshot batch.solanaSignature signed.prepared.reservationId
        (signedTransactionRecord signed.transaction.serialize)
        (signedProcessRecord batch payload signed.prepared.plan.changeSats
          (hashSha256 signed.transaction.serialize)))) w := by
    intro answer w' hexec
    have hcareful : Careful w.view (.persistSignedSnapshot batch.solanaSignature
        signed.prepared.reservationId (signedTransactionRecord signed.transaction.serialize)
        (signedProcessRecord batch payload signed.prepared.plan.changeSats
          (hashSha256 signed.transaction.serialize))) := hunsigned
    have hw' := exec_store_faithful hw hcareful hexec
    refine ⟨hw', hw', ?_⟩
    intro u hu
    cases hu
    exact persist_signedWith hunsigned (OperatorStore.effect hexec.1)
  refine hpersist.bind (fun _ w₁ h₁ => ?_) fun _ _ h => h.1
  have hmark : Safe exec Faithful (fun _ => Faithful) (onlyIf args.broadcastEnabled
      (markBatchBroadcast args batch signed.prepared.reservationId signed.transaction.serialize
        (hashSha256 signed.transaction.serialize) (doubleSha256 signed.transaction.serialize)
        (hexEncode signed.transaction.txid.toList))) w₁ := by
    unfold onlyIf
    split
    · exact markBatchBroadcast_safe h₁.1 (h₁.2 () rfl)
    · exact h₁.1
  refine hmark.bind (fun _ w₂ hw₂ => ?_) fun _ _ => id
  refine after_done (fun managerUrl _ => ?_) fun _ => hw₂
  exact (safe_preliminary ((writeEvidence_quiet _ _).mono quiet_preliminary) hw₂).imp
    fun _ _ hsame => hsame.faithful hw₂

omit [BlockHashText] [TxoConstants] in
theorem signSnapshotBatch_safe {args : Args} {bridgeState : Pubkey} {batch : SnapshotBatch}
    {payload : Utx0UnlockPayload} (hw : Faithful w)
    (hunsigned : Unsigned w.view batch.solanaSignature) :
    Safe exec Faithful (fun _ => Faithful) (signSnapshotBatch args bridgeState batch payload) w := by
  refine after_done (fun managerSet _ => ?_) fun _ => hw
  refine after_done (fun reservationId _ => ?_) fun _ => hw
  refine after_quiet hw (SameBatches.refl w)
    (calls_found (by simp [store, invoke, Quiet, StoreOp.IsRead]))
    (fun reservation w₁ hsame₁ => ?_) fun _ _ => id
  refine after_done (fun persistedUnsigned _ => ?_) fun _ => hsame₁.faithful hw
  refine after_done (fun prepared _ => ?_) fun _ => hsame₁.faithful hw
  refine after_quiet hw hsame₁ (obtainSignatures_quiet _ _ _ _ _ _)
    (fun signed w₂ hsame₂ => ?_) fun _ _ => id
  exact persistAndBroadcast_safe (hsame₂.faithful hw) (hsame₂.unsigned hunsigned)

/-- A stored batch that is not confirmed is carried on without harm. -/
theorem continueSnapshotBatch_safe {args : Args} {bridgeState : Pubkey} {batch : SnapshotBatch}
    (hw : Faithful w) (hstored : w.view.batch batch.solanaSignature = some batch)
    (hstatus : batch.status ≠ .confirmed) :
    Safe exec Faithful (fun _ => Faithful) (continueSnapshotBatch args bridgeState batch) w := by
  refine after_done (fun payload _ => ?_) fun _ => hw
  refine after_done (fun _ _ => ?_) fun _ => hw
  split
  · exact resumeBroadcastBatch_safe hw
  · rename_i hsigned
    exact continueSigned_safe hw hstored hsigned
  · rename_i hbroadcast hsigned
    refine signSnapshotBatch_safe hw ⟨batch, hstored, ?_⟩
    intro hlater
    rcases hlater with h | h | h
    · exact hsigned h
    · exact hbroadcast h
    · exact hstatus h

end

section
variable [OperatorStore] [Hashes] [Base58Check] [Secp256k1] [BlockHashText] [TxoConstants] {w : World}

omit [Hashes] [Base58Check] [Secp256k1] [BlockHashText] [TxoConstants] in
theorem faithful_stable : Stable exec Faithful :=
  fun _ _ _ _ hallowed hexec hw => (exec_preliminary hallowed hexec).faithful hw

omit [OperatorStore] [Hashes] [Base58Check] [Secp256k1] [BlockHashText] [TxoConstants] in
theorem landed_unsigned {status : OperatorStatus}
    (h : status = .snapshotted ∨ status = .constructed) : ¬ SignedOrLater status := by
  rcases h with rfl | rfl <;> simp [SignedOrLater]

/-- Settling an observed batch posts nothing, and signs nothing over. -/
theorem faithful_settling : KeptBySettling exec Faithful StoredObserved StoredLanded where
  opened batch := faithful_stable.and (storedObserved_stable batch)
  landed batch := faithful_stable.and (storedLanded_stable batch)
  land batch metadata w answer w' hw hopen hexec := by
    have hunsigned : Unsigned w.view batch.solanaSignature :=
      ⟨batch, hopen.1, by simp [SignedOrLater, hopen.2]⟩
    have hcareful : Careful w.view (.upsertSnapshotBatch (confirmedBatch batch metadata)) :=
      hunsigned
    refine ⟨exec_store_faithful hw hcareful hexec, fun u hanswer => ?_⟩
    cases hanswer
    exact exec_landed hexec
  fail batch w answer w' hw hopen hexec := by
    have hunsigned : Unsigned w.view batch.solanaSignature :=
      ⟨batch, hopen.1, by simp [SignedOrLater, hopen.2]⟩
    have hcareful : Careful w.view (.setSnapshotBatchStatus batch.solanaSignature .failed) :=
      .inr hunsigned
    exact exec_store_faithful hw hcareful hexec
  carryOn args bridgeState batch w hw hlanded :=
    continueSnapshotBatch_safe hw hlanded.1 fun h => landed_unsigned hlanded.2 (.inr (.inr h))

variable [SolanaSdk]

theorem faithful_parts : KeptByParts exec Faithful (fun _ => True) StoredObserved
    (fun batch w => OldestIncomplete w.view batch) where
  steady := faithful_stable
  idle := faithful_stable.and fun _ _ _ _ _ _ => id
  reserved := faithful_settling.opened
  oldest w answer w' hw hexec := by
    have hcareful : Careful w.view .oldestIncompleteSnapshotBatch := trivial
    refine ⟨exec_store_faithful hw hcareful hexec, fun _ => trivial, fun batch hanswer => ?_⟩
    cases hanswer
    exact (exec_oldest hexec).1 batch rfl
  reserve reservationId requiredSats build w answer w' hw _ hbuild hexec := by
    have hcareful : Careful w.view (.reserveCustodyForSnapshot reservationId requiredSats build) :=
      trivial
    refine ⟨exec_store_faithful hw hcareful hexec, fun reserved hanswer => ?_⟩
    cases hanswer
    exact exec_reserved_stored hbuild hexec
  confirm args bridgeState batch w hw hreserved := confirmed_kept faithful_settling ⟨hw, hreserved⟩
  resume args bridgeState batch w hw hfound := by
    by_cases hobserved : batch.status = .observed
    · exact resumeSnapshotBatch_kept faithful_settling hobserved ⟨hw, hfound.stored, hobserved⟩
    · rw [resumeSnapshotBatch, if_neg hobserved]
      exact continueSnapshotBatch_safe hw hfound.stored hfound.incomplete.1

variable [UrlParser]

/-- One withdraw run, with any arguments. -/
theorem runWithStore_safe (args : Args) (hw : Faithful w) :
    Safe exec Faithful (fun _ => Faithful) (runWithStore args) w :=
  runWithStore_kept faithful_parts args hw

/-- Over all runs of one operator, with crashes anywhere, everything posted for a batch is one
byte string: the raw transaction that was persisted for the batch when it was posted. -/
theorem posted_once {w₀ w : World} (hstart : w₀.posted = [])
    (hruns : Sessions exec (fun _ p => ∃ args, p = runWithStore args) w₀ w) (key : String) :
    ∃ raw, ∀ posting ∈ w.posted, posting.solanaSignature = key →
      posting.body = hexEncode raw ∧ posting.persisted = some raw := by
  have hw₀ : Faithful w₀ := by
    intro posting hmem
    rw [hstart] at hmem
    exact absurd hmem List.not_mem_nil
  have hw : Faithful w := by
    refine Sessions.invariant (fun w p hw hp => ?_) hw₀ hruns
    rcases hp with ⟨args, rfl⟩
    exact (runWithStore_safe args hw).imp fun _ _ _ => trivial
  -- the persisted transaction of the batch is the byte string
  refine ⟨(persistedRaw w.view key).getD [], ?_⟩
  intro posting hmem hkey
  rcases hw posting hmem with ⟨raw, hbody, hpersisted, hsigned⟩
  subst hkey
  rw [hsigned.persisted]
  exact ⟨hbody, hpersisted⟩

end

section
open Digests Localnet SignedPost

attribute [local instance] promisedStore

/-- Twice: the first post is lost on the way back, the second run posts again. -/
theorem posted_once_local : ∃ w : World,
    w.posted.length = 2 ∧ ∃ sent, ∀ posting ∈ w.posted, posting.solanaSignature = localKey →
      posting.body = hexEncode sent ∧ posting.persisted = some sent := by
  have hpostable : Postable (signedView localRaw) (heldBatch .signed) (signedGraph localRaw) localRaw :=
    ⟨signedView_graph localRaw, rfl, rfl, rfl⟩
  have hrun : ∀ w : World, w.view = signedView localRaw →
      Session exec (runWithStore localArgs) w (afterPost w localKey localRaw) := by
    intro w hw
    have holdest : OldestIncomplete w.view (heldBatch .signed) := hw ▸ signedView_oldest localRaw
    rw [← hw] at hpostable
    exact runWithStore_posts localOperator localArgs_admissible rfl holdest
      (heldBatch_payload .signed) hpostable
  have hruns : Sessions exec (fun _ p => ∃ args, p = runWithStore args)
      (⟨signedView localRaw, []⟩ : World)
      (afterPost (afterPost ⟨signedView localRaw, []⟩ localKey localRaw) localKey localRaw) :=
    .tail (.single ⟨_, ⟨localArgs, rfl⟩, hrun _ rfl⟩) ⟨_, ⟨localArgs, rfl⟩, hrun _ rfl⟩
  exact ⟨_, rfl, posted_once rfl hruns localKey⟩

end

end DogeOperator.SingleBroadcast
