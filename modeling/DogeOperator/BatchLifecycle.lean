import DogeOperator.KeyedRecords
import DogeOperator.Postings

/-! The life of a snapshot batch, and the withdraw run as a refinement of it: whatever the services
answer and wherever the run stops, the stored batches have moved along the edges of that life, and a
new batch has been made only while none was incomplete. -/
namespace DogeOperator.BatchLifecycle
open Bytes Outcome Crypto Utx0 Network Manager Prepare Records Confirm Store Operations Solana
  Electrs DogeOperator.Graph Resume Withdraw Program Footprint WithdrawRuns Postings KeyedRecords
  Relation

/-- One change of a stored batch. -/
inductive BatchEdge : SnapshotBatch → SnapshotBatch → Prop
  /-- The snapshot has landed. -/
  | land {batch : SnapshotBatch} (metadata : ConfirmedTransaction) (hstatus : batch.status = .observed) :
      BatchEdge batch (confirmedBatch batch metadata)
  /-- It never will. -/
  | fail {batch : SnapshotBatch} (hstatus : batch.status = .observed) :
      BatchEdge batch { batch with status := .failed }
  | sign {batch : SnapshotBatch} (hstatus : batch.status = .snapshotted ∨ batch.status = .constructed)
      (hunsigned : batch.unsignedTransaction.isSome) :
      BatchEdge batch { batch with status := .signed }
  | broadcast {batch : SnapshotBatch} (hstatus : batch.status = .signed) :
      BatchEdge batch { batch with status := .broadcast }
  | confirm {batch : SnapshotBatch} (hstatus : batch.status = .broadcast) :
      BatchEdge batch { batch with status := .confirmed }

def batchLife : Life SnapshotBatch where
  edge := BatchEdge
  active batch := Incomplete batch.status
  fresh batch := batch.status = .observed ∧ batch.unsignedTransaction.isSome

/-- A batch that is confirmed or failed stays as it is. -/
theorem BatchEdge.incomplete {batch batch' : SnapshotBatch} (h : BatchEdge batch batch') :
    Incomplete batch.status := by
  cases h with
  | land _ hstatus => simp [Incomplete, hstatus]
  | fail hstatus => simp [Incomplete, hstatus]
  | sign hstatus => rcases hstatus with hstatus | hstatus <;> simp [Incomplete, hstatus]
  | broadcast hstatus => simp [Incomplete, hstatus]
  | confirm hstatus => simp [Incomplete, hstatus]

theorem batchLife_retires : batchLife.Retires := fun _ _ hedge _ => hedge.incomplete

/-- What a batch is about, which its life never changes. -/
def identity (batch : SnapshotBatch) : SnapshotBatch :=
  { batch with solanaSlot := 0, blockTime := none, status := .observed }

theorem BatchEdge.identity_eq {batch batch' : SnapshotBatch} (h : BatchEdge batch batch') :
    identity batch' = identity batch := by
  cases h <;> rfl

theorem BatchEdge.signedOrLater {batch batch' : SnapshotBatch} (h : BatchEdge batch batch')
    (hsigned : SignedOrLater batch.status) : SignedOrLater batch'.status := by
  cases h with
  | land _ hstatus => simp [SignedOrLater, hstatus] at hsigned
  | fail hstatus => simp [SignedOrLater, hstatus] at hsigned
  | _ => simp [SignedOrLater]

/-- The batch has its unsigned transaction, and is not where one without it goes. -/
def Signable (batch : SnapshotBatch) : Prop :=
  batch.status ≠ .snapshotted ∧ batch.unsignedTransaction.isSome

theorem BatchEdge.signable {batch batch' : SnapshotBatch} (h : BatchEdge batch batch')
    (hsignable : Signable batch) : Signable batch' := by
  cases h with
  | land => exact ⟨by simp [confirmedBatch, hsignable.2], hsignable.2⟩
  | _ => exact ⟨by simp, hsignable.2⟩

/-- Operations that leave the batch table alone. -/
def Steady : Op → Prop
  | .store (.reserveCustodyForSnapshot _ _ _) => False
  | .store (.upsertSnapshotBatch _) => False
  | .store (.setSnapshotBatchStatus _ _) => False
  | .store (.persistSignedSnapshot _ _ _ _) => False
  | .store (.finalizeConfirmedSnapshot _ _ _) => False
  | _ => True

theorem preliminary_steady (op : Op) (h : Preliminary op) : Steady op := by
  cases op with
  | store op => cases op <;> first | exact trivial | exact h.elim
  | rpc op => trivial
  | http op => trivial
  | system op => trivial

theorem quiet_steady (op : Op) (h : Quiet op) : Steady op :=
  preliminary_steady op (quiet_preliminary op h)

theorem effect_steady {v v' : StoreView} {op : StoreOp} {answer : op.Answer}
    (h : Steady (.store op)) (heffect : Effect v op answer v') : v'.batch = v.batch := by
  by_cases hpre : Preliminary (.store op)
  · exact (effect_preliminary hpre heffect).1
  cases op with
  | setDogecoinTransactionStatusByRawHash =>
    cases heffect
    rfl
  | _ => first | exact h.elim | exact absurd trivial hpre

section
variable [OperatorStore] {α β : Type}

/-- The stored batches. -/
def batches (w : World) : String → Option SnapshotBatch := w.view.batch

variable {w₀ w w' : World}

theorem exec_steady {op : Op} {answer : Result op.Answer} (h : Steady op)
    (hexec : exec op w answer w') : batches w' = batches w := by
  cases op with
  | store op =>
    cases answer with
    | error e => exact congrArg StoreView.batch (OperatorStore.failed hexec.1)
    | ok a => exact effect_steady h (OperatorStore.effect hexec.1)
  | rpc op =>
    cases hexec
    rfl
  | system op =>
    cases hexec
    rfl
  | http op =>
    cases op <;> cases hexec <;> rfl

/-- The batches have lived since the start. -/
def Lived (w₀ w : World) : Prop := TableRun batchLife (batches w₀) (batches w)

theorem Lived.of_eq (h : Lived w₀ w) (hsame : batches w' = batches w) : Lived w₀ w' := by
  unfold Lived
  rw [hsame]
  exact h

/-- A part of a run that leaves the batches alone. -/
theorem steady_safe {p : Flow α} (hcalls : p.Calls Steady) (h : Lived w₀ w) :
    Safe exec (Lived w₀) (fun _ w' => batches w' = batches w) p w := by
  have hsafe : Safe exec (fun w' => batches w' = batches w) (fun _ w' => batches w' = batches w) p w :=
    Safe.of_calls hcalls (fun _ _ _ _ hallowed hexec hsame =>
      (exec_steady hallowed hexec).trans hsame) rfl
  exact hsafe.mono (fun _ hsame => h.of_eq hsame) fun _ _ => id

/-- Then the rest of the run, with the batches as they were. -/
theorem after_steady {table : String → Option SnapshotBatch} {p : Flow α} {f : α → Flow β}
    {Q : Result β → World → Prop} (h : Lived w₀ w) (htable : batches w = table)
    (hcalls : p.Calls Steady)
    (hok : ∀ a w', Lived w₀ w' → batches w' = table → Safe exec (Lived w₀) Q (f a) w')
    (herror : ∀ e w', Lived w₀ w' → Q (.error e) w') : Safe exec (Lived w₀) Q (p.bind f) w :=
  (steady_safe hcalls h).bind (fun a w' hsame => hok a w' (h.of_eq hsame) (hsame.trans htable))
    fun e w' hsame => herror e w' (h.of_eq hsame)

theorem after_quiet {table : String → Option SnapshotBatch} {p : Flow α} {f : α → Flow β}
    {Q : Result β → World → Prop} (h : Lived w₀ w) (htable : batches w = table)
    (hcalls : p.Calls Quiet)
    (hok : ∀ a w', Lived w₀ w' → batches w' = table → Safe exec (Lived w₀) Q (f a) w')
    (herror : ∀ e w', Lived w₀ w' → Q (.error e) w') : Safe exec (Lived w₀) Q (p.bind f) w :=
  after_steady h htable (hcalls.mono quiet_steady) hok herror

/-- One operation on the table: if it succeeds, it moves the batch along an edge. -/
theorem store_edge_safe {op : StoreOp} {key : String} {batch batch' : SnapshotBatch}
    (h : Lived w₀ w) (hstored : batches w key = some batch) (hedge : BatchEdge batch batch')
    (heffect : ∀ answer v', Effect w.view op answer v' →
      v'.batch = Function.update w.view.batch key (some batch')) :
    Safe exec (Lived w₀) (fun result w' => Lived w₀ w' ∧ ∀ a, result = .ok a →
      batches w' key = some batch') (store op) w := by
  intro answer w' hexec
  cases answer with
  | error e =>
    have hsame : batches w' = batches w :=
      congrArg StoreView.batch (OperatorStore.failed hexec.1)
    exact ⟨h.of_eq hsame, h.of_eq hsame, fun a ha => nomatch ha⟩
  | ok a =>
    have hupdate : batches w' = Function.update (batches w) _ _ :=
      heffect a w'.view (OperatorStore.effect hexec.1)
    have hlived : Lived w₀ w' := by
      unfold Lived
      rw [hupdate]
      exact h.tail (.advance hstored hedge)
    refine ⟨hlived, hlived, fun _ _ => ?_⟩
    rw [hupdate]
    exact Function.update_self _ _ _

omit [OperatorStore] in
theorem setBatchStatus_batch {v : StoreView} {key : String} {batch : SnapshotBatch}
    {status : OperatorStatus} (hstored : v.batch key = some batch) :
    (v.setBatchStatus key status).batch = Function.update v.batch key (some { batch with status }) := by
  simp [StoreView.setBatchStatus, hstored]

/-- A change of status along an edge. -/
theorem setStatus_safe {key : String} {batch : SnapshotBatch} {status : OperatorStatus}
    (h : Lived w₀ w) (hstored : batches w key = some batch)
    (hedge : BatchEdge batch { batch with status }) :
    Safe exec (Lived w₀) (fun result w' => Lived w₀ w' ∧ ∀ a, result = .ok a →
        batches w' key = some { batch with status })
      (store (.setSnapshotBatchStatus key status)) w := by
  apply store_edge_safe h hstored hedge
  intro answer v' heffect
  cases heffect
  exact setBatchStatus_batch hstored

/-- What is read of a batch is what is stored. -/
theorem readBatch_safe {key : String} {batch : SnapshotBatch} (h : Lived w₀ w)
    (hstored : batches w key = some batch) (message : String) :
    Safe exec (Lived w₀) (fun result w' => Lived w₀ w' ∧ batches w' key = some batch ∧
        ∀ read, result = .ok read → read = batch)
      (found (store (.snapshotBatchBySignature key)) message) w := by
  have hread : Safe exec (Lived w₀) (fun result w' => batches w' = batches w ∧
      ∀ read, result = .ok read → read = some batch) (store (.snapshotBatchBySignature key)) w := by
    intro answer w' hexec
    have hsteady : Steady (.store (.snapshotBatchBySignature key)) := trivial
    have hsame := exec_steady hsteady hexec
    refine ⟨h.of_eq hsame, hsame, ?_⟩
    intro read hanswer
    cases hanswer
    have heffect := OperatorStore.effect hexec.1
    exact heffect.2.trans hstored
  refine hread.bind (fun read w₁ h₁ => ?_) fun e w₁ h₁ => ?_
  · cases h₁.2 read rfl
    refine ⟨h.of_eq h₁.1, h₁.1 ▸ hstored, ?_⟩
    intro other hother
    exact (Except.ok.inj hother).symm
  · exact ⟨h.of_eq h₁.1, h₁.1 ▸ hstored, fun _ hread => nomatch hread⟩

/-! The run, part by part. -/

theorem completeBroadcastTransition_safe {batch held : SnapshotBatch}
    {graph : PersistedWithdrawalGraph} (h : Lived w₀ w)
    (hstored : batches w batch.solanaSignature = some held) (hstatus : held.status = .signed) :
    Safe exec (Lived w₀) (fun result w' => Lived w₀ w' ∧ ∀ u, result = .ok u →
        batches w' batch.solanaSignature = some { held with status := .broadcast })
      (completeBroadcastTransition batch graph) w := by
  have herror : ∀ (e : ErrorChain) w', Lived w₀ w' → Lived w₀ w' ∧ ∀ u : Unit,
      (.error e : Result Unit) = .ok u →
        batches w' batch.solanaSignature = some { held with status := .broadcast } :=
    fun _ _ h' => ⟨h', fun _ hu => nomatch hu⟩
  refine after_done (fun internalTxid _ => ?_) fun e => herror e w h
  refine after_steady h rfl ((completeReservation_preliminary _ _).mono preliminary_steady)
    (fun _ w₁ h₁ htable₁ => ?_) herror
  refine after_steady h₁ htable₁ (by simp [store, invoke, Steady])
    (fun _ w₂ h₂ htable₂ => ?_) herror
  refine after_steady h₂ htable₂ (by simp [store, invoke, Steady])
    (fun _ w₃ h₃ htable₃ => ?_) herror
  refine after_steady h₃ htable₃ ((setRequestStatuses_preliminary _ _).mono preliminary_steady)
    (fun _ w₄ h₄ htable₄ => ?_) herror
  rw [← htable₄] at hstored
  exact setStatus_safe h₄ hstored (.broadcast hstatus)

omit [OperatorStore] in
theorem broadcastElectrsIdempotent_steady (key electrsUrl : String) (raw : ByteString)
    (displayTxid : String) :
    (broadcastElectrsIdempotent key electrsUrl raw displayTxid).Calls Steady := by
  have hknown := (electrsHasTransaction_quiet electrsUrl displayTxid).mono quiet_steady
  have hpost : (broadcastElectrs key electrsUrl raw).Calls Steady := by
    simp [broadcastElectrs, http, invoke, calls_bind, Steady]
  apply Calls.bind hknown
  intro known
  simp only [calls_ite]
  refine ⟨fun _ => trivial, fun _ => Calls.bind (calls_attempt.mpr hpost) fun answer => ?_⟩
  cases answer with
  | ok returned => simp
  | error e => exact Calls.bind hknown fun known => by simp

theorem markBatchBroadcast_safe {args : Args} {batch held : SnapshotBatch} {reservationId : String}
    {signedBytes : ByteString} {rawHash internalTxid : FixedBytes 32} {displayTxid : String}
    (h : Lived w₀ w) (hstored : batches w batch.solanaSignature = some held)
    (hstatus : held.status = .signed) :
    Safe exec (Lived w₀) (fun _ => Lived w₀) (markBatchBroadcast args batch reservationId signedBytes
      rawHash internalTxid displayTxid) w := by
  refine after_steady h rfl (broadcastElectrsIdempotent_steady _ _ _ _)
    (fun _ w₁ h₁ htable₁ => ?_) fun _ _ => id
  refine after_quiet h₁ htable₁ (loadPersistedWithdrawalGraph_quiet batch)
    (fun graph w₂ h₂ htable₂ => ?_) fun _ _ => id
  refine after_done (fun _ _ => ?_) fun _ => h₂
  rw [← htable₂] at hstored
  exact (completeBroadcastTransition_safe h₂ hstored hstatus).imp fun _ _ h => h.1

/-- Broadcasting a signed batch, if the arguments say so, and the evidence of it. -/
theorem broadcastAndReport_safe {args : Args} {batch held : SnapshotBatch} {reservationId : String}
    {signedBytes : ByteString} {rawHash internalTxid : FixedBytes 32} {displayTxid : String}
    {report : Flow Unit} (h : Lived w₀ w)
    (hstored : batches w batch.solanaSignature = some held)
    (hstatus : held.status = .signed) (hreport : report.Calls Quiet) :
    Safe exec (Lived w₀) (fun _ => Lived w₀)
      ((onlyIf args.broadcastEnabled (markBatchBroadcast args batch reservationId signedBytes rawHash
        internalTxid displayTxid)).bind fun _ => report) w := by
  have hmark : Safe exec (Lived w₀) (fun _ => Lived w₀) (onlyIf args.broadcastEnabled
      (markBatchBroadcast args batch reservationId signedBytes rawHash internalTxid displayTxid))
      w := by
    unfold onlyIf
    split
    · exact markBatchBroadcast_safe h hstored hstatus
    · exact h
  refine hmark.bind (fun _ w₁ h₁ => ?_) fun _ _ => id
  exact (steady_safe (hreport.mono quiet_steady) h₁).imp fun _ _ hsame => h₁.of_eq hsame

section
variable [Hashes]

theorem resumeSignedBatch_safe {args : Args} {batch : SnapshotBatch} {payload : Utx0UnlockPayload}
    {graph : PersistedWithdrawalGraph} (h : Lived w₀ w)
    (hstored : batches w batch.solanaSignature = some batch) (hstatus : batch.status = .signed) :
    Safe exec (Lived w₀) (fun _ => Lived w₀) (resumeSignedBatch args batch payload graph) w := by
  refine after_done (fun signedBytes _ => ?_) fun _ => h
  refine after_done (fun _ _ => ?_) fun _ => h
  refine after_done (fun _ _ => ?_) fun _ => h
  exact broadcastAndReport_safe h hstored hstatus (writeEvidence_quiet _ _)

variable [Base58Check] [BlockHashText] [TxoConstants]

theorem resumeBroadcastBatch_safe {args : Args} {batch : SnapshotBatch}
    {payload : Utx0UnlockPayload} (h : Lived w₀ w)
    (hstored : batches w batch.solanaSignature = some batch) (hstatus : batch.status = .broadcast) :
    Safe exec (Lived w₀) (fun _ => Lived w₀) (resumeBroadcastBatch args batch payload) w := by
  refine after_quiet h rfl (loadPersistedWithdrawalGraph_quiet batch)
    (fun graph w₁ h₁ htable₁ => ?_) fun _ _ => id
  refine after_done (fun signedBytes _ => ?_) fun _ => h₁
  refine after_done (fun internalTxid _ => ?_) fun _ => h₁
  refine after_done (fun _ _ => ?_) fun _ => h₁
  refine after_done (fun _ _ => ?_) fun _ => h₁
  refine after_quiet h₁ htable₁ (checkRequests_quiet batch .broadcast "broadcast")
    (fun _ w₂ h₂ htable₂ => ?_) fun _ _ => id
  refine after_quiet h₂ htable₂ (calls_found (fetchConfirmedWithdrawal_quiet _ _))
    (fun confirmed w₃ h₃ htable₃ => ?_) fun _ _ => id
  refine after_done (fun change _ => ?_) fun _ => h₃
  rw [← htable₃] at hstored
  refine (store_edge_safe h₃ hstored (.confirm hstatus) ?_).imp fun _ _ h => h.1
  intro answer v' heffect
  rcases heffect with ⟨reservation, request, process, rfl⟩
  exact setBatchStatus_batch hstored

theorem continueSigned_safe {args : Args} {batch : SnapshotBatch} {payload : Utx0UnlockPayload}
    (h : Lived w₀ w) (hstored : batches w batch.solanaSignature = some batch)
    (hstatus : batch.status = .signed) :
    Safe exec (Lived w₀) (fun _ => Lived w₀) (continueSigned args batch payload) w := by
  refine after_quiet h rfl (loadPersistedWithdrawalGraph_quiet batch)
    (fun graph w₁ h₁ htable₁ => ?_) fun _ _ => id
  rw [← htable₁] at hstored
  split
  · refine (completeBroadcastTransition_safe h₁ hstored hstatus).bind (fun _ w₂ h₂ => ?_)
      fun _ _ h => h.1
    -- the batch read back is the one that was written
    refine (readBatch_safe h₂.1 (h₂.2 () rfl) _).bind (fun broadcastBatch w₃ h₃ => ?_)
      fun _ _ h => h.1
    cases h₃.2.2 broadcastBatch rfl
    exact resumeBroadcastBatch_safe h₃.1 h₃.2.1 rfl
  · refine after_quiet h₁ rfl (loadCompleteSignedGraph_quiet batch)
      (fun graph w₂ h₂ htable₂ => ?_) fun _ _ => id
    rw [← htable₂] at hstored
    exact resumeSignedBatch_safe h₂ hstored hstatus

variable [Secp256k1]

omit [Base58Check] [BlockHashText] [TxoConstants] [Secp256k1] in
theorem persistAndBroadcast_safe {args : Args} {batch : SnapshotBatch}
    {payload : Utx0UnlockPayload} {signed : SignedSnapshot} (h : Lived w₀ w)
    (hstored : batches w batch.solanaSignature = some batch)
    (hedge : BatchEdge batch { batch with status := .signed }) :
    Safe exec (Lived w₀) (fun _ => Lived w₀) (persistAndBroadcast args batch payload signed) w := by
  refine (store_edge_safe h hstored hedge ?_).bind (fun _ w₁ h₁ => ?_) fun _ _ h => h.1
  · intro answer v' heffect
    rcases heffect with ⟨reservation, request, mappings, rfl⟩
    exact setBatchStatus_batch hstored
  · refine broadcastAndReport_safe h₁.1 (h₁.2 () rfl) rfl ?_
    exact Calls.bind trivial fun managerUrl => writeEvidence_quiet _ _

omit [BlockHashText] [TxoConstants] in
theorem signSnapshotBatch_safe {args : Args} {bridgeState : Pubkey} {batch : SnapshotBatch}
    {payload : Utx0UnlockPayload} (h : Lived w₀ w)
    (hstored : batches w batch.solanaSignature = some batch)
    (hstatus : batch.status = .snapshotted ∨ batch.status = .constructed) :
    Safe exec (Lived w₀) (fun _ => Lived w₀) (signSnapshotBatch args bridgeState batch payload) w := by
  refine after_done (fun managerSet _ => ?_) fun _ => h
  refine after_done (fun reservationId _ => ?_) fun _ => h
  refine after_quiet h rfl (calls_found (by simp [store, invoke, Quiet, StoreOp.IsRead]))
    (fun reservation w₁ h₁ htable₁ => ?_) fun _ _ => id
  refine after_done (fun persistedUnsigned hunsigned => ?_) fun _ => h₁
  refine after_done (fun prepared _ => ?_) fun _ => h₁
  refine after_quiet h₁ htable₁ (obtainSignatures_quiet _ _ _ _ _ _)
    (fun signed w₂ h₂ htable₂ => ?_) fun _ _ => id
  have hpresent : batch.unsignedTransaction.isSome := by simp [orBail_eq_ok.mp hunsigned]
  rw [← htable₂] at hstored
  exact persistAndBroadcast_safe h₂ hstored (.sign hstatus hpresent)

/-- A stored batch whose snapshot has landed, and that is not at its end. -/
theorem continueSnapshotBatch_safe {args : Args} {bridgeState : Pubkey} {batch : SnapshotBatch}
    (h : Lived w₀ w) (hstored : batches w batch.solanaSignature = some batch)
    (hincomplete : Incomplete batch.status) (hlanded : batch.status ≠ .observed) :
    Safe exec (Lived w₀) (fun _ => Lived w₀) (continueSnapshotBatch args bridgeState batch) w := by
  refine after_done (fun payload _ => ?_) fun _ => h
  refine after_done (fun _ _ => ?_) fun _ => h
  split
  · rename_i hstatus
    exact resumeBroadcastBatch_safe h hstored hstatus
  · rename_i hstatus
    exact continueSigned_safe h hstored hstatus
  · rename_i hbroadcast hsigned
    refine signSnapshotBatch_safe h hstored ?_
    cases hstatus : batch.status with
    | snapshotted => exact .inl rfl
    | constructed => exact .inr rfl
    | observed => exact absurd hstatus hlanded
    | signed => exact absurd hstatus hsigned
    | broadcast => exact absurd hstatus hbroadcast
    | confirmed => exact absurd hstatus hincomplete.1
    | failed => exact absurd hstatus hincomplete.2

omit [Hashes] [Base58Check] [BlockHashText] [TxoConstants] [Secp256k1] in
theorem lived_stable : Stable exec (Lived w₀) :=
  fun op _ _ _ hallowed hexec h => h.of_eq (exec_steady (preliminary_steady op hallowed) hexec)

omit [Hashes] [Base58Check] [BlockHashText] [TxoConstants] [Secp256k1] in
theorem idle_stable : Stable exec fun w => Idle batchLife (batches w) := by
  intro op w answer w' hallowed hexec hidle
  rw [exec_steady (preliminary_steady op hallowed) hexec]
  exact hidle

omit [OperatorStore] [Hashes] [Base58Check] [BlockHashText] [TxoConstants] [Secp256k1] in
theorem landed_open {status : OperatorStatus} (h : status = .snapshotted ∨ status = .constructed) :
    Incomplete status ∧ status ≠ .observed := by
  rcases h with rfl | rfl <;> simp [Incomplete]

/-- Settling an observed batch moves it along an edge, or leaves it. -/
theorem lived_settling : KeptBySettling exec (Lived w₀) StoredObserved StoredLanded where
  opened batch := lived_stable.and (storedObserved_stable batch)
  landed batch := lived_stable.and (storedLanded_stable batch)
  land batch metadata w answer w' h hopen hexec := by
    have hupdate : ∀ answer v', Effect w.view (.upsertSnapshotBatch (confirmedBatch batch metadata))
        answer v' → v'.batch = Function.update w.view.batch batch.solanaSignature
          (some (confirmedBatch batch metadata)) := by
      intro answer v' heffect
      cases heffect
      rfl
    refine ⟨(store_edge_safe h hopen.1 (.land metadata hopen.2) hupdate answer w' hexec).1,
      fun u hanswer => ?_⟩
    cases hanswer
    exact exec_landed hexec
  fail batch w answer w' h hopen hexec :=
    (setStatus_safe h hopen.1 (.fail hopen.2) answer w' hexec).1
  carryOn args bridgeState batch w h hlanded := by
    have hopen := landed_open hlanded.2
    exact continueSnapshotBatch_safe h hlanded.1 hopen.1 hopen.2

/-- A new batch begins its life while no other is incomplete. -/
theorem lived_parts [SolanaSdk] : KeptByParts exec (Lived w₀) (fun w => Idle batchLife (batches w))
    StoredObserved (fun batch w => OldestIncomplete w.view batch) where
  steady := lived_stable
  idle := lived_stable.and idle_stable
  reserved := lived_settling.opened
  oldest w answer w' h hexec := by
    have hsteady : Steady (.store .oldestIncompleteSnapshotBatch) := trivial
    refine ⟨h.of_eq (exec_steady hsteady hexec), fun hanswer => ?_, fun batch hanswer => ?_⟩
    · cases hanswer
      exact (exec_oldest hexec).2 rfl
    · cases hanswer
      exact (exec_oldest hexec).1 batch rfl
  reserve reservationId requiredSats build w answer w' h hidle hbuild hexec := by
    cases answer with
    | error e =>
      have hsame : batches w' = batches w :=
        congrArg StoreView.batch (OperatorStore.failed hexec.1)
      exact ⟨h.of_eq hsame, fun reserved hanswer => by cases hanswer⟩
    | ok reserved =>
      rcases exec_reserved hbuild hexec with ⟨hfresh, habsent, hupdate⟩
      have hcreated : TableStep batchLife (batches w) (batches w') := by
        rw [show batches w' = _ from hupdate]
        exact .create hidle habsent ⟨hfresh.observed, hfresh.prepared⟩
      refine ⟨h.tail hcreated, fun other hanswer => ?_⟩
      cases hanswer
      exact exec_reserved_stored hbuild hexec
  confirm args bridgeState batch w h hreserved := confirmed_kept lived_settling ⟨h, hreserved⟩
  resume args bridgeState batch w h hfound := by
    by_cases hobserved : batch.status = .observed
    · exact resumeSnapshotBatch_kept lived_settling hobserved ⟨h, hfound.stored, hobserved⟩
    · rw [resumeSnapshotBatch, if_neg hobserved]
      exact continueSnapshotBatch_safe h hfound.stored hfound.incomplete hobserved

/-- One withdraw run, with any arguments. -/
theorem runWithStore_safe [SolanaSdk] [UrlParser] (args : Args) (h : Lived w₀ w) :
    Safe exec (Lived w₀) (fun _ => Lived w₀) (runWithStore args) w :=
  runWithStore_kept lived_parts args h

end

end

end DogeOperator.BatchLifecycle
