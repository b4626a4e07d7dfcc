import DogeOperator.Footprint

/-! A withdraw run, part by part. An invariant that the parts keep is kept by the run; what is known
of a batch besides goes with it, from where it is reserved or found to where it is carried on. -/
namespace DogeOperator.WithdrawRuns
open Bytes Outcome Crypto Utx0 Network Manager Prepare Records Confirm Batches Store Operations
  Solana Resume Withdraw Program Footprint

variable {σ α β : Type} {exec : Exec Op.Answer ErrorChain σ} {Inv Idle : σ → Prop}
  {Open Landed Reserved Found : SnapshotBatch → σ → Prop} {w : σ}

/-- A batch as the store is asked to keep it with its reservation. -/
structure Fresh (batch : SnapshotBatch) : Prop where
  observed : batch.status = .observed
  prepared : batch.unsignedTransaction.isSome

/-- Operations that change no batch and post nothing keep the assertion. -/
def Stable (exec : Exec Op.Answer ErrorChain σ) (R : σ → Prop) : Prop :=
  ∀ op w answer w', Preliminary op → exec op w answer w' → R w → R w'

theorem Stable.and {R S : σ → Prop} (hR : Stable exec R) (hS : Stable exec S) :
    Stable exec fun w => R w ∧ S w :=
  fun op w answer w' hallowed hexec hw =>
    ⟨hR op w answer w' hallowed hexec hw.1, hS op w answer w' hallowed hexec hw.2⟩

/-- A part of the run without such effects, and what comes after it. -/
theorem after_stable {R : σ → Prop} {p : Flow α} {f : α → Flow β} {Q : Result β → σ → Prop}
    (hstable : Stable exec R) (hinv : ∀ w, R w → Inv w) (hw : R w) (hcalls : p.Calls Preliminary)
    (hok : ∀ a w', R w' → Safe exec Inv Q (f a) w') (herror : ∀ e w', R w' → Q (.error e) w') :
    Safe exec Inv Q (p.bind f) w := by
  have hpart : Safe exec R (fun _ => R) p w := Safe.of_calls hcalls hstable hw
  exact (hpart.mono hinv fun _ _ => id).bind hok herror

theorem confirmedBatch_status (batch : SnapshotBatch) (metadata : ConfirmedTransaction) :
    (confirmedBatch batch metadata).status = .snapshotted ∨
      (confirmedBatch batch metadata).status = .constructed := by
  unfold confirmedBatch
  cases batch.unsignedTransaction <;> simp

theorem observedBatch_fresh [Hashes] [Base58Check] {args : Args} {bridgeState : Pubkey}
    {managerSet : ManagerSet} {sequence : UInt64} {plan : SnapshotPlan}
    {reservationId solanaSignature : String} {solanaTransaction : ByteString}
    {reservation : CustodyReservation} {batch : SnapshotBatch}
    (h : observedBatch args bridgeState managerSet sequence plan reservationId solanaSignature
      solanaTransaction reservation = .ok batch) : Fresh batch := by
  rcases bind_eq_ok.mp h with ⟨prepared, -, h⟩
  cases h
  exact ⟨rfl, rfl⟩

section
variable [SolanaSdk] [Hashes] [Base58Check] [Secp256k1] [BlockHashText] [TxoConstants]

/-! An observed batch: it lands, it fails, or it stays. -/

/-- What settling an observed batch keeps. `Open` is what is known of it while it is observed,
`Landed` of the batch it becomes when its snapshot has landed. -/
structure KeptBySettling (exec : Exec Op.Answer ErrorChain σ) (Inv : σ → Prop)
    (Open Landed : SnapshotBatch → σ → Prop) : Prop where
  opened : ∀ batch, Stable exec fun w => Inv w ∧ Open batch w
  landed : ∀ batch, Stable exec fun w => Inv w ∧ Landed batch w
  land : ∀ batch metadata w answer w', Inv w → Open batch w →
    exec (.store (.upsertSnapshotBatch (confirmedBatch batch metadata))) w answer w' →
    Inv w' ∧ ∀ u, answer = .ok u → Landed (confirmedBatch batch metadata) w'
  fail : ∀ batch w answer w', Inv w → Open batch w →
    exec (.store (.setSnapshotBatchStatus batch.solanaSignature .failed)) w answer w' → Inv w'
  carryOn : ∀ args bridgeState batch w, Inv w → Landed batch w →
    Safe exec Inv (fun _ => Inv) (continueSnapshotBatch args bridgeState batch) w

section
variable (h : KeptBySettling exec Inv Open Landed) {args : Args} {bridgeState : Pubkey}
  {batch : SnapshotBatch}
include h

omit [SolanaSdk] in
theorem setFailed_kept (hw : Inv w ∧ Open batch w) :
    Safe exec Inv (fun _ => Inv)
      (store (.setSnapshotBatchStatus batch.solanaSignature .failed)) w := by
  intro answer w' hexec
  have hw' := h.fail batch w answer w' hw.1 hw.2 hexec
  exact ⟨hw', hw'⟩

theorem finishConfirmedSnapshot_kept {metadata : ConfirmedTransaction} (hw : Inv w ∧ Open batch w) :
    Safe exec Inv (EndsWith Inv Landed) (finishConfirmedSnapshot args bridgeState batch metadata)
      w := by
  have hinv : ∀ w, Inv w ∧ Open batch w → Inv w := fun _ h => h.1
  have hfails : ∀ (e : ErrorChain) w, Inv w ∧ Open batch w → EndsWith Inv Landed (.error e) w :=
    fun _ _ h => endsWith_error h.1
  refine after_stable (h.opened batch) hinv hw ((readBridgeState_quiet _ _).mono quiet_preliminary)
    (fun state w₁ hw₁ => ?_) hfails
  dsimp only
  split
  · split
    · refine after_stable (h.opened batch) hinv hw₁ (releaseReserved_preliminary batch)
        (fun _ w₂ hw₂ => ?_) hfails
      exact (setFailed_kept h hw₂).bind (fun _ _ hw₃ => endsWith_error hw₃)
        fun _ _ hw₃ => endsWith_error hw₃
    · exact endsWith_error hw₁.1
  · refine after_done (fun _ _ => ?_) fun e => hfails e _ hw₁
    refine after_done (fun _ _ => ?_) fun e => hfails e _ hw₁
    refine after_stable (h.opened batch) hinv hw₁
      ((checkWormholeMessage_quiet _ _ _).mono quiet_preliminary) (fun _ w₂ hw₂ => ?_) hfails
    refine after_invoke (fun u w₃ hexec => ?_) fun e w₃ hexec => ?_
    · have hw₃ := h.land batch metadata w₂ _ w₃ hw₂.1 hw₂.2 hexec
      refine ⟨hw₃.1, ?_⟩
      refine after_stable (h.landed _) (fun _ h => h.1) ⟨hw₃.1, hw₃.2 u rfl⟩
        (setRequestStatuses_preliminary _ _) (fun _ w₄ hw₄ => ?_) fun _ _ h => endsWith_error h.1
      exact endsWith_ok hw₄.1 hw₄.2
    · have hw₃ := h.land batch metadata w₂ _ w₃ hw₂.1 hw₂.2 hexec
      exact ⟨hw₃.1, endsWith_error hw₃.1⟩

theorem confirmSnapshotBatch_kept (hw : Inv w ∧ Open batch w) :
    Safe exec Inv (EndsWith Inv Landed) (confirmSnapshotBatch args bridgeState batch) w := by
  refine after_done (fun signature _ => ?_) fun _ => endsWith_error hw.1
  refine after_stable (h.opened batch) (fun _ h => h.1) hw
    ((waitForTransactionMeta_quiet _ _).mono quiet_preliminary) (fun metadata w₁ hw₁ => ?_)
    fun _ _ h => endsWith_error h.1
  exact finishConfirmedSnapshot_kept h hw₁

theorem settleObserved_kept {metadata : Option ConfirmedTransaction} (hw : Inv w ∧ Open batch w) :
    Safe exec Inv (EndsWith Inv Landed) (settleObserved args bridgeState batch metadata) w := by
  cases metadata with
  | none => exact confirmSnapshotBatch_kept h hw
  | some metadata => exact finishConfirmedSnapshot_kept h hw

omit [SolanaSdk] in
theorem applyFail_kept (hw : Inv w ∧ Open batch w) :
    Safe exec Inv (fun _ => Inv) (applyObservedTerminalEffect batch .fail) w := by
  refine after_stable (h.opened batch) (fun _ h => h.1) hw (releaseReserved_preliminary batch)
    (fun _ w₁ hw₁ => ?_) fun _ _ h => h.1
  exact (setFailed_kept h hw₁).bind (fun _ _ => id) fun _ _ => id

theorem resumeObserved_kept (hw : Inv w ∧ Open batch w) :
    Safe exec Inv (EndsWith Inv fun next w => ∀ landed, next = some landed → Landed landed w)
      (resumeObserved args bridgeState batch) w := by
  have hinv : ∀ w, Inv w ∧ Open batch w → Inv w := fun _ h => h.1
  have hgoes : ∀ {metadata} {w : σ}, Inv w ∧ Open batch w →
      Safe exec Inv (EndsWith Inv fun next w => ∀ landed, next = some landed → Landed landed w)
        ((settleObserved args bridgeState batch metadata).bind fun landed => done (.ok (some landed)))
        w := by
    intro metadata w hw
    refine (settleObserved_kept h hw).bind (fun landed w' hw' => ?_) fun _ _ h => endsWith_error h.1
    refine endsWith_ok hw'.1 fun other hother => ?_
    cases hother
    exact hw'.value
  refine after_done (fun decoded _ => ?_) fun _ => endsWith_error hw.1
  refine after_stable (h.opened batch) hinv hw ((observe_quiet _ _ _ _).mono quiet_preliminary)
    (fun seen w₁ hw₁ => ?_) fun _ _ h => endsWith_error h.1
  split
  · exact hgoes hw₁
  · refine after_stable (h.opened batch) hinv hw₁ (by simp [rpc, invoke, Preliminary, Quiet])
      (fun returned w₂ hw₂ => ?_) fun _ _ h => endsWith_error h.1
    exact after_done (fun _ _ => hgoes hw₂) fun _ => endsWith_error hw₂.1
  · exact (applyFail_kept h hw₁).bind
      (fun _ w₂ hw₂ => endsWith_ok hw₂ fun _ hnone => by cases hnone) fun _ _ => endsWith_error
  · exact endsWith_error hw₁.1

/-- What an observed batch has become is carried on. -/
theorem resumeSnapshotBatch_kept (hobserved : batch.status = .observed)
    (hw : Inv w ∧ Open batch w) :
    Safe exec Inv (fun _ => Inv) (resumeSnapshotBatch args bridgeState batch) w := by
  rw [resumeSnapshotBatch, if_pos hobserved]
  refine (resumeObserved_kept h hw).bind (fun next w₁ hw₁ => ?_) fun _ _ h => h.1
  cases next with
  | none => exact hw₁.1
  | some landed => exact h.carryOn args bridgeState landed w₁ hw₁.1 (hw₁.value landed rfl)

theorem confirmed_kept (hw : Inv w ∧ Open batch w) :
    Safe exec Inv (fun _ => Inv) ((confirmSnapshotBatch args bridgeState batch).bind fun confirmed =>
      continueSnapshotBatch args bridgeState confirmed) w :=
  (confirmSnapshotBatch_kept h hw).bind
    (fun confirmed w₁ hw₁ => h.carryOn args bridgeState confirmed w₁ hw₁.1 hw₁.value)
    fun _ _ h => h.1

end

/-! A whole run. -/

/-- What the parts of a run keep. `Idle` says that no batch is under way, `Reserved` what is known
of a batch that was just reserved, `Found` of the oldest incomplete one. -/
structure KeptByParts (exec : Exec Op.Answer ErrorChain σ) (Inv Idle : σ → Prop)
    (Reserved Found : SnapshotBatch → σ → Prop) : Prop where
  steady : Stable exec Inv
  idle : Stable exec fun w => Inv w ∧ Idle w
  reserved : ∀ batch, Stable exec fun w => Inv w ∧ Reserved batch w
  oldest : ∀ w answer w', Inv w → exec (.store .oldestIncompleteSnapshotBatch) w answer w' →
    Inv w' ∧ (answer = .ok none → Idle w') ∧ ∀ batch, answer = .ok (some batch) → Found batch w'
  reserve : ∀ reservationId requiredSats build w answer w', Inv w → Idle w →
    (∀ reservation batch, build reservation = .ok batch → Fresh batch) →
    exec (.store (.reserveCustodyForSnapshot reservationId requiredSats build)) w answer w' →
    Inv w' ∧ ∀ reserved, answer = .ok reserved → Reserved reserved.2 w'
  confirm : ∀ args bridgeState batch w, Inv w → Reserved batch w →
    Safe exec Inv (fun _ => Inv) ((confirmSnapshotBatch args bridgeState batch).bind fun confirmed =>
      continueSnapshotBatch args bridgeState confirmed) w
  resume : ∀ args bridgeState batch w, Inv w → Found batch w →
    Safe exec Inv (fun _ => Inv) (resumeSnapshotBatch args bridgeState batch) w

variable (h : KeptByParts exec Inv Idle Reserved Found)
include h

/-- Custody and the batch go into the store in one call. -/
theorem reserve_kept {reservationId : String} {requiredSats : UInt64}
    {build : CustodyReservation → Result SnapshotBatch} (hw : Inv w ∧ Idle w)
    (hbuild : ∀ reservation batch, build reservation = .ok batch → Fresh batch) :
    Safe exec Inv (EndsWith Inv fun reserved => Reserved reserved.2)
      (withContext "atomically reserve custody and persist observed snapshot"
        (store (.reserveCustodyForSnapshot reservationId requiredSats build))) w := by
  refine safe_mapError.mpr fun answer w' hexec => ?_
  have hw' := h.reserve _ _ _ _ _ _ hw.1 hw.2 hbuild hexec
  exact ⟨hw'.1, hw'.1, fun reserved heq => hw'.2 reserved (mapError_eq_ok.mp heq)⟩

/-- A new batch comes out reserved. -/
theorem reserveSnapshot_kept {args : Args} {bridgeState : Pubkey} {payer operator : Keypair}
    {plan : SnapshotPlan} (hw : Inv w ∧ Idle w) :
    Safe exec Inv (EndsWith Inv Reserved) (reserveSnapshot args bridgeState payer operator plan)
      w := by
  have hinv : ∀ w, Inv w ∧ Idle w → Inv w := fun _ h => h.1
  have hfails : ∀ (e : ErrorChain) w, Inv w ∧ Idle w → EndsWith Inv Reserved (.error e) w :=
    fun _ _ h => endsWith_error h.1
  have hreads : ∀ {α : Type} {p : Flow α}, p.Calls Quiet → p.Calls Preliminary :=
    fun hcalls => hcalls.mono quiet_preliminary
  refine after_stable h.idle hinv hw (hreads (postGenericBuffer_quiet _ _ _ _))
    (fun utx0Buffer w₁ hw₁ => ?_) hfails
  refine after_stable h.idle hinv hw₁ (hreads (postGenericBuffer_quiet _ _ _ _))
    (fun proofBuffer w₂ hw₂ => ?_) hfails
  refine after_stable h.idle hinv hw₂ (hreads (nextWormholeSequence_quiet _ _ _))
    (fun sequence w₃ hw₃ => ?_) hfails
  refine after_done (fun managerSet _ => ?_) fun e => hfails e _ hw₃
  refine after_stable h.idle hinv hw₃ (by simp [system, invoke, Preliminary, Quiet])
    (fun unique w₄ hw₄ => ?_) hfails
  refine after_done (fun withdrawalSats _ => ?_) fun e => hfails e _ hw₄
  refine after_done (fun requiredSats _ => ?_) fun e => hfails e _ hw₄
  refine after_done (fun managerSetAccount _ => ?_) fun e => hfails e _ hw₄
  refine after_stable h.idle hinv hw₄ (hreads (buildSnapshotTransaction_quiet _ _ _ _ _ _ _ _))
    (fun transaction w₅ hw₅ => ?_) hfails
  refine after_done (fun signature _ => ?_) fun e => hfails e _ hw₅
  refine after_done (fun transactionBytes _ => ?_) fun e => hfails e _ hw₅
  refine (reserve_kept h hw₅ fun _ _ => observedBatch_fresh).bind (fun reserved w₆ hw₆ => ?_)
    fun _ _ h => endsWith_error h.1
  have hreserved : Inv w₆ ∧ Reserved reserved.2 w₆ := ⟨hw₆.1, hw₆.value⟩
  refine after_done (fun _ _ => ?_) fun _ => endsWith_error hreserved.1
  refine after_stable (h.reserved reserved.2) (fun _ h => h.1) hreserved
    (by simp [rpc, invoke, Preliminary, Quiet]) (fun returned w₇ hw₇ => ?_)
    fun _ _ h => endsWith_error h.1
  refine after_done (fun _ _ => ?_) fun _ => endsWith_error hw₇.1
  exact endsWith_ok hw₇.1 hw₇.2

theorem startSnapshotBatch_kept {args : Args} {bridgeState : Pubkey} {payer operator : Keypair}
    (hw : Inv w ∧ Idle w) :
    Safe exec Inv (fun _ => Inv) (startSnapshotBatch args bridgeState payer operator) w := by
  have hinv : ∀ w, Inv w ∧ Idle w → Inv w := fun _ h => h.1
  refine after_stable h.idle hinv hw ((loadIndexedRequests_quiet _ _).mono quiet_preliminary)
    (fun history w₁ hw₁ => ?_) fun _ => hinv
  refine after_stable h.idle hinv hw₁ ((readBridgeState_quiet _ _).mono quiet_preliminary)
    (fun state w₂ hw₂ => ?_) fun _ => hinv
  -- whatever the plan is
  generalize planSnapshot args history state = planned
  refine after_done (fun plan _ => ?_) fun _ => hw₂.1
  refine after_stable h.idle hinv hw₂ (recordRequests_preliminary _) (fun _ w₃ hw₃ => ?_)
    fun _ => hinv
  refine (reserveSnapshot_kept h hw₃).bind (fun batch w₄ hw₄ => ?_) fun _ _ h => h.1
  exact h.confirm args bridgeState batch w₄ hw₄.1 hw₄.value

/-- One withdraw run, with any arguments. -/
theorem runWithStore_kept [UrlParser] (args : Args) (hw : Inv w) :
    Safe exec Inv (fun _ => Inv) (runWithStore args) w := by
  refine after_done (fun _ _ => ?_) fun _ => hw
  refine after_done (fun _ _ => ?_) fun _ => hw
  refine after_done (fun _ _ => ?_) fun _ => hw
  refine after_stable h.steady (fun _ => id) hw ((readKeypair_quiet _ _).mono quiet_preliminary)
    (fun operator w₁ hw₁ => ?_) fun _ _ => id
  refine after_stable h.steady (fun _ => id) hw₁ ((readKeypair_quiet _ _).mono quiet_preliminary)
    (fun payer w₂ hw₂ => ?_) fun _ _ => id
  refine after_invoke (fun incomplete w₃ hexec => ?_) fun e w₃ hexec => ?_
  · have hw₃ := h.oldest w₂ _ w₃ hw₂ hexec
    refine ⟨hw₃.1, after_done (fun _ _ => ?_) fun _ => hw₃.1⟩
    cases incomplete with
    | none => exact startSnapshotBatch_kept h ⟨hw₃.1, hw₃.2.1 rfl⟩
    | some batch => exact h.resume args _ batch w₃ hw₃.1 (hw₃.2.2 batch rfl)
  · have hw₃ := h.oldest w₂ _ w₃ hw₂ hexec
    exact ⟨hw₃.1, hw₃.1⟩

end

end DogeOperator.WithdrawRuns
