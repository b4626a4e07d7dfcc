import DogeOperator.GraphSpec

/-! Resolving an observed batch, for every answer the chain may give: the records stay as they are,
or the batch is failed after its reservation, or the batch and all its requests move on together. -/
namespace DogeOperator.ObservedBatch
open Bytes Outcome Network Prepare Records Confirm Store Operations Solana DogeOperator.Graph Resume
  Program Footprint

/-! What a run has read, as the record of its calls shows it. -/

section
variable [SolanaSdk] (args : Args) (bridgeState : Pubkey) (batch : SnapshotBatch)
  (log : Log Op.Answer ErrorChain)

/-- The bridge state as it was read last. -/
def StateRead (state : BridgeProgramState) : Prop :=
  ∃ account, LastAnswer log (.rpc (.getAccount bridgeState)) (.ok account) ∧
    account.owner = args.dogeBridgeProgram ∧ SolanaSdk.decodeBridgeState account.data = .ok state

/-- The shim history has the message under the signature. -/
def MessageRead (signature : SolanaSignature) (noop : NoopShimWithdrawalMessage) : Prop :=
  ∃ config before page, ⟨.rpc (.getWithdrawals config before 50), .ok page⟩ ∈ log ∧
    page.messages.find? (fun message => message.signature = signature) = some noop

/-- The account that holds the next Wormhole sequence of an emitter. -/
def sequenceAddress : Pubkey :=
  SolanaSdk.findProgramAddress [asciiBytes "Sequence", bridgeState.toList] args.wormholeCoreProgram

/-- The Wormhole sequence as it was read last. -/
def SequenceRead (sequence : UInt64) : Prop :=
  ∃ account, LastAnswer log (.rpc (.getAccountWithCommitment (sequenceAddress args bridgeState)))
      (.ok (some account)) ∧
    account.owner = args.wormholeCoreProgram ∧ account.data.length = 8 ∧
    u64OfLe account.data = sequence

/-- The sequence of the message is the batch's: the nonce, or one less than the next one. -/
def SequenceChecked (noop : NoopShimWithdrawalMessage) : Prop :=
  if usesNoopShim args then noop.nonce.toUInt64 = batch.wormholeSequence
  else ∃ after, SequenceRead args bridgeState log after ∧
    checkedAdd batch.wormholeSequence 1 = some after

/-- The Wormhole message of the batch's own signature carries its payload and sequence. -/
def MessageChecked : Prop :=
  ∃ signature noop, SolanaSdk.signatureFromStr batch.solanaSignature = .ok signature ∧
    MessageRead log signature noop ∧ noop.emitter = bridgeState ∧ noop.dogeTxBytes = batch.payload ∧
    SequenceChecked args bridgeState batch log noop

end

/-! The three ways an observed batch is resolved. -/

inductive Resolution
  | unchanged
  | failed
  | advanced
  deriving DecidableEq, Repr

section
variable [SolanaSdk] (args : Args) (bridgeState : Pubkey) (batch : SnapshotBatch)

/-- The requests of the batch with a new status. -/
def withRequests (v : StoreView) (status : OperatorStatus) (indices : List UInt64) : StoreView :=
  { v with
    request := fun index =>
      if index ∈ indices then (v.request index).map ({ · with status }) else v.request index }

/-- Only the reservation of the batch differs, and it is not held. -/
structure Released (v v' : StoreView) : Prop where
  frame : v' = { v with reservation := v'.reservation }
  other : ∀ reservationId, batch.reservationId ≠ some reservationId →
    v'.reservation reservationId = v.reservation reservationId
  own : ∀ reservationId reservation, batch.reservationId = some reservationId →
    v'.reservation reservationId = some reservation → reservation.status ≠ .reserved

/-- The batch is failed, its reservation not held, and the cursor was at its start. -/
structure Fails (v v' : StoreView) (log : Log Op.Answer ErrorChain) : Prop where
  cursor : ∃ state, StateRead args bridgeState log state ∧
    state.withdrawalSnapshot.nextRequestedWithdrawalsTreeIndex = batch.requestStartIndex
  released : ∃ freed, Released batch v freed ∧
    v' = { freed with
      batch := Function.update v.batch batch.solanaSignature (some { batch with status := .failed }) }

/-- Everything that was checked before the batch moves on. -/
structure Checked (log : Log Op.Answer ErrorChain) : Prop where
  state : ∃ state, StateRead args bridgeState log state ∧
    state.withdrawalSnapshot.nextRequestedWithdrawalsTreeIndex = batch.requestEndIndex ∧
    state.withdrawalSnapshot.requestedWithdrawalsTreeRoot = batch.snapshotRoot
  message : MessageChecked args bridgeState batch log

/-- The status of a batch whose snapshot has been confirmed. -/
def advancedStatus : OperatorStatus :=
  if batch.unsignedTransaction.isSome then .constructed else .snapshotted

/-- The batch and all its requests have the new status; nothing else differs. -/
structure Advances (v v' : StoreView) (log : Log Op.Answer ErrorChain) (confirmed : SnapshotBatch) :
    Prop where
  checked : Checked args bridgeState batch log
  record : ∃ slot blockTime, confirmed =
    { batch with solanaSlot := slot, blockTime := blockTime, status := advancedStatus batch }
  view : v' = { withRequests v (advancedStatus batch)
      (requestIndices batch.requestStartIndex batch.requestEndIndex) with
    batch := Function.update v.batch batch.solanaSignature (some confirmed) }

/-- How a run on an observed batch has ended. -/
def Resolves (v v' : StoreView) (log : Log Op.Answer ErrorChain)
    (result : Result (Option SnapshotBatch)) : Resolution → Prop
  | .unchanged => v' = v ∧ ∃ error, result = .error error
  | .failed => Fails args bridgeState batch v v' log ∧ ∃ error, result = .error error
  | .advanced => ∃ confirmed, Advances args bridgeState batch v v' log confirmed ∧
      result = .ok (some confirmed)

end

/-! The environment: the store accepts every write, all else may be answered in any way or fail. -/

section
variable [OperatorStore]

def passExec : Exec Op.Answer ErrorChain OperatorStore.State
  | .store op, s, answer, s' => OperatorStore.exec op s answer s' ∧ (op.IsRead ∨ ∃ a, answer = .ok a)
  | .rpc _, s, _, s' => s' = s
  | .http _, s, _, s' => s' = s
  | .system _, s, _, s' => s' = s

/-- The store, and the calls made so far. -/
abbrev World := OperatorStore.State × Log Op.Answer ErrorChain

def view (w : World) : StoreView := OperatorStore.view w.1

variable {w w' : World} {v : StoreView} {α : Type}

theorem quiet_view {op : Op} {answer : Result op.Answer} (hquiet : Quiet op)
    (hexec : passExec.logged op w answer w') : view w' = view w := by
  cases op with
  | store op => exact read_view hquiet hexec.1.1
  | rpc op => exact congrArg OperatorStore.view hexec.1
  | http op => exact congrArg OperatorStore.view hexec.1
  | system op => exact congrArg OperatorStore.view hexec.1

theorem quiet_safe {p : Flow α} (hcalls : p.Calls Quiet) (hview : view w = v) :
    Safe passExec.logged (fun _ => True) (fun _ w' => view w' = v) p w := by
  have hkept : Safe passExec.logged (fun w' => view w' = v) (fun _ w' => view w' = v) p w :=
    Safe.of_calls hcalls (fun op w answer w' hquiet hexec hw => (quiet_view hquiet hexec).trans hw)
      hview
  exact hkept.mono (fun _ _ => trivial) fun _ _ h => h

/-- A write takes effect. -/
theorem write_effect {op : StoreOp} {answer : Result op.Answer}
    (hexec : passExec.logged (.store op) w answer w') (hwrite : ¬ op.IsRead) :
    ∃ a, answer = .ok a ∧ Effect (view w) op a (view w') := by
  rcases hexec.1.2.resolve_left hwrite with ⟨a, rfl⟩
  exact ⟨a, rfl, OperatorStore.effect hexec.1.1⟩

end

section
variable [SolanaSdk] {args : Args} {bridgeState : Pubkey} {batch : SnapshotBatch}
  {log : Log Op.Answer ErrorChain} {state : BridgeProgramState}

/-! What has been read stays on record. -/

variable {event : (op : Op) × Result op.Answer}

theorem StateRead.cons (h : StateRead args bridgeState log state)
    (hother : event.1 ≠ .rpc (.getAccount bridgeState)) :
    StateRead args bridgeState (event :: log) state := by
  rcases h with ⟨account, hlast, hread⟩
  exact ⟨account, hlast.cons hother, hread⟩

omit [SolanaSdk] in
theorem MessageRead.cons {signature : SolanaSignature} {noop : NoopShimWithdrawalMessage}
    (h : MessageRead log signature noop) : MessageRead (event :: log) signature noop := by
  rcases h with ⟨config, before, page, hmem, hfind⟩
  exact ⟨config, before, page, List.mem_cons_of_mem _ hmem, hfind⟩

theorem MessageChecked.store (h : MessageChecked args bridgeState batch log) {op : StoreOp}
    (answer : Result op.Answer) :
    MessageChecked args bridgeState batch (⟨.store op, answer⟩ :: log) := by
  rcases h with ⟨signature, noop, hsignature, hread, hemitter, hbytes, hsequence⟩
  refine ⟨signature, noop, hsignature, hread.cons, hemitter, hbytes, ?_⟩
  unfold SequenceChecked at hsequence ⊢
  split_ifs at hsequence ⊢ with hshim
  · exact hsequence
  · rcases hsequence with ⟨after, ⟨account, hlast, haccount⟩, hafter⟩
    exact ⟨after, ⟨account, hlast.cons (by simp), haccount⟩, hafter⟩

theorem Checked.store (h : Checked args bridgeState batch log) {op : StoreOp}
    (answer : Result op.Answer) : Checked args bridgeState batch (⟨.store op, answer⟩ :: log) where
  state := by
    rcases h.state with ⟨state, hread, hcursor, hroot⟩
    exact ⟨state, hread.cons (by simp), hcursor, hroot⟩
  message := h.message.store answer

/-! One pass, read by read and write by write. -/

variable [OperatorStore] {w w' : World} {v : StoreView} {α : Type}

/-- Nothing has been written, and the bridge state has been read. -/
structure Reading (args : Args) (bridgeState : Pubkey) (v : StoreView) (state : BridgeProgramState)
    (w : World) : Prop where
  same : view w = v
  read : StateRead args bridgeState w.2 state

theorem Reading.ask (h : Reading args bridgeState v state w) {op : Op} {answer : Result op.Answer}
    (hexec : passExec.logged op w answer w') (hquiet : Quiet op)
    (hother : op ≠ .rpc (.getAccount bridgeState)) : Reading args bridgeState v state w' where
  same := (quiet_view hquiet hexec).trans h.same
  read := by
    rw [hexec.2]
    exact h.read.cons hother

/-- Questions other than for the bridge state. -/
theorem asks_safe {p : Flow α}
    (hcalls : p.Calls fun op => Quiet op ∧ op ≠ .rpc (.getAccount bridgeState))
    (h : Reading args bridgeState v state w) :
    Safe passExec.logged (fun _ => True) (fun _ => Reading args bridgeState v state) p w := by
  have hkept : Safe passExec.logged (Reading args bridgeState v state)
      (fun _ => Reading args bridgeState v state) p w :=
    Safe.of_calls hcalls (fun op w answer w' hop hexec hw => hw.ask hexec hop.1 hop.2) h
  exact hkept.mono (fun _ _ => trivial) fun _ _ h => h

theorem readBridgeState_safe (hview : view w = v) :
    Safe passExec.logged (fun _ => True) (EndsWith (view · = v) (Reading args bridgeState v))
      (readBridgeState bridgeState args.dogeBridgeProgram) w := by
  have hquiet : Quiet (.rpc (.getAccount bridgeState)) := trivial
  refine after_invoke (fun account w' hexec => ⟨trivial, ?_⟩) fun e w' hexec => ⟨trivial, ?_⟩
  · have hview' : view w' = v := (quiet_view hquiet hexec).trans hview
    refine after_done (fun _ hguard => ?_) fun e => endsWith_error hview'
    have howner : account.owner = args.dogeBridgeProgram := not_not.mp (guard_eq_ok.mp hguard)
    refine ⟨hview', fun state hstate => ⟨hview', account, ?_, howner, mapError_eq_ok.mp hstate⟩⟩
    rw [hexec.2]
    exact lastAnswer_now
  · exact endsWith_error ((quiet_view hquiet hexec).trans hview)

theorem searchShimHistory_safe (config : NoopShimMonitorConfig) (signature : SolanaSignature)
    (pages : ℕ) (before : Option SolanaSignature) (h : Reading args bridgeState v state w) :
    Safe passExec.logged (fun _ => True)
      (EndsWith (Reading args bridgeState v state) fun noop w' => MessageRead w'.2 signature noop)
      (searchShimHistory config signature pages before) w := by
  induction pages generalizing before w with
  | zero => exact endsWith_error h
  | succ pages ih =>
    refine after_invoke (fun page w' hexec => ⟨trivial, ?_⟩) fun e w' hexec => ⟨trivial, ?_⟩
    · have h' := h.ask hexec trivial (by simp)
      split
      · rename_i message hfind
        apply endsWith_ok h'
        refine ⟨config, before, page, ?_, hfind⟩
        rw [hexec.2]
        exact List.mem_cons_self
      · split
        · exact ih _ h'
        · exact endsWith_error h'
    · exact endsWith_error (h.ask hexec trivial (by simp))

theorem readWormholeSequence_safe {signature : SolanaSignature} {noop : NoopShimWithdrawalMessage}
    (h : Reading args bridgeState v state w) (hmessage : MessageRead w.2 signature noop) :
    Safe passExec.logged (fun _ => True)
      (EndsWith (fun w' => Reading args bridgeState v state w' ∧ MessageRead w'.2 signature noop)
        fun found w' => ∀ after, found = some after → SequenceRead args bridgeState w'.2 after)
      (readWormholeSequence bridgeState args.wormholeCoreProgram) w := by
  have hkept : ∀ {answer : Result (Option Account)} {w' : World},
      passExec.logged (.rpc (.getAccountWithCommitment (sequenceAddress args bridgeState))) w answer w' →
        Reading args bridgeState v state w' ∧ MessageRead w'.2 signature noop := by
    intro answer w' hexec
    refine ⟨h.ask hexec trivial (by simp), ?_⟩
    rw [hexec.2]
    exact hmessage.cons
  refine after_invoke (fun found w' hexec => ⟨trivial, ?_⟩) fun e w' hexec => ⟨trivial, ?_⟩
  · cases found with
    | none => exact endsWith_ok (hkept hexec) fun _ heq => by cases heq
    | some account =>
      refine after_done (fun _ hguard => ?_) fun e => endsWith_error (hkept hexec)
      have haccount := guard_eq_ok.mp hguard
      rw [not_or, not_not, not_not] at haccount
      refine endsWith_ok (hkept hexec) fun after heq => ?_
      cases heq
      refine ⟨account, ?_, haccount.1, haccount.2, rfl⟩
      rw [hexec.2]
      exact lastAnswer_now
  · exact endsWith_error (hkept hexec)

theorem foundSequence_safe {signature : SolanaSignature} {noop : NoopShimWithdrawalMessage}
    (h : Reading args bridgeState v state w) (hmessage : MessageRead w.2 signature noop)
    (message : String) :
    Safe passExec.logged (fun _ => True)
      (EndsWith (fun w' => Reading args bridgeState v state w' ∧ MessageRead w'.2 signature noop)
        fun after w' => SequenceRead args bridgeState w'.2 after)
      (found (readWormholeSequence bridgeState args.wormholeCoreProgram) message) w := by
  refine (readWormholeSequence_safe h hmessage).bind (fun found w' h' => ?_)
    fun e w' h' => endsWith_error h'.1
  exact ⟨h'.1, fun after heq => h'.value after (orBail_eq_ok.mp heq)⟩

theorem checkWormholeMessage_safe (h : Reading args bridgeState v state w) :
    Safe passExec.logged (fun _ => True)
      (EndsWith (Reading args bridgeState v state)
        fun _ w' => MessageChecked args bridgeState batch w'.2)
      (checkWormholeMessage args bridgeState batch) w := by
  refine after_done (fun signature hsignature => ?_) fun e => endsWith_error h
  have hparsed : SolanaSdk.signatureFromStr batch.solanaSignature = .ok signature :=
    mapError_eq_ok.mp hsignature
  refine (searchShimHistory_safe _ signature 10 none h).bind (fun noop w₁ h₁ => ?_)
    fun e w₁ h₁ => endsWith_error h₁.1
  refine after_done (fun _ hguard => ?_) fun e => endsWith_error h₁.1
  have hcontents := guard_eq_ok.mp hguard
  rw [not_or, not_not, not_not] at hcontents
  split
  · rename_i hshim
    refine ⟨h₁.1, fun u heq => ?_⟩
    have hnonce := not_not.mp (guard_eq_ok.mp heq)
    exact ⟨signature, noop, hparsed, h₁.value, hcontents.1, hcontents.2,
      by rwa [SequenceChecked, if_pos hshim]⟩
  · rename_i hshim
    refine (foundSequence_safe h₁.1 h₁.value _).bind (fun after w₂ h₂ => ?_)
      fun e w₂ h₂ => endsWith_error h₂.1.1
    refine after_done (fun expected hexpected => ?_) fun e => endsWith_error h₂.1.1
    refine ⟨h₂.1.1, fun u heq => ?_⟩
    have hafter := not_not.mp (guard_eq_ok.mp heq)
    refine ⟨signature, noop, hparsed, h₂.1.2, hcontents.1, hcontents.2, ?_⟩
    rw [SequenceChecked, if_neg hshim]
    exact ⟨after, h₂.value, by rw [orBail_eq_ok.mp hexpected, hafter]⟩

omit [SolanaSdk] [OperatorStore] in
theorem withRequests_cons (v : StoreView) (status : OperatorStatus) (index : UInt64)
    (indices : List UInt64) :
    withRequests (v.setRequestStatus index status) status indices =
      withRequests v status (index :: indices) := by
  have hrequest : ∀ other, (withRequests (v.setRequestStatus index status) status indices).request other =
      (withRequests v status (index :: indices)).request other := by
    intro other
    by_cases heq : other = index
    · subst heq
      simp [withRequests, StoreView.setRequestStatus, Function.comp_def]
    · simp [withRequests, StoreView.setRequestStatus, heq]
  simp only [withRequests, StoreView.setRequestStatus, StoreView.mk.injEq, true_and, and_true] at hrequest ⊢
  exact funext hrequest

/-- The requests move on one after another. -/
theorem requests_safe (status : OperatorStatus) (indices : List UInt64)
    (hchecked : Checked args bridgeState batch w.2) :
    Safe passExec.logged (fun _ => True) (fun result w' => result = .ok () ∧
        view w' = withRequests (view w) status indices ∧ Checked args bridgeState batch w'.2)
      (forEach (fun index => store (.setWithdrawalRequestStatus index status)) indices) w := by
  induction indices generalizing w with
  | nil => exact ⟨rfl, by simp [withRequests], hchecked⟩
  | cons index indices ih =>
    intro answer w' hexec
    rcases write_effect hexec not_false with ⟨_, rfl, heffect⟩
    have hchecked' : Checked args bridgeState batch w'.2 := by
      rw [hexec.2]
      exact hchecked.store _
    refine ⟨trivial, (ih hchecked').imp fun result w'' h => ?_⟩
    have hview : view w' = (view w).setRequestStatus index status := heffect
    rw [hview, withRequests_cons] at h
    exact h

/-- The end of a run that has something to return, or of one that stops here. -/
def Ends (args : Args) (bridgeState : Pubkey) (batch : SnapshotBatch) (v : StoreView)
    (result : Result (Option SnapshotBatch)) (w : World) : Prop :=
  ∃ resolution, Resolves args bridgeState batch v (view w) w.2 result resolution

theorem ends_same {error : ErrorChain} (hview : view w = v) :
    Ends args bridgeState batch v (.error error) w := ⟨.unchanged, hview, error, rfl⟩

omit [SolanaSdk] [OperatorStore] in
theorem released_same (h : ∀ reservationId reservation, batch.reservationId = some reservationId →
    v.reservation reservationId = some reservation → reservation.status ≠ .reserved) :
    Released batch v v where
  frame := rfl
  other _ _ := rfl
  own := h

omit [SolanaSdk] [OperatorStore] in
theorem released_update {own : String} {released : CustodyReservation}
    (hown : batch.reservationId = some own) (hreleased : released.status = .released) :
    Released batch v
      { v with reservation := Function.update v.reservation own (some released) } where
  frame := rfl
  other id hid := by
    have hne : id ≠ own := fun heq => hid (by rw [hown, heq])
    simp [hne]
  own id reservation hid hreservation := by
    cases hown.symm.trans hid
    have hsame : released = reservation := by simpa using hreservation
    rw [← hsame, hreleased]
    simp

/-- The custody has been given back, or nothing was written. -/
def GivesBack (args : Args) (bridgeState : Pubkey) (batch : SnapshotBatch) (v : StoreView)
    (state : BridgeProgramState) (result : Result Unit) (w : World) : Prop :=
  StateRead args bridgeState w.2 state ∧
    match result with
    | .ok _ => Released batch v (view w)
    | .error _ => view w = v

theorem releaseReserved_safe (h : Reading args bridgeState v state w) :
    Safe passExec.logged (fun _ => True) (GivesBack args bridgeState batch v state)
      (releaseReserved batch) w := by
  unfold releaseReserved
  cases hown : batch.reservationId with
  | none =>
    refine ⟨h.read, ?_⟩
    rw [h.same]
    exact released_same fun id reservation hid => by cases hown.symm.trans hid
  | some own =>
    have hquiet : Quiet (.store (.loadReservation own)) := trivial
    refine after_invoke (fun found w₁ hexec => ⟨trivial, ?_⟩) fun e w₁ hexec => ⟨trivial, ?_⟩
    · have h₁ := h.ask hexec hquiet (by simp)
      have heffect : view w₁ = view w ∧ found = (view w).reservation own :=
        OperatorStore.effect hexec.1.1
      rw [h.same] at heffect
      have hkept : (∀ reservation, found = some reservation → reservation.status ≠ .reserved) →
          Released batch v (view w₁) := by
        intro hstatus
        rw [h₁.same]
        refine released_same fun id reservation hid hreservation => ?_
        cases hown.symm.trans hid
        exact hstatus reservation (heffect.2.trans hreservation)
      cases found with
      | none => exact ⟨h₁.read, hkept fun _ heq => by cases heq⟩
      | some reservation =>
        dsimp only
        split
        · intro answer w₂ hexec₂
          rcases write_effect hexec₂ not_false with ⟨_, rfl, released, hreleased, hview⟩
          refine ⟨trivial, ?_, ?_⟩
          · rw [hexec₂.2]
            exact h₁.read.cons (by simp)
          · rw [h₁.same] at hview
            show Released batch v (view w₂)
            rw [hview]
            exact released_update hown hreleased
        · rename_i hstatus
          refine ⟨h₁.read, hkept fun other heq => ?_⟩
          cases heq
          exact hstatus
    · have h₁ := h.ask hexec hquiet (by simp)
      exact ⟨h₁.read, h₁.same⟩

/-- Failing the batch after its reservation, where the cursor was read at its start. -/
theorem fail_safe {error : ErrorChain} (hstored : v.batch batch.solanaSignature = some batch)
    (h : Reading args bridgeState v state w)
    (hcursor : state.withdrawalSnapshot.nextRequestedWithdrawalsTreeIndex = batch.requestStartIndex) :
    Safe passExec.logged (fun _ => True) (fun result w' =>
        ∃ e, result = .error e ∧ Ends args bridgeState batch v (.error e) w')
      ((releaseReserved batch).bind fun _ =>
        (store (.setSnapshotBatchStatus batch.solanaSignature .failed)).bind fun _ =>
          (.done (.error error) : Flow α)) w := by
  refine (releaseReserved_safe h).bind (fun u w₁ h₁ => ?_) fun e w₁ h₁ =>
    ⟨e, rfl, ends_same h₁.2⟩
  intro answer w₂ hexec
  rcases write_effect hexec not_false with ⟨_, rfl, hview⟩
  have hreleased : Released batch v (view w₁) := h₁.2
  refine ⟨trivial, error, rfl, .failed, ⟨⟨state, ?_, hcursor⟩, view w₁, hreleased, ?_⟩, error, rfl⟩
  · rw [hexec.2]
    exact h₁.1.cons (by simp)
  · have hbatch : (view w₁).batch = v.batch := by rw [hreleased.frame]
    rw [hview, StoreView.setBatchStatus, hbatch, hstored]
    rfl

theorem finishConfirmedSnapshot_safe {metadata : ConfirmedTransaction}
    (hstored : v.batch batch.solanaSignature = some batch) (hview : view w = v) :
    Safe passExec.logged (fun _ => True)
      (fun result w' => Ends args bridgeState batch v (result.map some) w')
      (finishConfirmedSnapshot args bridgeState batch metadata) w := by
  refine (readBridgeState_safe hview).bind (fun state w₁ h₁ => ?_) fun e w₁ h₁ => ends_same h₁.1
  have hreading := h₁.value
  dsimp only
  split
  · split
    · rename_i hcursor
      refine (fail_safe hstored hreading hcursor).imp fun result w₂ h₂ => ?_
      rcases h₂ with ⟨e, rfl, hends⟩
      exact hends
    · exact ends_same h₁.1
  · refine after_done (fun _ hguard => ?_) fun e => ends_same h₁.1
    have hcursor := not_not.mp (guard_eq_ok.mp hguard)
    refine after_done (fun _ hguard => ?_) fun e => ends_same h₁.1
    have hroot := not_not.mp (guard_eq_ok.mp hguard)
    refine (checkWormholeMessage_safe hreading).bind (fun u w₂ h₂ => ?_)
      fun e w₂ h₂ => ends_same h₂.1.same
    have hchecked : Checked args bridgeState batch w₂.2 :=
      ⟨⟨state, h₂.1.read, hcursor, hroot⟩, h₂.value⟩
    intro answer w₃ hexec
    rcases write_effect hexec not_false with ⟨_, rfl, hwritten⟩
    have hchecked₃ : Checked args bridgeState batch w₃.2 := by
      rw [hexec.2]
      exact hchecked.store _
    refine ⟨trivial, (requests_safe (confirmedBatch batch metadata).status _ hchecked₃).bind
      (fun u w₄ h₄ => ?_) fun e w₄ h₄ => by cases h₄.1⟩
    refine ⟨.advanced, confirmedBatch batch metadata, ⟨h₄.2.2, ⟨_, _, rfl⟩, ?_⟩, rfl⟩
    have hwritten : view w₃ = _ := hwritten
    rw [h₄.2.1, hwritten, h₂.1.same]
    rfl

theorem settleObserved_safe (metadata : Option ConfirmedTransaction)
    (hstored : v.batch batch.solanaSignature = some batch) (hview : view w = v) :
    Safe passExec.logged (fun _ => True)
      (fun result w' => Ends args bridgeState batch v (result.map some) w')
      (settleObserved args bridgeState batch metadata) w := by
  cases metadata with
  | some metadata => exact finishConfirmedSnapshot_safe hstored hview
  | none =>
    refine after_done (fun signature _ => ?_) fun e => ends_same hview
    refine (quiet_safe (waitForTransactionMeta_quiet signature 30000) hview).bind
      (fun metadata w₁ h₁ => ?_) fun e w₁ h₁ => ends_same h₁
    exact finishConfirmedSnapshot_safe hstored h₁

theorem returnSettled_safe (metadata : Option ConfirmedTransaction)
    (hstored : v.batch batch.solanaSignature = some batch) (hview : view w = v) :
    Safe passExec.logged (fun _ => True) (Ends args bridgeState batch v)
      ((settleObserved args bridgeState batch metadata).bind fun confirmed =>
        .done (.ok (some confirmed))) w :=
  (settleObserved_safe metadata hstored hview).bind (fun _ _ h => h) fun _ _ h => h

/-- The reads after the bridge state keep its read the last one. -/
theorem observe_safe (transaction : SolanaTransaction) (signature : SolanaSignature)
    (hview : view w = v) :
    Safe passExec.logged (fun _ => True)
      (EndsWith (view · = v) fun seen w' => ∃ state, Reading args bridgeState v state w' ∧
        state.withdrawalSnapshot.nextRequestedWithdrawalsTreeIndex = seen.snapshotCursor)
      (observe args bridgeState transaction signature) w := by
  refine (readBridgeState_safe hview).bind (fun state w₁ h₁ => ?_)
    fun e w₁ h₁ => endsWith_error h₁.1
  refine (asks_safe (by simp [rpc, invoke, Quiet]) h₁.value).bind (fun statuses w₂ h₂ => ?_)
    fun e w₂ h₂ => endsWith_error h₂.same
  refine (asks_safe (by simp [rpc, invoke, Quiet]) h₂).bind (fun answer w₃ h₃ => ?_)
    fun e w₃ h₃ => endsWith_error h₃.same
  refine (asks_safe (by simp [readBlockhashValid, rpc, invoke, Quiet]) h₃).bind
    (fun valid w₄ h₄ => ?_) fun e w₄ h₄ => endsWith_error h₄.same
  exact endsWith_ok h₄.same ⟨state, h₄, rfl⟩

omit [SolanaSdk] [OperatorStore] in
/-- A batch is failed only with the cursor at its start. -/
theorem action_fail_cursor {seen : Observation} (h : seen.action batch = .fail) :
    seen.snapshotCursor = batch.requestStartIndex := by
  by_contra hcursor
  unfold Observation.action selectObservedBatchAction at h
  simp only [hcursor, if_false] at h
  split_ifs at h

theorem resumeObserved_safe (hstored : v.batch batch.solanaSignature = some batch)
    (hview : view w = v) :
    Safe passExec.logged (fun _ => True) (Ends args bridgeState batch v)
      (resumeObserved args bridgeState batch) w := by
  refine after_done (fun decoded _ => ?_) fun e => ends_same hview
  refine (observe_safe decoded.1 decoded.2 hview).bind (fun seen w₁ h₁ => ?_)
    fun e w₁ h₁ => ends_same h₁.1
  split
  · exact returnSettled_safe seen.metadata hstored h₁.1
  · have hsend : (withContext "resend persisted snapshot transaction"
        (rpc (.sendTransaction decoded.1))).Calls Quiet := by simp [rpc, invoke, Quiet]
    refine (quiet_safe hsend h₁.1).bind (fun returned w₂ h₂ => ?_) fun e w₂ h₂ => ends_same h₂
    refine after_done (fun _ _ => ?_) fun e => ends_same h₂
    exact returnSettled_safe seen.metadata hstored h₂
  · rename_i haction
    rcases h₁.value with ⟨state, hreading, hcursor⟩
    rw [action_fail_cursor haction] at hcursor
    refine (fail_safe hstored hreading hcursor).bind (fun _ w₂ h₂ => ?_) fun e w₂ h₂ => ?_
    · rcases h₂ with ⟨_, heq, -⟩
      cases heq
    · rcases h₂ with ⟨_, heq, hends⟩
      cases heq
      exact hends
  · exact ends_same h₁.1

/-! The three ways exclude one another. -/

/-- The status the stored batch has after each. -/
def Resolution.status (batch : SnapshotBatch) : Resolution → OperatorStatus
  | .unchanged => .observed
  | .failed => .failed
  | .advanced => advancedStatus batch

omit [SolanaSdk] [OperatorStore] in
theorem Resolution.status_injective (batch : SnapshotBatch) :
    Function.Injective (Resolution.status batch) := by
  intro resolution resolution' h
  cases hunsigned : batch.unsignedTransaction.isSome <;> cases resolution <;> cases resolution' <;>
    simp [Resolution.status, advancedStatus, hunsigned] at h ⊢

omit [OperatorStore] in
theorem Resolves.status {v' : StoreView} {result : Result (Option SnapshotBatch)}
    {resolution : Resolution} (h : Resolves args bridgeState batch v v' log result resolution)
    (hstored : v.batch batch.solanaSignature = some batch) (hobserved : batch.status = .observed) :
    (v'.batch batch.solanaSignature).map (·.status) = some (resolution.status batch) := by
  cases resolution with
  | unchanged =>
    rw [h.1, hstored, Option.map_some, hobserved]
    rfl
  | failed =>
    rcases h.1.released with ⟨freed, -, rfl⟩
    simp [Resolution.status]
  | advanced =>
    rcases h with ⟨confirmed, hadvances, -⟩
    rcases hadvances.record with ⟨slot, blockTime, rfl⟩
    rw [hadvances.view]
    simp [Resolution.status]

/-- An observed batch is resolved in exactly one way, whatever the chain answers. -/
theorem resumeObserved_allOrNothing {result : Result (Option SnapshotBatch)}
    (s s' : OperatorStore.State) (hstored : (OperatorStore.view s).batch batch.solanaSignature = some batch)
    (hobserved : batch.status = .observed)
    (hrun : Completes passExec.logged (resumeObserved args bridgeState batch) (s, []) result (s', log)) :
    ∃! resolution, Resolves args bridgeState batch (OperatorStore.view s) (OperatorStore.view s') log
      result resolution := by
  have hview : view (s, ([] : Log Op.Answer ErrorChain)) = OperatorStore.view s := rfl
  have hends := (resumeObserved_safe hstored hview).completes trivial hrun
  rcases hends with ⟨resolution, hresolves⟩
  refine ⟨resolution, hresolves, fun other hother => ?_⟩
  apply Resolution.status_injective batch
  have hstatus := hresolves.status hstored hobserved
  exact Option.some.inj ((hother.status hstored hobserved).symm.trans hstatus)

end

/-! A snapshot whose blockhash has expired before it landed. -/

section
open Digests Localnet
attribute [local instance] promisedStore

/-- Nothing is known of the transaction, and its blockhash is no longer valid. -/
def expiredChain : (op : RpcOp) → Result op.Answer
  | .getAccount _ => .ok (bridgeAccount 0)
  | .getSignatureStatusesWithHistory _ => .ok [none]
  | .isBlockhashValid _ => .ok false
  | _ => bail "not found"

/-- The store serves what an observed batch needs. -/
def acceptWrites : (op : StoreOp) → StoreView → Result op.Answer × StoreView
  | .releaseReservation reservationId, v =>
    (.ok (), { v with
      reservation := Function.update v.reservation reservationId
        (some { heldReservation with status := .released }) })
  | .upsertSnapshotBatch batch, v =>
    (.ok (), { v with batch := Function.update v.batch batch.solanaSignature (some batch) })
  | .setSnapshotBatchStatus key status, v => (.ok (), v.setBatchStatus key status)
  | .setWithdrawalRequestStatus index status, v => (.ok (), v.setRequestStatus index status)
  | op, v => (lookups v op, v)

def expired : Handler Op.Answer ErrorChain World
  | .store op, w =>
    let served := acceptWrites op w.1
    (served.1, served.2, ⟨.store op, served.1⟩ :: w.2)
  | .rpc op, w => (expiredChain op, w.1, ⟨.rpc op, expiredChain op⟩ :: w.2)
  | .http op, w => (bail "refused", w.1, ⟨.http op, bail "refused"⟩ :: w.2)
  | .system op, w => (bail "refused", w.1, ⟨.system op, bail "refused"⟩ :: w.2)

def observedView : StoreView := loneView (heldBatch .observed) heldReservation

/-- What resolving an observed batch may do to the store. -/
def Settling : Op → Prop
  | .store (.releaseReservation _) => True
  | .store (.upsertSnapshotBatch _) => True
  | .store (.setSnapshotBatchStatus _ _) => True
  | .store (.setWithdrawalRequestStatus _ _) => True
  | op => Quiet op

theorem quiet_settling (op : Op) (h : Quiet op) : Settling op := by
  cases op with
  | store op => cases op <;> first | exact h | trivial
  | rpc op => trivial
  | http op => exact h
  | system op => trivial

theorem releaseReserved_settling {batch : SnapshotBatch} : (releaseReserved batch).Calls Settling := by
  unfold releaseReserved
  split
  · trivial
  · apply Calls.bind (by simp [store, invoke, Settling, Quiet, StoreOp.IsRead])
    intro reservation
    cases reservation <;> simp [store, invoke, Settling]

section
variable [SolanaSdk] (args : Args) (bridgeState : Pubkey) (batch : SnapshotBatch)

theorem finishConfirmedSnapshot_settling (metadata : ConfirmedTransaction) :
    (finishConfirmedSnapshot args bridgeState batch metadata).Calls Settling := by
  have hstate := (readBridgeState_quiet bridgeState args.dogeBridgeProgram).mono quiet_settling
  have hmessage := (checkWormholeMessage_quiet args bridgeState batch).mono quiet_settling
  have hrequests : (setRequestStatuses (confirmedBatch batch metadata)
      (confirmedBatch batch metadata).status).Calls Settling :=
    Calls.forEach (fun _ => by simp [store, invoke, Settling]) _
  refine Calls.bind hstate fun state => ?_
  simp [calls_bind, releaseReserved_settling, hmessage, hrequests, store, invoke, Settling]

theorem settleObserved_settling (metadata : Option ConfirmedTransaction) :
    (settleObserved args bridgeState batch metadata).Calls Settling := by
  cases metadata with
  | some metadata => exact finishConfirmedSnapshot_settling args bridgeState batch metadata
  | none =>
    have hwait := fun signature =>
      (waitForTransactionMeta_quiet signature 30000).mono quiet_settling
    simp [settleObserved, confirmSnapshotBatch, calls_bind, hwait, finishConfirmedSnapshot_settling]

theorem resumeObserved_settling : (resumeObserved args bridgeState batch).Calls Settling := by
  refine Calls.bind trivial fun decoded => ?_
  refine Calls.bind ((observe_quiet _ _ _ _).mono quiet_settling) fun seen => ?_
  split
  · simp [calls_bind, settleObserved_settling]
  · simp [calls_bind, settleObserved_settling, rpc, invoke, Settling, Quiet]
  · simp [applyObservedTerminalEffect, calls_bind, releaseReserved_settling, store, invoke, Settling]
  · simp [applyObservedTerminalEffect, calls_bind]

end

theorem expired_exec (op : Op) (w : World) (h : Settling op) :
    passExec.logged op w (expired op w).1 (expired op w).2 := by
  cases op with
  | store op =>
    refine ⟨?_, rfl⟩
    cases op with
    | releaseReservation => exact ⟨⟨_, rfl, rfl⟩, .inr ⟨(), rfl⟩⟩
    | upsertSnapshotBatch => exact ⟨rfl, .inr ⟨(), rfl⟩⟩
    | setSnapshotBatchStatus => exact ⟨rfl, .inr ⟨(), rfl⟩⟩
    | setWithdrawalRequestStatus => exact ⟨rfl, .inr ⟨(), rfl⟩⟩
    | oldestIncompleteSnapshotBatch => exact ⟨rfl, .inl trivial⟩
    | snapshotBatchBySignature => exact ⟨⟨rfl, rfl⟩, .inl trivial⟩
    | loadReservation => exact ⟨⟨rfl, rfl⟩, .inl trivial⟩
    | withdrawalRequestByIndex => exact ⟨⟨rfl, rfl⟩, .inl trivial⟩
    | processWithdrawalBySignature => exact ⟨⟨rfl, rfl⟩, .inl trivial⟩
    | dogecoinTransactionByProcessSignature => exact ⟨⟨rfl, rfl⟩, .inl trivial⟩
    | mappingsByProcessSignature => exact ⟨⟨rfl, rfl⟩, .inl trivial⟩
    | _ => exact h.elim
  | rpc op => exact ⟨rfl, rfl⟩
  | http op => exact ⟨rfl, rfl⟩
  | system op => exact ⟨rfl, rfl⟩

theorem expired_failed :
    ((resumeObserved localArgs localBridgeState (heldBatch .observed)).runWith expired
      (observedView, [])).2.1.batch localKey = some (heldBatch .failed) := by
  simp only [resumeObserved, decodeObserved_local (heldBatch_carries .observed), bind_eq, liftM_eq,
    done_ok_bind]
  rfl

/-- The batch is failed in that run, and in no other way. -/
theorem resumeObserved_allOrNothing_expired : ∃ (v' : StoreView) (log : Log Op.Answer ErrorChain)
    (result : Result (Option SnapshotBatch)),
    v'.batch localKey = some (heldBatch .failed) ∧
      ∃! resolution, Resolves localArgs localBridgeState (heldBatch .observed) observedView v' log
        result resolution := by
  have hrun := (resumeObserved_settling localArgs localBridgeState (heldBatch .observed)).completes
    expired_exec (w := (observedView, []))
  have hfailed := expired_failed
  have hstored : observedView.batch (heldBatch .observed).solanaSignature =
      some (heldBatch .observed) := by simp [observedView, loneView]
  generalize (resumeObserved localArgs localBridgeState (heldBatch .observed)).runWith expired
    (observedView, []) = ends at hrun hfailed
  rcases ends with ⟨result, v', log⟩
  exact ⟨v', log, result, hfailed, resumeObserved_allOrNothing observedView v' hstored rfl hrun⟩

end

end DogeOperator.ObservedBatch
