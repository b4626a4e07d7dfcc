import DogeOperator.Postings
import DogeOperator.Transition

/-! The broadcast transition and its resumption, stopped anywhere and any number of times. -/
namespace DogeOperator.CrashRecovery
open Bytes Outcome Crypto Utx0 Network Prepare Records Confirm Store Operations Solana Electrs
  DogeOperator.Graph Resume Program Footprint GraphSpec Postings Transition

section
variable [OperatorStore] {o : Origin} {w w' : World} {part : Part} {moved : Part → Prop}
  {g : PersistedWithdrawalGraph}

/-- In the middle of the transition; after a success these records have moved. -/
def Advances (o : Origin) (moved : Part → Prop) {α : Type} (result : Result α) (w : World) : Prop :=
  InTransition o w.view ∧ ∀ a, result = .ok a → ∀ part, moved part → Moved o w.view part

theorem advances_error {α : Type} {error : ErrorChain} (h : InTransition o w.view) :
    Advances o moved (.error error : Result α) w := ⟨h, fun _ h => by cases h⟩

/-- One write of the transition. -/
theorem write_safe (part : Part) (hw : InTransition o w.view)
    (hdone : ∀ part, moved part → Moved o w.view part) (hcovers : Covers o part)
    (hfirst : part = .reservation ∨ moved .reservation)
    (hlast : part = .batch → ∀ other, Covers o other → other = .batch ∨ moved other) :
    Safe exec (fun w => InTransition o w.view) (Advances o fun other => moved other ∨ other = part)
      (store (part.write o)) w := by
  intro answer w' hexec
  cases answer with
  | error error =>
    have hview : w'.view = w.view := OperatorStore.failed hexec.1
    have hw' : InTransition o w'.view := hview ▸ hw
    exact ⟨hw', advances_error hw'⟩
  | ok a =>
    have heffect := OperatorStore.effect hexec.1
    have hw' : InTransition o w'.view := by
      refine hw.write hcovers ?_ ?_ heffect
      · exact hfirst.imp id (hdone _)
      · intro hpart other hother
        exact (hlast hpart other hother).imp id (hdone other)
    refine ⟨hw', hw', ?_⟩
    intro _ _ other hother
    have hmoved : Moved o w'.view part := write_moves heffect (hw.records part hcovers)
    by_cases hpart : other = part
    · rw [hpart]
      exact hmoved
    · exact (write_other heffect hpart).2 (hdone other (hother.resolve_right hpart))

/-- What has moved may be forgotten. -/
theorem Advances.imp {α : Type} {result : Result α} {moved' : Part → Prop}
    (h : Advances o moved result w) (himp : ∀ part, moved' part → moved part) :
    Advances o moved' result w :=
  ⟨h.1, fun a ha part hpart => h.2 a ha part (himp part hpart)⟩

/-- The requests move one after another. -/
theorem requests_safe (indices : List UInt64)
    (hcovers : ∀ index ∈ indices, Covers o (.request index)) (hw : InTransition o w.view)
    (hdone : ∀ part, moved part → Moved o w.view part) (hfirst : moved .reservation) :
    Safe exec (fun w => InTransition o w.view)
      (Advances o fun other => moved other ∨ ∃ index ∈ indices, other = .request index)
      (forEach (fun index => store (.setWithdrawalRequestStatus index .broadcast)) indices) w := by
  induction indices generalizing moved w with
  | nil => exact ⟨hw, fun _ _ part hpart => hdone part (hpart.resolve_right (by simp))⟩
  | cons index indices ih =>
    have hwrite := write_safe (.request index) hw hdone
      (hcovers index List.mem_cons_self) (.inr hfirst) (fun h => by cases h)
    refine hwrite.bind (fun _ w₁ h₁ => ?_) fun _ w₁ h₁ => advances_error h₁.1
    have hrest := ih (fun other hother => hcovers other (List.mem_cons_of_mem index hother)) h₁.1
      (h₁.2 _ rfl) (.inl hfirst)
    refine hrest.imp fun _ _ h => h.imp ?_
    intro other hother
    rcases hother with hold | ⟨index', hmem, rfl⟩
    · exact .inl (.inl hold)
    · rcases List.mem_cons.mp hmem with rfl | hmem
      · exact .inl (.inr rfl)
      · exact .inr ⟨index', hmem, rfl⟩

theorem setRequestStatuses_safe (status : OperatorStatus) (hw : InTransition o w.view)
    (hdone : ∀ part, moved part → Moved o w.view part) (hfirst : moved .reservation) :
    Safe exec (fun w => InTransition o w.view)
      (Advances o fun other => moved other ∨
        ∃ index, Covers o (.request index) ∧ other = .request index)
      (setRequestStatuses { o.batch with status } .broadcast) w := by
  have hrequests := requests_safe _ (fun index hindex => mem_requestIndices.mp hindex) hw hdone
    hfirst
  refine hrequests.imp fun _ _ h => h.imp ?_
  intro other hother
  rcases hother with hold | ⟨index, hcovers, rfl⟩
  · exact .inl hold
  · exact .inr ⟨index, mem_requestIndices.mpr hcovers, rfl⟩

/-- The reservation is marked, unless it has moved already. -/
theorem completeReservation_safe (hw : InTransition o w.view) (hg : Loads o w.view g) :
    Safe exec (fun w => InTransition o w.view) (Advances o fun other => other = .reservation)
      (completeReservation g.reservation o.txid) w := by
  rcases hw.records .reservation trivial with hrecord | hrecord
  · have hreservation := Option.some.inj (hg.reservation.symm.trans hrecord)
    have hreserved : o.graph.reservation.status = .reserved := by
      have hsigned := o.loaded.signed
      simp only [SignedDrifted, not_or, not_not] at hsigned
      exact hsigned.2.2.1
    rw [hreservation, completeReservation, hreserved]
    dsimp only
    rw [o.keyed]
    have hwrite := write_safe .reservation hw (fun _ (h : False) => h.elim)
      trivial (.inl rfl) (fun h => by cases h)
    exact hwrite.imp fun _ _ h => h.imp fun _ hpart => .inr hpart
  · rw [Option.some.inj (hg.reservation.symm.trans hrecord)]
    refine ⟨hw, fun _ _ part hpart => ?_⟩
    rw [hpart]
    exact hrecord

/-- The transition from any point of it, stopped anywhere: it ends with every record moved. -/
theorem completeBroadcastTransition_safe (status : OperatorStatus) (hw : InTransition o w.view)
    (hg : Loads o w.view g) :
    Safe exec (fun w => InTransition o w.view) (Advances o (Covers o))
      (completeBroadcastTransition { o.batch with status } g) w := by
  have hidentity := hg.transactionIdentity hw
  rw [completeBroadcastTransition, hidentity.2, o.identified, hidentity.1]
  change Safe exec _ _ ((completeReservation g.reservation o.txid).bind _) w
  refine (completeReservation_safe hw hg).bind (fun _ w₁ h₁ => ?_) fun _ _ h => advances_error h.1
  refine (write_safe .transaction h₁.1 (h₁.2 _ rfl) trivial (.inr rfl)
    (fun h => by cases h)).bind (fun _ w₂ h₂ => ?_) fun _ _ h => advances_error h.1
  refine (write_safe .process h₂.1 (h₂.2 _ rfl) trivial (.inr (.inl rfl))
    (fun h => by cases h)).bind (fun _ w₃ h₃ => ?_) fun _ _ h => advances_error h.1
  refine (setRequestStatuses_safe status h₃.1 (h₃.2 _ rfl) (.inl (.inl rfl))).bind
    (fun _ w₄ h₄ => ?_) fun _ _ h => advances_error h.1
  have hall : ∀ other, Covers o other → other = .batch ∨
      (((other = .reservation ∨ other = .transaction) ∨ other = .process) ∨
        ∃ index, Covers o (.request index) ∧ other = .request index) := by
    intro other hother
    cases other with
    | reservation => exact .inr (.inl (.inl (.inl rfl)))
    | transaction => exact .inr (.inl (.inl (.inr rfl)))
    | process => exact .inr (.inl (.inr rfl))
    | request index => exact .inr (.inr ⟨index, hother, rfl⟩)
    | batch => exact .inl rfl
  refine (write_safe .batch h₄.1 (h₄.2 _ rfl) trivial (.inr (.inl (.inl (.inl rfl))))
    fun _ => hall).imp fun _ _ h => h.imp ?_
  intro other hother
  exact (hall other hother).symm

/-! Resuming. -/

/-- The store is at most read. -/
def KeepsStore : Op → Prop
  | .store op => op.IsRead
  | _ => True

omit [OperatorStore] in
theorem quiet_keepsStore (op : Op) (h : Quiet op) : KeepsStore op := by
  cases op with
  | store op => exact h
  | _ => trivial

theorem exec_keepsStore {op : Op} {answer : Result op.Answer} (h : KeepsStore op)
    (hexec : exec op w answer w') : w'.view = w.view := by
  cases op with
  | store op => exact read_view h hexec.1
  | http op =>
    cases op <;>
    · cases hexec
      rfl
  | _ =>
    cases hexec
    rfl

/-- The batch is confirmed, and the transition is over. -/
def Settled (o : Origin) (v : StoreView) : Prop :=
  ∃ batch, v.batch o.batch.solanaSignature = some batch ∧ batch.status = .confirmed

def Held (o : Origin) (w : World) : Prop := InTransition o w.view ∨ Settled o w.view

theorem held_of_view (hw : InTransition o w.view) (hview : w'.view = w.view) : Held o w' := by
  rw [Held, hview]
  exact .inl hw

variable {α β : Type} {Q : Result β → World → Prop}

theorem reads_safe {p : Flow α} (hcalls : p.Calls KeepsStore) :
    Safe exec (fun w' => w'.view = w.view) (fun _ w' => w'.view = w.view) p w :=
  Safe.of_calls hcalls (fun _ _ _ _ hallowed hexec hview =>
    (exec_keepsStore hallowed hexec).trans hview) rfl

/-- The rest of a run after a part that at most reads the store. -/
theorem after_reads {p : Flow α} {f : α → Flow β} (hw : InTransition o w.view)
    (hcalls : p.Calls KeepsStore)
    (hok : ∀ a w', InTransition o w'.view → w'.view = w.view → Safe exec (Held o) Q (f a) w')
    (herror : ∀ e w', InTransition o w'.view → Q (.error e) w') :
    Safe exec (Held o) Q (p.bind f) w := by
  refine ((reads_safe hcalls).mono (fun _ => held_of_view hw) fun _ _ => id).bind
    (fun a w' hview => ?_)
    fun e w' hview => herror e w' (hview ▸ hw)
  exact hok a w' (hview ▸ hw) hview

theorem after_lookups {p : Flow α} {f : α → Flow β} (hw : InTransition o w.view)
    (hcalls : p.Calls IsLookupCall) (hpropagates : p.Propagates)
    (hok : ∀ a w', InTransition o w'.view → w'.view = w.view →
      p.eval (lookupOracle w.view) = .ok a → Safe exec (Held o) Q (f a) w')
    (herror : ∀ e w', InTransition o w'.view → Q (.error e) w') :
    Safe exec (Held o) Q (p.bind f) w := by
  refine ((lookups_safe hcalls hpropagates).mono (fun _ h => held_of_view hw h.2) fun _ _ => id).bind
    (fun a w' h => ?_) fun e w' h => herror e w' (h.1.2 ▸ hw)
  exact hok a w' (h.1.2 ▸ hw) h.1.2 (h.2 a rfl)

theorem after_load {status : OperatorStatus} {f : PersistedWithdrawalGraph → Flow β}
    (hw : InTransition o w.view)
    (hok : ∀ g w', InTransition o w'.view → Loads o w'.view g → Safe exec (Held o) Q (f g) w')
    (herror : ∀ e w', InTransition o w'.view → Q (.error e) w') :
    Safe exec (Held o) Q ((loadPersistedWithdrawalGraph { o.batch with status }).bind f) w := by
  refine after_lookups hw (loadPersistedWithdrawalGraph_lookups _)
    (loadPersistedWithdrawalGraph_propagates _) (fun g w' hw' hview hload => ?_) herror
  apply hok g w' hw'
  rw [hview]
  exact persistedGraph_loads _ (loadPersistedWithdrawalGraph_eq_ok.mp hload)

/-- The transition, inside a run. -/
theorem transition_held (status : OperatorStatus) (hw : InTransition o w.view)
    (hg : Loads o w.view g) :
    Safe exec (Held o) (Advances o (Covers o))
      (completeBroadcastTransition { o.batch with status } g) w :=
  (completeBroadcastTransition_safe status hw hg).mono (fun _ h => .inl h) fun _ _ => id

variable [Hashes] [Base58Check] [BlockHashText] [TxoConstants]

/-- A broadcast batch may be confirmed, and nothing else is written. -/
theorem resumeBroadcastBatch_held {args : Args} {status : OperatorStatus}
    {payload : Utx0UnlockPayload} (hw : InTransition o w.view) :
    Safe exec (Held o) (fun _ => Held o)
      (resumeBroadcastBatch args { o.batch with status } payload) w := by
  refine after_load hw (fun g w₁ hw₁ _ => ?_) fun _ _ => .inl
  refine after_done (fun signedBytes _ => ?_) fun _ => .inl hw₁
  refine after_done (fun internalTxid _ => ?_) fun _ => .inl hw₁
  refine after_done (fun _ _ => ?_) fun _ => .inl hw₁
  refine after_done (fun _ _ => ?_) fun _ => .inl hw₁
  refine after_reads hw₁ ((checkRequests_quiet _ .broadcast "broadcast").mono quiet_keepsStore)
    (fun _ w₂ hw₂ _ => ?_) fun _ _ => .inl
  refine after_reads hw₂ ((calls_found (fetchConfirmedWithdrawal_quiet _ _)).mono quiet_keepsStore)
    (fun confirmed w₃ hw₃ _ => ?_) fun _ _ => .inl
  refine after_done (fun change _ => ?_) fun _ => .inl hw₃
  intro answer w₄ hexec
  have hheld : Held o w₄ := by
    cases answer with
    | error e =>
      have hview : w₄.view = w₃.view := OperatorStore.failed hexec.1
      rw [Held, hview]
      exact .inl hw₃
    | ok a =>
      rcases OperatorStore.effect hexec.1 with ⟨reservation, request, process, hview⟩
      right
      have hstored : ∃ stored, w₃.view.batch o.batch.solanaSignature = some stored :=
        (hw₃.records .batch trivial).elim (fun h => ⟨_, h⟩) fun h => ⟨_, h⟩
      rcases hstored with ⟨stored, hstored⟩
      refine ⟨{ stored with status := .confirmed }, ?_, rfl⟩
      change (OperatorStore.view w₄.store).batch _ = _
      rw [hview]
      change Function.update w₃.view.batch o.batch.solanaSignature _ o.batch.solanaSignature = _
      rw [Function.update_self]
      exact congrArg (Option.map _) hstored
  exact ⟨hheld, hheld⟩

omit [OperatorStore] [Hashes] [Base58Check] [BlockHashText] [TxoConstants] in
theorem broadcastElectrsIdempotent_keepsStore (key electrsUrl displayTxid : String)
    (raw : ByteString) :
    (broadcastElectrsIdempotent key electrsUrl raw displayTxid).Calls KeepsStore := by
  have hknown := (electrsHasTransaction_quiet electrsUrl displayTxid).mono quiet_keepsStore
  apply hknown.bind
  intro known
  split
  · trivial
  · refine Calls.bind (calls_attempt.mpr ?_) fun answer => ?_
    · simp [broadcastElectrs, http, invoke, calls_bind, KeepsStore]
    · cases answer with
      | ok returned => simp
      | error e =>
        apply hknown.bind
        intro known
        split <;> trivial

omit [Hashes] [Base58Check] [BlockHashText] [TxoConstants] in
theorem markBatchBroadcast_held {args : Args} {status : OperatorStatus} {signedBytes : ByteString}
    {reservationId displayTxid : String} {rawHash internalTxid : FixedBytes 32}
    (hw : InTransition o w.view) :
    Safe exec (Held o) (fun _ w' => InTransition o w'.view) (markBatchBroadcast args
      { o.batch with status } reservationId signedBytes rawHash internalTxid displayTxid) w := by
  refine after_reads hw (broadcastElectrsIdempotent_keepsStore _ _ _ _) (fun _ w₁ hw₁ _ => ?_)
    fun _ _ => id
  refine after_load hw₁ (fun g w₂ hw₂ hg => ?_) fun _ _ => id
  refine after_done (fun _ _ => ?_) fun _ => hw₂
  exact (transition_held _ hw₂ hg).imp fun _ _ h => h.1

omit [Base58Check] [BlockHashText] [TxoConstants] in
theorem resumeSignedBatch_held {args : Args} {status : OperatorStatus} {payload : Utx0UnlockPayload}
    (hw : InTransition o w.view) :
    Safe exec (Held o) (fun _ => Held o)
      (resumeSignedBatch args { o.batch with status } payload g) w := by
  refine after_done (fun signedBytes _ => ?_) fun _ => .inl hw
  refine after_done (fun _ _ => ?_) fun _ => .inl hw
  refine after_done (fun _ _ => ?_) fun _ => .inl hw
  have hmark : Safe exec (Held o) (fun _ w' => InTransition o w'.view) (onlyIf args.broadcastEnabled
      (markBatchBroadcast args { o.batch with status } g.reservation.reservationId signedBytes
        (hashSha256 signedBytes) (doubleSha256 signedBytes)
        (hexEncode (doubleSha256 signedBytes).reverse.toList))) w := by
    unfold onlyIf
    split
    · exact markBatchBroadcast_held hw
    · exact hw
  refine hmark.bind (fun _ w₁ hw₁ => ?_) fun _ _ => .inl
  exact (reads_safe ((writeEvidence_quiet _ _).mono quiet_keepsStore)).mono
    (fun _ => held_of_view hw₁) fun _ _ => held_of_view hw₁

omit [OperatorStore] [Hashes] [Base58Check] [BlockHashText] [TxoConstants] in
theorem found_batch_lookups (key message : String) :
    (found (store (.snapshotBatchBySignature key)) message).Calls IsLookupCall :=
  calls_found (by simp [store, invoke, IsLookupCall, StoreOp.IsLookup, StoreOp.IsRead])

omit [OperatorStore] [Hashes] [Base58Check] [BlockHashText] [TxoConstants] in
theorem found_batch_eq_ok {v : StoreView} {key message : String} {batch : SnapshotBatch} :
    (found (store (.snapshotBatchBySignature key)) message).eval (lookupOracle v) = .ok batch ↔
      v.batch key = some batch := by
  rw [eval_found_eq_ok]
  exact ⟨Except.ok.inj, congrArg _⟩

theorem continueSigned_held {args : Args} {status : OperatorStatus} {payload : Utx0UnlockPayload}
    (hw : InTransition o w.view) :
    Safe exec (Held o) (fun _ => Held o)
      (continueSigned args { o.batch with status } payload) w := by
  refine after_load hw (fun g w₁ hw₁ hg => ?_) fun _ _ => .inl
  split
  · refine (transition_held _ hw₁ hg).bind (fun _ w₂ h₂ => ?_) fun _ _ h => .inl h.1
    refine after_lookups h₂.1 (found_batch_lookups _ _) (found_store_propagates
      (propagates_invoke _)) (fun broadcastBatch w₃ hw₃ _ hfound => ?_) fun _ _ => .inl
    have hbatch : w₂.view.batch o.batch.solanaSignature = some broadcastBatch :=
      found_batch_eq_ok.mp hfound
    rw [Option.some.inj (hbatch.symm.trans (h₂.2 _ rfl .batch trivial))]
    exact resumeBroadcastBatch_held hw₃
  · refine after_lookups hw₁ (loadCompleteSignedGraph_lookups _)
      (loadCompleteSignedGraph_propagates _) (fun g w₂ hw₂ _ _ => ?_) fun _ _ => .inl
    exact resumeSignedBatch_held hw₂

variable [SolanaSdk] [Secp256k1]

/-- Resuming the batch as it is stored, from any point of the transition. -/
theorem resumeSnapshotBatch_held {args : Args} {bridgeState : Pubkey} {batch : SnapshotBatch}
    (hw : InTransition o w.view)
    (hbatch : w.view.batch o.batch.solanaSignature = some batch) :
    Safe exec (Held o) (fun _ => Held o) (resumeSnapshotBatch args bridgeState batch) w := by
  have hcontinue : ∀ status, (status = .signed ∨ status = .broadcast) →
      Safe exec (Held o) (fun _ => Held o)
        (resumeSnapshotBatch args bridgeState { o.batch with status }) w := by
    intro status hstatus
    have hobserved : ¬ ({ o.batch with status } : SnapshotBatch).status = .observed := by
      rcases hstatus with rfl | rfl <;> simp
    rw [resumeSnapshotBatch, if_neg hobserved]
    refine after_done (fun payload _ => ?_) fun _ => .inl hw
    refine after_done (fun _ _ => ?_) fun _ => .inl hw
    rcases hstatus with rfl | rfl
    · exact continueSigned_held hw
    · exact resumeBroadcastBatch_held hw
  rcases hw.stored hbatch with ⟨hstored, -⟩ | ⟨hstored, -⟩
  · have hsame : batch = { o.batch with status := .signed } := by
      rw [hstored, ← o.loaded.status]
    rw [hsame]
    exact hcontinue .signed (.inl rfl)
  · rw [hstored]
    exact hcontinue .broadcast (.inr rfl)

/-- The transition runs on the graph it was given; later the batch is resumed as it is stored, with
any arguments. -/
def Starts (o : Origin) (w : World) (p : Flow Unit) : Prop :=
  (w.view = o.view ∧ p = completeBroadcastTransition o.batch o.graph) ∨
    ∃ args bridgeState batch, w.view.batch o.batch.solanaSignature = some batch ∧
      Incomplete batch.status ∧ p = resumeSnapshotBatch args bridgeState batch

/-- Every reachable world is in the middle of the transition, or the batch is confirmed. -/
theorem sessions_held {w₀ : World} (hstart : w₀.view = o.view)
    (hrun : Sessions exec (Starts o) w₀ w) : Held o w := by
  refine hrun.invariant ?_ (.inl (hstart ▸ inTransition_start o))
  intro w p hw hstarts
  rcases hstarts with ⟨hview, rfl⟩ | ⟨args, bridgeState, batch, hbatch, hincomplete, rfl⟩
  · have hloads : Loads o w.view o.graph := by
      rw [hview]
      exact persistedGraph_loads o.batch.status o.loaded.persisted
    have hw' : InTransition o w.view := hview ▸ inTransition_start o
    exact (transition_held o.batch.status hw' hloads).imp fun _ _ _ => trivial
  · rcases hw with hw | ⟨settled, hsettled, hconfirmed⟩
    · exact (resumeSnapshotBatch_held hw hbatch).imp fun _ _ _ => trivial
    · cases hbatch.symm.trans hsettled
      exact absurd hconfirmed hincomplete.1

end

end DogeOperator.CrashRecovery
