import DogeOperator.ApplySignatures
import DogeOperator.CrashRecovery
import DogeOperator.SignedPost
import DogeOperator.Spendable

/-! From any point of the broadcast transition an uninterrupted resume reaches the broadcast graph,
when no store call fails; before its first write it also takes an Electrs that accepts the
transaction. -/
namespace DogeOperator.BroadcastRecovery
open Bytes Outcome Crypto Base64 Utx0 Network Prepare Records Confirm Json Store Operations Solana
  Electrs DogeOperator.Graph Signing Resume Program GraphSpec Postings Transition CrashRecovery

/-- No store call fails. -/
def Reliable : (op : Op) → Result op.Answer → Prop
  | .store _, answer => ∃ a, answer = .ok a
  | _, _ => True

/-- Besides, Electrs knows the transaction, or does not and accepts it. -/
def Accepting (displayTxid : String) : (op : Op) → Result op.Answer → Prop
  | .store _, answer => ∃ a, answer = .ok a
  | .http (.get _), answer => ∃ a, answer = .ok a ∧ (a.status = 404 ∨ a.isSuccess = true ∧
      ∃ txid, (a.json >>= asFields ["txid"] >>= required "txid" asString) = .ok txid ∧
        eqIgnoreAsciiCase txid displayTxid = true)
  | .http (.postTransaction _ _ _), answer => ∃ a, answer = .ok a ∧ a.isSuccess = true ∧
      eqIgnoreAsciiCase (trimQuotes (trim a.text)) displayTxid = true
  | _, _ => True

/-- The expected answers include no failed store call. -/
def StoreAnswers (expected : (op : Op) → Result op.Answer → Prop) : Prop :=
  ∀ op answer, expected (.store op) answer → ∃ a, answer = .ok a

section
variable [OperatorStore] {o : Origin} {w w' : World} {g : PersistedWithdrawalGraph}
  (status : OperatorStatus) {expected : (op : Op) → Result op.Answer → Prop}

theorem store_succeeds (hstore : StoreAnswers expected)
    (op : StoreOp) :
    Safe (exec.answering expected) (fun _ => True) (fun result _ => ∃ a, result = .ok a) (store op)
      w := fun _ _ hexec => ⟨trivial, hstore op _ hexec.2⟩

theorem then_succeeds {α β : Type} {p : Flow α} {f : α → Flow β}
    (hp : Safe (exec.answering expected) (fun _ => True) (fun result _ => ∃ a, result = .ok a) p w)
    (hf : ∀ a w', Safe (exec.answering expected) (fun _ => True) (fun result _ => ∃ b, result = .ok b)
      (f a) w') :
    Safe (exec.answering expected) (fun _ => True) (fun result _ => ∃ b, result = .ok b) (p.bind f)
      w :=
  hp.bind (fun a w' _ => hf a w') fun _ _ h => by simp at h

theorem setRequestStatuses_succeeds
    (hstore : StoreAnswers expected)
    (batch : SnapshotBatch) :
    Safe (exec.answering expected) (fun _ => True) (fun result _ => ∃ a, result = .ok a)
      (setRequestStatuses batch .broadcast) w := by
  unfold setRequestStatuses
  generalize requestIndices batch.requestStartIndex batch.requestEndIndex = indices
  induction indices generalizing w with
  | nil => exact ⟨(), rfl⟩
  | cons index indices ih => exact then_succeeds (store_succeeds hstore _) fun _ _ => ih

/-- The transition bails nowhere. -/
theorem completeBroadcastTransition_succeeds
    (hstore : StoreAnswers expected)
    (hw : InTransition o w.view) (hg : Loads o w.view g) :
    Safe (exec.answering expected) (fun _ => True) (fun result _ => ∃ a, result = .ok a)
      (completeBroadcastTransition { o.batch with status } g) w := by
  have hreservation : ∀ v : World, Safe (exec.answering expected) (fun _ => True)
      (fun result _ => ∃ a, result = .ok a) (completeReservation g.reservation o.txid) v := by
    intro v
    rcases hw.records .reservation trivial with hrecord | hrecord
    · have hreserved : o.graph.reservation.status = .reserved := by
        have hsigned := o.loaded.signed
        simp only [SignedDrifted, not_or, not_not] at hsigned
        exact hsigned.2.2.1
      rw [Option.some.inj (hg.reservation.symm.trans hrecord), completeReservation, hreserved]
      exact store_succeeds hstore _
    · rw [Option.some.inj (hg.reservation.symm.trans hrecord)]
      exact ⟨(), if_neg (not_not.mpr rfl)⟩
  rw [completeBroadcastTransition, (hg.transactionIdentity hw).2, o.identified]
  change Safe _ _ _ ((completeReservation g.reservation o.txid).bind _) w
  refine then_succeeds (hreservation w) fun _ _ => ?_
  refine then_succeeds (store_succeeds hstore _) fun _ _ => ?_
  refine then_succeeds (store_succeeds hstore _) fun _ _ => ?_
  refine then_succeeds (setRequestStatuses_succeeds hstore _) fun _ _ => ?_
  exact store_succeeds hstore _

/-- It runs to its end, where every record has moved. -/
theorem completeBroadcastTransition_completes
    (hstore : StoreAnswers expected)
    (hw : InTransition o w.view) (hg : Loads o w.view g) :
    Safe (exec.answering expected) (fun _ => True)
      (fun result w' => result = .ok () ∧ AllMoved o w'.view)
      (completeBroadcastTransition { o.batch with status } g) w := by
  have hmoves := (completeBroadcastTransition_safe status hw hg).answering expected
  have hends := completeBroadcastTransition_succeeds status hstore hw hg
  apply (Safe.and (hmoves.mono (fun _ _ => trivial) fun _ _ => id) hends).imp
  intro result w' h
  rcases h with ⟨hadvances, a, rfl⟩
  exact ⟨rfl, hadvances.2 a rfl⟩

/-- Lookups answer what is stored. -/
theorem lookups_exact {α : Type} {p : Flow α}
    (hstore : StoreAnswers expected)
    (hcalls : p.Calls IsLookupCall) :
    Safe (exec.answering expected) (fun w' => w'.view = w.view)
      (fun result w' => w'.view = w.view ∧ result = p.eval (lookupOracle w.view)) p w := by
  refine Safe.of_exact_oracle hcalls ?_ rfl
  intro op w₁ answer w₂ hlookup hview hexec
  cases op with
  | store op =>
    rcases hstore op answer hexec.2 with ⟨a, rfl⟩
    refine ⟨(read_view (lookup_read hlookup) hexec.1.1).trans hview, ?_⟩
    have hanswer := effect_lookup hlookup (OperatorStore.effect hexec.1.1)
    rw [show OperatorStore.view w₁.store = w.view from hview] at hanswer
    exact hanswer.symm
  | rpc op => exact hlookup.elim
  | http op => exact hlookup.elim
  | system op => exact hlookup.elim

/-! Posting. -/

section Electrs
variable {displayTxid : String}

/-- Whether the transaction is known can be told. -/
theorem electrsHasTransaction_succeeds (electrsUrl : String) :
    Safe (exec.answering (Accepting displayTxid)) (fun _ => True)
      (fun result _ => ∃ known, result = .ok known)
      (electrsHasTransaction electrsUrl displayTxid) w := by
  have hget : Safe (exec.answering (Accepting displayTxid)) (fun _ => True)
      (fun result _ => Accepting displayTxid
        (.http (.get s!"{trimTrailingSlashes electrsUrl}/tx/{displayTxid}")) result)
      (withContext s!"GET {trimTrailingSlashes electrsUrl}/tx/{displayTxid}"
        (http (.get s!"{trimTrailingSlashes electrsUrl}/tx/{displayTxid}"))) w := by
    refine safe_mapError.mpr fun answer w' hexec => ⟨trivial, ?_⟩
    rcases hexec.2 with ⟨a, rfl, ha⟩
    exact ⟨a, rfl, ha⟩
  refine hget.bind (fun a w' h => ?_) fun e w' h => ?_
  · rcases h with ⟨b, hb, hknown⟩
    cases hb
    by_cases hmissing : a.status = 404
    · rw [if_pos hmissing]
      exact ⟨false, rfl⟩
    · rw [if_neg hmissing]
      rcases hknown.resolve_left hmissing with ⟨hsuccess, txid, htxid, hmatches⟩
      simp [bailIf, hsuccess, htxid, hmatches, Safe, Except.mapError]
  · rcases h with ⟨b, hb, -⟩
    cases hb

theorem broadcastElectrs_succeeds (key electrsUrl : String) (raw : ByteString) :
    Safe (exec.answering (Accepting displayTxid)) (fun _ => True)
      (fun result _ => ∃ returned, result = .ok returned ∧
        eqIgnoreAsciiCase returned displayTxid = true)
      (broadcastElectrs key electrsUrl raw) w := by
  intro answer w' hexec
  rcases hexec.2 with ⟨a, rfl, hsuccess, hmatches⟩
  refine ⟨trivial, ?_⟩
  simp [bailIf, hsuccess, hmatches, Safe]

theorem broadcastElectrsIdempotent_succeeds (key electrsUrl : String) (raw : ByteString) :
    Safe (exec.answering (Accepting displayTxid)) (fun _ => True) (fun result _ => ∃ a, result = .ok a)
      (broadcastElectrsIdempotent key electrsUrl raw displayTxid) w := by
  apply then_succeeds (electrsHasTransaction_succeeds electrsUrl)
  intro known w₁
  split
  · exact ⟨(), rfl⟩
  · refine (safe_attempt.mpr ((broadcastElectrs_succeeds key electrsUrl raw).imp fun _ _ h => ?_)).bind
      (R := fun result _ => ∃ returned, result = .ok (.ok returned) ∧
        eqIgnoreAsciiCase returned displayTxid = true) (fun answer w₂ h => ?_) fun _ _ h => ?_
    · rcases h with ⟨returned, rfl, hmatches⟩
      exact ⟨returned, rfl, hmatches⟩
    · rcases h with ⟨returned, hanswer, hmatches⟩
      cases hanswer
      simp [bailIf, hmatches, Safe]
    · rcases h with ⟨returned, hanswer, -⟩
      cases hanswer

end Electrs

/-! Uninterrupted resumes. -/

/-- The whole graph is broadcast, the batch with it. -/
def Reached (o : Origin) (w : World) : Prop :=
  AllBroadcast w.view o.batch o.reservationId o.txid ∧
    ∃ batch, w.view.batch o.batch.solanaSignature = some batch ∧ batch.status = .broadcast

theorem reached_of_moved (h : AllMoved o w.view) : Reached o w :=
  ⟨allMoved_broadcast h, _, h .batch trivial, rfl⟩

theorem load_exact (hstore : StoreAnswers expected) (hw : InTransition o w.view)
    (hg : Loads o w.view g) :
    Safe (exec.answering expected) (fun w' => w'.view = w.view)
      (fun result w' => w'.view = w.view ∧ result = .ok g)
      (loadPersistedWithdrawalGraph { o.batch with status }) w := by
  have hload := loadPersistedWithdrawalGraph_eq_ok.mpr (hg.persisted hw status)
  have hexact := lookups_exact (w := w) hstore
    (loadPersistedWithdrawalGraph_lookups { o.batch with status })
  rw [hload] at hexact
  exact hexact

variable [Hashes] {args : Args} {payload : Utx0UnlockPayload} {raw : ByteString}

omit [Hashes] in
theorem markBatchBroadcast_completes (hw : InTransition o w.view)
    (hkept : ∀ part, Covers o part → Kept o w.view part) {displayTxid : String} :
    Safe (exec.answering (Accepting displayTxid)) (fun _ => True)
      (fun result w' => result = .ok () ∧ AllMoved o w'.view)
      (markBatchBroadcast args { o.batch with status } o.graph.reservation.reservationId raw
        o.graph.transaction.rawHash o.txid displayTxid) w := by
  have hstore : StoreAnswers (Accepting displayTxid) := fun _ _ h => h
  have hposted := Safe.and
    (((reads_safe (broadcastElectrsIdempotent_keepsStore o.batch.solanaSignature args.electrsUrl
      displayTxid raw)).answering (Accepting displayTxid)).mono (fun _ _ => trivial)
        fun _ _ => id)
    (broadcastElectrsIdempotent_succeeds (w := w) o.batch.solanaSignature args.electrsUrl raw)
  refine hposted.bind (fun _ w₁ h₁ => ?_) fun e w₁ h₁ => ?_
  · have hw₁ : InTransition o w₁.view := h₁.1 ▸ hw
    have hloads : Loads o w₁.view o.graph := by
      rw [h₁.1]
      exact ⟨hkept .reservation trivial, hkept .transaction trivial, hkept .process trivial⟩
    refine ((load_exact _ hstore hw₁ hloads).mono (fun _ _ => trivial) fun _ _ => id).bind
      (fun graph w₂ h₂ => ?_) fun e w₂ h₂ => by cases h₂.2
    rcases h₂ with ⟨hview, hgraph⟩
    cases hgraph
    have hsame : ¬ (o.graph.reservation.reservationId ≠ o.graph.reservation.reservationId ∨
        o.graph.transaction.rawHash ≠ o.graph.transaction.rawHash ∨
        o.graph.transaction.txid ≠ some o.txid) := by
      simp [o.identified]
    simp only [Program.bind_eq, bailIf_of_not hsame, done_ok_bind]
    have hloads₂ : Loads o w₂.view o.graph := hview ▸ hloads
    exact completeBroadcastTransition_completes _ hstore (hview ▸ hw₁) hloads₂
  · rcases h₁.2 with ⟨_, h⟩
    cases h

/-- Broadcasting enabled, a complete graph with its own raw transaction is broadcast. -/
theorem resumeSignedBatch_passes (hw : InTransition o w.view)
    (hkept : ∀ part, Covers o part → Kept o w.view part)
    (hraw : SignedPost.Postable o.view o.batch o.graph raw) (hbroadcast : args.broadcastEnabled = true) :
    Passes (exec.answering (Accepting (hexEncode o.txid.reverse.toList))) (Reached o)
      (resumeSignedBatch args { o.batch with status } payload o.graph) w := by
  have htxid : doubleSha256 raw = o.txid := Option.some.inj (hraw.txid.symm.trans o.identified)
  have hhash : ¬ hashSha256 raw ≠ o.graph.transaction.rawHash := not_not.mpr hraw.rawHash.symm
  have hidentity : ¬ o.graph.transaction.txid ≠ some o.txid := not_not.mpr o.identified
  simp only [resumeSignedBatch, hraw.persisted, orBail_some, Program.bind_eq, liftM_eq, done_ok_bind,
    bailIf_of_not hhash, htxid, bailIf_of_not hidentity, onlyIf, if_pos hbroadcast]
  rw [← hraw.rawHash]
  exact Passes.bind (markBatchBroadcast_completes _ hw hkept)
    (fun _ _ h => passes_now (reached_of_moved h.2)) fun _ _ h => by cases h.1

variable [Base58Check] [BlockHashText] [TxoConstants]

/-- Once the reservation has moved, the transition is finished. -/
theorem continueSigned_passes (hstore : StoreAnswers expected) (hw : InTransition o w.view)
    (hmoved : Moved o w.view .reservation) :
    Passes (exec.answering expected) (Reached o)
      (continueSigned args { o.batch with status } payload) w := by
  rcases hw.loads with ⟨g, hg⟩
  refine Passes.bind (load_exact _ hstore hw hg) (fun graph w₁ h₁ => ?_) fun e w₁ h₁ => by cases h₁.2
  rcases h₁ with ⟨hview, hgraph⟩
  cases hgraph
  rw [if_pos ((hg.started_iff hw).mpr hmoved)]
  have hg₁ : Loads o w₁.view g := hview ▸ hg
  exact Passes.bind (completeBroadcastTransition_completes _ hstore (hview ▸ hw) hg₁)
    (fun _ _ h => passes_now (reached_of_moved h.2)) fun _ _ h => by cases h.1

/-- Before that, the run posts and goes through the transition. -/
theorem continueSigned_passes_kept (hw : InTransition o w.view)
    (hkept : ∀ part, Covers o part → Kept o w.view part)
    (hraw : SignedPost.Postable o.view o.batch o.graph raw) (hbroadcast : args.broadcastEnabled = true) :
    Passes (exec.answering (Accepting (hexEncode o.txid.reverse.toList))) (Reached o)
      (continueSigned args o.batch payload) w := by
  have hstore : StoreAnswers (Accepting (hexEncode o.txid.reverse.toList)) := fun _ _ h => h
  have hloads : Loads o w.view o.graph :=
    ⟨hkept .reservation trivial, hkept .transaction trivial, hkept .process trivial⟩
  refine Passes.bind (load_exact o.batch.status hstore hw hloads) (fun graph w₁ h₁ => ?_)
    fun e w₁ h₁ => by cases h₁.2
  rcases h₁ with ⟨hview, hgraph⟩
  cases hgraph
  have hstarted : ¬ broadcastTransitionStarted o.graph = true := by
    simp [not_started_of_signed o.loaded.signed]
  rw [if_neg hstarted]
  have hcomplete : (loadCompleteSignedGraph o.batch).eval (lookupOracle w₁.view) = .ok o.graph := by
    rw [hview]
    exact loadCompleteSignedGraph_eq_ok.mpr (signedGraph_of_kept hw hkept)
  have hexact := lookups_exact (w := w₁) hstore (loadCompleteSignedGraph_lookups o.batch)
  rw [hcomplete] at hexact
  refine Passes.bind hexact (fun graph w₂ h₂ => ?_) fun e w₂ h₂ => by cases h₂.2
  rcases h₂ with ⟨hview₂, hgraph⟩
  cases hgraph
  have hsame : w₂.view = w.view := hview₂.trans hview
  exact resumeSignedBatch_passes o.batch.status (hsame ▸ hw) (hsame ▸ hkept) hraw
    hbroadcast

variable [SolanaSdk] [Secp256k1]

/-- The Signed branch of a resume does not bail: the stored graph is complete and not started, or it
is started and the transition runs to its end. -/
def SignedResumes (o : Origin) (w : World) (batch : SnapshotBatch) : Prop :=
  ∃ g, (loadPersistedWithdrawalGraph batch).eval (lookupOracle w.view) = .ok g ∧
    ((broadcastTransitionStarted g = false ∧
        (loadCompleteSignedGraph batch).eval (lookupOracle w.view) = .ok g) ∨
      (broadcastTransitionStarted g = true ∧ ∀ result w',
        Completes (exec.answering Reliable) (completeBroadcastTransition batch g) w result w' →
          result = .ok () ∧ Reached o w'))

omit [Hashes] [Base58Check] [BlockHashText] [TxoConstants] [SolanaSdk] [Secp256k1] in
theorem signedResumes (hw : InTransition o w.view) {batch : SnapshotBatch}
    (hbatch : w.view.batch o.batch.solanaSignature = some batch) (hsigned : batch.status = .signed) :
    SignedResumes o w batch := by
  rcases hw.stored hbatch with ⟨rfl, -⟩ | ⟨rfl, -⟩
  · rcases hw.loads with ⟨g, hg⟩
    refine ⟨g, loadPersistedWithdrawalGraph_eq_ok.mpr (hg.persisted hw o.batch.status), ?_⟩
    by_cases hmoved : Moved o w.view .reservation
    · refine .inr ⟨(hg.started_iff hw).mpr hmoved, fun result w' hrun => ?_⟩
      have hend := (completeBroadcastTransition_completes o.batch.status
        (fun _ _ h => h) hw hg).completes trivial hrun
      exact ⟨hend.1, reached_of_moved hend.2⟩
    · have hkept := hw.first.resolve_left hmoved
      have hloads : Loads o w.view o.graph :=
        ⟨hkept .reservation trivial, hkept .transaction trivial, hkept .process trivial⟩
      cases hg.unique hloads
      exact .inl ⟨not_started_of_signed o.loaded.signed,
        loadCompleteSignedGraph_eq_ok.mpr (signedGraph_of_kept hw hkept)⟩
  · cases hsigned

/-- A resume with arguments for the batch, from a world where it is stored. -/
theorem resumeSnapshotBatch_passes {bridgeState : Pubkey} {batch : SnapshotBatch}
    (hstore : StoreAnswers expected) (hw : InTransition o w.view)
    (hbatch : w.view.batch o.batch.solanaSignature = some batch)
    (hpayload : PayloadIdentity args batch payload)
    (hkept : (∀ part, Covers o part → Kept o w.view part) →
      Passes (exec.answering expected) (Reached o) (continueSigned args o.batch payload) w) :
    Passes (exec.answering expected) (Reached o) (resumeSnapshotBatch args bridgeState batch) w := by
  rcases hw.stored hbatch with ⟨rfl, -⟩ | ⟨rfl, hall⟩
  · have hobserved : ¬ o.batch.status = .observed := by
      rw [o.loaded.status]
      decide
    rw [resumeSnapshotBatch, if_neg hobserved, continueSnapshotBatch_of_identity hpayload,
      o.loaded.status]
    rcases hw.first with hmoved | hnone
    · exact continueSigned_passes o.batch.status hstore hw hmoved
    · exact hkept hnone
  · exact passes_now (reached_of_moved hall)

/-- In every world reached from a complete signed graph, by the transition and then any number of
resumes, each stopped before any call: a broadcast batch has its whole graph broadcast; the Signed
branch does not bail; and an uninterrupted resume for the batch's Manager set reaches the broadcast
graph, without further ado once a record has moved, and before that if it may broadcast and Electrs
takes the transaction. -/
theorem transition_recovers (o : Origin) {w₀ w : World} {batch : SnapshotBatch}
    (hstart : w₀.view = o.view) (hrun : Sessions exec (Starts o) w₀ w)
    (hbatch : w.view.batch o.batch.solanaSignature = some batch) :
    (batch.status = .broadcast → AllBroadcast w.view o.batch o.reservationId o.txid) ∧
      (batch.status = .signed → SignedResumes o w batch) ∧
      (Incomplete batch.status → ∀ args bridgeState payload, PayloadIdentity args batch payload →
        ((∃ part, Covers o part ∧ ¬ Kept o w.view part) →
          Passes (exec.answering Reliable) (Reached o) (resumeSnapshotBatch args bridgeState batch)
            w) ∧
        ∀ raw, SignedPost.Postable o.view o.batch o.graph raw → args.broadcastEnabled = true →
          Passes (exec.answering (Accepting (hexEncode o.txid.reverse.toList))) (Reached o)
            (resumeSnapshotBatch args bridgeState batch) w) := by
  rcases sessions_held hstart hrun with hw | ⟨settled, hsettled, hconfirmed⟩
  · refine ⟨?_, signedResumes hw hbatch, ?_⟩
    · intro hbroadcast
      rcases hw.stored hbatch with ⟨rfl, -⟩ | ⟨-, hall⟩
      · cases o.loaded.status.symm.trans hbroadcast
      · exact allMoved_broadcast hall
    · intro _ args bridgeState payload hpayload
      constructor
      · intro hsome
        rcases hsome with ⟨part, hcovers, hpart⟩
        exact resumeSnapshotBatch_passes (fun _ _ h => h) hw hbatch hpayload
          fun hkept => absurd (hkept part hcovers) hpart
      · intro raw hraw hbroadcast
        exact resumeSnapshotBatch_passes (fun _ _ h => h) hw hbatch hpayload
          fun hkept => continueSigned_passes_kept hw hkept hraw hbroadcast
  · cases hbatch.symm.trans hsettled
    refine ⟨fun h => ?_, fun h => ?_, fun h => absurd hconfirmed h.1⟩
    · cases hconfirmed.symm.trans h
    · cases hconfirmed.symm.trans h

end

section
open Localnet Digests
attribute [local instance] promisedStore

/-- The signed batch of the local network. -/
def localOrigin : Origin where
  view := signedView localRaw
  batch := heldBatch .signed
  graph := signedGraph localRaw
  reservationId := (localReservation []).reservationId
  txid := doubleSha256 localRaw
  stored := (signedView_oldest localRaw).stored
  loaded := signedView_graph localRaw
  linked := rfl
  keyed := rfl
  identified := rfl

def localWorld : World := ⟨signedView localRaw, []⟩

theorem localOrigin_postable :
    SignedPost.Postable localOrigin.view localOrigin.batch localOrigin.graph localRaw :=
  ⟨signedView_graph localRaw, rfl, rfl, rfl⟩

theorem localWorld_stored :
    localWorld.view.batch localOrigin.batch.solanaSignature = some (heldBatch .signed) :=
  localOrigin.stored

/-- The reservation has moved, nothing else has. -/
def crashedWorld : World :=
  ⟨(signedView localRaw).markReservation localOrigin.reservationId localOrigin.txid, []⟩

theorem crashedWorld_reached : Sessions exec (Starts localOrigin) localWorld crashedWorld := by
  have hwrite : exec (.store (.markReservationBroadcast localOrigin.reservationId localOrigin.txid))
      localWorld (.ok ()) crashedWorld := ⟨rfl, rfl⟩
  have hsession : Session exec (completeBroadcastTransition localOrigin.batch localOrigin.graph)
      localWorld crashedWorld := ⟨_, .single (.call hwrite)⟩
  exact .single ⟨_, .inl ⟨rfl, rfl⟩, hsession⟩

theorem crashedWorld_moved : ¬ Kept localOrigin crashedWorld.view .reservation := by
  intro hkept
  have hwrite : Effect (signedView localRaw) (Part.reservation.write localOrigin) ()
      crashedWorld.view := rfl
  have hmoved := write_moves hwrite
    ((inTransition_start localOrigin).records .reservation trivial)
  have hstatus := congrArg CustodyReservation.status (Option.some.inj (hmoved.symm.trans hkept))
  cases hstatus

def silentArgs : Args := { localArgs with broadcastEnabled := false }

theorem silentArgs_payload : PayloadIdentity silentArgs (heldBatch .signed) localPayload :=
  ⟨(heldBatch_payload .signed).parsed, (heldBatch_payload .signed).identity⟩

attribute [local irreducible] Passes in
/-- Stopped after its first write, the transition is finished by a resume that may not broadcast;
stopped before it, by one that may. -/
theorem transition_recovers_local :
    Passes (exec.answering Reliable) (Reached localOrigin)
        (resumeSnapshotBatch silentArgs localBridgeState (heldBatch .signed)) crashedWorld ∧
      Passes (exec.answering (Accepting (hexEncode localOrigin.txid.reverse.toList)))
        (Reached localOrigin) (resumeSnapshotBatch localArgs localBridgeState (heldBatch .signed))
        localWorld := by
  have hstart : localWorld.view = localOrigin.view := rfl
  have hincomplete : Incomplete (heldBatch .signed).status := by decide
  have hcrashed : crashedWorld.view.batch localOrigin.batch.solanaSignature =
      some (heldBatch .signed) := localOrigin.stored
  have hfinish := (transition_recovers localOrigin hstart crashedWorld_reached hcrashed).2.2
    hincomplete silentArgs localBridgeState localPayload silentArgs_payload
  have hresumes := (transition_recovers localOrigin hstart .refl localWorld_stored).2.2 hincomplete
    localArgs localBridgeState localPayload (heldBatch_payload .signed)
  exact ⟨hfinish.1 ⟨.reservation, trivial, crashedWorld_moved⟩,
    hresumes.2 localRaw localOrigin_postable rfl⟩

/-- A store that answers lookups, and a file system. -/
def reading : Handler Op.Answer ErrorChain World
  | .store op, w => (lookups w.view op, w)
  | .system (.createParentDirectory _), w => (.ok (), w)
  | .system (.writeFile _ _), w => (.ok (), w)
  | .http (.postTransaction key _ body), w =>
    (bail "busy", { w with posted := w.posted ++ [⟨key, body, persistedRaw w.view key⟩] })
  | .http _, w => (bail "busy", w)
  | .rpc _, w => (bail "busy", w)
  | .system _, w => (bail "busy", w)

theorem reading_exec (op : Op) (w : World) :
    exec op w (reading op w).1 (reading op w).2 ∧ (reading op w).2.view = w.view := by
  cases op with
  | store op =>
    refine ⟨⟨?_, rfl⟩, rfl⟩
    change promisedStore.exec op w.store (lookups w.store op) w.store
    cases hanswer : lookups w.store op with
    | error e => exact rfl
    | ok answer => exact lookups_effect hanswer
  | http op => cases op <;> exact ⟨rfl, rfl⟩
  | rpc op => exact ⟨rfl, rfl⟩
  | system op => cases op <;> exact ⟨rfl, rfl⟩

theorem reading_lookup (w : World) (op : Op) (h : IsLookupCall op) :
    reading op w = (lookupOracle w.view op, w) := by
  cases op with
  | store op => rfl
  | _ => exact h.elim

/-- A complete graph is verified, posted if broadcasting is enabled, and evidence of it written. -/
theorem continueSigned_verified {σ : Type} {handler : Handler Op.Answer ErrorChain σ} {w : σ}
    {args : Args} {batch : SnapshotBatch} {payload : Utx0UnlockPayload}
    {graph : PersistedWithdrawalGraph} {raw : ByteString}
    (hload : (loadPersistedWithdrawalGraph batch).runWith handler w = (.ok graph, w))
    (hcomplete : (loadCompleteSignedGraph batch).runWith handler w = (.ok graph, w))
    (hstarted : ¬ broadcastTransitionStarted graph = true)
    (hraw : graph.transaction.rawTransaction = some raw)
    (hhash : ¬ hashSha256 raw ≠ graph.transaction.rawHash)
    (htxid : ¬ graph.transaction.txid ≠ some (doubleSha256 raw)) :
    (continueSigned args batch payload).runWith handler w =
      ((onlyIf args.broadcastEnabled (markBatchBroadcast args batch graph.reservation.reservationId
          raw (hashSha256 raw) (doubleSha256 raw)
          (hexEncode (doubleSha256 raw).reverse.toList))).bind fun _ =>
        writeEvidence args.evidencePath (resumedEvidence args batch payload raw
          (hexEncode (doubleSha256 raw).reverse.toList)
          graph.reservation.reservationId)).runWith handler w := by
  simp only [continueSigned, Program.bind_eq, runWith_bind, hload, if_neg hstarted, hcomplete,
    resumeSignedBatch, hraw, orBail_some, liftM_eq, done_ok_bind, bailIf_of_not hhash,
    bailIf_of_not htxid]

theorem continueSigned_silent :
    (continueSigned silentArgs (heldBatch .signed) localPayload).runWith reading localWorld =
      (.ok (), localWorld) := by
  have hsigned : SignedGraph localWorld.view (heldBatch .signed) (signedGraph localRaw) :=
    signedView_graph localRaw
  have hload : (loadPersistedWithdrawalGraph (heldBatch .signed)).runWith reading localWorld =
      (.ok (signedGraph localRaw), localWorld) := by
    rw [runWith_oracle (loadPersistedWithdrawalGraph_lookups _) (reading_lookup localWorld),
      loadPersistedWithdrawalGraph_eq_ok.mpr hsigned.persisted]
  have hcomplete : (loadCompleteSignedGraph (heldBatch .signed)).runWith reading localWorld =
      (.ok (signedGraph localRaw), localWorld) := by
    rw [runWith_oracle (loadCompleteSignedGraph_lookups _) (reading_lookup localWorld),
      loadCompleteSignedGraph_eq_ok.mpr hsigned]
  have hstarted : ¬ broadcastTransitionStarted (signedGraph localRaw) = true := by
    simp [not_started_of_signed hsigned.signed]
  have hdisabled : ¬ silentArgs.broadcastEnabled = true := by simp [silentArgs]
  rw [continueSigned_verified hload hcomplete hstarted rfl (not_not.mpr rfl) (not_not.mpr rfl),
    onlyIf, if_neg hdisabled]
  rfl

/-- Without broadcasting the resume succeeds, no call changes the store, and the batch stays signed. -/
theorem unposted_stays_signed :
    Completes (fun op w answer w' => exec op w answer w' ∧ w'.view = w.view)
        (resumeSnapshotBatch silentArgs localBridgeState (heldBatch .signed)) localWorld (.ok ())
        localWorld ∧
      localWorld.view = localOrigin.view ∧ ¬ Reached localOrigin localWorld := by
  have hstatus : ¬ (heldBatch .signed).status = .observed := by decide
  have hsigned : (heldBatch .signed).status = .signed := rfl
  have hexec : ∀ op w, True → (exec op w (reading op w).1 (reading op w).2 ∧
      (reading op w).2.view = w.view) ∧ True := fun op w _ => ⟨reading_exec op w, trivial⟩
  have hrun : Completes (fun op w answer w' => exec op w answer w' ∧ w'.view = w.view)
      (resumeSnapshotBatch silentArgs localBridgeState (heldBatch .signed)) localWorld _ _ :=
    completes_runWith hexec _ trivial
  rw [resumeSnapshotBatch, if_neg hstatus, continueSnapshotBatch_of_identity silentArgs_payload,
    hsigned] at hrun ⊢
  refine ⟨?_, rfl, ?_⟩
  · rw [continueSigned_silent] at hrun
    exact hrun
  · intro hreached
    rcases hreached.2 with ⟨batch, hbatch, hbroadcast⟩
    cases hbatch.symm.trans localOrigin.stored
    cases hbroadcast

end

end DogeOperator.BroadcastRecovery
