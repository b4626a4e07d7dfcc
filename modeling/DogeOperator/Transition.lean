import DogeOperator.GraphSpec

/-! The broadcast transition of a signed graph, one record after another, and what the store may hold
in the middle of it: each record is as it was or broadcast, the reservation moves first and the
batch last. -/
namespace DogeOperator.Transition
open Bytes Records Confirm Store DogeOperator.Graph GraphSpec

/-- The complete signed graph that a transition starts from. -/
structure Origin where
  view : StoreView
  batch : SnapshotBatch
  graph : PersistedWithdrawalGraph
  reservationId : String
  txid : FixedBytes 32
  stored : view.batch batch.solanaSignature = some batch
  loaded : SignedGraph view batch graph
  linked : batch.reservationId = some reservationId
  /-- A reservation is stored under its own identifier. -/
  keyed : graph.reservation.reservationId = reservationId
  identified : graph.transaction.txid = some txid

/-- Every complete signed graph in the store is one that a transition starts from. -/
theorem exists_origin {v : StoreView} {batch : SnapshotBatch} {graph : PersistedWithdrawalGraph}
    (hstored : v.batch batch.solanaSignature = some batch) (hloaded : SignedGraph v batch graph)
    (hkeyed : batch.reservationId = some graph.reservation.reservationId) :
    ∃ o : Origin, o.view = v ∧ o.batch = batch ∧ o.graph = graph := by
  rcases hloaded.persisted.mappings with ⟨txid, _, htxid, -, -⟩
  let o : Origin :=
    { view := v, batch, graph, txid
      reservationId := graph.reservation.reservationId
      stored := hstored
      loaded := hloaded
      linked := hkeyed
      keyed := rfl
      identified := htxid }
  exact ⟨o, rfl, rfl, rfl⟩

/-- The records that the transition changes. -/
inductive Part
  | reservation
  | transaction
  | process
  | request (index : UInt64)
  | batch
  deriving DecidableEq

def Part.write (o : Origin) : Part → StoreOp
  | .reservation => .markReservationBroadcast o.reservationId o.txid
  | .transaction => .setDogecoinTransactionStatusByRawHash o.graph.transaction.rawHash .broadcast
  | .process => .setProcessWithdrawalStatus o.batch.solanaSignature .broadcast
  | .request index => .setWithdrawalRequestStatus index .broadcast
  | .batch => .setSnapshotBatchStatus o.batch.solanaSignature .broadcast

def Covers (o : Origin) : Part → Prop
  | .request index => o.batch.requestStartIndex ≤ index ∧ index < o.batch.requestEndIndex
  | _ => True

/-- The record is as it was. -/
def Kept (o : Origin) (v : StoreView) : Part → Prop
  | .reservation => v.reservation o.reservationId = some o.graph.reservation
  | .transaction => v.transaction o.batch.solanaSignature = some o.graph.transaction
  | .process => v.process o.batch.solanaSignature = some o.graph.process
  | .request index => v.request index = o.view.request index
  | .batch => v.batch o.batch.solanaSignature = some o.batch

/-- The record is broadcast. -/
def Moved (o : Origin) (v : StoreView) : Part → Prop
  | .reservation =>
    v.reservation o.reservationId = some (broadcastReservation o.txid o.graph.reservation)
  | .transaction =>
    v.transaction o.batch.solanaSignature = some { o.graph.transaction with status := .broadcast }
  | .process => v.process o.batch.solanaSignature = some { o.graph.process with status := .broadcast }
  | .request index =>
    v.request index = (o.view.request index).map ({ · with status := .broadcast })
  | .batch => v.batch o.batch.solanaSignature = some { o.batch with status := .broadcast }

variable {o : Origin} {v v' : StoreView} {part other : Part} {g : PersistedWithdrawalGraph}

theorem broadcastReservation_idem (txid : FixedBytes 32) (reservation : CustodyReservation) :
    broadcastReservation txid (broadcastReservation txid reservation) =
      broadcastReservation txid reservation := by
  simp [broadcastReservation]

/-- A write broadcasts its record, also when it is repeated. -/
theorem write_moves {answer : (part.write o).Answer} (heffect : Effect v (part.write o) answer v')
    (hpart : Kept o v part ∨ Moved o v part) : Moved o v' part := by
  cases part with
  | reservation =>
    cases heffect
    rcases hpart with h | h
    · simp only [Kept] at h
      simp [Moved, StoreView.markReservation, h]
    · simp only [Moved] at h
      simp [Moved, StoreView.markReservation, h, broadcastReservation_idem]
  | transaction =>
    cases heffect
    rcases hpart with h | h
    · simp only [Kept] at h
      simp [Moved, StoreView.setTransactionStatus, h]
    · simp only [Moved] at h
      simp [Moved, StoreView.setTransactionStatus, h]
  | process =>
    cases heffect
    rcases hpart with h | h
    · simp only [Kept] at h
      simp [Moved, StoreView.setProcessStatus, h]
    · simp only [Moved] at h
      simp [Moved, StoreView.setProcessStatus, h]
  | request index =>
    cases heffect
    rcases hpart with h | h
    · simp only [Kept] at h
      simp [Moved, StoreView.setRequestStatus, h]
    · simp only [Moved] at h
      cases hrequest : o.view.request index <;>
        simp [Moved, StoreView.setRequestStatus, h, hrequest]
  | batch =>
    cases heffect
    rcases hpart with h | h
    · simp only [Kept] at h
      simp [Moved, StoreView.setBatchStatus, h]
    · simp only [Moved] at h
      simp [Moved, StoreView.setBatchStatus, h]

/-- A write leaves the other records alone. -/
theorem write_other {answer : (part.write o).Answer} (heffect : Effect v (part.write o) answer v')
    (hother : other ≠ part) :
    (Kept o v other → Kept o v' other) ∧ (Moved o v other → Moved o v' other) := by
  cases part with
  | request index =>
    cases heffect
    cases other with
    | request index' =>
      have hindex : index' ≠ index := fun h => hother (by rw [h])
      simp [Kept, Moved, StoreView.setRequestStatus, hindex]
    | _ => exact ⟨id, id⟩
  | _ =>
    cases heffect
    cases other <;> first | exact absurd rfl hother | exact ⟨id, id⟩

theorem write_mappings {answer : (part.write o).Answer}
    (heffect : Effect v (part.write o) answer v') : v'.mappings = v.mappings := by
  cases part <;> cases heffect <;> rfl

/-- Every record is broadcast. -/
def AllMoved (o : Origin) (v : StoreView) : Prop := ∀ part, Covers o part → Moved o v part

structure InTransition (o : Origin) (v : StoreView) : Prop where
  records : ∀ part, Covers o part → Kept o v part ∨ Moved o v part
  mappings : v.mappings o.batch.solanaSignature = o.view.mappings o.batch.solanaSignature
  first : Moved o v .reservation ∨ ∀ part, Covers o part → Kept o v part
  last : Kept o v .batch ∨ AllMoved o v

theorem inTransition_start (o : Origin) : InTransition o o.view := by
  have hreservation : Kept o o.view .reservation := by
    rcases o.loaded.persisted.reservation with ⟨reservationId, hid, hstored, -⟩
    cases hid.symm.trans o.linked
    exact hstored
  have hkept : ∀ part, Kept o o.view part := by
    intro part
    cases part with
    | reservation => exact hreservation
    | transaction => exact o.loaded.persisted.transaction
    | process => exact o.loaded.persisted.process
    | request index => exact rfl
    | batch => exact o.stored
  exact ⟨fun part _ => .inl (hkept part), rfl, .inr fun part _ => hkept part, .inl (hkept .batch)⟩

theorem AllMoved.inTransition (h : AllMoved o v)
    (hmappings : v.mappings o.batch.solanaSignature = o.view.mappings o.batch.solanaSignature) :
    InTransition o v :=
  ⟨fun part hpart => .inr (h part hpart), hmappings, .inl (h .reservation trivial), .inr h⟩

/-- What one write of the transition preserves. -/
theorem InTransition.write (h : InTransition o v) (hcovers : Covers o part)
    (hfirst : part = .reservation ∨ Moved o v .reservation)
    (hlast : part = .batch → ∀ other, Covers o other → other = .batch ∨ Moved o v other)
    {answer : (part.write o).Answer} (heffect : Effect v (part.write o) answer v') :
    InTransition o v' := by
  have hmoved := write_moves heffect (h.records part hcovers)
  have hkeeps : ∀ other, Moved o v other → Moved o v' other := by
    intro other hother
    by_cases hpart : other = part
    · rw [hpart]
      exact hmoved
    · exact (write_other heffect hpart).2 hother
  refine ⟨?_, ?_, ?_, ?_⟩
  · intro other hother
    by_cases hpart : other = part
    · rw [hpart]
      exact .inr hmoved
    · exact (h.records other hother).imp (write_other heffect hpart).1 (write_other heffect hpart).2
  · rw [write_mappings heffect]
    exact h.mappings
  · rcases hfirst with rfl | hreservation
    · exact .inl hmoved
    · exact .inl (hkeeps _ hreservation)
  · by_cases hbatch : part = .batch
    · subst hbatch
      right
      intro other hother
      rcases hlast rfl other hother with rfl | hother
      · exact hmoved
      · exact hkeeps other hother
    · rcases h.last with hkept | hall
      · exact .inl ((write_other heffect (Ne.symm hbatch)).1 hkept)
      · exact .inr fun other hother => hkeeps other (hall other hother)

/-! What is loaded in the middle of the transition. -/

/-- The records of a graph are the stored ones. -/
structure Loads (o : Origin) (v : StoreView) (g : PersistedWithdrawalGraph) : Prop where
  reservation : v.reservation o.reservationId = some g.reservation
  transaction : v.transaction o.batch.solanaSignature = some g.transaction
  process : v.process o.batch.solanaSignature = some g.process

theorem InTransition.loads (h : InTransition o v) : ∃ g, Loads o v g := by
  have hreservation : ∃ reservation, v.reservation o.reservationId = some reservation :=
    (h.records .reservation trivial).elim (fun h => ⟨_, h⟩) fun h => ⟨_, h⟩
  have htransaction : ∃ transaction, v.transaction o.batch.solanaSignature = some transaction :=
    (h.records .transaction trivial).elim (fun h => ⟨_, h⟩) fun h => ⟨_, h⟩
  have hprocess : ∃ process, v.process o.batch.solanaSignature = some process :=
    (h.records .process trivial).elim (fun h => ⟨_, h⟩) fun h => ⟨_, h⟩
  rcases hreservation with ⟨reservation, hreservation⟩
  rcases htransaction with ⟨transaction, htransaction⟩
  rcases hprocess with ⟨process, hprocess⟩
  exact ⟨⟨transaction, process, reservation⟩, hreservation, htransaction, hprocess⟩

theorem Loads.unique {g' : PersistedWithdrawalGraph} (h : Loads o v g) (h' : Loads o v g') :
    g = g' := by
  have hreservation := Option.some.inj (h.reservation.symm.trans h'.reservation)
  have htransaction := Option.some.inj (h.transaction.symm.trans h'.transaction)
  have hprocess := Option.some.inj (h.process.symm.trans h'.process)
  cases g
  cases g'
  simp_all

theorem custodyDrifted_broadcast {batch : SnapshotBatch} {reservationId : String}
    {txid : FixedBytes 32} {reservation : CustodyReservation} :
    CustodyDrifted batch reservationId (broadcastReservation txid reservation) ↔
      CustodyDrifted batch reservationId reservation := by
  simp [CustodyDrifted, broadcastReservation]

theorem Loads.transactionIdentity (hg : Loads o v g) (h : InTransition o v) :
    g.transaction.rawHash = o.graph.transaction.rawHash ∧
      g.transaction.txid = o.graph.transaction.txid := by
  rcases h.records .transaction trivial with hrecord | hrecord
  · rw [Option.some.inj (hg.transaction.symm.trans hrecord)]
    exact ⟨rfl, rfl⟩
  · rw [Option.some.inj (hg.transaction.symm.trans hrecord)]
    exact ⟨rfl, rfl⟩

/-- The links of the graph hold throughout, whatever the status of the batch. -/
theorem Loads.persisted (hg : Loads o v g) (h : InTransition o v) (status : OperatorStatus) :
    PersistedGraph v { o.batch with status } g := by
  have horigin := o.loaded.persisted
  have hcustody : ¬ CustodyDrifted o.batch o.reservationId g.reservation := by
    rcases horigin.reservation with ⟨reservationId, hid, -, hcustody⟩
    cases hid.symm.trans o.linked
    rcases h.records .reservation trivial with hrecord | hrecord
    · rw [Option.some.inj (hg.reservation.symm.trans hrecord)]
      exact hcustody
    · rw [Option.some.inj (hg.reservation.symm.trans hrecord)]
      exact fun hdrifted => hcustody (custodyDrifted_broadcast.mp hdrifted)
  have hprocess : ¬ ProcessDrifted o.batch g.process ∧
      g.process.dogecoinRawHash = o.graph.process.dogecoinRawHash := by
    rcases h.records .process trivial with hrecord | hrecord
    · rw [Option.some.inj (hg.process.symm.trans hrecord)]
      exact ⟨horigin.identity, rfl⟩
    · rw [Option.some.inj (hg.process.symm.trans hrecord)]
      exact ⟨horigin.identity, rfl⟩
  have htransaction := hg.transactionIdentity h
  refine ⟨⟨o.reservationId, o.linked, hg.reservation, hcustody⟩, hg.process, hprocess.1,
    hg.transaction, ?_, ?_⟩
  · rw [htransaction.1, hprocess.2]
    exact horigin.rawHash
  · rcases horigin.mappings with ⟨internalTxid, count, htxid, hcount, hmappings⟩
    refine ⟨internalTxid, count, htransaction.2.trans htxid, hcount, ?_⟩
    rw [h.mappings]
    exact hmappings

theorem persistedGraph_loads (status : OperatorStatus)
    (h : PersistedGraph v { o.batch with status } g) : Loads o v g := by
  rcases h.reservation with ⟨reservationId, hid, hreservation, -⟩
  cases hid.symm.trans o.linked
  exact ⟨hreservation, h.transaction, h.process⟩

/-- While nothing has moved the store still holds the complete signed graph. -/
theorem signedGraph_of_kept (h : InTransition o v) (hkept : ∀ part, Covers o part → Kept o v part) :
    SignedGraph v o.batch o.graph where
  status := o.loaded.status
  persisted := by
    have hloads : Loads o v o.graph :=
      ⟨hkept .reservation trivial, hkept .transaction trivial, hkept .process trivial⟩
    exact hloads.persisted h o.batch.status
  signed := o.loaded.signed
  requests := by
    intro index hle hlt
    rw [hkept (.request index) ⟨hle, hlt⟩]
    exact o.loaded.requests index hle hlt

/-- The transition is seen to have started exactly when the reservation has moved. -/
theorem Loads.started_iff (hg : Loads o v g) (h : InTransition o v) :
    broadcastTransitionStarted g = true ↔ Moved o v .reservation := by
  constructor
  · intro hstarted
    apply h.first.resolve_right
    intro hkept
    have hloads : Loads o v o.graph :=
      ⟨hkept .reservation trivial, hkept .transaction trivial, hkept .process trivial⟩
    rw [hg.unique hloads, not_started_of_signed o.loaded.signed] at hstarted
    cases hstarted
  · intro hmoved
    rw [broadcastTransitionStarted, Option.some.inj (hg.reservation.symm.trans hmoved)]
    simp [broadcastReservation]

/-- The batch as stored: its status says whether it has moved. -/
theorem InTransition.stored (h : InTransition o v) {batch : SnapshotBatch}
    (hbatch : v.batch o.batch.solanaSignature = some batch) :
    (batch = o.batch ∧ Kept o v .batch) ∨ (batch = { o.batch with status := .broadcast } ∧
      AllMoved o v) := by
  rcases h.last with hkept | hall
  · exact .inl ⟨Option.some.inj (hbatch.symm.trans hkept), hkept⟩
  · exact .inr ⟨Option.some.inj (hbatch.symm.trans (hall .batch trivial)), hall⟩

/-- The whole graph is broadcast, spent by the one transaction. -/
structure AllBroadcast (v : StoreView) (batch : SnapshotBatch) (reservationId : String)
    (txid : FixedBytes 32) : Prop where
  reservation : ∃ reservation, v.reservation reservationId = some reservation ∧
    reservation.status = .broadcast ∧ reservation.spendTxid = some txid ∧
    ∀ utxo ∈ reservation.utxos, utxo.status = .broadcast ∧ utxo.spendTxid = some txid
  transaction : ∃ transaction, v.transaction batch.solanaSignature = some transaction ∧
    transaction.status = .broadcast
  process : ∃ process, v.process batch.solanaSignature = some process ∧ process.status = .broadcast
  requests : RequestsAre v batch .broadcast

theorem allMoved_broadcast (h : AllMoved o v) : AllBroadcast v o.batch o.reservationId o.txid where
  reservation := ⟨_, h .reservation trivial, rfl, rfl, by simp [broadcastReservation]⟩
  transaction := ⟨_, h .transaction trivial, rfl⟩
  process := ⟨_, h .process trivial, rfl⟩
  requests := by
    intro index hle hlt
    rcases o.loaded.requests index hle hlt with ⟨request, hrequest, -⟩
    have hmoved : v.request index = (o.view.request index).map _ := h (.request index) ⟨hle, hlt⟩
    rw [hrequest] at hmoved
    exact ⟨_, hmoved, rfl⟩

/-- The store at the end of the transition. -/
def Origin.broadcast (o : Origin) : StoreView :=
  { o.view with
    batch := Function.update o.view.batch o.batch.solanaSignature
      (some { o.batch with status := .broadcast })
    reservation := Function.update o.view.reservation o.reservationId
      (some (broadcastReservation o.txid o.graph.reservation))
    request := fun index =>
      if o.batch.requestStartIndex ≤ index ∧ index < o.batch.requestEndIndex then
        (o.view.request index).map ({ · with status := .broadcast })
      else o.view.request index
    process := Function.update o.view.process o.batch.solanaSignature
      (some { o.graph.process with status := .broadcast })
    transaction := Function.update o.view.transaction o.batch.solanaSignature
      (some { o.graph.transaction with status := .broadcast }) }

theorem broadcast_allMoved (o : Origin) : AllMoved o o.broadcast := by
  intro part hpart
  cases part with
  | request index => exact if_pos hpart
  | _ => exact Function.update_self _ _ _

/-- The graph at the end of the transition. -/
def Origin.broadcastGraph (o : Origin) : PersistedWithdrawalGraph where
  transaction := { o.graph.transaction with status := .broadcast }
  process := { o.graph.process with status := .broadcast }
  reservation := broadcastReservation o.txid o.graph.reservation

theorem broadcast_persisted (o : Origin) :
    PersistedGraph o.broadcast { o.batch with status := .broadcast } o.broadcastGraph := by
  have hloads : Loads o o.broadcast o.broadcastGraph :=
    ⟨Function.update_self _ _ _, Function.update_self _ _ _, Function.update_self _ _ _⟩
  exact hloads.persisted ((broadcast_allMoved o).inTransition rfl) .broadcast

end DogeOperator.Transition
