import DogeOperator.Batches
import DogeOperator.Intervals

/-! Runs of the batching loop. The accepted batches partition the requests from the first
cursor on: contiguous ranges, and payloads that concatenate to the request history. -/
namespace DogeOperator.Batches
open Bytes Outcome Utx0 Prepare Intervals Relation

/-- An output pays a request, field by field. -/
structure Pays (output : Utx0Output) (request : IndexedRequest) : Prop where
  amount : output.amount = request.record.netAmountSats
  addressType : output.addressType.toU32 = request.record.addressType
  address : output.address = request.record.recipientAddress

def BatchPlan.range (batch : BatchPlan) : ℕ × ℕ :=
  (batch.requestStart.toNat, batch.requestEnd.toNat)

/-- A batch covers at least one and at most the capped number of requests, and pays them. -/
structure WellPlanned (history : List IndexedRequest) (batch : BatchPlan) : Prop where
  nonempty : batch.range.1 < batch.range.2
  capped : batch.range.2 ≤ batch.range.1 + snapshotProofMaxBatch
  covered : batch.range.2 ≤ history.length
  pays : List.Forall₂ Pays batch.payload.outputs (slice history batch.range.1 batch.range.2)

theorem cappedBatchEnd_toNat (cursor tip : UInt64) :
    (cappedBatchEnd cursor tip).toNat =
      min (cursor.toNat + snapshotProofMaxBatch) tip.toNat := by
  have hcap : (UInt64.ofNat snapshotProofMaxBatch).toNat = snapshotProofMaxBatch := rfl
  have htip := tip.toNat_lt
  rw [cappedBatchEnd, UInt64.toNat_min, saturatingAdd_toNat, hcap]
  omega

theorem requestOutput_eq_ok {request : IndexedRequest} {output : Utx0Output} :
    requestOutput request = .ok output ↔ Pays output request := by
  unfold requestOutput
  constructor
  · intro h
    obtain ⟨addressType, htype, h⟩ := bind_eq_ok.mp h
    cases h
    exact ⟨rfl, (UtxoAddressType.fromU32_eq_ok.mp htype).symm, rfl⟩
  · rintro ⟨hamount, htype, haddress⟩
    rw [UtxoAddressType.fromU32_eq_ok.mpr htype.symm, ok_bind, ← hamount, ← haddress]
    rfl

theorem historyRange_eq_ok {history requests : List IndexedRequest} {start stop : UInt64} :
    historyRange history start stop = .ok requests ↔
      start.toNat ≤ stop.toNat ∧ stop.toNat ≤ history.length ∧
        requests = slice history start.toNat stop.toNat := by
  unfold historyRange
  rw [orBail_eq_ok]
  split_ifs with h
  · rw [Option.some.injEq]
    exact ⟨fun hr => ⟨h.1, h.2, hr.symm⟩, fun hr => hr.2.2.symm⟩
  · simp only [false_iff]
    exact fun hr => h ⟨hr.1, hr.2.1⟩

theorem payloadForRequests_eq_ok {requests : List IndexedRequest} {index : UInt32}
    {payload : Utx0UnlockPayload} :
    payloadForRequests requests index = .ok payload ↔
      requests ≠ [] ∧ List.Forall₂ Pays payload.outputs requests ∧
        payload.destinationChain = dogecoinChainId ∧ payload.delegatedManagerSetIndex = index := by
  unfold payloadForRequests
  constructor
  · intro h
    obtain ⟨hne, h⟩ := guard_bind_eq_ok.mp h
    obtain ⟨outputs, houtputs, h⟩ := bind_eq_ok.mp h
    cases h
    refine ⟨by rwa [List.isEmpty_iff] at hne, ?_, rfl, rfl⟩
    exact ((mapM_eq_ok.mp houtputs).imp fun _ _ h => requestOutput_eq_ok.mp h).flip
  · rintro ⟨hne, hpays, hchain, hindex⟩
    refine guard_bind_eq_ok.mpr ⟨by rwa [List.isEmpty_iff], ?_⟩
    have houtputs : requests.mapM requestOutput = .ok payload.outputs :=
      mapM_eq_ok.mpr (hpays.flip.imp fun _ _ h => requestOutput_eq_ok.mpr h)
    rw [houtputs, ok_bind, ← hchain, ← hindex]
    rfl

theorem payloadForRequests_isOk {requests : List IndexedRequest} (index : UInt32)
    (hne : requests ≠ []) (hpayable : ∀ request ∈ requests, ∃ output, Pays output request) :
    ∃ payload, payloadForRequests requests index = .ok payload := by
  have houtputs : ∃ outputs, List.Forall₂ Pays outputs requests := by
    clear hne
    induction requests with
    | nil => exact ⟨[], .nil⟩
    | cons request rest ih =>
      rcases hpayable request List.mem_cons_self with ⟨output, houtput⟩
      rcases ih fun request hr => hpayable request (List.mem_cons_of_mem _ hr) with ⟨outputs, hrest⟩
      exact ⟨output :: outputs, .cons houtput hrest⟩
  rcases houtputs with ⟨outputs, hpays⟩
  exact ⟨{ destinationChain := dogecoinChainId, delegatedManagerSetIndex := index, outputs },
    payloadForRequests_eq_ok.mpr ⟨hne, hpays, rfl, rfl⟩⟩

/-- What passes the refusals of a new batch. -/
theorem checkNewBatch_eq_ok {history : List IndexedRequest} {cursor requestedTip : UInt64}
    {requestIndex : Option UInt64} {requestSignature : Option (FixedBytes 64)} {u : Unit}
    (h : checkNewBatch history cursor requestedTip requestIndex requestSignature = .ok u) :
    cursor.toNat < (cappedBatchEnd cursor requestedTip).toNat ∧
      UInt64.ofNat history.length = requestedTip := by
  unfold checkNewBatch at h
  rcases guard_bind_eq_ok.mp h with ⟨hrefused, hrest⟩
  rcases guard_bind_eq_ok.mp hrest with ⟨htip, -⟩
  refine ⟨?_, not_not.mp htip⟩
  rw [← UInt64.lt_iff_toNat_lt]
  exact UInt64.not_le.mp hrefused

theorem length_toNat {history : List IndexedRequest} (hfits : history.length < 2 ^ 64) :
    (UInt64.ofNat history.length).toNat = history.length := by
  rw [UInt64.toNat_ofNat', Nat.mod_eq_of_lt hfits]

/-- A planned batch starts at the cursor, stops at the cap or the tip, and pays its requests. -/
theorem planBatch_wellPlanned {history : List IndexedRequest} {cursor requestedTip : UInt64}
    {requestIndex : Option UInt64} {requestSignature : Option (FixedBytes 64)} {index : UInt32}
    {batch : BatchPlan} (hfits : history.length < 2 ^ 64)
    (h : planBatch history cursor requestedTip requestIndex requestSignature index = .ok batch) :
    WellPlanned history batch ∧ batch.requestStart = cursor ∧
      batch.range.2 = min (cursor.toNat + snapshotProofMaxBatch) history.length := by
  unfold planBatch at h
  rcases bind_eq_ok.mp h with ⟨_, hcheck, hrest⟩
  rcases bind_eq_ok.mp hrest with ⟨requests, hrange, hrest⟩
  rcases bind_eq_ok.mp hrest with ⟨payload, hpayload, hrest⟩
  cases hrest
  rcases checkNewBatch_eq_ok hcheck with ⟨hlt, rfl⟩
  rcases historyRange_eq_ok.mp hrange with ⟨-, hcovered, rfl⟩
  have hend := cappedBatchEnd_toNat cursor (UInt64.ofNat history.length)
  rw [length_toNat hfits] at hend
  have hcapped : (cappedBatchEnd cursor (UInt64.ofNat history.length)).toNat ≤
      cursor.toNat + snapshotProofMaxBatch := by
    rw [hend]
    exact Nat.min_le_left _ _
  have hpays := (payloadForRequests_eq_ok.mp hpayload).2.1
  generalize cappedBatchEnd cursor (UInt64.ofNat history.length) = stop at *
  exact ⟨⟨hlt, hcapped, hcovered, hpays⟩, rfl, hend⟩

/-- A new batch is planned whenever the cursor is behind the tip and the requests are payable. -/
theorem planBatch_isOk {history : List IndexedRequest} {cursor : UInt64} (index : UInt32)
    (hfits : history.length < 2 ^ 64) (hbehind : cursor.toNat < history.length)
    (hpayable : ∀ request ∈ history, ∃ output, Pays output request) :
    ∃ batch, planBatch history cursor (UInt64.ofNat history.length) none none index = .ok batch := by
  have hend := cappedBatchEnd_toNat cursor (UInt64.ofNat history.length)
  rw [length_toNat hfits] at hend
  have hlt : cursor.toNat < (cappedBatchEnd cursor (UInt64.ofNat history.length)).toNat := by
    rw [hend]
    unfold snapshotProofMaxBatch
    omega
  have hle : (cappedBatchEnd cursor (UInt64.ofNat history.length)).toNat ≤ history.length := by
    rw [hend]
    exact min_le_right _ _
  have hbefore : ¬ cursor ≥ cappedBatchEnd cursor (UInt64.ofNat history.length) := by
    rw [ge_iff_le, UInt64.not_le, UInt64.lt_iff_toNat_lt]
    exact hlt
  have hcheck : checkNewBatch history cursor (UInt64.ofNat history.length) none none = .ok () := by
    unfold checkNewBatch
    rw [guard_bind_of_neg hbefore, guard_bind_of_neg (not_not.mpr rfl), guard_bind_of_neg (by simp)]
    rfl
  have hne : slice history cursor.toNat
      (cappedBatchEnd cursor (UInt64.ofNat history.length)).toNat ≠ [] := by
    rw [ne_eq, ← List.length_eq_zero_iff, slice, List.length_take, List.length_drop]
    omega
  rcases payloadForRequests_isOk index hne fun request hr =>
    hpayable request (List.mem_of_mem_drop (List.mem_of_mem_take hr)) with ⟨payload, hpayload⟩
  unfold planBatch
  rw [hcheck, ok_bind, historyRange_eq_ok.mpr ⟨hlt.le, hle, rfl⟩, ok_bind, hpayload]
  exact ⟨_, rfl⟩

/-- The operator and the chain's cursor, as far as batching is concerned. -/
structure OperatorState where
  history : List IndexedRequest
  fits : history.length < 2 ^ 64
  cursor : UInt64
  pending : Option BatchPlan
  landed : Bool
  accepted : List BatchPlan

/-- One move of the chain or of the operator. A failed batch has not moved the cursor. -/
inductive Step (managerSetIndex : UInt32) : OperatorState → OperatorState → Prop
  | grow {s : OperatorState} {more : List IndexedRequest}
      (fits : (s.history ++ more).length < 2 ^ 64) :
      Step managerSetIndex s { s with history := s.history ++ more, fits }
  | propose {s : OperatorState} {requestedTip : UInt64} {requestIndex : Option UInt64}
      {requestSignature : Option (FixedBytes 64)} {batch : BatchPlan} (idle : s.pending = none)
      (plan : planBatch s.history s.cursor requestedTip requestIndex requestSignature
        managerSetIndex = .ok batch) :
      Step managerSetIndex s { s with pending := some batch }
  | land {s : OperatorState} {batch : BatchPlan} (pending : s.pending = some batch) :
      Step managerSetIndex s { s with cursor := batch.requestEnd, landed := true }
  | accept {s : OperatorState} {batch : BatchPlan} (pending : s.pending = some batch)
      (check : checkConfirmedCursor s.cursor batch.requestEnd = .ok ()) :
      Step managerSetIndex s
        { s with pending := none, landed := false, accepted := s.accepted ++ [batch] }
  | fail {s : OperatorState} {batch : BatchPlan} (pending : s.pending = some batch)
      (unlanded : s.landed = false) : Step managerSetIndex s { s with pending := none }

/-- A run that starts here has no batch under way and has accepted none. -/
structure OperatorState.Fresh (s : OperatorState) : Prop where
  pending : s.pending = none
  landed : s.landed = false
  accepted : s.accepted = []

/-- The cursor behind the accepted batches: a landed batch that awaits acceptance is not in it. -/
def OperatorState.settledCursor (s : OperatorState) : UInt64 :=
  match s.landed, s.pending with
  | true, some batch => batch.requestStart
  | _, _ => s.cursor

/-- The accepted batches cover the requests from `first` to the settled cursor, in order. -/
structure Partitioned (first : ℕ) (s : OperatorState) : Prop where
  consecutive : Consecutive first (s.accepted.map BatchPlan.range) s.settledCursor.toNat
  accepted : ∀ batch ∈ s.accepted, WellPlanned s.history batch
  pending : ∀ batch ∈ s.pending, WellPlanned s.history batch ∧ batch.requestStart = s.settledCursor
  landed : s.landed = true → ∃ batch ∈ s.pending, s.cursor = batch.requestEnd

variable {managerSetIndex : UInt32} {first : ℕ} {s t : OperatorState} {batch : BatchPlan}

theorem settledCursor_of_idle (h : s.pending = none) : s.settledCursor = s.cursor := by
  unfold OperatorState.settledCursor
  rw [h]
  cases s.landed <;> rfl

theorem settledCursor_of_unlanded (h : s.landed = false) : s.settledCursor = s.cursor := by
  unfold OperatorState.settledCursor
  rw [h]

theorem settledCursor_of_landed (hlanded : s.landed = true) (h : s.pending = some batch) :
    s.settledCursor = batch.requestStart := by
  unfold OperatorState.settledCursor
  rw [hlanded, h]

theorem settledCursor_propose (unlanded : s.landed = false) :
    OperatorState.settledCursor { s with pending := some batch } = s.cursor :=
  settledCursor_of_unlanded unlanded

theorem settledCursor_land (pending : s.pending = some batch) :
    OperatorState.settledCursor { s with cursor := batch.requestEnd, landed := true } =
      batch.requestStart :=
  settledCursor_of_landed rfl pending

theorem WellPlanned.extend {history more : List IndexedRequest} (h : WellPlanned history batch) :
    WellPlanned (history ++ more) batch := by
  refine ⟨h.nonempty, h.capped, h.covered.trans ?_, ?_⟩
  · rw [List.length_append]
    exact Nat.le_add_right _ _
  · rw [slice_extend h.covered]
    exact h.pays

theorem Partitioned.landed_of_idle (h : Partitioned first s) (idle : s.pending = none) :
    s.landed = false := by
  cases hlanded : s.landed with
  | false => rfl
  | true =>
    rcases h.landed hlanded with ⟨batch, hbatch, -⟩
    rw [idle] at hbatch
    cases hbatch

theorem Partitioned.fresh (h : s.Fresh) : Partitioned s.cursor.toNat s where
  consecutive := by
    rw [h.accepted, settledCursor_of_idle h.pending]
    rfl
  accepted := by
    rw [h.accepted]
    simp
  pending := by
    rw [h.pending]
    simp
  landed := by
    rw [h.landed]
    simp

theorem Partitioned.grow {more : List IndexedRequest} (h : Partitioned first s)
    (fits : (s.history ++ more).length < 2 ^ 64) :
    Partitioned first { s with history := s.history ++ more, fits } where
  consecutive := h.consecutive
  accepted := fun batch hbatch => (h.accepted batch hbatch).extend
  pending := fun batch hbatch => ⟨(h.pending batch hbatch).1.extend, (h.pending batch hbatch).2⟩
  landed := h.landed

theorem Partitioned.propose (h : Partitioned first s) (idle : s.pending = none)
    (hplanned : WellPlanned s.history batch) (hstart : batch.requestStart = s.cursor) :
    Partitioned first { s with pending := some batch } := by
  have hunlanded := h.landed_of_idle idle
  have hsettled : OperatorState.settledCursor { s with pending := some batch } = s.cursor :=
    settledCursor_propose hunlanded
  constructor
  · rw [hsettled, ← settledCursor_of_idle idle]
    exact h.consecutive
  · exact h.accepted
  · intro other hother
    cases hother
    rw [hsettled]
    exact ⟨hplanned, hstart⟩
  · intro hlanded
    rw [hunlanded] at hlanded
    cases hlanded

theorem Partitioned.land (h : Partitioned first s) (pending : s.pending = some batch) :
    Partitioned first { s with cursor := batch.requestEnd, landed := true } := by
  have hstart := (h.pending batch pending).2
  constructor
  · rw [settledCursor_land pending, hstart]
    exact h.consecutive
  · exact h.accepted
  · rw [settledCursor_land pending, hstart]
    exact h.pending
  · intro _
    exact ⟨batch, pending, rfl⟩

/-- Only a landed batch passes the cursor check, so acceptance closes the gap it left. -/
theorem Partitioned.accept (h : Partitioned first s) (pending : s.pending = some batch)
    (check : checkConfirmedCursor s.cursor batch.requestEnd = .ok ()) :
    Partitioned first
      { s with pending := none, landed := false, accepted := s.accepted ++ [batch] } := by
  have hcursor : s.cursor = batch.requestEnd := not_not.mp (guard_eq_ok.mp check)
  have hplanned := (h.pending batch pending).1
  have hsettled : OperatorState.settledCursor
      { s with pending := none, landed := false, accepted := s.accepted ++ [batch] } = s.cursor :=
    settledCursor_of_idle rfl
  constructor
  · rw [hsettled, List.map_append, hcursor]
    have hbefore := h.consecutive
    rw [← (h.pending batch pending).2] at hbefore
    have hextended : Consecutive first (s.accepted.map BatchPlan.range ++ [batch.range])
        batch.range.2 := Consecutive.snoc hbefore hplanned.nonempty
    exact hextended
  · intro other hother
    rcases List.mem_append.mp hother with hother | hother
    · exact h.accepted other hother
    · rw [List.mem_singleton.mp hother]
      exact hplanned
  · simp
  · simp

theorem Partitioned.fail (h : Partitioned first s) (unlanded : s.landed = false) :
    Partitioned first { s with pending := none } := by
  constructor
  · rw [settledCursor_of_idle rfl, ← settledCursor_of_unlanded unlanded]
    exact h.consecutive
  · exact h.accepted
  · simp
  · intro hlanded
    rw [unlanded] at hlanded
    cases hlanded

/-- Every step keeps the accepted batches a partition. -/
theorem Partitioned.step (h : Partitioned first s) (hstep : Step managerSetIndex s t) :
    Partitioned first t := by
  cases hstep with
  | grow fits => exact h.grow fits
  | propose idle plan =>
    have hplanned := planBatch_wellPlanned s.fits plan
    exact h.propose idle hplanned.1 hplanned.2.1
  | land pending => exact h.land pending
  | accept pending check => exact h.accept pending check
  | fail pending unlanded => exact h.fail unlanded

theorem Partitioned.run (h : Partitioned first s)
    (hrun : ReflTransGen (Step managerSetIndex) s t) : Partitioned first t := by
  induction hrun with
  | refl => exact h
  | tail _ hstep ih => exact ih.step hstep

/-- The payloads of the accepted batches pay the requests up to the settled cursor, in order. -/
theorem Partitioned.pays (h : Partitioned first s) :
    List.Forall₂ Pays (s.accepted.flatMap fun batch => batch.payload.outputs)
      (slice s.history first s.settledCursor.toNat) := by
  have hslices : ((s.accepted.map BatchPlan.range).flatMap fun range =>
      slice s.history range.1 range.2) = slice s.history first s.settledCursor.toNat :=
    h.consecutive.flatMap_slice
  rw [List.flatMap_map] at hslices
  rw [← hslices]
  have hpays : ∀ batch ∈ s.accepted, List.Forall₂ Pays batch.payload.outputs
      (slice s.history batch.range.1 batch.range.2) := fun batch hbatch =>
    (h.accepted batch hbatch).pays
  generalize s.accepted = accepted at hpays
  induction accepted with
  | nil => exact .nil
  | cons batch rest ih =>
    rw [List.flatMap_cons, List.flatMap_cons]
    exact List.rel_append (hpays batch List.mem_cons_self)
      (ih fun other hother => hpays other (List.mem_cons_of_mem _ hother))

/-- A step without new requests. -/
def QuietStep (managerSetIndex : UInt32) (s t : OperatorState) : Prop :=
  Step managerSetIndex s t ∧ t.history = s.history

/-- The cursor after `accepted` full batches from `start`, held back by the tip. -/
def cursorAfter (start tip accepted : ℕ) : ℕ :=
  max start (min tip (start + snapshotProofMaxBatch * accepted))

/-- Since the idle state `s` no request was added, and every batch was planned up to the cap. -/
structure Advanced (s t : OperatorState) : Prop where
  history : t.history = s.history
  pending : ∀ batch ∈ t.pending,
    batch.range.2 = min (t.settledCursor.toNat + snapshotProofMaxBatch) t.history.length
  settled : ∃ accepted, t.accepted.length = s.accepted.length + accepted ∧
    t.settledCursor.toNat = cursorAfter s.cursor.toNat s.history.length accepted

theorem Advanced.refl (idle : s.pending = none) : Advanced s s := by
  refine ⟨rfl, ?_, 0, rfl, ?_⟩
  · rw [idle]
    simp
  · rw [settledCursor_of_idle idle, cursorAfter]
    omega

/-- One more accepted batch advances the cursor by the cap, or to the tip. -/
theorem cursorAfter_succ {start tip accepted next : ℕ}
    (hnext : next = min (cursorAfter start tip accepted + snapshotProofMaxBatch) tip)
    (hlt : cursorAfter start tip accepted < next) : next = cursorAfter start tip (accepted + 1) := by
  unfold cursorAfter at *
  rw [Nat.mul_add, Nat.mul_one]
  omega

theorem Advanced.step {u : OperatorState} (h : Advanced s t) (hpart : Partitioned first t)
    (hstep : QuietStep managerSetIndex t u) : Advanced s u := by
  rcases hstep with ⟨hstep, hquiet⟩
  rcases h.settled with ⟨accepted, hlength, hsettled⟩
  have hhistory := hquiet.trans h.history
  cases hstep with
  | grow fits =>
    refine ⟨hhistory, fun batch hbatch => ?_, accepted, hlength, hsettled⟩
    rw [hquiet]
    exact h.pending batch hbatch
  | propose idle plan =>
    have hplanned := planBatch_wellPlanned t.fits plan
    have hunlanded := hpart.landed_of_idle idle
    refine ⟨hhistory, fun other hother => ?_, accepted, hlength, ?_⟩
    · cases hother
      rw [settledCursor_propose hunlanded]
      exact hplanned.2.2
    · rw [settledCursor_propose hunlanded, ← hsettled, settledCursor_of_idle idle]
  | @land batch pending =>
    have hstart := (hpart.pending batch pending).2
    refine ⟨hhistory, fun other hother => ?_, accepted, hlength, ?_⟩
    · rw [settledCursor_land pending, hstart]
      exact h.pending other hother
    · rw [settledCursor_land pending, hstart]
      exact hsettled
  | @accept batch pending check =>
    have hcursor : t.cursor = batch.requestEnd := not_not.mp (guard_eq_ok.mp check)
    have hplanned := hpart.pending batch pending
    have hlt : t.settledCursor.toNat < batch.range.2 := by
      rw [← hplanned.2]
      exact hplanned.1.nonempty
    refine ⟨hhistory, by simp, accepted + 1, ?_, ?_⟩
    · rw [List.length_append, hlength]
      rfl
    · rw [settledCursor_of_idle rfl, hcursor]
      rw [hsettled] at hlt
      refine cursorAfter_succ ?_ hlt
      rw [← hsettled, ← h.history]
      exact h.pending batch pending
  | fail pending unlanded =>
    refine ⟨hhistory, by simp, accepted, hlength, ?_⟩
    rw [settledCursor_of_idle rfl, ← hsettled, settledCursor_of_unlanded unlanded]

theorem Advanced.run (hpart : Partitioned first s) (idle : s.pending = none)
    (hrun : ReflTransGen (QuietStep managerSetIndex) s t) :
    Advanced s t ∧ Partitioned first t := by
  induction hrun with
  | refl => exact ⟨Advanced.refl idle, hpart⟩
  | tail _ hstep ih => exact ⟨ih.1.step ih.2 hstep, ih.2.step hstep.1⟩

/-- One batch that goes through: proposed, landed and accepted. -/
theorem exists_accepted (idle : s.pending = none) (hbehind : s.cursor.toNat < s.history.length)
    (hpayable : ∀ request ∈ s.history, ∃ output, Pays output request) :
    ∃ t, ReflTransGen (QuietStep managerSetIndex) s t ∧ t.pending = none ∧
      t.history = s.history ∧ s.cursor.toNat < t.cursor.toNat ∧
      t.cursor.toNat ≤ t.history.length := by
  rcases planBatch_isOk managerSetIndex s.fits hbehind hpayable with ⟨batch, hplan⟩
  have hplanned := planBatch_wellPlanned s.fits hplan
  have hcheck : checkConfirmedCursor batch.requestEnd batch.requestEnd = .ok () :=
    guard_eq_ok.mpr (not_not.mpr rfl)
  have hpropose : QuietStep managerSetIndex s { s with pending := some batch } :=
    ⟨.propose idle hplan, rfl⟩
  have hland : QuietStep managerSetIndex { s with pending := some batch }
      { s with pending := some batch, cursor := batch.requestEnd, landed := true } :=
    ⟨.land rfl, rfl⟩
  have haccept : QuietStep managerSetIndex
      { s with pending := some batch, cursor := batch.requestEnd, landed := true }
      { s with pending := none, cursor := batch.requestEnd, landed := false,
               accepted := s.accepted ++ [batch] } := ⟨.accept rfl hcheck, rfl⟩
  refine ⟨_, ((ReflTransGen.single hpropose).tail hland).tail haccept, rfl, rfl, ?_,
    hplanned.1.covered⟩
  have hlt := hplanned.1.nonempty
  unfold BatchPlan.range at hlt
  rw [hplanned.2.1] at hlt
  exact hlt

/-- From any idle state the batches can be carried through to the tip. -/
theorem exists_drained (idle : s.pending = none) (hcursor : s.cursor.toNat ≤ s.history.length)
    (hpayable : ∀ request ∈ s.history, ∃ output, Pays output request) :
    ∃ t, ReflTransGen (QuietStep managerSetIndex) s t ∧ t.pending = none ∧
      t.cursor.toNat = s.history.length := by
  induction hgap : s.history.length - s.cursor.toNat using Nat.strong_induction_on
    generalizing s with
  | _ gap ih =>
    rcases Nat.lt_or_ge s.cursor.toNat s.history.length with hbehind | hreached
    · rcases exists_accepted idle hbehind hpayable with ⟨t, hrun, htidle, hhistory, hlt, hle⟩
      have hsmaller : t.history.length - t.cursor.toNat < gap := by
        rw [hhistory] at hle ⊢
        omega
      rw [← hhistory] at hpayable
      rcases ih _ hsmaller htidle hle hpayable rfl with ⟨u, hrest, huidle, hdrained⟩
      exact ⟨u, hrun.trans hrest, huidle, by rw [hdrained, hhistory]⟩
    · exact ⟨s, .refl, idle, le_antisymm hcursor hreached⟩

/-- The accepted batches partition the requests from the first cursor to the settled one: the
cursor itself, unless a landed batch awaits acceptance. Without new requests each accepted batch
brings the cursor closer to the tip, which is reached. -/
theorem batches_partition {s₀ s : OperatorState} (hfresh : s₀.Fresh)
    (hrun : ReflTransGen (Step managerSetIndex) s₀ s) :
    Consecutive s₀.cursor.toNat (s.accepted.map BatchPlan.range) s.settledCursor.toNat ∧
      (∀ batch ∈ s.accepted, batch.range.1 < batch.range.2 ∧
        batch.range.2 ≤ batch.range.1 + snapshotProofMaxBatch) ∧
      (s.accepted.map BatchPlan.range).Pairwise (fun r r' => r.2 ≤ r'.1) ∧
      List.Forall₂ Pays (s.accepted.flatMap fun batch => batch.payload.outputs)
        (slice s.history s₀.cursor.toNat s.settledCursor.toNat) ∧
      (s.landed = false → s.settledCursor = s.cursor) ∧
      (s.pending = none →
        (∀ t, ReflTransGen (QuietStep managerSetIndex) s t → t.pending = none →
          t.cursor.toNat = cursorAfter s.cursor.toNat s.history.length
            (t.accepted.length - s.accepted.length)) ∧
        (s.cursor.toNat ≤ s.history.length →
          (∀ request ∈ s.history, ∃ output, Pays output request) →
          ∃ t, ReflTransGen (QuietStep managerSetIndex) s t ∧ t.pending = none ∧
            t.cursor.toNat = s.history.length)) := by
  have hpart := (Partitioned.fresh hfresh).run hrun
  refine ⟨hpart.consecutive, fun batch hbatch => ?_, hpart.consecutive.disjoint, hpart.pays,
    settledCursor_of_unlanded, fun idle => ⟨fun t hquiet htidle => ?_, exists_drained idle⟩⟩
  · exact ⟨(hpart.accepted batch hbatch).nonempty, (hpart.accepted batch hbatch).capped⟩
  · rcases (Advanced.run hpart idle hquiet).1.settled with ⟨accepted, hlength, hsettled⟩
    rw [settledCursor_of_idle htidle] at hsettled
    rw [hsettled, hlength, Nat.add_sub_cancel_left]

def localRequest (index : ℕ) : IndexedRequest :=
  { index := UInt64.ofNat index,
    record :=
      { signature := .replicate 64 7, slot := 1, blockTime := none, userPubkey := .replicate 32 3,
        amountSats := 100, netAmountSats := 90 + UInt64.ofNat index, addressType := 1,
        recipientAddress := .replicate 20 8 } }

/-- The batch of the requests from `start` up to `stop`. -/
def localBatch (start stop : ℕ) : BatchPlan :=
  let requests := (List.range' start (stop - start)).map localRequest
  { requestStart := UInt64.ofNat start, requestEnd := UInt64.ofNat stop, requests,
    payload :=
      { destinationChain := dogecoinChainId, delegatedManagerSetIndex := 0,
        outputs := requests.map fun request =>
          { amount := request.record.netAmountSats, addressType := .p2sh,
            address := .replicate 20 8 } } }

/-- After the first `count` requests, with nothing proposed. -/
def localIdle (count : Fin 4) (cursor : UInt64) (accepted : List BatchPlan) : OperatorState :=
  { history := (List.range count).map localRequest,
    fits := by
      rw [List.length_map, List.length_range]
      omega,
    cursor, pending := none, landed := false, accepted }

/-- A batch is proposed, lands, and is accepted. -/
theorem local_accepts (count : Fin 4) (accepted : List BatchPlan) {cursor tip : UInt64}
    {batch : BatchPlan}
    (plan : planBatch ((List.range count).map localRequest) cursor tip none none 0 = .ok batch) :
    ReflTransGen (Step 0) (localIdle count cursor accepted)
      (localIdle count batch.requestEnd (accepted ++ [batch])) := by
  have hpropose : Step 0 (localIdle count cursor accepted)
      { localIdle count cursor accepted with pending := some batch } := .propose rfl plan
  have hland : Step 0 { localIdle count cursor accepted with pending := some batch }
      { localIdle count cursor accepted with
        pending := some batch, cursor := batch.requestEnd, landed := true } := .land rfl
  have haccept : Step 0
      { localIdle count cursor accepted with
        pending := some batch, cursor := batch.requestEnd, landed := true }
      (localIdle count batch.requestEnd (accepted ++ [batch])) :=
    .accept rfl (guard_eq_ok.mpr (not_not.mpr rfl))
  exact ((ReflTransGen.single hpropose).tail hland).tail haccept

/-- A batch is proposed and fails. -/
theorem local_fails (count : Fin 4) (accepted : List BatchPlan) {cursor tip : UInt64}
    {batch : BatchPlan}
    (plan : planBatch ((List.range count).map localRequest) cursor tip none none 0 = .ok batch) :
    ReflTransGen (Step 0) (localIdle count cursor accepted) (localIdle count cursor accepted) := by
  have hpropose : Step 0 (localIdle count cursor accepted)
      { localIdle count cursor accepted with pending := some batch } := .propose rfl plan
  exact (ReflTransGen.single hpropose).tail (.fail rfl rfl)

/-- One request is paid. The batch of the second one fails, and it is paid with the third one. -/
theorem localRun : ReflTransGen (Step 0) (localIdle 0 0 [])
    (localIdle 3 3 [localBatch 0 1, localBatch 1 3]) := by
  have hfirst : Step 0 (localIdle 0 0 []) (localIdle 1 0 []) :=
    @Step.grow 0 _ [localRequest 0] (by decide)
  have hsecond : Step 0 (localIdle 1 1 [localBatch 0 1]) (localIdle 2 1 [localBatch 0 1]) :=
    @Step.grow 0 _ [localRequest 1] (by decide)
  have hthird : Step 0 (localIdle 2 1 [localBatch 0 1]) (localIdle 3 1 [localBatch 0 1]) :=
    @Step.grow 0 _ [localRequest 2] (by decide)
  have hpaid := local_accepts 1 []
    (show planBatch _ 0 1 none none 0 = .ok (localBatch 0 1) from rfl)
  have hfailed := local_fails 2 [localBatch 0 1]
    (show planBatch _ 1 2 none none 0 = .ok (localBatch 1 2) from rfl)
  have hlast := local_accepts 3 [localBatch 0 1]
    (show planBatch _ 1 3 none none 0 = .ok (localBatch 1 3) from rfl)
  exact (((((ReflTransGen.single hfirst).trans hpaid).tail hsecond).trans hfailed).tail hthird).trans
    hlast

theorem batches_partition_local :
    Consecutive 0 [(0, 1), (1, 3)] 3 ∧
      List.Forall₂ Pays ((localBatch 0 1).payload.outputs ++ (localBatch 1 3).payload.outputs)
        ([0, 1, 2].map localRequest) := by
  have hfresh : (localIdle 0 0 []).Fresh := ⟨rfl, rfl, rfl⟩
  rcases batches_partition hfresh localRun with ⟨hconsecutive, -, -, hpays, -⟩
  exact ⟨hconsecutive, hpays⟩

end DogeOperator.Batches
