import DogeOperator.Withdraw
import DogeOperator.WriteOnce

/-! Reconstructed requests in the store. The request rows are a table in which a request is written
once, up to its status: recording agrees with what is stored or stops, and a status change leaves
the rest of the row alone. -/
namespace DogeOperator.RecordRequests
open Bytes Outcome Batches Records Store Operations Solana Withdraw Program WriteOnce

/-- What a request was when it was made: all of its row but the status. -/
structure RequestHistory where
  requestIndex : UInt64
  solanaSignature : String
  solanaSlot : UInt64
  blockTime : Option Int64
  userPubkey : String
  grossAmountSats : UInt64
  feeAmountSats : UInt64
  netAmountSats : UInt64
  addressType : UInt32
  recipient : FixedBytes 20
  deriving DecidableEq

def rowHistory (row : WithdrawalRequest) : RequestHistory where
  requestIndex := row.requestIndex
  solanaSignature := row.solanaSignature
  solanaSlot := row.solanaSlot
  blockTime := row.blockTime
  userPubkey := row.userPubkey
  grossAmountSats := row.grossAmountSats
  feeAmountSats := row.feeAmountSats
  netAmountSats := row.netAmountSats
  addressType := row.addressType
  recipient := row.recipient

/-- The row of a history. -/
def rowOf (history : RequestHistory) (status : OperatorStatus) : WithdrawalRequest where
  requestIndex := history.requestIndex
  solanaSignature := history.solanaSignature
  solanaSlot := history.solanaSlot
  blockTime := history.blockTime
  userPubkey := history.userPubkey
  grossAmountSats := history.grossAmountSats
  feeAmountSats := history.feeAmountSats
  netAmountSats := history.netAmountSats
  addressType := history.addressType
  recipient := history.recipient
  status := status

/-- The request store as a map. -/
def requestMap : Handler Op.Answer ErrorChain StoreView
  | .store (.withdrawalRequestByIndex index), v => (.ok (v.request index), v)
  | .store (.upsertWithdrawalRequest row), v =>
    (.ok (), { v with request := Function.update v.request row.requestIndex (some row) })
  | .store (.setWithdrawalRequestStatus index status), v => (.ok (), v.setRequestStatus index status)
  | _, v => (bail "not served", v)

/-- What the map does is what the store promises. -/
theorem requestMap_effect {op : StoreOp} {v : StoreView} {answer : op.Answer}
    (h : (requestMap (.store op) v).1 = .ok answer) :
    Effect v op answer (requestMap (.store op) v).2 := by
  cases op with
  | withdrawalRequestByIndex => exact ⟨rfl, (Except.ok.inj h).symm⟩
  | upsertWithdrawalRequest => exact rfl
  | setWithdrawalRequestStatus => exact rfl
  | _ => exact nomatch h

section
variable [SolanaSdk]

/-- The history a reconstructed request stands for. -/
def requestHistory (request : IndexedRequest) : RequestHistory where
  requestIndex := request.index
  solanaSignature := SolanaSdk.signatureToString request.record.signature
  solanaSlot := request.record.slot
  blockTime := request.record.blockTime
  userPubkey := SolanaSdk.pubkeyToString request.record.userPubkey
  grossAmountSats := request.record.amountSats
  feeAmountSats := request.record.amountSats - request.record.netAmountSats
  netAmountSats := request.record.netAmountSats
  addressType := request.record.addressType
  recipient := request.record.recipientAddress

/-- The table entry of a request; there is none when its net amount exceeds the gross amount. -/
def entry (request : IndexedRequest) : UInt64 × Option WithdrawalRequest :=
  (request.index, (observedRequest request).toOption)

/-- A call on the store. -/
inductive Call
  | recordRequests (requests : List IndexedRequest)
  | setWithdrawalRequestStatus (index : UInt64) (status : OperatorStatus)

def Call.perform (v : StoreView) : Call → Result Unit × StoreView
  | recordRequests requests => (Withdraw.recordRequests requests).runWith requestMap v
  | setWithdrawalRequestStatus index status =>
    (store (.setWithdrawalRequestStatus index status)).runWith requestMap v

/-- Calls in any order, whether they succeed or not. -/
def runCalls (calls : List Call) (v : StoreView) : StoreView :=
  calls.foldl (fun v call => (call.perform v).2) v

/-! One request. -/

theorem observedRequest_ok {request : IndexedRequest}
    (h : request.record.netAmountSats ≤ request.record.amountSats) :
    observedRequest request = .ok (rowOf (requestHistory request) .observed) := by
  have hfee : checkedSub request.record.amountSats request.record.netAmountSats =
      some (request.record.amountSats - request.record.netAmountSats) := by
    rw [checkedSub, if_pos (UInt64.le_iff_toNat_le.mp h)]
  rw [observedRequest, hfee]
  rfl

theorem observedRequest_error {request : IndexedRequest}
    (h : ¬ request.record.netAmountSats ≤ request.record.amountSats) :
    observedRequest request = bail "request net amount exceeds gross amount" := by
  have hfee : checkedSub request.record.amountSats request.record.netAmountSats = none := by
    rw [checkedSub, if_neg (mt UInt64.le_iff_toNat_le.mpr h)]
  rw [observedRequest, hfee]
  rfl

theorem entry_eq_some {request : IndexedRequest} {row : WithdrawalRequest} :
    (entry request).2 = some row ↔ request.record.netAmountSats ≤ request.record.amountSats ∧
      row = rowOf (requestHistory request) .observed := by
  by_cases hnet : request.record.netAmountSats ≤ request.record.amountSats
  · rw [entry, observedRequest_ok hnet, and_iff_right hnet]
    exact Option.some_inj.trans eq_comm
  · rw [entry, observedRequest_error hnet]
    exact iff_of_false (fun h => nomatch h) fun h => hnet h.1

/-- Recording a request puts its entry into the table. -/
theorem recordRequest_put (request : IndexedRequest) (v : StoreView) :
    isOk ((recordRequest request).runWith requestMap v).1 =
        (put rowHistory v.request (entry request).1 (entry request).2).1 ∧
      ((recordRequest request).runWith requestMap v).2 =
        { v with request := (put rowHistory v.request (entry request).1 (entry request).2).2 } := by
  by_cases hnet : request.record.netAmountSats ≤ request.record.amountSats
  · have hentry : entry request =
        (request.index, some (rowOf (requestHistory request) .observed)) := by
      rw [entry, observedRequest_ok hnet]
      rfl
    rw [hentry]
    simp only [recordRequest, observedRequest_ok hnet, bind_eq, liftM_eq, done_ok_bind, store, invoke,
      Program.bind, runWith_call, requestMap, put]
    cases hstored : v.request request.index with
    | none => exact ⟨rfl, rfl⟩
    | some existing =>
      dsimp only
      by_cases hkept : rowHistory existing = requestHistory request
      · have hsame : existing = rowOf (requestHistory request) existing.status := by
          rw [← hkept]
          rfl
        have hcompared : ¬ ({ existing with status := .observed } ≠
            rowOf (requestHistory request) .observed) := by
          rw [hsame]
          exact fun h => h rfl
        -- the row is written back as it is
        have hback : Function.update v.request request.index
            (some (rowOf (requestHistory request) existing.status)) = v.request := by
          rw [← hsame, ← hstored, Function.update_eq_self]
        rw [bailIf_of_not hcompared, done_ok_bind, runWith_call, runWith_done]
        refine ⟨(decide_eq_true hkept).symm, ?_⟩
        exact congrArg (fun rows => { v with request := rows }) hback
      · have hcompared : { existing with status := .observed } ≠
            rowOf (requestHistory request) .observed := by
          intro h
          exact hkept (congrArg rowHistory h)
        rw [bailIf, if_pos hcompared]
        exact ⟨(decide_eq_false hkept).symm, rfl⟩
  · have hentry : entry request = (request.index, none) := by
      rw [entry, observedRequest_error hnet]
      rfl
    rw [hentry, recordRequest, observedRequest_error hnet]
    exact ⟨rfl, rfl⟩

/-! A list of requests. -/

/-- Recording requests puts their entries into the table, one after the other. -/
theorem recordRequests_putAll (requests : List IndexedRequest) (v : StoreView) :
    isOk ((recordRequests requests).runWith requestMap v).1 =
        (putAll rowHistory v.request (requests.map entry)).1 ∧
      ((recordRequests requests).runWith requestMap v).2 =
        { v with request := (putAll rowHistory v.request (requests.map entry)).2 } := by
  induction requests generalizing v with
  | nil => exact ⟨rfl, rfl⟩
  | cons request rest ih =>
    obtain ⟨hok, hview⟩ := recordRequest_put request v
    rw [List.map_cons, ← Prod.eta (entry request), putAll, recordRequests, forEach, runWith_bind]
    rcases hresult : (recordRequest request).runWith requestMap v with ⟨result, v'⟩
    rcases hput : put rowHistory v.request (entry request).1 (entry request).2 with ⟨accepted, next⟩
    rw [hresult, hput] at hok hview
    have hview' : v' = { v with request := next } := hview
    subst hview'
    cases result with
    | error e =>
      have haccepted : accepted = false := hok.symm
      subst haccepted
      exact ⟨rfl, rfl⟩
    | ok u =>
      have haccepted : accepted = true := hok.symm
      subst haccepted
      exact ih { v with request := next }

/-- What a list must satisfy to be recorded. -/
structure Recordable (v : StoreView) (requests : List IndexedRequest) : Prop where
  net_le_gross : ∀ request ∈ requests, request.record.netAmountSats ≤ request.record.amountSats
  stored_agrees : ∀ request ∈ requests, ∀ row, v.request request.index = some row →
    rowHistory row = requestHistory request
  listed_agree : requests.Pairwise fun earlier later => earlier.index = later.index →
    requestHistory earlier = requestHistory later

theorem accepted_iff (v : StoreView) (requests : List IndexedRequest) :
    Accepted rowHistory v.request (requests.map entry) ↔ ∀ request ∈ requests,
      request.record.netAmountSats ≤ request.record.amountSats ∧
        ∀ row, v.request request.index = some row → rowHistory row = requestHistory request := by
  rw [Accepted, List.forall_mem_map]
  refine forall₂_congr fun request _ => ?_
  constructor
  · rintro ⟨row, hrow, hagree⟩
    obtain ⟨hnet, rfl⟩ := entry_eq_some.mp hrow
    exact ⟨hnet, hagree⟩
  · rintro ⟨hnet, hagree⟩
    exact ⟨_, entry_eq_some.mpr ⟨hnet, rfl⟩, hagree⟩

theorem recordable_iff (v : StoreView) (requests : List IndexedRequest) :
    Recordable v requests ↔ Accepted rowHistory v.request (requests.map entry) ∧
      Consistent rowHistory (requests.map entry) := by
  have hconsistent : (∀ request ∈ requests,
      request.record.netAmountSats ≤ request.record.amountSats) →
      (Consistent rowHistory (requests.map entry) ↔
        requests.Pairwise fun earlier later => earlier.index = later.index →
          requestHistory earlier = requestHistory later) := by
    intro hnet
    have hhistory : ∀ request ∈ requests,
        (entry request).2.map rowHistory = some (requestHistory request) := by
      intro request hmem
      rw [entry_eq_some.mpr ⟨hnet request hmem, rfl⟩]
      rfl
    rw [Consistent, List.pairwise_map]
    refine List.Pairwise.iff_of_mem fun {earlier later} hearlier hlater => ?_
    rw [hhistory earlier hearlier, hhistory later hlater, Option.some_inj]
    exact Iff.rfl
  rw [accepted_iff]
  constructor
  · rintro ⟨hnet, hstored, hlisted⟩
    exact ⟨fun request hmem => ⟨hnet request hmem, hstored request hmem⟩,
      (hconsistent hnet).mpr hlisted⟩
  · rintro ⟨haccepted, hlisted⟩
    have hnet := fun request hmem => (haccepted request hmem).1
    exact ⟨hnet, fun request hmem => (haccepted request hmem).2, (hconsistent hnet).mp hlisted⟩

/-! Calls in any order. -/

theorem perform_retains (v : StoreView) (call : Call) :
    Retains rowHistory v.request (call.perform v).2.request := by
  cases call with
  | recordRequests requests =>
    have hview := (recordRequests_putAll requests v).2
    rw [Call.perform, hview]
    exact putAll_grows.retains
  | setWithdrawalRequestStatus index status => exact modify_retains fun _ => rfl

theorem runCalls_retains (calls : List Call) (v : StoreView) :
    Retains rowHistory v.request (runCalls calls v).request := by
  induction calls generalizing v with
  | nil => exact retains_refl
  | cons call rest ih => exact (perform_retains v call).trans (ih (call.perform v).2)

/-- What recording requests does, and does not do, in a store. -/
structure RecordsForward (v : StoreView) (requests : List IndexedRequest) : Prop where
  /-- Stored rows stay as they are, status included, whether the call succeeds or not. -/
  rows_stay : ∀ index row, v.request index = some row →
    ((recordRequests requests).runWith requestMap v).2.request index = some row
  /-- A new row is one of the requests, Observed. -/
  new_observed : ∀ index row, v.request index = none →
    ((recordRequests requests).runWith requestMap v).2.request index = some row →
    ∃ request ∈ requests, request.index = index ∧ row = rowOf (requestHistory request) .observed
  /-- After a call that succeeds every request is stored; one that was not is Observed. -/
  stores : isOk ((recordRequests requests).runWith requestMap v).1 = true → ∀ request ∈ requests,
    ∃ row, ((recordRequests requests).runWith requestMap v).2.request request.index = some row ∧
      rowHistory row = requestHistory request ∧ (v.request request.index = none →
        row = rowOf (requestHistory request) .observed)
  ok_iff : isOk ((recordRequests requests).runWith requestMap v).1 = true ↔ Recordable v requests
  /-- Also after any calls in between. -/
  again : isOk ((recordRequests requests).runWith requestMap v).1 = true → ∀ calls,
    let later := runCalls calls ((recordRequests requests).runWith requestMap v).2
    isOk ((recordRequests requests).runWith requestMap later).1 = true ∧
      ((recordRequests requests).runWith requestMap later).2 = later

theorem recordRequests_forward (v : StoreView) (requests : List IndexedRequest) :
    RecordsForward v requests := by
  obtain ⟨hok, hview⟩ := recordRequests_putAll requests v
  have hgrows : Grows (requests.map entry) v.request
      ((recordRequests requests).runWith requestMap v).2.request := by
    rw [hview]
    exact putAll_grows
  have hnew : ∀ index row, v.request index = none →
      ((recordRequests requests).runWith requestMap v).2.request index = some row →
      ∃ request ∈ requests, request.index = index ∧
        row = rowOf (requestHistory request) .observed := by
    intro index row hfree hstored
    obtain ⟨request, hmem, hrequest⟩ := List.mem_map.mp (hgrows.joins index row hfree hstored)
    have hrow : (entry request).2 = some row := congrArg Prod.snd hrequest
    exact ⟨request, hmem, congrArg Prod.fst hrequest, (entry_eq_some.mp hrow).2⟩
  refine ⟨hgrows.stays, hnew, ?_, ?_, ?_⟩
  · intro haccepted request hmem
    rw [hok] at haccepted
    obtain ⟨value, row, hvalue, hrow, hkept⟩ :=
      putAll_settled haccepted (entry request) (List.mem_map_of_mem hmem)
    have hhistory : rowHistory row = requestHistory request := by
      rw [hkept, (entry_eq_some.mp hvalue).2]
      rfl
    have hstored : ((recordRequests requests).runWith requestMap v).2.request request.index =
        some row := by
      rw [hview]
      exact hrow
    refine ⟨row, hstored, hhistory, fun hfree => ?_⟩
    obtain ⟨other, -, -, hobserved⟩ := hnew request.index row hfree hstored
    have hsame : requestHistory other = requestHistory request := by
      rw [← hhistory, hobserved]
      rfl
    rw [hobserved, hsame]
  · rw [hok, putAll_accepts_iff, recordable_iff]
  · intro haccepted calls later
    have hsettled : Settled rowHistory later.request (requests.map entry) := by
      rw [hok] at haccepted
      have hstored := putAll_settled haccepted
      have hlater := runCalls_retains calls ((recordRequests requests).runWith requestMap v).2
      rw [hview] at hlater
      have hretained := hstored.retains hlater
      rwa [← hview] at hretained
    obtain ⟨hok', hview'⟩ := recordRequests_putAll requests later
    rw [hok', hview', putAll_of_settled hsettled]
    exact ⟨rfl, rfl⟩

/-- In every run a stored request keeps its history, and recording only adds to it. -/
theorem recording_preserves_history (v : StoreView) (before : List Call) :
    (∀ after index row, (runCalls before v).request index = some row →
      ∃ row', (runCalls after (runCalls before v)).request index = some row' ∧
        rowHistory row' = rowHistory row) ∧
      ∀ requests, RecordsForward (runCalls before v) requests :=
  ⟨fun after index row hrow => runCalls_retains after _ index row hrow,
    fun requests => recordRequests_forward _ requests⟩

end

section
open Digests Localnet

def localRequest (index : UInt64) : IndexedRequest where
  index := index
  record :=
    { signature := localSignature, slot := 1, blockTime := none, userPubkey := localOperator.pubkey,
      amountSats := 100, netAmountSats := 90, addressType := 1,
      recipientAddress := .replicate 20 8 }

def emptyView : StoreView where
  batch _ := none
  reservation _ := none
  request _ := none
  process _ := none
  transaction _ := none
  mappings _ := []

/-- The first request is recorded and confirmed. -/
def confirmedCalls : List Call :=
  [.recordRequests [localRequest 0], .setWithdrawalRequestStatus 0 .confirmed]

/-- Recorded together, the first request stays confirmed and the second one is stored Observed. -/
theorem recording_preserves_history_local :
    let recorded := (recordRequests [localRequest 0, localRequest 1]).runWith requestMap
      (runCalls confirmedCalls emptyView)
    isOk recorded.1 = true ∧
      recorded.2.request 0 = some (rowOf (requestHistory (localRequest 0)) .confirmed) ∧
      recorded.2.request 1 = some (rowOf (requestHistory (localRequest 1)) .observed) := by
  have hforward := (recording_preserves_history emptyView confirmedCalls).2
    [localRequest 0, localRequest 1]
  have hfirst : (runCalls confirmedCalls emptyView).request 0 =
      some (rowOf (requestHistory (localRequest 0)) .confirmed) := rfl
  have hfree : (runCalls confirmedCalls emptyView).request 1 = none := rfl
  have haccepted := hforward.ok_iff.mpr
    { net_le_gross := by decide
      stored_agrees := by
        simp only [List.forall_mem_cons]
        refine ⟨fun row hrow => ?_, fun row hrow => ?_, by simp⟩
        · cases hfirst.symm.trans hrow
          rfl
        · cases hfree.symm.trans hrow
      listed_agree := List.pairwise_pair.mpr fun h => absurd h (by decide) }
  rcases hforward.stores haccepted (localRequest 1) (by simp) with ⟨row, hrow, -, hobserved⟩
  refine ⟨haccepted, hforward.rows_stay _ _ hfirst, ?_⟩
  rw [← hobserved hfree]
  exact hrow

end

end DogeOperator.RecordRequests
