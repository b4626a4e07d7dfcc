import DogeOperator.Prepare

/-! Batching of withdrawal requests: the range of the next snapshot, the requests in it, and the
payload that pays them. -/
namespace DogeOperator.Batches
open Bytes Outcome Utx0 Network Prepare

structure WithdrawalRequestRecord where
  signature : FixedBytes 64
  slot : UInt64
  blockTime : Option Int64
  userPubkey : Pubkey
  amountSats : UInt64
  netAmountSats : UInt64
  addressType : UInt32
  recipientAddress : FixedBytes 20
  deriving DecidableEq

structure IndexedRequest where
  index : UInt64
  record : WithdrawalRequestRecord
  deriving DecidableEq

/-- `saturating_add` of the batch cap, at most the requested tip. -/
def cappedBatchEnd (snapshotCursor requestedTip : UInt64) : UInt64 :=
  min (saturatingAdd snapshotCursor (UInt64.ofNat snapshotProofMaxBatch)) requestedTip

/-- `history.get(start..end)`: no panic, but an error, when the range is not covered. -/
def historyRange (history : List IndexedRequest) (start stop : UInt64) :
    Result (List IndexedRequest) :=
  orBail
    (if start.toNat ≤ stop.toNat ∧ stop.toNat ≤ history.length then
      some ((history.drop start.toNat).take (stop.toNat - start.toNat)) else none)
    s!"withdrawal history does not cover [{start}, {stop})"

def requestOutput (request : IndexedRequest) : Result Utx0Output := do
  let addressType ← UtxoAddressType.fromU32 request.record.addressType
  return { amount := request.record.netAmountSats, addressType,
           address := request.record.recipientAddress }

def payloadForRequests (requests : List IndexedRequest) (managerSetIndex : UInt32) :
    Result Utx0UnlockPayload := do
  if requests.isEmpty then bail "cannot snapshot an empty withdrawal batch"
  let outputs ← requests.mapM requestOutput
  return { destinationChain := dogecoinChainId, delegatedManagerSetIndex := managerSetIndex, outputs }

/-- The range and payload of a new batch, as far as they depend on the history and the chain. -/
structure BatchPlan where
  requestStart : UInt64
  requestEnd : UInt64
  requests : List IndexedRequest
  payload : Utx0UnlockPayload

/-- The refusals of a new batch that come before anything is written. -/
def checkNewBatch (history : List IndexedRequest) (requestStart requestedTip : UInt64)
    (requestIndex : Option UInt64) (requestSignature : Option (FixedBytes 64)) : Result Unit := do
  if requestStart ≥ cappedBatchEnd requestStart requestedTip then
    bail "no withdrawal requests after the current snapshot"
  if UInt64.ofNat history.length ≠ requestedTip then
    bail s!"withdrawal history tip {history.length} does not match on-chain requested tip {requestedTip}"
  if requestIndex.any (· ≠ requestStart) then
    bail s!"--request-index {requestIndex.getD 0} is not the snapshot cursor {requestStart}"
  match requestSignature with
  | none => return ()
  | some signature => do
    let first ← orBail history[requestStart.toNat]?
      s!"withdrawal history does not contain request {requestStart}"
    if first.record.signature ≠ signature then
      bail "--request-signature does not identify the first unsnapshotted withdrawal"

def planBatch (history : List IndexedRequest) (snapshotCursor requestedTip : UInt64)
    (requestIndex : Option UInt64) (requestSignature : Option (FixedBytes 64))
    (managerSetIndex : UInt32) : Result BatchPlan := do
  let requestEnd := cappedBatchEnd snapshotCursor requestedTip
  checkNewBatch history snapshotCursor requestedTip requestIndex requestSignature
  let requests ← historyRange history snapshotCursor requestEnd
  let payload ← payloadForRequests requests managerSetIndex
  return { requestStart := snapshotCursor, requestEnd, requests, payload }

/-- A landed snapshot is confirmed only when the chain's cursor is the end of the batch. -/
def checkConfirmedCursor (cursor requestEnd : UInt64) : Result Unit := do
  if cursor ≠ requestEnd then
    bail s!"confirmed snapshot cursor {cursor} does not equal persisted batch end {requestEnd}"

end DogeOperator.Batches
