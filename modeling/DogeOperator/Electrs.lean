import Mathlib.Data.List.DropRight
import DogeOperator.Base64
import DogeOperator.Confirm
import DogeOperator.IntegerText
import DogeOperator.Operations

/-! The Electrs side of a withdrawal: whether a transaction is known, posting it once, and reading
its confirmation. -/
namespace DogeOperator.Electrs
open Bytes Outcome Base64 Json Confirm Operations IntegerText

def trimTrailingSlashes (url : String) : String :=
  String.ofList (url.toList.rdropWhile (· = '/'))

def isQuote (c : Char) : Bool := c.toNat = 34

def trimQuotes (text : String) : String :=
  String.ofList ((text.toList.dropWhile isQuote).rdropWhile isQuote)

def ElectrsWithdrawalOutput.fromJson (value : Value) : Decoded ElectrsWithdrawalOutput := do
  let fields ← asFields ["scriptpubkey", "value"] value
  let scriptpubkey ← required "scriptpubkey" asString fields
  let value ← required "value" asU64 fields
  return { scriptpubkey, value }

def ElectrsWithdrawalStatus.fromJson (value : Value) : Decoded ElectrsWithdrawalStatus := do
  let fields ← asFields ["confirmed", "block_height", "block_hash"] value
  let confirmed ← required "confirmed" asBool fields
  let blockHeight ← optional ["block_height"] asU32 fields
  let blockHash ← optional ["block_hash"] asString fields
  return { confirmed, blockHeight, blockHash }

def ElectrsWithdrawalTransaction.fromJson (value : Value) :
    Decoded ElectrsWithdrawalTransaction := do
  let fields ← asFields ["txid", "vout", "status"] value
  let txid ← required "txid" asString fields
  let vout ← required "vout" (asArray ElectrsWithdrawalOutput.fromJson) fields
  let status ← required "status" ElectrsWithdrawalStatus.fromJson fields
  return { txid, vout, status }

def electrsGetHeight (electrsUrl : String) : Flow UInt32 := do
  let url := s!"{trimTrailingSlashes electrsUrl}/blocks/tip/height"
  let answer ← withContext s!"GET {url}" (http (.get url))
  bailIf (¬ answer.isSuccess) s!"Electrs GET {url} returned {answer.status}: {answer.text}"
  context s!"parse Electrs tip height from {answer.text}"
    (orFail (parseU32 (trim answer.text).toList))

def electrsGetJson {α : Type} (decode : Value → Decoded α) (url : String) : Flow α := do
  let answer ← withContext s!"GET {url}" (http (.get url))
  bailIf (¬ answer.isSuccess) s!"Electrs GET {url} returned {answer.status}: {answer.text}"
  context s!"decode Electrs response from {url}" ((answer.json >>= decode).mapError ([·]))

def electrsHasTransaction (electrsUrl displayTxid : String) : Flow Bool := do
  let url := s!"{trimTrailingSlashes electrsUrl}/tx/{displayTxid}"
  let answer ← withContext s!"GET {url}" (http (.get url))
  if answer.status = 404 then
    return false
  else
    bailIf (¬ answer.isSuccess) s!"Electrs GET {url} returned {answer.status}: {answer.text}"
    let txid ← context s!"decode Electrs response from {url}"
      ((answer.json >>= asFields ["txid"] >>= required "txid" asString).mapError ([·]))
    bailIf (¬ eqIgnoreAsciiCase txid displayTxid)
      s!"Electrs GET returned txid {txid}, expected {displayTxid}"
    return true

def broadcastElectrs (solanaSignature electrsUrl : String) (raw : ByteString) : Flow String := do
  let url := s!"{trimTrailingSlashes electrsUrl}/tx"
  let answer ← http (.postTransaction solanaSignature url (hexEncode raw))
  bailIf (¬ answer.isSuccess) s!"electrs broadcast returned {answer.status}: {answer.text}"
  return trimQuotes (trim answer.text)

/-- A failed post counts as sent when Electrs knows the transaction afterwards. -/
def broadcastElectrsIdempotent (solanaSignature electrsUrl : String) (raw : ByteString)
    (displayTxid : String) : Flow Unit := do
  let known ← electrsHasTransaction electrsUrl displayTxid
  if known then
    return ()
  else
    match ← (broadcastElectrs solanaSignature electrsUrl raw).attempt with
    | .ok returned =>
      bailIf (¬ eqIgnoreAsciiCase returned displayTxid)
        s!"electrs returned txid {returned}, locally assembled txid is {displayTxid}"
    | .error error => do
      let known ← electrsHasTransaction electrsUrl displayTxid
      if known then return () else .done (.error error)

def fetchConfirmedWithdrawal [BlockHashText] (electrsUrl displayTxid : String) :
    Flow (Option ConfirmedWithdrawal) := do
  let transaction ← electrsGetJson ElectrsWithdrawalTransaction.fromJson
    s!"{trimTrailingSlashes electrsUrl}/tx/{displayTxid}"
  bailIf (¬ eqIgnoreAsciiCase transaction.txid displayTxid)
    s!"Electrs GET returned txid {transaction.txid}, expected {displayTxid}"
  if ¬ transaction.status.confirmed then
    return none
  else
    let blockHashText ← orBail transaction.status.blockHash
      "confirmed Electrs transaction is missing block_hash"
    let blockTxids ← electrsGetJson (asArray asString)
      s!"{trimTrailingSlashes electrsUrl}/block/{blockHashText}/txids"
    let tipHeight ← electrsGetHeight electrsUrl
    planConfirmedWithdrawal transaction displayTxid blockTxids tipHeight

end DogeOperator.Electrs
