import DogeOperator.Electrs
import DogeOperator.ManagerClient

/-! The manager service as the withdrawal run calls it, and the evidence a run leaves behind. -/
namespace DogeOperator.Signing
open Bytes Outcome Utx0 Network Manager Prepare Records Json ManagerClient Operations Electrs

def managerServiceUrl (args : Args) : Result String :=
  orBail args.managerServiceUrl
    "--manager-service-url is required on --network devnet (localhost defaults to the local Manager service)"

def fetchManagerSignatures (baseUrl : String) (chain : UInt16) (emitter : Pubkey)
    (sequence : UInt64) : Flow ManagerSignatures := do
  let url := s!"{trimTrailingSlashes baseUrl}/v1/manager/signed_vaa/{chain}/{hexEncode emitter.toList}/{sequence}"
  let answer ← (http (.get url)).mapError fun error =>
    [s!"manager API request failed: {error.headD default}"]
  decodeManagerAnswer url answer

def fetchSignedVaa (baseUrl : String) (chain : UInt16) (emitter : Pubkey) (sequence : UInt64) :
    Flow ByteString := do
  let url := s!"{trimTrailingSlashes baseUrl}/v1/signed_vaa/{chain}/{hexEncode emitter.toList}/{sequence}"
  let answer ← (http (.get url)).mapError fun error =>
    [s!"signed_vaa API request failed: {error.headD default}"]
  decodeVaaAnswer url answer

def registerUnsignedTransaction (managerUrl : String) (emitter : Pubkey) (sequence : UInt64)
    (payload : ByteString) (prepared : PreparedTransaction) : Flow Unit := do
  let url := s!"{trimTrailingSlashes managerUrl}/api/v1/withdrawals"
  let answer ← http (.postJson url (registrationRequest emitter sequence payload prepared).toJson)
  checkRegistered sequence answer

/-- What a poll saw, for the message of the timeout. -/
def pollFailure : Result ManagerSignatures → String
  | .ok response => s!"incomplete with {response.signatures.length} signers"
  | .error error => error.headD default

/-- Poll until the response is complete; the clock allows `attempts` more. -/
def pollManagerSignatures (managerUrl : String) (emitter : Pubkey) (sequence : UInt64) :
    ℕ → Flow ManagerSignatures
  | 0 => do
    let response ← (fetchManagerSignatures managerUrl solanaEmitterChain emitter sequence).attempt
    match response with
    | .ok signatures =>
      if signatures.isComplete then return signatures
      else bail s!"timed out waiting for Manager signatures: {pollFailure response}"
    | .error _ => bail s!"timed out waiting for Manager signatures: {pollFailure response}"
  | attempts + 1 => do
    let response ← (fetchManagerSignatures managerUrl solanaEmitterChain emitter sequence).attempt
    match response with
    | .ok signatures =>
      if signatures.isComplete then return signatures
      else pollManagerSignatures managerUrl emitter sequence attempts
    | .error _ => pollManagerSignatures managerUrl emitter sequence attempts

def waitForManagerSignatures (managerUrl : String) (emitter : Pubkey) (sequence : UInt64)
    (intervalMs timeoutMs : ℕ) : Flow ManagerSignatures := do
  let attempts ← system (.attemptsWithin timeoutMs intervalMs)
  pollManagerSignatures managerUrl emitter sequence attempts

structure Evidence where
  schema : String
  completed : Bool
  snapshot : Value
  withdrawal : Value
  manager : Value
  dogecoin : Value
  custody : Value

def Evidence.toJson (evidence : Evidence) : Value :=
  .object [("schema", .string evidence.schema), ("completed", .bool evidence.completed),
    ("snapshot", evidence.snapshot), ("withdrawal", evidence.withdrawal),
    ("manager", evidence.manager), ("dogecoin", evidence.dogecoin), ("custody", evidence.custody)]

def evidenceSchema : String := "doge-process-withdrawal-v5-durable-snapshot"

def hexValue (bytes : ByteString) : Value := .string (hexEncode bytes)

/-- The snapshot section; a resumed run says so. -/
def snapshotEvidence (batch : SnapshotBatch) (resumed : List (String × Value)) : Value :=
  .object ([("signature", .string batch.solanaSignature), ("slot", ofU64 batch.solanaSlot),
    ("requestStart", ofU64 batch.requestStartIndex), ("requestEnd", ofU64 batch.requestEndIndex),
    ("snapshotRootHex", hexValue batch.snapshotRoot.toList),
    ("sequence", ofU64 batch.wormholeSequence), ("payloadHex", hexValue batch.payload)] ++ resumed)

def outputEvidence (output : Utx0Output) : Value :=
  .object [("recipientAddressHex", hexValue output.address.toList),
    ("amountSats", ofU64 output.amount), ("addressType", ofU32 output.addressType.toU32)]

def inputEvidence (utxo : CustodyUtxo) : Value :=
  .object [("txidInternalHex", hexValue utxo.txid.toList), ("vout", ofU32 utxo.vout),
    ("amountSats", ofU64 utxo.amountSats)]

def writeEvidence (path : String) (evidence : Evidence) : Flow Unit := do
  system (.createParentDirectory path)
  withContext s!"write {path}" (system (.writeFile path evidence.toJson))

end DogeOperator.Signing
