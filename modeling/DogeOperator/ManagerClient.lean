import DogeOperator.Base64
import DogeOperator.Json
import DogeOperator.Prepare
import DogeOperator.Vaa

/-! The operator's side of the manager service: the registration it posts, the responses it
decodes, and the checks before any signature is applied. -/
namespace DogeOperator.ManagerClient
open Bytes Outcome Crypto Utx0 Tx Network Manager Prepare Records Vaa Json Base64

structure SigningInput where
  originalRecipientAddressHex : String
  transactionIdHex : String
  vout : UInt32

def SigningInput.toJson (input : SigningInput) : Value :=
  .object [("originalRecipientAddressHex", .string input.originalRecipientAddressHex),
    ("transactionIdHex", .string input.transactionIdHex), ("vout", ofU32 input.vout)]

structure SigningOutput where
  amount : UInt64
  addressType : UInt32
  addressHex : String

def SigningOutput.toJson (output : SigningOutput) : Value :=
  .object [("amount", ofU64 output.amount), ("addressType", ofU32 output.addressType),
    ("addressHex", .string output.addressHex)]

structure RegisterWithdrawalRequest where
  emitterChain : UInt16
  emitterAddressHex : String
  sequence : UInt64
  payloadHex : String
  unsignedTransactionHex : String
  inputs : List SigningInput
  outputs : List SigningOutput

def RegisterWithdrawalRequest.toJson (request : RegisterWithdrawalRequest) : Value :=
  .object [("emitterChain", ofU16 request.emitterChain),
    ("emitterAddressHex", .string request.emitterAddressHex),
    ("sequence", ofU64 request.sequence),
    ("payloadHex", .string request.payloadHex),
    ("unsignedTransactionHex", .string request.unsignedTransactionHex),
    ("inputs", .array (request.inputs.map SigningInput.toJson)),
    ("outputs", .array (request.outputs.map SigningOutput.toJson))]

def signingInput (utxo : CustodyUtxo) : SigningInput where
  originalRecipientAddressHex := hexEncode utxo.originalRecipientAddress.toList
  transactionIdHex := hexEncode utxo.txid.reverse.toList
  vout := utxo.vout

def signingOutput (output : TransactionOutput) : SigningOutput where
  amount := output.amount
  addressType := output.addressType.toU32
  addressHex := hexEncode output.address.toList

/-- The request `register_unsigned_transaction` posts. -/
def registrationRequest (emitter : Pubkey) (sequence : UInt64) (payload : ByteString)
    (prepared : PreparedTransaction) : RegisterWithdrawalRequest where
  emitterChain := solanaEmitterChain
  emitterAddressHex := hexEncode emitter.toList
  sequence := sequence
  payloadHex := hexEncode payload
  unsignedTransactionHex := hexEncode prepared.unsignedBytes
  inputs := prepared.selectedUtxos.map signingInput
  outputs := prepared.transaction.logicalOutputs.map signingOutput

/-- What `register_unsigned_transaction` makes of the answer. -/
def checkRegistered (sequence : UInt64) (answer : HttpAnswer) : Result Unit := do
  if ¬ answer.isSuccess then
    bail s!"Manager signing registration returned {answer.status}: {answer.text}"
  let value ← answer.json.mapError ([·])
  let registered ← (asFields ["sequence"] value >>= required "sequence" asU64).mapError ([·])
  if registered ≠ sequence then
    bail s!"Manager registered sequence {registered}, expected {sequence}"

def hexDecodeFixed (n : ℕ) (s : String) : Result (FixedBytes n) := do
  let bytes ← (hexDecode s).mapError (s!"hex decode failed for {s.quote}: {·}" :: [])
  orBail (toFixed? n bytes) s!"expected {n} hex bytes, got {bytes.length}"

def b64Decode (s : String) : Result ByteString :=
  (decode (trim s)).mapError (s!"base64 decode failed for {s.quote}: {·}" :: [])

structure SignerSignaturesJson where
  signerIndex : Option UInt32
  signatures : List String

def SignerSignaturesJson.fields : List String := ["signerIndex", "signatures"]

def SignerSignaturesJson.fromJson (value : Value) : Decoded SignerSignaturesJson := do
  let fields ← asStruct SignerSignaturesJson.fields value
  let signerIndex ← optional ["signerIndex"] asU32 fields
  let signatures ← defaulted ["signatures", "inputSignatures"] [] (asArray asString) fields
  return { signerIndex, signatures }

structure ManagerSignaturesJson where
  isComplete : Option Bool
  vaaHash : Option String
  vaaId : Option String
  destinationChain : Option UInt32
  managerSetIndex : Option UInt32
  required : Option UInt32
  total : Option UInt32
  signatures : List SignerSignaturesJson

def ManagerSignaturesJson.fields : List String :=
  ["isComplete", "vaaHash", "vaaId", "destinationChain", "managerSetIndex", "required", "total",
    "signatures"]

def ManagerSignaturesJson.fromJson (value : Value) : Decoded ManagerSignaturesJson := do
  let fields ← asStruct ManagerSignaturesJson.fields value
  let isComplete ← optional ["isComplete", "complete"] asBool fields
  let vaaHash ← optional ["vaaHash"] asString fields
  let vaaId ← optional ["vaaId"] asString fields
  let destinationChain ← optional ["destinationChain"] asU32 fields
  let managerSetIndex ← optional ["managerSetIndex"] asU32 fields
  let required ← optional ["required"] asU32 fields
  let total ← optional ["total"] asU32 fields
  let signatures ← defaulted ["signatures"] [] (asArray SignerSignaturesJson.fromJson) fields
  return { isComplete, vaaHash, vaaId, destinationChain, managerSetIndex, required, total,
           signatures }

def decodeSigner (signer : SignerSignaturesJson) : Result SignerSignatures := do
  let inputSignatures ← signer.signatures.mapM b64Decode
  return { signerIndex := (signer.signerIndex.getD 0).toUInt8, inputSignatures }

def parseManagerSignatures (body : Decoded Value) : Result ManagerSignatures := do
  let json ← (body >>= ManagerSignaturesJson.fromJson).mapError
    (s!"manager API JSON decode: {·}" :: [])
  let vaaHashHex ← orBail json.vaaHash "manager API response missing vaaHash"
  let vaaHash ← hexDecodeFixed 32 (trimHexPrefixes vaaHashHex)
  let signatures ← json.signatures.mapM decodeSigner
  return {
    isComplete := json.isComplete.getD false
    vaaHash
    vaaId := json.vaaId.getD ""
    destinationChain := (json.destinationChain.getD 0).toUInt16
    managerSetIndex := json.managerSetIndex.getD 0
    required := json.required.getD 0
    total := json.total.getD 0
    signatures }

/-- What `fetch_manager_signatures` makes of the answer. -/
def decodeManagerAnswer (url : String) (answer : HttpAnswer) : Result ManagerSignatures := do
  if ¬ answer.isSuccess then bail s!"manager API {url} returned {answer.status}: {answer.text}"
  parseManagerSignatures answer.json

/-- What `fetch_signed_vaa` makes of the answer. -/
def decodeVaaAnswer (url : String) (answer : HttpAnswer) : Result ByteString := do
  if ¬ answer.isSuccess then bail s!"signed_vaa API {url} returned {answer.status}: {answer.text}"
  let vaaBytes ← (answer.json >>= asFields ["vaaBytes"] >>= optional ["vaaBytes"] asString).mapError
    (s!"signed_vaa JSON decode: {·}" :: [])
  let b64 ← orBail vaaBytes "signed_vaa response missing vaaBytes"
  b64Decode b64

/-- The payload is parsed only when the other fields agree. -/
def vaaIdentifies (vaa : VaaHeader) (emitter : Pubkey) (sequence : UInt64)
    (payload : Utx0UnlockPayload) : Result Bool :=
  if vaa.emitterChain ≠ solanaEmitterChain ∨ vaa.emitterAddress ≠ emitter ∨
      vaa.sequence ≠ sequence then .ok false
  else do
    let parsed ← Utx0UnlockPayload.parse vaa.payload
    return parsed = payload

def assertVaaAndManager [Hashes] (signedVaa : ByteString) (signatures : ManagerSignatures)
    (emitter : Pubkey) (sequence : UInt64) (payload : Utx0UnlockPayload) (managerSet : ManagerSet) :
    Result Unit := do
  let matched ← vaaHashMatches signedVaa signatures.vaaHash
  if ¬ matched then bail "Manager vaaHash does not match the signed VAA digest"
  let vaa ← parseVaa signedVaa
  let identified ← vaaIdentifies vaa emitter sequence payload
  if ¬ identified then bail "signed VAA identity or UTX0 payload mismatch"
  if signatures.destinationChain ≠ dogecoinChainId ∨
      signatures.managerSetIndex ≠ payload.delegatedManagerSetIndex ∨
      signatures.required ≠ managerSet.m.toUInt32 ∨ signatures.total ≠ managerSet.n.toUInt32 then
    bail "Manager response metadata does not match the VAA and Manager set"

end DogeOperator.ManagerClient
