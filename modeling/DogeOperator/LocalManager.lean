import DogeOperator.Base64
import DogeOperator.Json
import DogeOperator.Manager
import DogeOperator.Redeem
import DogeOperator.Vaa

/-! The local manager service: it validates the transaction an operator built, signs it with the
fixture keys, and serves the signatures and a synthesized VAA over JSON. -/
namespace DogeOperator.LocalManager
open Bytes Outcome Crypto Utx0 Redeem Tx Manager Vaa Json Base64

def chainIdDogecoin : UInt16 := 65

structure LocalSigningInput where
  originalRecipientAddress : FixedBytes 32
  transactionId : FixedBytes 32
  vout : UInt32
  deriving DecidableEq

structure LocalWithdrawalRegistration where
  key : VaaKey
  payload : ByteString
  unsignedTransaction : ByteString
  inputs : List LocalSigningInput
  outputs : List TransactionOutput

structure LocalSignedWithdrawal where
  signedVaa : ByteString
  unsignedTransaction : ByteString
  managerSignatures : ManagerSignatures

inductive RegistrationOutcome
  | inserted
  | alreadyRegistered
  deriving DecidableEq

/-- The service's hash map, keyed by VAA. -/
structure LocalManagerService where
  withdrawals : VaaKey → Option (ByteString × LocalSignedWithdrawal)

def LocalManagerService.empty : LocalManagerService := ⟨fun _ => none⟩

def LocalManagerService.get (service : LocalManagerService) (key : VaaKey) :
    Option LocalSignedWithdrawal :=
  (service.withdrawals key).map Prod.snd

/-- Every authorized output is paid by the transaction output at its place. -/
def checkAuthorized : ℕ → List Utx0Output → List TransactionOutput → Result Unit
  | index, authorized :: payload, transaction :: outputs => do
    if transaction.amount ≠ authorized.amount ∨
        transaction.addressType ≠ authorized.addressType ∨
        transaction.address ≠ authorized.address then
      bail s!"operator transaction output {index} does not match the authorized UTX0 output"
    checkAuthorized (index + 1) payload outputs
  | _, _, _ => .ok ()

def checkChange (change : Option TransactionOutput) : Result Unit :=
  match change with
  | some change => if change.addressType ≠ .p2sh then bail "operator change output must be P2SH custody"
    else .ok ()
  | none => .ok ()

def checkOutputs (authorized : List Utx0Output) (outputs : List TransactionOutput) : Result Unit := do
  if outputs.length < authorized.length ∨ outputs.length > authorized.length + 1 then
    bail "operator transaction must contain authorized outputs and at most one change output"
  checkAuthorized 0 authorized outputs
  checkChange outputs[authorized.length]?

def localSelectedUtxo (key : VaaKey) (managerSet : ManagerSet) (input : LocalSigningInput) :
    Result SelectedUtxo := do
  let redeemScript ← buildRedeemScript key.emitterChain key.emitterAddress
    input.originalRecipientAddress managerSet.m managerSet.pubkeys
  return { transactionId := input.transactionId, vout := input.vout, redeemScript }

section
variable [Secp256k1]

/-- One fixture key signs every input's digest. -/
def signInputs (sighashes : List (FixedBytes 32)) (signer : FixedBytes 32 × ℕ) :
    Result SignerSignatures := do
  let secret ← (Secp256k1.secretKeyFromByteArray signer.1).mapError
    (s!"invalid local Manager secret {signer.2}: {·}" :: [])
  return {
    signerIndex := UInt8.ofNat signer.2
    inputSignatures := sighashes.map fun sighash =>
      Secp256k1.serializeDer (Secp256k1.signEcdsa sighash secret) ++ [sighashAllType.toUInt8] }

variable [Hashes]

/-- The first `m` fixture keys sign the transaction. -/
def signTransaction (managerSet : ManagerSet) (transaction : UnsignedTransaction) :
    Result (List SignerSignatures) := do
  let sighashes ← (List.range transaction.inputCount).mapM transaction.sighashAll
  ((localRegtestManagerPrivateKeys.take managerSet.m.toNat).zipIdx).mapM (signInputs sighashes)

def buildLocalSignedWithdrawal (registration : LocalWithdrawalRegistration) :
    Result LocalSignedWithdrawal := do
  let payload ← context "registration payload is not a canonical outputs-only UTX0 payload"
    (Utx0UnlockPayload.parse registration.payload)
  if payload.delegatedManagerSetIndex ≠ 0 then
    bail s!"local regtest only supports delegated manager set index 0, got {payload.delegatedManagerSetIndex}"
  if payload.destinationChain ≠ chainIdDogecoin then
    bail s!"local regtest manager only accepts Dogecoin destination chain {chainIdDogecoin}, got {payload.destinationChain}"
  if payload.outputs = [] ∨ registration.inputs = [] then
    bail "local regtest manager requires outputs and operator-selected inputs"
  let managerSet := localRegtestManagerSet
  let selectedInputs ← registration.inputs.mapM (localSelectedUtxo registration.key managerSet)
  checkOutputs payload.outputs registration.outputs
  let transaction ← UnsignedTransaction.new selectedInputs registration.outputs
  if transaction.serialize ≠ registration.unsignedTransaction then
    bail "operator unsigned transaction does not match submitted inputs and outputs"
  let signatures ← signTransaction managerSet transaction
  let signedVaa := synthesizeLocalVaa registration.key registration.payload
  let vaaHash ← vaaSigningDigest signedVaa
  return {
    signedVaa
    unsignedTransaction := registration.unsignedTransaction
    managerSignatures :=
      { isComplete := true
        vaaHash
        vaaId := vaaId registration.key
        destinationChain := payload.destinationChain
        managerSetIndex := payload.delegatedManagerSetIndex
        required := managerSet.m.toUInt32
        total := managerSet.n.toUInt32
        signatures } }

def LocalManagerService.insert (service : LocalManagerService)
    (registration : LocalWithdrawalRegistration) (signed : LocalSignedWithdrawal) :
    LocalManagerService :=
  ⟨Function.update service.withdrawals registration.key (some (registration.payload, signed))⟩

/-- Registering identical bytes again is idempotent; other bytes conflict. -/
def LocalManagerService.register (service : LocalManagerService)
    (registration : LocalWithdrawalRegistration) :
    Result RegistrationOutcome × LocalManagerService :=
  match service.withdrawals registration.key with
  | some (payload, signed) =>
    if payload = registration.payload ∧
        signed.unsignedTransaction = registration.unsignedTransaction then
      (.ok .alreadyRegistered, service)
    else
      (bail s!"conflicting payload or unsigned transaction already registered for {vaaId registration.key}",
        service)
  | none =>
    match buildLocalSignedWithdrawal registration with
    | .error error => (.error error, service)
    | .ok signed => (.ok .inserted, service.insert registration signed)

end

/-! The JSON requests, with unknown fields denied. -/

structure SigningInputRequest where
  originalRecipientAddressHex : String
  transactionIdHex : String
  vout : UInt32

def SigningInputRequest.fields : List String :=
  ["originalRecipientAddressHex", "transactionIdHex", "vout"]

def SigningInputRequest.fromJson (value : Value) : Decoded SigningInputRequest := do
  let fields ← asFields SigningInputRequest.fields value
  denyUnknown SigningInputRequest.fields fields
  let originalRecipientAddressHex ← required "originalRecipientAddressHex" asString fields
  let transactionIdHex ← required "transactionIdHex" asString fields
  let vout ← required "vout" asU32 fields
  return { originalRecipientAddressHex, transactionIdHex, vout }

structure SigningOutputRequest where
  amount : UInt64
  addressType : UInt32
  addressHex : String

def SigningOutputRequest.fields : List String := ["amount", "addressType", "addressHex"]

def SigningOutputRequest.fromJson (value : Value) : Decoded SigningOutputRequest := do
  let fields ← asFields SigningOutputRequest.fields value
  denyUnknown SigningOutputRequest.fields fields
  let amount ← required "amount" asU64 fields
  let addressType ← required "addressType" asU32 fields
  let addressHex ← required "addressHex" asString fields
  return { amount, addressType, addressHex }

structure RegisterWithdrawalRequest where
  emitterChain : UInt16
  emitterAddressHex : String
  sequence : UInt64
  payloadHex : String
  unsignedTransactionHex : String
  inputs : List SigningInputRequest
  outputs : List SigningOutputRequest

def RegisterWithdrawalRequest.fields : List String :=
  ["emitterChain", "emitterAddressHex", "sequence", "payloadHex", "unsignedTransactionHex", "inputs",
    "outputs"]

def RegisterWithdrawalRequest.fromJson (value : Value) : Decoded RegisterWithdrawalRequest := do
  let fields ← asFields RegisterWithdrawalRequest.fields value
  denyUnknown RegisterWithdrawalRequest.fields fields
  let emitterChain ← required "emitterChain" asU16 fields
  let emitterAddressHex ← required "emitterAddressHex" asString fields
  let sequence ← required "sequence" asU64 fields
  let payloadHex ← required "payloadHex" asString fields
  let unsignedTransactionHex ← required "unsignedTransactionHex" asString fields
  let inputs ← required "inputs" (asArray SigningInputRequest.fromJson) fields
  let outputs ← required "outputs" (asArray SigningOutputRequest.fromJson) fields
  return { emitterChain, emitterAddressHex, sequence, payloadHex, unsignedTransactionHex, inputs,
           outputs }

def decodeHex (field value : String) : Result ByteString :=
  (hexDecode (stripHexPrefix value)).mapError fun error => [s!"invalid {field}: {error}"]

def decodeFixed (n : ℕ) (field value : String) : Result (FixedBytes n) := do
  let bytes ← decodeHex field value
  orBail (toFixed? n bytes) s!"{field} must decode to {n} bytes, got {bytes.length}"

def decodeKey (chain : UInt16) (emitterHex : String) (sequence : UInt64) : Result VaaKey := do
  let emitterAddress ← decodeFixed 32 "emitterAddressHex" emitterHex
  return { emitterChain := chain, emitterAddress, sequence }

def decodeInput (input : SigningInputRequest × ℕ) : Result LocalSigningInput := do
  let originalRecipientAddress ← decodeFixed 32 s!"inputs[{input.2}].originalRecipientAddressHex"
    input.1.originalRecipientAddressHex
  let transactionId ← decodeFixed 32 s!"inputs[{input.2}].transactionIdHex" input.1.transactionIdHex
  return { originalRecipientAddress, transactionId, vout := input.1.vout }

def decodeOutput (output : SigningOutputRequest × ℕ) : Result TransactionOutput := do
  let addressType ← UtxoAddressType.fromU32 output.1.addressType
  let address ← decodeFixed 20 s!"outputs[{output.2}].addressHex" output.1.addressHex
  return { amount := output.1.amount, addressType, address }

def decodeRegistration (request : RegisterWithdrawalRequest) :
    Result LocalWithdrawalRegistration := do
  let key ← decodeKey request.emitterChain request.emitterAddressHex request.sequence
  let inputs ← request.inputs.zipIdx.mapM decodeInput
  let outputs ← request.outputs.zipIdx.mapM decodeOutput
  let payload ← decodeHex "payloadHex" request.payloadHex
  let unsignedTransaction ← decodeHex "unsignedTransactionHex" request.unsignedTransactionHex
  return { key, payload, unsignedTransaction, inputs, outputs }

/-! The JSON responses. -/

def signerResponse (signer : SignerSignatures) : Value :=
  .object [("signerIndex", .integer signer.signerIndex.toNat),
    ("signatures", .array (signer.inputSignatures.map fun signature => .string (encode signature)))]

/-- `ManagerSignatures::response`, serialized. -/
def signaturesResponse (signatures : ManagerSignatures) : Value :=
  .object [("isComplete", .bool signatures.isComplete),
    ("vaaHash", .string (hexEncode signatures.vaaHash.toList)),
    ("vaaId", .string signatures.vaaId),
    ("destinationChain", ofU16 signatures.destinationChain),
    ("managerSetIndex", ofU32 signatures.managerSetIndex),
    ("required", ofU32 signatures.required),
    ("total", ofU32 signatures.total),
    ("signatures", .array (signatures.signatures.map signerResponse))]

def signedVaaResponse (signedVaa : ByteString) : Value :=
  .object [("vaaBytes", .string (encode signedVaa))]

/-- A response of the service before it is written as text. -/
structure Response where
  status : ℕ
  body : Value

/-- The client's view: the body is read back as the value it was written from. -/
def Response.answer (text : Value → String) (response : Response) : HttpAnswer where
  status := response.status
  text := text response.body
  json := .ok response.body

def apiError (status : ℕ) (error : ErrorChain) : Response where
  status := status
  body := .object [("error", .string (error.headD ""))]

/-- `POST /api/v1/withdrawals`; the extractor itself rejects what does not decode. -/
def registerWithdrawal [Secp256k1] [Hashes] (service : LocalManagerService) (body : Value) :
    Response × LocalManagerService :=
  match RegisterWithdrawalRequest.fromJson body with
  | .error error => (⟨422, .string error⟩, service)
  | .ok request =>
    match decodeRegistration request with
    | .error error => (apiError 400 error, service)
    | .ok registration =>
      match service.register registration with
      | (.ok _, service) => (⟨200, .object [("sequence", ofU64 registration.key.sequence)]⟩, service)
      | (.error error, service) =>
        if (error.headD "").startsWith "conflicting" then (apiError 409 error, service)
        else (apiError 400 error, service)

/-- A lookup by the key in the path. -/
def serveWithdrawal (service : LocalManagerService) (chain : UInt16) (emitter : String)
    (sequence : UInt64) (body : LocalSignedWithdrawal → Value) : Response :=
  match decodeKey chain emitter sequence with
  | .error error => apiError 400 error
  | .ok key =>
    match service.get key with
    | some withdrawal => ⟨200, body withdrawal⟩
    | none => apiError 404 ["withdrawal is not registered"]

/-- `GET /v1/manager/signed_vaa/{chain}/{emitter}/{sequence}` -/
def getManagerSignatures (service : LocalManagerService) (chain : UInt16) (emitter : String)
    (sequence : UInt64) : Response :=
  serveWithdrawal service chain emitter sequence fun withdrawal =>
    signaturesResponse withdrawal.managerSignatures

/-- `GET /v1/signed_vaa/{chain}/{emitter}/{sequence}` -/
def getSignedVaa (service : LocalManagerService) (chain : UInt16) (emitter : String)
    (sequence : UInt64) : Response :=
  serveWithdrawal service chain emitter sequence fun withdrawal =>
    signedVaaResponse withdrawal.signedVaa

end DogeOperator.LocalManager
