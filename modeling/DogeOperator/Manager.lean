import DogeOperator.Tx

/-! The delegated manager set, its signature responses, and how a complete response is turned
into the scriptSigs of every input. -/
namespace DogeOperator.Manager
open Bytes Outcome Crypto Tx

/-- A delegated secp256k1 multisig manager set for a UTXO chain. -/
structure ManagerSet where
  m : UInt8
  n : UInt8
  pubkeys : List (FixedBytes 33)
  deriving DecidableEq

namespace ManagerSet

/-- The on-chain layout `Type(1) | M(1) | N(1) | PublicKeys(N*33)`; the type byte is ignored. -/
def parse (bytes : ByteString) : Result ManagerSet := do
  if bytes.length < 3 then bail s!"manager set too short: {bytes.length} bytes"
  let m := bytes.getD 1 0
  let n := (bytes.getD 2 0).toNat
  if bytes.length < 3 + n * 33 then
    bail s!"manager set truncated: need {3 + n * 33} bytes for {n} pubkeys, got {bytes.length}"
  let pubkeys ← (List.range n).mapM fun i =>
    orBail (toFixed? 33 ((bytes.drop (3 + i * 33)).take 33)) "source slice length mismatch"
  return { m, n := UInt8.ofNat n, pubkeys }

def serialize (set : ManagerSet) : ByteString :=
  [0, set.m, set.n] ++ set.pubkeys.flatMap List.Vector.toList

end ManagerSet

def localRegtestManagerSetM : UInt8 := 5
def localRegtestManagerSetN : UInt8 := 7

/-- The fixture secrets are the scalars 1 to 7. -/
def localRegtestManagerPrivateKeys : List (FixedBytes 32) :=
  [1, 2, 3, 4, 5, 6, 7].map fun scalar => ⟨List.replicate 31 0 ++ [scalar], rfl⟩

def localRegtestManagerSetPubkeys : List (FixedBytes 33) :=
  [⟨[0x02, 0x79, 0xbe, 0x66, 0x7e, 0xf9, 0xdc, 0xbb, 0xac, 0x55, 0xa0,
     0x62, 0x95, 0xce, 0x87, 0x0b, 0x07, 0x02, 0x9b, 0xfc, 0xdb, 0x2d,
     0xce, 0x28, 0xd9, 0x59, 0xf2, 0x81, 0x5b, 0x16, 0xf8, 0x17, 0x98], rfl⟩,
   ⟨[0x02, 0xc6, 0x04, 0x7f, 0x94, 0x41, 0xed, 0x7d, 0x6d, 0x30, 0x45,
     0x40, 0x6e, 0x95, 0xc0, 0x7c, 0xd8, 0x5c, 0x77, 0x8e, 0x4b, 0x8c,
     0xef, 0x3c, 0xa7, 0xab, 0xac, 0x09, 0xb9, 0x5c, 0x70, 0x9e, 0xe5], rfl⟩,
   ⟨[0x02, 0xf9, 0x30, 0x8a, 0x01, 0x92, 0x58, 0xc3, 0x10, 0x49, 0x34,
     0x4f, 0x85, 0xf8, 0x9d, 0x52, 0x29, 0xb5, 0x31, 0xc8, 0x45, 0x83,
     0x6f, 0x99, 0xb0, 0x86, 0x01, 0xf1, 0x13, 0xbc, 0xe0, 0x36, 0xf9], rfl⟩,
   ⟨[0x02, 0xe4, 0x93, 0xdb, 0xf1, 0xc1, 0x0d, 0x80, 0xf3, 0x58, 0x1e,
     0x49, 0x04, 0x93, 0x0b, 0x14, 0x04, 0xcc, 0x6c, 0x13, 0x90, 0x0e,
     0xe0, 0x75, 0x84, 0x74, 0xfa, 0x94, 0xab, 0xe8, 0xc4, 0xcd, 0x13], rfl⟩,
   ⟨[0x02, 0x2f, 0x8b, 0xde, 0x4d, 0x1a, 0x07, 0x20, 0x93, 0x55, 0xb4,
     0xa7, 0x25, 0x0a, 0x5c, 0x51, 0x28, 0xe8, 0x8b, 0x84, 0xbd, 0xdc,
     0x61, 0x9a, 0xb7, 0xcb, 0xa8, 0xd5, 0x69, 0xb2, 0x40, 0xef, 0xe4], rfl⟩,
   ⟨[0x03, 0xff, 0xf9, 0x7b, 0xd5, 0x75, 0x5e, 0xee, 0xa4, 0x20, 0x45,
     0x3a, 0x14, 0x35, 0x52, 0x35, 0xd3, 0x82, 0xf6, 0x47, 0x2f, 0x85,
     0x68, 0xa1, 0x8b, 0x2f, 0x05, 0x7a, 0x14, 0x60, 0x29, 0x75, 0x56], rfl⟩,
   ⟨[0x02, 0x5c, 0xbd, 0xf0, 0x64, 0x6e, 0x5d, 0xb4, 0xea, 0xa3, 0x98,
     0xf3, 0x65, 0xf2, 0xea, 0x7a, 0x0e, 0x3d, 0x41, 0x9b, 0x7e, 0x03,
     0x30, 0xe3, 0x9c, 0xe9, 0x2b, 0xdd, 0xed, 0xca, 0xc4, 0xf9, 0xbc], rfl⟩]

def localRegtestManagerSet : ManagerSet where
  m := localRegtestManagerSetM
  n := localRegtestManagerSetN
  pubkeys := localRegtestManagerSetPubkeys

def officialTestnetManagerSet1Hex : String :=
    "010507" ++
    "02349de56ca5dd06db8660419d6f150662e0f04febdbf6512d7cfe78c23b51491c" ++
    "035163bfd9518b0a536a17f330a1589fe21d7404b51f525a0a990a65a701952ebb" ++
    "036d40b0b85bca49e41f05a26950578bb13a424507ce34a80f83d3cf601e25818b" ++
    "0307681002ae28b9399e828d0f46d54c31d5d6ff187b3bdddc6615987a466455f5" ++
    "0375abc8955c8a8c875ee1febd157132adcc1b992d69a946e83485b8360e23a277" ++
    "030212d206546216917a75533ed6c975f8f794ba0d8a7fb84dedf65ebb20e64841" ++
    "037ff483369b52bd87a73f23413dd8fcace71de7f7823c5c9120f1e9cfe5733a88"

def officialTestnetManagerSet1 : Result ManagerSet := do
  let bytes ← context "decode official testnet manager set 1"
    ((hexDecode officialTestnetManagerSet1Hex).mapError ([·]))
  ManagerSet.parse bytes

def managerSetForIndex (index : UInt32) : Result ManagerSet :=
  if index = 0 then .ok localRegtestManagerSet
  else if index = 1 then officialTestnetManagerSet1
  else bail s!"unsupported manager set index {index}"

/-- One signer's signatures across all inputs, in input order. -/
structure SignerSignatures where
  signerIndex : UInt8
  inputSignatures : List ByteString
  deriving DecidableEq, Inhabited

structure ManagerSignatures where
  isComplete : Bool
  vaaHash : FixedBytes 32
  vaaId : String
  destinationChain : UInt16
  managerSetIndex : UInt32
  required : UInt32
  total : UInt32
  signatures : List SignerSignatures
  deriving DecidableEq

section
variable [Secp256k1]

/-- DER bytes followed by the hash type; only `SIGHASH_ALL` reaches ECDSA. -/
def verifyManagerSignature (pubkeyCompressed : FixedBytes 33) (sighash : FixedBytes 32)
    (derWithHashtype : ByteString) : Result Bool :=
  match derWithHashtype.getLast? with
  | none => bail "empty signature"
  | some hashType => do
    if hashType ≠ sighashAllType.toUInt8 then
      bail s!"manager signature hash type 0x{hexEncode [hashType]} is not SIGHASH_ALL (0x01)"
    let pk ← (Secp256k1.publicKeyFromSlice pubkeyCompressed).mapError (s!"invalid pubkey: {·}" :: [])
    let sig ← (Secp256k1.signatureFromDer derWithHashtype.dropLast).mapError
      (s!"invalid DER signature: {·}" :: [])
    return Secp256k1.verifyEcdsa sighash sig pk

abbrev PerInput := List (List (UInt8 × ByteString))

/-- The inner loop over one signer's signatures. -/
def pushSignatures (publicKey : FixedBytes 33) (signerIndex : UInt8)
    (sighashes : List (FixedBytes 32)) : ℕ → List ByteString → PerInput → Result PerInput
  | _, [], perInput => .ok perInput
  | index, signature :: rest, perInput => do
    let sighash ← orBail sighashes[index]? "index out of bounds"
    let valid ← verifyManagerSignature publicKey sighash signature
    if ¬ valid then bail s!"invalid Manager signature for input {index}"
    pushSignatures publicKey signerIndex sighashes (index + 1) rest
      (perInput.modify index (· ++ [(signerIndex, signature)]))

/-- The outer loop over the signers; `seen` is the set of indices met so far. -/
def collectSignatures (managerSet : ManagerSet) (sighashes : List (FixedBytes 32))
    (inputCount : ℕ) : List SignerSignatures → List UInt8 → PerInput → Result PerInput
  | [], _, perInput => .ok perInput
  | signer :: rest, seen, perInput => do
    if signer.signerIndex ∈ seen then bail s!"duplicate Manager signer {signer.signerIndex}"
    let publicKey ← orBail managerSet.pubkeys[signer.signerIndex.toNat]?
      "Manager signer index out of range"
    if signer.inputSignatures.length ≠ inputCount then
      bail s!"Manager signer {signer.signerIndex} returned the wrong input-signature count"
    let perInput ← pushSignatures publicKey signer.signerIndex sighashes 0 signer.inputSignatures
      perInput
    collectSignatures managerSet sighashes inputCount rest (signer.signerIndex :: seen) perInput

/-- Stable sort by signer index, then the first `m` signatures. -/
def selectSignatures (m : UInt8) (signatures : List (UInt8 × ByteString)) : List ByteString :=
  ((signatures.insertionSort fun a b => a.1 ≤ b.1).take m.toNat).map Prod.snd

/-- The writing loop. The transaction is returned with the verdict, since an error
after the first write would leave it changed. -/
def writeScriptSigs (m : UInt8) :
    ℕ → PerInput → UnsignedTransaction → Result Unit × UnsignedTransaction
  | _, [], transaction => (.ok (), transaction)
  | index, signatures :: rest, transaction =>
    if signatures.length < m.toNat then
      (bail s!"input {index} has {signatures.length} valid signatures, need {m}", transaction)
    else
      match transaction.applyScriptSig index (selectSignatures m signatures) with
      | .error error => (.error error, transaction)
      | .ok transaction => writeScriptSigs m (index + 1) rest transaction

/-- The verdict, and the transaction behind the `&mut` reference afterwards. -/
def applyManagerSignatures [Hashes] (transaction : UnsignedTransaction)
    (signatures : ManagerSignatures) (managerSet : ManagerSet) :
    Result Unit × UnsignedTransaction :=
  let collected := do
    let sighashes ← (List.range transaction.inputCount).mapM transaction.sighashAll
    collectSignatures managerSet sighashes transaction.inputCount signatures.signatures []
      (List.replicate transaction.inputCount [])
  match collected with
  | .error error => (.error error, transaction)
  | .ok perInput => writeScriptSigs managerSet.m 0 perInput transaction

end

end DogeOperator.Manager
