import DogeOperator.Confirm
import DogeOperator.Operations
import DogeOperator.PrepareRecovery

/-! The Solana side of a withdrawal: reading the bridge state, posting generic buffers, funding
the fee accounts, and waiting for a transaction and its Wormhole message. -/
namespace DogeOperator.Solana
open Bytes Outcome Network Prepare Batches Operations

structure WithdrawalSnapshot where
  nextRequestedWithdrawalsTreeIndex : UInt64
  requestedWithdrawalsTreeRoot : FixedBytes 32

structure RequestedWithdrawalsTree where
  nextIndex : UInt64
  root : FixedBytes 32

structure BridgeProgramState where
  withdrawalSnapshot : WithdrawalSnapshot
  requestedWithdrawalsTree : RequestedWithdrawalsTree

structure SnapshotWithdrawalsInstructionData where
  expectedRequestStart : UInt64
  expectedRequestEnd : UInt64
  managerSetIndex : UInt32
  expectedWormholeSequence : UInt64
  expectedRequestedTreeRoot : FixedBytes 32
  expectedSnapshotRoot : FixedBytes 32
  expectedPayloadHash : FixedBytes 32

structure SnapshotAccounts where
  dogeBridgeProgram : Pubkey
  operator : Pubkey
  utx0Buffer : Pubkey
  proofBuffer : Pubkey
  managerSetAccount : Pubkey
  wormholeShimProgram : Pubkey
  wormholeCoreProgram : Pubkey

structure PsyWithdrawalRequest where
  recipientAddress : FixedBytes 20
  amountSats : UInt64
  addressType : UInt32

/-- The Solana SDK and the bridge client library: keys, text forms, wire formats, instruction
builders and the snapshot range proof. -/
class SolanaSdk where
  findProgramAddress : List ByteString → Pubkey → Pubkey
  pubkeyToString : Pubkey → String
  pubkeyFromStr : String → Except String Pubkey
  signatureToString : SolanaSignature → String
  signatureFromStr : String → Except String SolanaSignature
  serializeTransaction : SolanaTransaction → Except String ByteString
  deserializeTransaction : ByteString → Except String SolanaTransaction
  decodeBridgeState : ByteString → Except String BridgeProgramState
  Instruction : Type
  createAccount : (payer account : Pubkey) → (lamports space : UInt64) → (owner : Pubkey) →
    Instruction
  transfer : (source destination : Pubkey) → (lamports : UInt64) → Instruction
  requestHeapFrame : UInt32 → Instruction
  setComputeUnitLimit : UInt32 → Instruction
  genericBufferInit : (program account writer : Pubkey) → (targetSize : UInt32) → Instruction
  genericBufferWrite : (program account writer : Pubkey) → (offset : UInt32) → ByteString →
    Instruction
  snapshotWithdrawals : SnapshotAccounts → SnapshotWithdrawalsInstructionData → Instruction
  newSignedWithPayer : List Instruction → Pubkey → List Keypair → FixedBytes 32 → SolanaTransaction
  fromTreeLeaves : List PsyWithdrawalRequest → (start stop : UInt64) → Option ByteString
  computeRoot : (start stop : UInt64) → ByteString → Option (FixedBytes 32)
  computePrefixRoot : (start stop : UInt64) → ByteString → Option (FixedBytes 32)

def delegatedManagerSetProgramId : String := "wdmsTJP6YnsfeQjPuuEzGCrHmZvTmNy8VkxMCK8JkBX"
def genericBufferHeaderSize : ℕ := 32
def genericBufferChunkSize : ℕ := 878
def snapshotComputeUnits : UInt32 := 1400000
def wormholeFeePrepayLamports : UInt64 := 1000

def asciiBytes (text : String) : ByteString := text.toUTF8.data.toList

def u32TryFrom (value : ℕ) : Result UInt32 :=
  if value < 2 ^ 32 then .ok (UInt32.ofNat value)
  else bail "out of range integral type conversion attempted"

def usesNoopShim (args : Args) : Bool := args.wormholeCoreProgram = args.wormholeShimProgram

/-- The payer first, then the other signers. -/
def transactionSigners (payer : Keypair) (extraSigners : List Keypair) : List Keypair :=
  payer :: extraSigners.filter fun signer => signer.pubkey ≠ payer.pubkey

section
variable [SolanaSdk]

def managerSetPda (managerSetIndex : UInt32) : Result Pubkey := do
  let program ← context "parse delegated Manager-set program ID"
    (orFail (SolanaSdk.pubkeyFromStr delegatedManagerSetProgramId))
  return SolanaSdk.findProgramAddress
    [asciiBytes "manager_set", u16Be dogecoinChainId, u32Be managerSetIndex] program

def readBridgeState (bridgeState owner : Pubkey) : Flow BridgeProgramState := do
  let account ← rpc (.getAccount bridgeState)
  bailIf (account.owner ≠ owner) "bridge state owner mismatch"
  (SolanaSdk.decodeBridgeState account.data).mapError (s!"decode bridge state: {·}" :: [])

def loadIndexedRequests (args : Args) (bridgeState : Pubkey) : Flow (List IndexedRequest) := do
  let records ← rpc (.streamHistory {
    rpcUrl := args.solanaRpcUrl
    dogeBridgeProgram := args.dogeBridgeProgram
    bridgeState
    pendingMintProgram := args.pendingMintProgram
    txoBufferProgram := args.txoBufferProgram
    includeWithdrawals := true
    includeManualDeposits := false })
  let requests := records.filterMap fun record =>
    match record with
    | .withdrawalRequest record => some record
    | .other => none
  return requests.mapIdx fun index record => { index := UInt64.ofNat index, record }

def signedSolanaTransaction (payer : Keypair) (instructions : List SolanaSdk.Instruction)
    (extraSigners : List Keypair) (blockhash : FixedBytes 32) : SolanaTransaction :=
  SolanaSdk.newSignedWithPayer instructions payer.pubkey (transactionSigners payer extraSigners)
    blockhash

def sendSolanaTransactionWithSigners (payer : Keypair) (instructions : List SolanaSdk.Instruction)
    (extraSigners : List Keypair) : Flow SolanaSignature := do
  let blockhash ← rpc .getLatestBlockhash
  rpc (.sendAndConfirmTransaction
    (signedSolanaTransaction payer instructions extraSigners blockhash))

def sendSolanaTransaction (payer : Keypair) (instructions : List SolanaSdk.Instruction) :
    Flow SolanaSignature := sendSolanaTransactionWithSigners payer instructions []

/-- One write per chunk, each at its offset. -/
def writeChunks (payer writer : Keypair) (programId account : Pubkey) :
    ℕ → List ByteString → Flow Unit
  | _, [] => return ()
  | index, chunk :: rest => do
    let offset ← u32TryFrom (index * genericBufferChunkSize)
    let write := SolanaSdk.genericBufferWrite programId account writer.pubkey offset chunk
    let _ ← sendSolanaTransactionWithSigners payer [write] [writer]
    writeChunks payer writer programId account (index + 1) rest

def createGenericBuffer (payer writer : Keypair) (programId : Pubkey) (data : ByteString) :
    Flow Pubkey := do
  let targetSize ← context "generic-buffer payload exceeds u32" (u32TryFrom data.length)
  let account ← system .newKeypair
  let rent ← rpc (.getMinimumBalanceForRentExemption genericBufferHeaderSize)
  let create := SolanaSdk.createAccount payer.pubkey account.pubkey rent
    (UInt64.ofNat genericBufferHeaderSize) programId
  let init := SolanaSdk.genericBufferInit programId account.pubkey writer.pubkey targetSize
  let _ ← sendSolanaTransactionWithSigners payer [create, init] [account, writer]
  writeChunks payer writer programId account.pubkey 0 (data.toChunks genericBufferChunkSize)
  return account.pubkey

def verifyGenericBuffer (address owner writer : Pubkey) (payload : ByteString) : Flow Unit := do
  let account ← rpc (.getAccount address)
  bailIf (account.owner ≠ owner ∨
      account.data.length ≠ genericBufferHeaderSize + payload.length ∨
      account.data.take genericBufferHeaderSize ≠ writer.toList ∨
      account.data.drop genericBufferHeaderSize ≠ payload)
    "generic buffer does not contain the exact UTX0 payload"

def ensureFeeCollectorFunding (payer : Keypair) (feeCollector : Pubkey) : Flow Unit := do
  let minimum ← rpc (.getMinimumBalanceForRentExemption 0)
  let balance ← rpc (.getBalance feeCollector)
  if balance ≥ minimum then
    return ()
  else
    let transfer := SolanaSdk.transfer payer.pubkey feeCollector (minimum - balance)
    let _ ← sendSolanaTransaction payer [transfer]
    return ()

def ensureOperatorFeeFunding (payer operator : Keypair) : Flow Unit := do
  let balance ← rpc (.getBalance operator.pubkey)
  let rent ← rpc (.getMinimumBalanceForRentExemption 0)
  let required ← orBail (checkedAdd rent wormholeFeePrepayLamports)
    "operator fee-funding requirement overflow"
  if balance ≥ required then
    return ()
  else
    bailIf (payer.pubkey = operator.pubkey)
      s!"operator requires {required - balance} more lamports to post the snapshot VAA"
    let transfer := SolanaSdk.transfer payer.pubkey operator.pubkey (required - balance)
    let _ ← sendSolanaTransaction payer [transfer]
    return ()

def readWormholeSequence (emitter wormholeCoreProgram : Pubkey) : Flow (Option UInt64) := do
  let sequence := SolanaSdk.findProgramAddress [asciiBytes "Sequence", emitter.toList]
    wormholeCoreProgram
  let answer ← rpc (.getAccountWithCommitment sequence)
  match answer with
  | none => return none
  | some account =>
    bailIf (account.owner ≠ wormholeCoreProgram ∨ account.data.length ≠ 8)
      s!"invalid Wormhole sequence account {SolanaSdk.pubkeyToString sequence}"
    return some (u64OfLe account.data)

/-- Poll until the metadata is readable; the clock allows `attempts` more. -/
def pollTransactionMeta (signature : SolanaSignature) : ℕ → Flow ConfirmedTransaction
  | 0 => do
    match ← (rpc (.getTransaction signature)).attempt with
    | .ok transaction => return transaction
    | .error _ =>
      bail s!"transaction {SolanaSdk.signatureToString signature} metadata was not readable before timeout"
  | attempts + 1 => do
    match ← (rpc (.getTransaction signature)).attempt with
    | .ok transaction => return transaction
    | .error _ => pollTransactionMeta signature attempts

def waitForTransactionMeta (signature : SolanaSignature) (timeoutMs : ℕ) :
    Flow ConfirmedTransaction := do
  let attempts ← system (.attemptsWithin timeoutMs 250)
  pollTransactionMeta signature attempts

/-- At most `pages` pages of the shim history, newest first. -/
def searchShimHistory (config : NoopShimMonitorConfig) (signature : SolanaSignature) :
    ℕ → Option SolanaSignature → Flow NoopShimWithdrawalMessage
  | 0, _ => bail s!"snapshot signature {SolanaSdk.signatureToString signature} not found in Wormhole shim history"
  | pages + 1, before => do
    let page ← rpc (.getWithdrawals config before 50)
    match page.messages.find? fun message => message.signature = signature with
    | some message => return message
    | none =>
      if page.hasMore then searchShimHistory config signature pages page.nextCursor
      else bail s!"snapshot signature {SolanaSdk.signatureToString signature} not found in Wormhole shim history"

def findNoopMessage (args : Args) (bridgeState : Pubkey) (signature : SolanaSignature) :
    Flow NoopShimWithdrawalMessage :=
  searchShimHistory {
    rpcUrl := args.solanaRpcUrl
    bridgeState
    noopShimProgramId := args.wormholeShimProgram
    batchSize := 50 } signature 10 none

end

end DogeOperator.Solana

/-! The local network of the tests, which knows one snapshot transaction. -/

namespace DogeOperator.Localnet
open Bytes Network Prepare Operations Solana Digests

def localSignature : SolanaSignature := List.Vector.replicate 64 0x51

def localOperator : Keypair where
  pubkey := List.Vector.replicate 32 0x0a
  secret := List.Vector.replicate 32 0x0b

/-- The header and the account keys of a message without instructions. -/
def localTransaction : SolanaTransaction where
  signatures := [localSignature]
  recentBlockhash := List.Vector.replicate 32 0x77
  message := [1, 0, 0, 1] ++ localOperator.pubkey.toList

/-- The signatures, then the message with its blockhash and no instructions. -/
def transactionBytes (transaction : SolanaTransaction) : ByteString :=
  UInt8.ofNat transaction.signatures.length ::
    (transaction.signatures.flatMap (·.toList) ++ transaction.message ++
      transaction.recentBlockhash.toList ++ [0])

/-- A stand-in for the Solana SDK that can read one transaction and its signature. The bridge state
starts with the snapshot cursor. -/
scoped instance : SolanaSdk where
  findProgramAddress _ _ := localBridgeState
  pubkeyToString pubkey := base58Encode pubkey.toList
  pubkeyFromStr text :=
    if 44 < text.length then .error "String is the wrong size"
    else match base58Decode text with
      | none => .error "Invalid Base58 string"
      | some bytes => if h : bytes.length = 32 then .ok ⟨bytes, h⟩ else .error "String is the wrong size"
  signatureToString signature := base58Encode signature.toList
  signatureFromStr text :=
    if text = base58Encode localSignature.toList then .ok localSignature
    else .error "failed to decode string to signature"
  serializeTransaction transaction := .ok (transactionBytes transaction)
  deserializeTransaction bytes :=
    if bytes = transactionBytes localTransaction then .ok localTransaction
    else .error "io error: unexpected end of file"
  decodeBridgeState data := .ok {
    withdrawalSnapshot := {
      nextRequestedWithdrawalsTreeIndex := u64OfLe (data.take 8)
      requestedWithdrawalsTreeRoot := List.Vector.replicate 32 0 }
    requestedWithdrawalsTree := { nextIndex := 0, root := List.Vector.replicate 32 0 } }
  Instruction := Unit
  createAccount _ _ _ _ _ := ()
  transfer _ _ _ := ()
  requestHeapFrame _ := ()
  setComputeUnitLimit _ := ()
  genericBufferInit _ _ _ _ := ()
  genericBufferWrite _ _ _ _ _ := ()
  snapshotWithdrawals _ _ := ()
  newSignedWithPayer _ _ _ _ := localTransaction
  fromTreeLeaves _ _ _ := none
  computeRoot _ _ _ := none
  computePrefixRoot _ _ _ := none

/-- The account of the bridge state at a cursor. -/
def bridgeAccount (cursor : UInt64) : Account where
  owner := localArgs.dogeBridgeProgram
  data := u64Le cursor

theorem bridgeAccount_decodes (cursor : UInt64) : ∃ state,
    SolanaSdk.decodeBridgeState (bridgeAccount cursor).data = .ok state ∧
      state.withdrawalSnapshot.nextRequestedWithdrawalsTreeIndex = cursor := by
  refine ⟨_, rfl, ?_⟩
  have hdata : (u64Le cursor).take 8 = u64Le cursor := List.take_of_length_le (by simp)
  exact (congrArg u64OfLe hdata).trans (u64OfLe_u64Le cursor)

end DogeOperator.Localnet
