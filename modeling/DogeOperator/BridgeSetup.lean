import DogeOperator.Deposit
import DogeOperator.SolanaChain
import DogeOperator.Withdraw

/-! Bringing the bridge up: the operations that the setup commands share, and the one-shot command that
creates the mint under the bridge's authority and initializes the bridge state. -/
namespace DogeOperator.BridgeSetup
open Bytes Outcome Crypto Network Manager Records Json Operations Solana Withdraw Deposit SolanaChain

/-- The bridge's own crates: initialization data, the header that is used without any, and the hash of
a custody script configuration. -/
class BridgeCore where
  instructionDataFromJson : ByteString → Except String InitializeBridgeParams
  defaultHeader : PsyBridgeHeader
  /-- `CustodyScriptConfig::try_from_manager_set` for a profile, and the hash of what it gives. -/
  custodyConfigHash : (profile : UInt8 × List (FixedBytes 33)) → (emitter : Pubkey) → (m : UInt8) →
    (pubkeys : List (FixedBytes 33)) → Except String (FixedBytes 32)

/-- `serde_json`, and the keypair that a byte array stands for. -/
class SerdeJson where
  fromSlice : ByteString → Decoded Value
  keypairFromBytes : ByteString → Except String Keypair

/-- What the client library initializes the bridge with. -/
structure BridgeClientConfig where
  rpcUrl : String
  bridgeState : Pubkey
  operator : Keypair
  payer : Keypair
  programId : Pubkey
  wormholeCoreProgram : Pubkey
  wormholeShimProgram : Pubkey
  dogeMint : Pubkey

/-- The client library, by what its initialization may do when it succeeds. -/
class BridgeClient where
  Initializes : BridgeClientConfig → InitializeBridgeParams → Chain → Chain → Prop

/-- The client has the bridge program initialize what it was configured with. -/
class LawfulBridgeClient [ChainPrograms] [BridgeClient] : Prop where
  initializes {config : BridgeClientConfig} {params : InitializeBridgeParams} {c c' : Chain}
    (h : BridgeClient.Initializes config params c c') :
    ∃ signers feeSpender, ChainPrograms.Effect signers (.initializeBridge config.bridgeState
      config.payer.pubkey config.operator.pubkey feeSpender config.dogeMint params) c c'

inductive SetupOp
  | readKeypairFile (path : String)
  | newKeypair
  | pathExists (path : String)
  | createDirectories (path : String)
  | readDirectory (path : String)
  | saveKeypair (path : String) (keypair : Keypair)
  | readFile (path : String)
  | readLine
  | writeOutput (path : String) (output : Value)
  | getAccount (address : Pubkey)
  | getBalance (address : Pubkey)
  /-- The command line tool, whose failure is only reported. -/
  | airdrop (recipient : Pubkey) (rpcUrl : String)
  | getMinimumBalanceForRentExemption (size : ℕ)
  | getLatestBlockhash
  | sendAndConfirmTransaction (transaction : Transaction)
  | createBridgeClient (config : BridgeClientConfig)
  | initializeBridge (config : BridgeClientConfig) (params : InitializeBridgeParams)

@[reducible] def SetupOp.Answer : SetupOp → Type
  | readKeypairFile _ => Keypair
  | newKeypair => Keypair
  | pathExists _ => Bool
  | createDirectories _ => Unit
  | readDirectory _ => List String
  | saveKeypair _ _ => Unit
  | readFile _ => ByteString
  | readLine => String
  | writeOutput _ _ => Unit
  | getAccount _ => Unit
  | getBalance _ => UInt64
  | airdrop _ _ => Unit
  | getMinimumBalanceForRentExemption _ => UInt64
  | getLatestBlockhash => FixedBytes 32
  | sendAndConfirmTransaction _ => SolanaSignature
  | createBridgeClient _ => Unit
  | initializeBridge _ _ => SolanaSignature

abbrev Setup (α : Type) := Program SetupOp.Answer ErrorChain α

def perform (op : SetupOp) : Setup op.Answer := Program.invoke op

/-- `with_context` -/
def within {α : Type} (message : String) (p : Setup α) : Setup α := p.mapError (message :: ·)

def bailWhen (condition : Prop) [Decidable condition] (message : String) : Setup Unit :=
  .done (if condition then bail message else .ok ())

/-- `is_ok` -/
def succeeds {α : Type} (p : Setup α) : Setup Bool := do
  let result ← p.attempt
  return result.isOk

def readKeypairFile (path failure : String) : Setup Keypair :=
  (perform (.readKeypairFile path)).mapError fun error => [s!"{failure}: {error.headD default}"]

def readKeypair (path role : String) : Setup Keypair :=
  readKeypairFile path s!"read {role} keypair {path}"

/-- Instructions that the payer pays for and signs, with the other signers. -/
def signedTransaction (payer : Keypair) (signers : List Keypair) (instructions : List Instruction)
    (blockhash : FixedBytes 32) : Transaction where
  instructions
  payer := payer.pubkey
  signers := (payer :: signers).map (·.pubkey)
  blockhash

end DogeOperator.BridgeSetup

namespace DogeOperator.InitBridge
open Bytes Outcome Crypto Network Manager Records Operations Solana Withdraw Deposit SolanaChain
  BridgeSetup

structure Args where
  runtimeNetwork : RuntimeNetwork
  solanaRpcUrl : String
  operatorKeypair : String
  payerKeypair : String
  dogeBridgeProgram : Pubkey
  recipientKeypair : Option String
  dogeMintKeypair : Option String
  dogeConfig : Option String
  wormholeCoreProgram : Pubkey
  wormholeShimProgram : Pubkey

section
variable [SolanaSdk] [UrlParser] [CustodyProfiles] [BridgeCore] [TokenPrograms]

def validateNetworkBoundary (args : Args) : Result Unit := do
  args.runtimeNetwork.validateRemoteUrl "Solana RPC" args.solanaRpcUrl
  args.runtimeNetwork.validateWormholePrograms (SolanaSdk.pubkeyToString args.wormholeCoreProgram)
    (SolanaSdk.pubkeyToString args.wormholeShimProgram)

def defaultInitializeParams : InitializeBridgeParams where
  bridgeHeader := BridgeCore.defaultHeader
  custodianWalletConfigHash := List.Vector.replicate 32 1
  startReturnTxoOutput := { sighash := List.Vector.replicate 32 0, outputIndex := 0, amountSats := 0 }
  configParams := {
    depositFeeRateNumerator := 0
    depositFeeRateDenominator := 100
    withdrawalFeeRateNumerator := 2
    withdrawalFeeRateDenominator := 100
    depositFlatFeeSats := 0
    withdrawalFlatFeeSats := 1000 }

/-- The hash that a public bridge has to be initialized with. -/
def expectedConfigHash (program : Pubkey) : Result (FixedBytes 32) := do
  let managerSet ← context "parse official testnet manager set 1" officialTestnetManagerSet1
  context "official testnet manager set 1 does not match the custody profile"
    (orFail (BridgeCore.custodyConfigHash CustodyProfiles.officialTestnet
      (bridgeStateAddress program) managerSet.m managerSet.pubkeys))

/-- Public initialization data carries the hash of the official custody. -/
def checkInstructionData (args : Args) (data : InitializeBridgeParams) : Result Unit :=
  match args.runtimeNetwork with
  | .localhost => .ok ()
  | .devnet => do
    let expected ← expectedConfigHash args.dogeBridgeProgram
    if data.custodianWalletConfigHash ≠ expected then
      bail s!"--network devnet requires official Dogecoin Manager set 1 config hash {hexEncode expected.toList} for bridge PDA {SolanaSdk.pubkeyToString (bridgeStateAddress args.dogeBridgeProgram)}; got {hexEncode data.custodianWalletConfigHash.toList}"

def initializeParams (args : Args) : Setup InitializeBridgeParams :=
  match args.dogeConfig with
  | some path => do
    let bytes ← within s!"read Dogecoin initialization data {path}" (perform (.readFile path))
    let data ← context s!"parse {path} as InitializeBridgeInstructionDataDoge JSON"
      (orFail (BridgeCore.instructionDataFromJson bytes))
    checkInstructionData args data
    return data
  | none => do
    bailWhen (¬ args.runtimeNetwork.isLocalhost)
      "--doge-config is required with --network devnet; localhost defaults are forbidden on public state"
    return defaultInitializeParams

/-- An account that is already there is taken as it is. -/
def createDogeMintIfNeeded (payer mintKeypair : Keypair) (mintAuthority : Pubkey) : Setup Unit := do
  let mint := mintKeypair.pubkey
  if ← succeeds (perform (.getAccount mint)) then
    return ()
  let rent ← within "mint rent exemption" (perform (.getMinimumBalanceForRentExemption mintLen))
  let createIx := Instruction.createAccount payer.pubkey mint rent mintLen TokenPrograms.tokenProgram
  let initIx := Instruction.initializeMint mint mintAuthority none 8
  let blockhash ← perform .getLatestBlockhash
  let _signature ← within "create DOGE mint transaction" (perform (.sendAndConfirmTransaction
    (signedTransaction payer [mintKeypair] [createIx, initIx] blockhash)))

def ensureRecipientAta (payer : Keypair) (owner dogeMint : Pubkey) : Setup Pubkey := do
  let ata := TokenPrograms.associatedTokenAddress owner dogeMint
  if ← succeeds (perform (.getAccount ata)) then
    return ata
  let ix := Instruction.createAssociatedTokenAccount payer.pubkey owner dogeMint
  let blockhash ← perform .getLatestBlockhash
  let _signature ← within "create recipient ATA" (perform (.sendAndConfirmTransaction
    (signedTransaction payer [] [ix] blockhash)))
  return ata

/-- The mint's identity: the file's, or on the local network a new one. -/
def mintKeypair (args : Args) : Setup Keypair :=
  match args.dogeMintKeypair with
  | some path => readKeypair path "doge mint"
  | none => perform .newKeypair

def openRecipient (args : Args) (payer : Keypair) (dogeMint : Pubkey) : Setup Unit :=
  match args.recipientKeypair with
  | some path => do
    let recipient ← readKeypair path "recipient"
    let _recipientAta ← ensureRecipientAta payer recipient.pubkey dogeMint
    return ()
  | none => return ()

def run (args : Args) : Setup Unit := do
  validateNetworkBoundary args
  bailWhen (¬ args.runtimeNetwork.isLocalhost ∧ args.dogeMintKeypair = none)
    "--doge-mint-keypair is required with --network devnet; an ephemeral public mint identity is forbidden"
  let params ← initializeParams args
  let operator ← readKeypair args.operatorKeypair "operator"
  let payer ← readKeypair args.payerKeypair "payer"
  let bridgeState := bridgeStateAddress args.dogeBridgeProgram
  let initialized ← succeeds (perform (.getAccount bridgeState))
  bailWhen (initialized = true)
    s!"bridge state account already exists at {SolanaSdk.pubkeyToString bridgeState}; initialize can only run once"
  let mintKeypair ← mintKeypair args
  let dogeMint := mintKeypair.pubkey
  createDogeMintIfNeeded payer mintKeypair bridgeState
  let config : BridgeClientConfig := {
    rpcUrl := args.solanaRpcUrl, bridgeState, operator, payer, programId := args.dogeBridgeProgram
    wormholeCoreProgram := args.wormholeCoreProgram, wormholeShimProgram := args.wormholeShimProgram
    dogeMint }
  within "create bridge client" (perform (.createBridgeClient config))
  let _initSig ← within "initialize_bridge" (perform (.initializeBridge config params))
  openRecipient args payer dogeMint

end

end DogeOperator.InitBridge
