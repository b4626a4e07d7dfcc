import DogeOperator.BridgeSetup

/-! The commands of the bridge command line tool that write accounts: create the mint, initialize the
bridge from a configuration or from Dogecoin data, and open the token accounts of the users. -/

namespace DogeOperator.CreateDogemint
open Bytes Outcome Network Operations Solana Withdraw SolanaChain BridgeSetup

structure Args where
  mintAuthority : Option String
  decimals : UInt8
  output : Option String
  bridgePdaAuthority : Bool
  tokenName : String
  tokenSymbol : String
  tokenUri : String
  skipMetadata : Bool

/-- A keypair file, or the one of the Solana command line tool. -/
def loadKeypair (role : String) (home : Option String) : Option String → Setup Keypair
  | some path => readKeypairFile path s!"Failed to read {role} from {path.quote}"
  | none => do
    let home ← orBail home "Could not determine home directory"
    let path := s!"{home}/.config/solana/id.json"
    readKeypairFile path
      s!"Failed to read {role} from {path.quote}. Use --keypair to specify a path"

section
variable [SolanaSdk] [TokenPrograms]

/-- Create the mint under an authority that can sign. -/
def createMint (payer mintKeypair : Keypair) (authority : Pubkey) (decimals : UInt8) :
    Setup SolanaSignature := do
  let mintRent ← within "Failed to get rent exemption"
    (perform (.getMinimumBalanceForRentExemption mintLen))
  let createAccountIx := Instruction.createAccount payer.pubkey mintKeypair.pubkey mintRent mintLen
    TokenPrograms.tokenProgram
  let initMintIx := Instruction.initializeMint mintKeypair.pubkey authority none decimals
  let blockhash ← within "Failed to get latest blockhash" (perform .getLatestBlockhash)
  within "Failed to create DOGE mint" (perform (.sendAndConfirmTransaction
    (signedTransaction payer [mintKeypair] [createAccountIx, initMintIx] blockhash)))

def createMetadataIx (payer mint authority : Pubkey) (data : TokenMetadata) : Instruction :=
  .createMetadata (TokenPrograms.metadataAddress mint) mint authority payer authority data

/-- Hand the mint over; the payer is its authority so far. -/
def transferAuthority (payer : Keypair) (mint newAuthority : Pubkey) (failure : String) :
    Setup Unit := do
  let blockhash ← within "Failed to get latest blockhash for authority transfer"
    (perform .getLatestBlockhash)
  let _signature ← within failure (perform (.sendAndConfirmTransaction
    (signedTransaction payer [] [.setMintAuthority mint (some newAuthority) payer.pubkey] blockhash)))

/-- The authority that the mint is created under: the payer while the bridge cannot sign. -/
def initialAuthority (args : Args) (payer : Keypair) : Setup Pubkey :=
  if args.bridgePdaAuthority then return payer.pubkey
  else
    match args.mintAuthority with
    | some path => do
      let authority ← readKeypairFile path
        s!"Failed to read mint authority keypair from {path.quote}"
      return authority.pubkey
    | none => return payer.pubkey

def metadataSigner (args : Args) (payer : Keypair) : Setup Keypair :=
  if args.bridgePdaAuthority then return payer
  else
    match args.mintAuthority with
    | some path => readKeypairFile path "Failed to read mint authority keypair"
    | none => return payer

def createMetadata (args : Args) (payer : Keypair) (mint : Pubkey) : Setup Unit :=
  if args.skipMetadata then return ()
  else do
    let signer ← metadataSigner args payer
    let data : TokenMetadata :=
      { name := args.tokenName, symbol := args.tokenSymbol, uri := args.tokenUri }
    let blockhash ← within "Failed to get latest blockhash" (perform .getLatestBlockhash)
    let _signature ← within "Failed to create token metadata" (perform (.sendAndConfirmTransaction
      (signedTransaction payer [signer] [createMetadataIx payer.pubkey mint signer.pubkey data]
        blockhash)))

def handOver (dogeBridgeProgram : Pubkey) (args : Args) (payer : Keypair) (mint : Pubkey) :
    Setup Unit :=
  if args.bridgePdaAuthority then
    transferAuthority payer mint (bridgeStateAddress dogeBridgeProgram)
      "Failed to transfer mint authority"
  else return ()

def execute (dogeBridgeProgram : Pubkey) (home keypair : Option String) (args : Args) :
    Setup Unit := do
  let payer ← loadKeypair "keypair" home keypair
  let mintKeypair ← perform .newKeypair
  let mint := mintKeypair.pubkey
  let initialMintAuthority ← initialAuthority args payer
  let _signature ← createMint payer mintKeypair initialMintAuthority args.decimals
  createMetadata args payer mint
  handOver dogeBridgeProgram args payer mint
  match args.output with
  | some path =>
    within s!"Failed to write mint keypair to {path.quote}" (perform (.saveKeypair path mintKeypair))
  | none => return ()

end

end DogeOperator.CreateDogemint

namespace DogeOperator.InitializeBridge
open Bytes Outcome Network Json Operations Solana Withdraw SolanaChain BridgeSetup CreateDogemint

structure TipStateConfig where
  blockHash : String
  blockMerkleTreeRoot : String
  blockTime : UInt32
  blockHeight : UInt32

structure StateCommitmentConfig where
  blockHash : String
  blockMerkleTreeRoot : String
  pendingMintsFinalizedHash : String
  txoOutputListFinalizedHash : String
  autoClaimedTxoTreeRoot : String
  autoClaimedDepositsTreeRoot : String
  autoClaimedDepositsNextIndex : UInt32
  blockHeight : UInt32

structure BridgeHeaderConfig where
  tipState : TipStateConfig
  finalizedState : StateCommitmentConfig
  bridgeStateHash : String
  lastRollbackAtSecs : UInt32
  pausedUntilSecs : UInt32
  totalFinalizedFeesCollectedChainHistory : UInt64

structure ReturnTxOutputConfig where
  sighash : String
  outputIndex : UInt64
  amountSats : UInt64

structure InitializeBridgeConfigFile where
  operatorPubkey : String
  feeSpenderPubkey : String
  dogeMint : String
  bridgeHeader : BridgeHeaderConfig
  startReturnTxoOutput : ReturnTxOutputConfig
  configParams : PsyBridgeConfig
  custodianWalletConfigHash : String

def defaultFeeDenominator : UInt64 := 10000

def TipStateConfig.fromJson (value : Value) : Decoded TipStateConfig := do
  let fields ← asFields ["block_hash", "block_merkle_tree_root", "block_time", "block_height"] value
  let blockHash ← required "block_hash" asString fields
  let blockMerkleTreeRoot ← required "block_merkle_tree_root" asString fields
  let blockTime ← required "block_time" asU32 fields
  let blockHeight ← required "block_height" asU32 fields
  return { blockHash, blockMerkleTreeRoot, blockTime, blockHeight }

def StateCommitmentConfig.fromJson (value : Value) : Decoded StateCommitmentConfig := do
  let fields ← asStruct ["block_hash", "block_merkle_tree_root", "pending_mints_finalized_hash",
    "txo_output_list_finalized_hash", "auto_claimed_txo_tree_root", "auto_claimed_deposits_tree_root",
    "auto_claimed_deposits_next_index", "block_height"] value
  let blockHash ← required "block_hash" asString fields
  let blockMerkleTreeRoot ← required "block_merkle_tree_root" asString fields
  let pendingMintsFinalizedHash ← defaulted ["pending_mints_finalized_hash"] "" asString fields
  let txoOutputListFinalizedHash ← defaulted ["txo_output_list_finalized_hash"] "" asString fields
  let autoClaimedTxoTreeRoot ← defaulted ["auto_claimed_txo_tree_root"] "" asString fields
  let autoClaimedDepositsTreeRoot ← defaulted ["auto_claimed_deposits_tree_root"] "" asString fields
  let autoClaimedDepositsNextIndex ← defaulted ["auto_claimed_deposits_next_index"] 0 asU32 fields
  let blockHeight ← required "block_height" asU32 fields
  return { blockHash, blockMerkleTreeRoot, pendingMintsFinalizedHash, txoOutputListFinalizedHash,
           autoClaimedTxoTreeRoot, autoClaimedDepositsTreeRoot, autoClaimedDepositsNextIndex,
           blockHeight }

def BridgeHeaderConfig.fromJson (value : Value) : Decoded BridgeHeaderConfig := do
  let fields ← asStruct ["tip_state", "finalized_state", "bridge_state_hash",
    "last_rollback_at_secs", "paused_until_secs", "total_finalized_fees_collected_chain_history"] value
  let tipState ← required "tip_state" TipStateConfig.fromJson fields
  let finalizedState ← required "finalized_state" StateCommitmentConfig.fromJson fields
  let bridgeStateHash ← defaulted ["bridge_state_hash"] "" asString fields
  let lastRollbackAtSecs ← defaulted ["last_rollback_at_secs"] 0 asU32 fields
  let pausedUntilSecs ← defaulted ["paused_until_secs"] 0 asU32 fields
  let totalFinalizedFeesCollectedChainHistory ←
    defaulted ["total_finalized_fees_collected_chain_history"] 0 asU64 fields
  return { tipState, finalizedState, bridgeStateHash, lastRollbackAtSecs, pausedUntilSecs,
           totalFinalizedFeesCollectedChainHistory }

def ReturnTxOutputConfig.fromJson (value : Value) : Decoded ReturnTxOutputConfig := do
  let fields ← asFields ["sighash", "output_index", "amount_sats"] value
  let sighash ← required "sighash" asString fields
  let outputIndex ← required "output_index" asU64 fields
  let amountSats ← required "amount_sats" asU64 fields
  return { sighash, outputIndex, amountSats }

def configParamsFromJson (value : Value) : Decoded PsyBridgeConfig := do
  let fields ← asStruct ["deposit_fee_rate_numerator", "deposit_fee_rate_denominator",
    "withdrawal_fee_rate_numerator", "withdrawal_fee_rate_denominator", "deposit_flat_fee_sats",
    "withdrawal_flat_fee_sats"] value
  let depositFeeRateNumerator ← defaulted ["deposit_fee_rate_numerator"] 0 asU64 fields
  let depositFeeRateDenominator ←
    defaulted ["deposit_fee_rate_denominator"] defaultFeeDenominator asU64 fields
  let withdrawalFeeRateNumerator ← defaulted ["withdrawal_fee_rate_numerator"] 0 asU64 fields
  let withdrawalFeeRateDenominator ←
    defaulted ["withdrawal_fee_rate_denominator"] defaultFeeDenominator asU64 fields
  let depositFlatFeeSats ← defaulted ["deposit_flat_fee_sats"] 0 asU64 fields
  let withdrawalFlatFeeSats ← defaulted ["withdrawal_flat_fee_sats"] 0 asU64 fields
  return { depositFeeRateNumerator, depositFeeRateDenominator, withdrawalFeeRateNumerator,
           withdrawalFeeRateDenominator, depositFlatFeeSats, withdrawalFlatFeeSats }

def InitializeBridgeConfigFile.fromJson (value : Value) : Decoded InitializeBridgeConfigFile := do
  let fields ← asFields ["operator_pubkey", "fee_spender_pubkey", "doge_mint", "bridge_header",
    "start_return_txo_output", "config_params", "custodian_wallet_config_hash"] value
  let operatorPubkey ← required "operator_pubkey" asString fields
  let feeSpenderPubkey ← required "fee_spender_pubkey" asString fields
  let dogeMint ← required "doge_mint" asString fields
  let bridgeHeader ← required "bridge_header" BridgeHeaderConfig.fromJson fields
  let startReturnTxoOutput ← required "start_return_txo_output" ReturnTxOutputConfig.fromJson fields
  let configParams ← required "config_params" configParamsFromJson fields
  let custodianWalletConfigHash ← required "custodian_wallet_config_hash" asString fields
  return { operatorPubkey, feeSpenderPubkey, dogeMint, bridgeHeader, startReturnTxoOutput,
           configParams, custodianWalletConfigHash }

/-- `strip_prefix`, which takes the marker away once. -/
def stripHexMarker (text : String) : String :=
  match text.toList with
  | '0' :: 'x' :: rest => String.ofList rest
  | _ => text

/-- Nothing stands for zeros. -/
def parseHex32 (text : String) : Result (FixedBytes 32) := do
  let s := stripHexMarker text
  if s = "" then return List.Vector.replicate 32 0
  let bytes ← context s!"Invalid hex string: {s}" ((hexDecode s).mapError ([·]))
  orBail (toFixed? 32 bytes) s!"Expected 32 bytes, got {bytes.length} bytes for: {s}"

def buildBridgeHeader (config : BridgeHeaderConfig) : Result PsyBridgeHeader := do
  let tipBlockHash ← parseHex32 config.tipState.blockHash
  let tipMerkleTreeRoot ← parseHex32 config.tipState.blockMerkleTreeRoot
  let blockHash ← parseHex32 config.finalizedState.blockHash
  let blockMerkleTreeRoot ← parseHex32 config.finalizedState.blockMerkleTreeRoot
  let pendingMintsFinalizedHash ← parseHex32 config.finalizedState.pendingMintsFinalizedHash
  let txoOutputListFinalizedHash ← parseHex32 config.finalizedState.txoOutputListFinalizedHash
  let autoClaimedTxoTreeRoot ← parseHex32 config.finalizedState.autoClaimedTxoTreeRoot
  let autoClaimedDepositsTreeRoot ← parseHex32 config.finalizedState.autoClaimedDepositsTreeRoot
  let bridgeStateHash ← parseHex32 config.bridgeStateHash
  return {
    tipState := {
      blockHash := tipBlockHash
      blockMerkleTreeRoot := tipMerkleTreeRoot
      blockTime := config.tipState.blockTime
      blockHeight := config.tipState.blockHeight }
    finalizedState := {
      blockHash, blockMerkleTreeRoot, pendingMintsFinalizedHash, txoOutputListFinalizedHash
      autoClaimedTxoTreeRoot, autoClaimedDepositsTreeRoot
      autoClaimedDepositsNextIndex := config.finalizedState.autoClaimedDepositsNextIndex
      blockHeight := config.finalizedState.blockHeight }
    bridgeStateHash
    lastRollbackAtSecs := config.lastRollbackAtSecs
    pausedUntilSecs := config.pausedUntilSecs
    totalFinalizedFeesCollectedChainHistory := config.totalFinalizedFeesCollectedChainHistory }

def buildReturnTxoOutput (config : ReturnTxOutputConfig) : Result PsyReturnTxOutput := do
  let sighash ← parseHex32 config.sighash
  return { sighash, outputIndex := config.outputIndex, amountSats := config.amountSats }

structure Args where
  config : String
  operatorKeypair : Option String
  feeSpenderKeypair : Option String
  dogeMint : Option String
  yes : Bool

/-- Anything but `y` leaves everything as it is. -/
def confirmed (yes : Bool) : Setup Bool :=
  if yes then return true
  else do
    let input ← perform .readLine
    return eqIgnoreAsciiCase (Base64.trim input) "y"

section
variable [SolanaSdk] [SerdeJson]

/-- The keypair on the command line comes before the configuration. -/
def resolvePubkey (role field : String) (keypair : Option String) (configured : String) :
    Setup Pubkey :=
  match keypair with
  | some path => do
    let keypair ← readKeypairFile path s!"Failed to read {role} keypair from {path.quote}"
    return keypair.pubkey
  | none => context s!"Invalid {field} pubkey: {configured}" (orFail (SolanaSdk.pubkeyFromStr configured))

def resolveMint (override : Option String) (configured : String) : Result Pubkey :=
  let text := override.getD configured
  context s!"Invalid doge_mint pubkey: {text}" (orFail (SolanaSdk.pubkeyFromStr text))

def buildParams (config : InitializeBridgeConfigFile) : Result InitializeBridgeParams := do
  let bridgeHeader ← buildBridgeHeader config.bridgeHeader
  let startReturnTxoOutput ← buildReturnTxoOutput config.startReturnTxoOutput
  let hashBytes ← orFail (hexDecode config.custodianWalletConfigHash)
  let custodianWalletConfigHash ← orBail (toFixed? 32 hashBytes)
    "invalid length for custodian_wallet_config_hash"
  return { bridgeHeader, startReturnTxoOutput, configParams := config.configParams,
           custodianWalletConfigHash }

/-- What both initialization commands send last. -/
def sendInitialize (dogeBridgeProgram : Pubkey) (payer : Keypair) (operator feeSpender dogeMint : Pubkey)
    (params : InitializeBridgeParams) : Setup SolanaSignature := do
  let initIx := Instruction.initializeBridge (bridgeStateAddress dogeBridgeProgram) payer.pubkey operator
    feeSpender dogeMint params
  let blockhash ← within "Failed to get latest blockhash" (perform .getLatestBlockhash)
  within "Failed to initialize bridge" (perform (.sendAndConfirmTransaction
    (signedTransaction payer [] [initIx] blockhash)))

def execute (dogeBridgeProgram : Pubkey) (home keypair : Option String) (args : Args) :
    Setup Unit := do
  let payer ← loadKeypair "keypair" home keypair
  let content ← within s!"Failed to read config file: {args.config.quote}"
    (perform (.readFile args.config))
  let config ← context "Failed to parse config file as JSON"
    (orFail (SerdeJson.fromSlice content >>= InitializeBridgeConfigFile.fromJson))
  let operator ← resolvePubkey "operator" "operator" args.operatorKeypair config.operatorPubkey
  let feeSpender ← resolvePubkey "fee spender" "fee_spender" args.feeSpenderKeypair
    config.feeSpenderPubkey
  let dogeMint ← resolveMint args.dogeMint config.dogeMint
  let params ← buildParams config
  if ← confirmed args.yes then
    let _signature ← sendInitialize dogeBridgeProgram payer operator feeSpender dogeMint params

end

end DogeOperator.InitializeBridge

namespace DogeOperator.InitializeFromDoge
open Bytes Outcome Network Json Operations Solana Withdraw SolanaChain BridgeSetup CreateDogemint
  InitializeBridge

def dogeTokenMetadata : TokenMetadata where
  name := "Dogecoin"
  symbol := "PDOGE"
  uri := "https://fs.psydoge.com/metadata/pdoge.json"

structure Args where
  config : String
  keysDir : String
  decimals : UInt8
  output : String
  yes : Bool
  airdrop : Bool

def loadKeypairFromPath (path : String) : Setup Keypair :=
  readKeypairFile path s!"Failed to read keypair from {path.quote}"

/-- `exists` is false where the path cannot be examined. -/
def fileExists (path : String) : Setup Bool := do
  let found ← (perform (.pathExists path)).attempt
  return found.toOption.getD false

def loadOrCreateKeypair (keysDir name : String) : Setup Keypair := do
  let path := s!"{keysDir}/{name}.json"
  if ← fileExists path then
    readKeypairFile path s!"Failed to read {name} keypair from {path.quote}"
  else
    let keypair ← perform .newKeypair
    within s!"Failed to write {name} keypair to {path.quote}" (perform (.saveKeypair path keypair))
    return keypair

/-- The key of the mint is kept before the mint is made. -/
def loadOrCreateMintKeypair (path : String) : Setup Keypair := do
  if ← fileExists path then
    readKeypairFile path s!"Failed to read mint keypair from {path.quote}"
  else
    let keypair ← perform .newKeypair
    within s!"Failed to write mint keypair to {path.quote}" (perform (.saveKeypair path keypair))
    return keypair

def loadPayer (keysDir : String) : Option String → Setup Keypair
  | some path => loadKeypairFromPath path
  | none => loadOrCreateKeypair keysDir "payer"

/-- Best effort, for a local validator. -/
def requestAirdrop (airdrop : Bool) (payer : Pubkey) (rpcUrl : String) : Setup Unit :=
  if airdrop then do
    let balance ← (perform (.getBalance payer)).attempt
    if balance.toOption.getD 0 < 10000000000 then
      let _airdropped ← (perform (.airdrop payer rpcUrl)).attempt
      let _balance ← (perform (.getBalance payer)).attempt
  else return ()

section
variable [SolanaSdk] [BridgeCore] [TokenPrograms]

/-- A mint without metadata is only reported. -/
def createMetadata (payer : Keypair) (mint : Pubkey) : Setup (Option SolanaSignature) := do
  let blockhash ← within "Failed to get latest blockhash for metadata" (perform .getLatestBlockhash)
  let signature ← (perform (.sendAndConfirmTransaction (signedTransaction payer []
    [createMetadataIx payer.pubkey mint payer.pubkey dogeTokenMetadata] blockhash))).attempt
  return signature.toOption

/-- The mint is made under the payer, who signs for its metadata, and then handed to the bridge. -/
def createDogeMint (dogeBridgeProgram : Pubkey) (decimals : UInt8) (payer mintKeypair : Keypair) :
    Setup (SolanaSignature × Option SolanaSignature) := do
  let signature ← createMint payer mintKeypair payer.pubkey decimals
  let metadataSignature ← createMetadata payer mintKeypair.pubkey
  transferAuthority payer mintKeypair.pubkey (bridgeStateAddress dogeBridgeProgram)
    "Failed to transfer mint authority to bridge PDA"
  return (signature, metadataSignature)

def pubkeyFields (name : String) (pubkey : Pubkey) : List (String × Value) :=
  [(name, .string (SolanaSdk.pubkeyToString pubkey)), (s!"{name}_hex", .string (hexEncode pubkey.toList))]

def signatureField (name : String) (signature : Option SolanaSignature) : String × Value :=
  (name, signature.elim .null fun signature => .string (SolanaSdk.signatureToString signature))

def initializationOutput (bridgeState dogeMint operator feeSpender payer : Pubkey)
    (signature : SolanaSignature) (created : Option (SolanaSignature × Option SolanaSignature)) :
    Value :=
  let metadataSignature := created.bind Prod.snd
  .object (pubkeyFields "bridge_state_pda" bridgeState ++ pubkeyFields "doge_mint" dogeMint ++
    [("doge_mint_metadata_pda", metadataSignature.elim .null fun _ =>
      .string (SolanaSdk.pubkeyToString (TokenPrograms.metadataAddress dogeMint)))] ++
    pubkeyFields "operator_pubkey" operator ++ pubkeyFields "fee_spender_pubkey" feeSpender ++
    pubkeyFields "payer_pubkey" payer ++
    [signatureField "initialize_tx_signature" (some signature),
      signatureField "create_mint_tx_signature" (created.map Prod.fst),
      signatureField "create_metadata_tx_signature" metadataSignature])

/-- `Path::parent` -/
def parentPath (path : String) : String :=
  match path.toList.reverse.dropWhile (· ≠ '/') with
  | ['/'] => "/"
  | _ :: rest => String.ofList rest.reverse
  | [] => ""

def saveOutput (path : String) (output : Value) : Setup Unit := do
  within s!"Failed to create directory: {(parentPath path).quote}"
    (perform (.createDirectories (parentPath path)))
  within s!"Failed to write output to {path.quote}" (perform (.writeOutput path output))

/-- The mint, if it has to be made, then the bridge. -/
def createAndInitialize (dogeBridgeProgram : Pubkey) (args : Args)
    (payer operator feeSpender mintKeypair : Keypair) (mintExists : Bool)
    (dogeData : InitializeBridgeParams) : Setup Unit := do
  let created ←
    if mintExists then pure none
    else some <$> createDogeMint dogeBridgeProgram args.decimals payer mintKeypair
  let signature ← sendInitialize dogeBridgeProgram payer operator.pubkey feeSpender.pubkey
    mintKeypair.pubkey dogeData
  saveOutput args.output (initializationOutput (bridgeStateAddress dogeBridgeProgram)
    mintKeypair.pubkey operator.pubkey feeSpender.pubkey payer.pubkey signature created)

def execute (dogeBridgeProgram : Pubkey) (rpcUrl : String) (payerKeypair : Option String) (args : Args) :
    Setup Unit := do
  within s!"Failed to create keys directory: {args.keysDir.quote}"
    (perform (.createDirectories args.keysDir))
  let payer ← loadPayer args.keysDir payerKeypair
  requestAirdrop args.airdrop payer.pubkey rpcUrl
  let operator ← loadOrCreateKeypair args.keysDir "operator"
  let feeSpender ← loadOrCreateKeypair args.keysDir "fee_spender"
  let content ← within s!"Failed to read config file: {args.config.quote}"
    (perform (.readFile args.config))
  let dogeData ← context "Failed to parse config file as InitializeBridgeInstructionDataDoge JSON"
    (orFail (BridgeCore.instructionDataFromJson content))
  let mintKeypair ← loadOrCreateMintKeypair s!"{args.keysDir}/doge_mint.json"
  let mintExists ← succeeds (perform (.getAccount mintKeypair.pubkey))
  if ← confirmed args.yes then
    createAndInitialize dogeBridgeProgram args payer operator feeSpender mintKeypair mintExists dogeData

end

end DogeOperator.InitializeFromDoge

namespace DogeOperator.SetupUserAtas
open Bytes Outcome Network Json Operations Solana SolanaChain BridgeSetup CreateDogemint

structure Args where
  dogeMint : String
  usersDir : String
  setCloseAuthorityNull : Bool
  skipExisting : Bool

structure UserAccountInfo where
  pubkey : String
  pubkeyHex : String
  privateKey : ByteString
  dogeAta : String
  dogeAtaHex : String

def asU8 (value : Value) : Decoded UInt8 := (asUnsigned 8 value).map UInt8.ofNat

def UserAccountInfo.fromJson (value : Value) : Decoded UserAccountInfo := do
  let fields ← asFields ["pubkey", "pubkey_hex", "private_key", "doge_ata", "doge_ata_hex"] value
  let pubkey ← required "pubkey" asString fields
  let pubkeyHex ← required "pubkey_hex" asString fields
  let privateKey ← required "private_key" (asArray asU8) fields
  let dogeAta ← required "doge_ata" asString fields
  let dogeAtaHex ← required "doge_ata_hex" asString fields
  return { pubkey, pubkeyHex, privateKey, dogeAta, dogeAtaHex }

def isJsonFile (path : String) : Bool :=
  let name := path.toList.reverse.takeWhile (· ≠ '/')
  "nosj.".toList.isPrefixOf name && 5 < name.length

section
variable [SolanaSdk] [SerdeJson] [TokenPrograms]

/-- The account is opened if there is none. -/
def openAta (payer : Keypair) (user dogeMint : Pubkey) (ataExists : Bool) : Setup Unit :=
  if ataExists then return ()
  else do
    let blockhash ← perform .getLatestBlockhash
    let _signature ← perform (.sendAndConfirmTransaction (signedTransaction payer []
      [.createAssociatedTokenAccount payer.pubkey user dogeMint] blockhash))

/-- The user gives up its right to close the account; a failure is only reported. -/
def clearCloseAuthority (payer user : Keypair) (ata : Pubkey) : Setup Unit := do
  let blockhash ← perform .getLatestBlockhash
  let _result ← (perform (.sendAndConfirmTransaction (signedTransaction payer [user]
    [.setCloseAuthority ata none user.pubkey] blockhash))).attempt

/-- One user. Where the close authority is to be cleared, an account that is there is not skipped. -/
def setupUser (args : Args) (payer : Keypair) (dogeMint : Pubkey) (path : String) : Setup Unit := do
  let content ← perform (.readFile path)
  let userInfo ← orFail (SerdeJson.fromSlice content >>= UserAccountInfo.fromJson)
  let user ← orFail (SerdeJson.keypairFromBytes userInfo.privateKey)
  let dogeAta := TokenPrograms.associatedTokenAddress user.pubkey dogeMint
  let ataExists ← succeeds (perform (.getAccount dogeAta))
  if ataExists ∧ args.skipExisting ∧ ¬ args.setCloseAuthorityNull then return ()
  else do
    openAta payer user.pubkey dogeMint ataExists
    if args.setCloseAuthorityNull then
      clearCloseAuthority payer user dogeAta

/-- The users in turn, with how many have succeeded and how many have not. -/
def setupUsers (args : Args) (payer : Keypair) (dogeMint : Pubkey) :
    List String → ℕ × ℕ → Setup (ℕ × ℕ)
  | [], counts => return counts
  | path :: rest, (successCount, errorCount) => do
    let outcome ← (setupUser args payer dogeMint path).attempt
    match outcome with
    | .ok () => setupUsers args payer dogeMint rest (successCount + 1, errorCount)
    | .error _ => setupUsers args payer dogeMint rest (successCount, errorCount + 1)

def execute (home keypair : Option String) (args : Args) : Setup (ℕ × ℕ) := do
  let dogeMint ← context s!"Invalid DOGE mint address: {args.dogeMint}"
    (orFail (SolanaSdk.pubkeyFromStr args.dogeMint))
  let payer ← loadKeypair "payer keypair" home keypair
  let found ← InitializeFromDoge.fileExists args.usersDir
  bailWhen (found = false) s!"Users directory does not exist: {args.usersDir.quote}"
  let entries ← within s!"Failed to read users directory: {args.usersDir.quote}"
    (perform (.readDirectory args.usersDir))
  setupUsers args payer dogeMint ((entries.filter isJsonFile).mergeSort fun a b => a ≤ b) (0, 0)

end

end DogeOperator.SetupUserAtas
