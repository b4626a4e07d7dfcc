import DogeOperator.Deposit
import DogeOperator.Withdraw

/-! The deposit command as a whole: it checks the funding output, builds and signs one transaction
that pays custody, posts it, waits until it is confirmed, and registers the custody UTXO. -/
namespace DogeOperator.DepositRun
open Bytes Outcome Crypto Base64 Tx Network Manager Redeem Records Json Confirm Deposit Operations
  Solana Electrs Withdraw

def satsPerDoge : UInt64 := 100000000
def defaultFeeSats : UInt64 := 1000000
def dogeDustLimitSats : UInt64 := satsPerDoge

/-- `bitcoin::Network` -/
inductive BitcoinNetwork
  | bitcoin
  | testnet
  | signet
  | regtest
  deriving DecidableEq, Repr

/-- An address that is not checked for its network yet, and the script it has there. -/
structure UncheckedAddress where
  requireNetwork : BitcoinNetwork → Except String ByteString

/-- The Dogecoin library: keys, addresses, and the text of transaction ids. -/
class DogecoinLibrary [Secp256k1] where
  PrivateKey : Type
  fromWif : String → Except String PrivateKey
  network : PrivateKey → BitcoinNetwork
  inner : PrivateKey → Secp256k1.SecretKey
  /-- As serialized: 33 bytes, or 65. -/
  publicKey : PrivateKey → ByteString
  p2pkhAddress : ByteString → BitcoinNetwork → String
  addressFromStr : String → Except String UncheckedAddress
  txidFromStr : String → Except String (FixedBytes 32)

/-- `bs58::decode(..).with_check(None)` -/
class Base58Decode where
  decodeCheck : String → Except String ByteString

structure Args extends DepositArgs where
  runtimeNetwork : RuntimeNetwork
  solanaRpcUrl : String
  operatorKeypair : String
  payerKeypair : String
  dogeBridgeProgram : Pubkey
  wormholeCoreProgram : Pubkey
  wormholeShimProgram : Pubkey
  bridgeState : Option Pubkey
  electrsUrl : String
  fundingWifFile : String
  /-- Internal byte order. -/
  fundingTxid : FixedBytes 32
  fundingVout : UInt32
  fundingAmount : UInt64
  confirmationTimeoutSecs : UInt64
  pollIntervalMs : UInt64
  operatorStore : String
  evidencePath : String

structure FileMetadata where
  isFile : Bool
  mode : ℕ

/-- What the command does outside, beside the operations it shares with the withdrawal code. -/
inductive DepositOp
  | outside (op : Op)
  /-- Without following symbolic links. -/
  | openFile (path : String)
  | readToString (path : String)
  | createBridgeClient (rpcUrl : String) (bridgeState : Pubkey)
  | getCurrentBridgeState (bridgeState : Pubkey)
  | openStore (path : String)
  | post (url body : String)
  | upsertCustodyUtxo (utxo : CustodyUtxo)

@[reducible] def DepositOp.Answer : DepositOp → Type
  | outside op => op.Answer
  | openFile _ => FileMetadata
  | readToString _ => String
  | createBridgeClient _ _ => Unit
  | getCurrentBridgeState _ => BridgeProgramState
  | openStore _ => Unit
  | post _ _ => HttpAnswer
  | upsertCustodyUtxo _ => Unit

abbrev DepositFlow (α : Type) := Program DepositOp.Answer ErrorChain α

/-- A program of the shared operations. -/
def outside {α : Type} : Flow α → DepositFlow α
  | .done result => .done result
  | .call op next => .call (.outside op) fun answer => outside (next answer)

def perform (op : DepositOp) : DepositFlow op.Answer := Program.invoke op

/-- `with_context` -/
def within {α : Type} (message : String) (p : DepositFlow α) : DepositFlow α :=
  p.mapError (message :: ·)

def bailWhen (condition : Prop) [Decidable condition] (message : String) : DepositFlow Unit :=
  .done (if condition then bail message else .ok ())

/-- `{:03o}` -/
def octal3 (mode : ℕ) : String :=
  let digits := Nat.toDigits 8 mode
  String.ofList (List.replicate (3 - digits.length) '0' ++ digits)

/-- The file holds the funding key alone, and only its owner may read it. -/
def readFundingWif (path : String) : DepositFlow String := do
  let metadata ← within s!"open funding WIF file without following symlinks {path}"
    (perform (.openFile path))
  bailWhen (¬ metadata.isFile) s!"funding WIF path {path} must be a regular file"
  let mode := metadata.mode &&& 0o777
  bailWhen (mode ≠ 0o600) s!"funding WIF file {path} must have mode 600, got {octal3 mode}"
  let text ← within s!"read funding WIF file {path}" (perform (.readToString path))
  let wif := trim text
  bailWhen (wif = "") s!"funding WIF file {path} is empty"
  return wif

def dogeNetworkText : DogeNetwork → String
  | .regtest => "regtest"
  | .testnet => "testnet"

def bitcoinNetwork : DogeNetwork → BitcoinNetwork
  | .regtest => .regtest
  | .testnet => .testnet

def wifVersion : DogeNetwork → UInt8
  | .regtest => 0xef
  | .testnet => 0xf1

def hexByte (byte : UInt8) : String := hexEncode [byte]

/-- A version byte and a secret of 32 bytes, with the marker of a compressed key or without. -/
def validateWif [Base58Decode] (network : DogeNetwork) (wif : String) : Result Unit := do
  let decoded ← orFail (Base58Decode.decodeCheck wif)
  if decoded.length ≠ 33 ∧ decoded.length ≠ 34 then
    bail s!"Dogecoin WIF payload must be 33 or 34 bytes, got {decoded.length}"
  let version := decoded.headD 0
  if version ≠ wifVersion network then
    bail s!"WIF version 0x{hexByte version} does not match {dogeNetworkText network} (expected 0x{hexByte (wifVersion network)})"
  if decoded.length = 34 ∧ decoded[33]? ≠ some 1 then
    bail "compressed Dogecoin WIF is missing the 0x01 marker"

/-- `rust-dogecoin`'s transaction, without witnesses. Its serialization, txid, signature hash and
standard scripts are the consensus format, which the withdrawal code writes out by hand. -/
structure DepositTx where
  version : UInt32
  lockTime : UInt32
  inputs : List TxIn
  outputs : List TxOut
  deriving DecidableEq

namespace DepositTx

def serialize (tx : DepositTx) : ByteString :=
  serializeTransaction tx.version tx.inputs tx.outputs tx.lockTime

/-- Internal byte order. -/
def txid [Hashes] (tx : DepositTx) : FixedBytes 32 := doubleSha256 tx.serialize

/-- `legacy_signature_hash` of the only input, for all inputs and outputs. -/
def signatureHash [Hashes] (tx : DepositTx) (script : ByteString) : FixedBytes 32 :=
  doubleSha256 (serializeTransaction tx.version (tx.inputs.map ({ · with scriptSig := script }))
    tx.outputs tx.lockTime ++ u32Le sighashAllType)

end DepositTx

/-- `txid` as it is shown. -/
def displayTxid (txid : FixedBytes 32) : String := hexEncode txid.reverse.toList

structure FundingOutpoint where
  txid : FixedBytes 32
  vout : UInt32
  amount : UInt64

/-- What the deposit pays and what it leaves: the custody output first, then the change. -/
def depositOutputs (depositScript fundingScript : ByteString) (amountSats changeSats : UInt64) :
    List TxOut :=
  { value := amountSats, scriptPubkey := depositScript } ::
    if changeSats = 0 then [] else [{ value := changeSats, scriptPubkey := fundingScript }]

/-- The change of a deposit; none, or enough to be spent. -/
def depositChange (fundingAmount amountSats : UInt64) : Result UInt64 := do
  let required ← orBail (checkedAdd amountSats defaultFeeSats)
    "deposit amount plus fee overflows u64"
  let changeSats ← orBail (checkedSub fundingAmount required)
    s!"funding UTXO contains {fundingAmount} sats, but deposit plus fee requires {required} sats"
  if changeSats ≠ 0 ∧ changeSats < dogeDustLimitSats then
    bail s!"funding change would be {changeSats} sats, below the Dogecoin dust limit of {dogeDustLimitSats}; provide an exact or larger funding UTXO"
  return changeSats

section
variable [Hashes] [Secp256k1] [DogecoinLibrary]

def unsignedDeposit (funding : FundingOutpoint) (outputs : List TxOut) : DepositTx where
  version := 1
  lockTime := 0
  inputs := [{ prevTxidLe := funding.txid, vout := funding.vout, scriptSig := [],
               sequence := sequenceFinal }]
  outputs

/-- The signature with its type, then the public key. -/
def fundingScriptSig (key : DogecoinLibrary.PrivateKey) (digest : FixedBytes 32) : ByteString :=
  pushDataInline
      (Secp256k1.serializeDer (Secp256k1.signEcdsa digest (DogecoinLibrary.inner key)) ++ [0x01]) ++
    pushDataInline (DogecoinLibrary.publicKey key)

def buildSignedDepositTransaction (fundingKey : DogecoinLibrary.PrivateKey)
    (fundingScript : ByteString) (funding : FundingOutpoint) (depositScript : ByteString)
    (amountSats : UInt64) : Result (DepositTx × UInt64) := do
  let changeSats ← depositChange funding.amount amountSats
  let transaction := unsignedDeposit funding
    (depositOutputs depositScript fundingScript amountSats changeSats)
  let sighash := transaction.signatureHash fundingScript
  let scriptSig := fundingScriptSig fundingKey sighash
  return ({ transaction with inputs := transaction.inputs.map ({ · with scriptSig }) },
    defaultFeeSats)

/-! Electrs, as the deposit reads it. -/

structure ElectrsTxStatus where
  confirmed : Bool
  blockHeight : Option UInt32
  blockHash : Option String
  blockTime : Option UInt32

structure ElectrsTx where
  txid : FixedBytes 32
  vout : List DepositOutput
  status : ElectrsTxStatus

def asTxid (value : Value) : Decoded (FixedBytes 32) := asString value >>= DogecoinLibrary.txidFromStr

def ElectrsTxStatus.fromJson (value : Value) : Decoded ElectrsTxStatus := do
  let fields ← asFields ["confirmed", "block_height", "block_hash", "block_time"] value
  let confirmed ← required "confirmed" asBool fields
  let blockHeight ← optional ["block_height"] asU32 fields
  let blockHash ← optional ["block_hash"] asString fields
  let blockTime ← optional ["block_time"] asU32 fields
  return { confirmed, blockHeight, blockHash, blockTime }

def electrsVoutFromJson (value : Value) : Decoded DepositOutput := do
  let fields ← asFields ["scriptpubkey", "value"] value
  let scriptpubkey ← required "scriptpubkey" asString fields
  let value ← required "value" asU64 fields
  return { scriptpubkey, value }

def ElectrsTx.fromJson (value : Value) : Decoded ElectrsTx := do
  let fields ← asFields ["txid", "vout", "status"] value
  let txid ← required "txid" asTxid fields
  let vout ← required "vout" (asArray electrsVoutFromJson) fields
  let status ← required "status" ElectrsTxStatus.fromJson fields
  return { txid, vout, status }

/-- The part of a confirmed transaction that the registration reads. -/
def ElectrsTx.toDeposit (tx : ElectrsTx) : DepositTransaction where
  txid := tx.txid
  vout := tx.vout
  status := { blockHeight := tx.status.blockHeight, blockHash := tx.status.blockHash }

/-- The funding output is confirmed, of the stated amount, and pays the funding address. It may be
spent: only its transaction is looked up. -/
def checkFundingUtxo (script : ByteString) (funding : FundingOutpoint) (transaction : ElectrsTx) :
    Result Unit := do
  let txid := displayTxid funding.txid
  if transaction.txid ≠ funding.txid then
    bail s!"Electrs returned transaction {displayTxid transaction.txid}, expected {txid}"
  let output ← orBail transaction.vout[funding.vout.toNat]?
    s!"funding transaction {txid} has no vout {funding.vout}"
  if output.value ≠ funding.amount then
    bail s!"--funding-amount is {funding.amount} sats, but Electrs reports {output.value} sats"
  if output.scriptpubkey ≠ hexEncode script then
    bail s!"funding outpoint {txid}:{funding.vout} does not pay the supplied funding address"
  if ¬ transaction.status.confirmed then
    bail s!"funding outpoint {txid}:{funding.vout} is not confirmed"

def verifyFundingUtxo (network : DogeNetwork) (electrsUrl fundingAddress : String)
    (funding : FundingOutpoint) : DepositFlow Unit := do
  let address ← context "parse funding address for Electrs lookup"
    (orFail (DogecoinLibrary.addressFromStr fundingAddress))
  let script ← context s!"funding address is not {dogeNetworkText network}"
    (orFail (address.requireNetwork (bitcoinNetwork network)))
  let transaction ← outside (electrsGetJson ElectrsTx.fromJson
    s!"{trimTrailingSlashes electrsUrl}/tx/{displayTxid funding.txid}")
  checkFundingUtxo script funding transaction

def broadcastElectrs (electrsUrl rawTxHex : String) : DepositFlow (FixedBytes 32) := do
  let url := s!"{trimTrailingSlashes electrsUrl}/tx"
  let answer ← within s!"broadcast Dogecoin transaction through {url}" (perform (.post url rawTxHex))
  bailWhen (¬ answer.isSuccess) s!"Electrs broadcast returned {answer.status}: {answer.text}"
  context "parse Electrs broadcast txid"
    (orFail (DogecoinLibrary.txidFromStr (trimQuotes (trim answer.text))))

def stillWaiting : Result ElectrsTx → String
  | .ok _ => "transaction is not confirmed; external miner has not included it"
  | .error error => error.headD default

/-- Ask until the transaction is confirmed, or the deadline has passed. -/
def pollDepositWithin (url : String) (txid : FixedBytes 32) : ℕ → DepositFlow ElectrsTx
  | 0 => do
    let response ← (outside (electrsGetJson ElectrsTx.fromJson url)).attempt
    match response with
    | .ok transaction =>
      if transaction.status.confirmed then return transaction
      else bail s!"timed out waiting for externally mined deposit {displayTxid txid}: {stillWaiting response}"
    | .error _ =>
      bail s!"timed out waiting for externally mined deposit {displayTxid txid}: {stillWaiting response}"
  | attempts + 1 => do
    let response ← (outside (electrsGetJson ElectrsTx.fromJson url)).attempt
    match response with
    | .ok transaction =>
      if transaction.status.confirmed then return transaction
      else pollDepositWithin url txid attempts
    | .error _ => pollDepositWithin url txid attempts

def pollDeposit (electrsUrl : String) (txid : FixedBytes 32) (timeoutMs intervalMs : ℕ) :
    DepositFlow ElectrsTx := do
  let attempts ← outside (system (.attemptsWithin timeoutMs intervalMs))
  pollDepositWithin s!"{trimTrailingSlashes electrsUrl}/tx/{displayTxid txid}" txid attempts

end

/-! Evidence. -/

def writeEvidence (path : String) (evidence : Value) : DepositFlow Unit := do
  outside (system (.createParentDirectory path))
  within s!"write {path}" (outside (system (.writeFile path evidence)))

def evidence (completed : Bool) (deposit custody : Value) : Value :=
  .object [("schema", .string "doge-custody-deposit-evidence-v2"), ("completed", .bool completed),
    ("deposit", deposit), ("custody", custody)]

/-! The run. -/

/-- The custody script of the recipient, and its address. -/
structure Custody where
  depositAddress : String
  scriptHash : FixedBytes 20
  redeemScript : ByteString

def Custody.depositScript (custody : Custody) : ByteString := p2shScriptPubkey custody.scriptHash

def Args.confirmationTimeoutMs (args : Args) : ℕ := args.confirmationTimeoutSecs.toNat * 1000

def Args.fundingOutpoint (args : Args) : FundingOutpoint where
  txid := args.fundingTxid
  vout := args.fundingVout
  amount := args.fundingAmount

section
variable [SolanaSdk] [UrlParser] [Hashes] [Base58Check] [Base58Decode] [Secp256k1] [BlockHashText]
  [TxoConstants] [CustodyProfiles] [DogecoinLibrary]

def validateBoundary (args : Args) : Result Unit := do
  args.runtimeNetwork.validateRemoteUrl "Solana RPC" args.solanaRpcUrl
  args.runtimeNetwork.validateRemoteUrl "Electrs" args.electrsUrl
  args.runtimeNetwork.validateManagerSet args.managerSetIndex
  args.runtimeNetwork.validateWormholePrograms (SolanaSdk.pubkeyToString args.wormholeCoreProgram)
    (SolanaSdk.pubkeyToString args.wormholeShimProgram)

/-- The script is the one that the compile-time profile of the manager set gives. -/
def deriveCustody (args : Args) (bridgeState : Pubkey) : Result Custody := do
  let (depositAddress, scriptHash) ← p2shCustodyAddress args.dogeNetwork bridgeState
    args.recipientTokenAccount args.managerSetIndex
  let managerSet ← managerSetForIndex args.managerSetIndex
  let redeemScript ← buildRedeemScript 1 bridgeState args.recipientTokenAccount managerSet.m
    managerSet.pubkeys
  assertCustodyProfile args.managerSetIndex managerSet
  return { depositAddress, scriptHash, redeemScript }

def parseFundingKey (network : DogeNetwork) (wif : String) : Result DogecoinLibrary.PrivateKey := do
  context "validate funding WIF network" (validateWif network wif)
  let fundingKey ← context "parse funding WIF" (orFail (DogecoinLibrary.fromWif wif))
  if DogecoinLibrary.network fundingKey ≠ bitcoinNetwork network then
    bail s!"funding WIF does not match {dogeNetworkText network}"
  return fundingKey

def fundingAddress (args : Args) (key : DogecoinLibrary.PrivateKey) : String :=
  DogecoinLibrary.p2pkhAddress (DogecoinLibrary.publicKey key) (bitcoinNetwork args.dogeNetwork)

def fundingScript (key : DogecoinLibrary.PrivateKey) : ByteString :=
  p2pkhScriptPubkey (hash160 (DogecoinLibrary.publicKey key))

/-- Both derivations give one deposit address. -/
def checkDepositAddress (args : Args) (custody : Custody) : Result Unit := do
  let rustDogecoinDepositAddress ← context "derive rust-dogecoin P2SH address"
    ((CustodyProfiles.p2shAddress args.dogeNetwork custody.scriptHash).mapError ([·]))
  if rustDogecoinDepositAddress ≠ custody.depositAddress then
    bail s!"P2SH address mismatch: bridge derivation produced {custody.depositAddress}, rust-dogecoin produced {rustDogecoinDepositAddress}"

/-- What the command settles before it asks Electrs anything. -/
structure Prepared where
  bridgeState : Pubkey
  custody : Custody
  fundingKey : DogecoinLibrary.PrivateKey

/-- The pure part of the preparation. -/
def settle (args : Args) (fundingWif : String) : Result Prepared := do
  let bridgeState := bridgeStateAddress args.dogeBridgeProgram
  let custody ← deriveCustody args bridgeState
  let fundingKey ← parseFundingKey args.dogeNetwork fundingWif
  checkDepositAddress args custody
  return { bridgeState, custody, fundingKey }

def prepare (args : Args) : DepositFlow Prepared := do
  validateBoundary args
  bailWhen (args.amountSats < dogeDustLimitSats)
    s!"--amount-sats must be at least the Dogecoin dust limit of {dogeDustLimitSats} sats"
  let fundingWif ← readFundingWif args.fundingWifFile
  let _operator ← outside (readKeypair args.operatorKeypair "operator")
  let _payer ← outside (readKeypair args.payerKeypair "payer")
  let bridgeState := bridgeStateAddress args.dogeBridgeProgram
  bailWhen (args.bridgeState.any (· ≠ bridgeState))
    s!"--bridge-state {SolanaSdk.pubkeyToString (args.bridgeState.getD bridgeState)} does not match derived PDA {SolanaSdk.pubkeyToString bridgeState}"
  within "create bridge client" (perform (.createBridgeClient args.solanaRpcUrl bridgeState))
  let _state ← within "read initialized bridge state" (perform (.getCurrentBridgeState bridgeState))
  within "open operator store" (perform (.openStore args.operatorStore))
  settle args fundingWif

def custodyRow (args : Args) (custody : Custody) (localTxid : FixedBytes 32) (vout : UInt32)
    (amountSats : UInt64) (scriptPubkeyHex : String) (blockHash : FixedBytes 32)
    (blockHeight confirmations : UInt32) (leafIndex : UInt64) : CustodyUtxo where
  txid := localTxid
  vout
  amountSats
  scriptPubkeyHex
  custodyAddress := custody.depositAddress
  keyReference := args.custodyKeyReference
  confirmationBlockHash := some blockHash
  confirmationHeight := some blockHeight
  confirmations
  leafIndex
  status := .available
  reservationId := none
  spendTxid := none
  sourceDepositTxid := some localTxid
  sourceSolanaSignature := none
  spendRequestIndex := none
  spendProcessSignature := none
  originalRecipientAddress := args.recipientTokenAccount

/-- A deposit that is registered, with what the evidence says of it. -/
structure Registered where
  utxo : CustodyUtxo
  blockHashText : String
  blockHeight : UInt32
  blockTime : Option UInt32
  transactionIndex : UInt16

/-- The confirmed deposit is found in its block and registered. -/
def registerConfirmed (args : Args) (custody : Custody) (localTxid : FixedBytes 32)
    (confirmed : ElectrsTx) : DepositFlow Registered := do
  bailWhen (confirmed.txid ≠ localTxid)
    s!"Electrs returned transaction {displayTxid confirmed.txid} while polling {displayTxid localTxid}"
  let (depositVout, depositSats, scriptPubkeyHex) ← findDeposit args.amountSats
    (hexEncode custody.depositScript) confirmed.vout
  let blockHeight ← orBail confirmed.status.blockHeight
    "confirmed Electrs transaction is missing block_height"
  let blockHashText ← orBail confirmed.status.blockHash
    "confirmed Electrs transaction is missing block_hash"
  let blockHash ← context "parse confirmation block hash" (orFail (BlockHashText.fromStr blockHashText))
  let blockTxids ← outside (electrsGetJson (asArray asTxid)
    s!"{trimTrailingSlashes args.electrsUrl}/block/{blockHashText}/txids")
  let position ← orBail (blockTxids.findIdx? (· = localTxid))
    "deposit transaction is absent from its confirmation block txids"
  let txIndex ← toU16 "deposit block transaction index exceeds u16" position
  let tipHeight ← outside (electrsGetHeight args.electrsUrl)
  let confirmations ← orBail (confirmationsAt tipHeight blockHeight)
    s!"Electrs tip height {tipHeight} precedes deposit height {blockHeight}"
  let depositVoutU16 ← toU16 "deposit vout exceeds u16" depositVout.toNat
  let utxo := custodyRow args custody localTxid depositVout depositSats scriptPubkeyHex blockHash
    blockHeight confirmations (TxoConstants.combinedIndex blockHeight txIndex depositVoutU16)
  within "register deposit custody UTXO" (perform (.upsertCustodyUtxo utxo))
  return { utxo, blockHashText, blockHeight, blockTime := confirmed.status.blockTime,
           transactionIndex := txIndex }

def fundingFields (args : Args) (prepared : Prepared) : List (String × Value) :=
  [("network", .string (dogeNetworkText args.dogeNetwork)), ("electrs_url", .string args.electrsUrl),
    ("funding_address", .string (fundingAddress args prepared.fundingKey)),
    ("funding_txid", .string (displayTxid args.fundingTxid)),
    ("funding_vout", ofU32 args.fundingVout), ("funding_amount_sats", ofU64 args.fundingAmount),
    ("deposit_address", .string prepared.custody.depositAddress)]

def custodyFields (args : Args) (prepared : Prepared) : List (String × Value) :=
  [("operator_store", .string args.operatorStore),
    ("bridge_state", .string (SolanaSdk.pubkeyToString prepared.bridgeState)),
    ("recipient_token_account", .string (SolanaSdk.pubkeyToString args.recipientTokenAccount)),
    ("original_recipient_address_hex", .string (hexEncode args.recipientTokenAccount.toList)),
    ("key_reference", .string args.custodyKeyReference)]

def scriptFields (custody : Custody) : List (String × Value) :=
  [("redeem_script_hex", .string (hexEncode custody.redeemScript)),
    ("script_hash_hex", .string (hexEncode custody.scriptHash.toList))]

def pendingEvidence (args : Args) (prepared : Prepared) (localTxid : FixedBytes 32)
    (feeSats : UInt64) (rawTxHex : String) : Value :=
  evidence false
    (.object (fundingFields args prepared ++
      [("txid", .string (displayTxid localTxid)), ("amount_sats", ofU64 args.amountSats),
        ("fee_sats", ofU64 feeSats), ("raw_transaction_hex", .string rawTxHex),
        ("status", .string "BROADCAST_PENDING_CONFIRMATION")]))
    (.object (("registered", .bool false) :: custodyFields args prepared ++
      scriptFields prepared.custody))

def completedEvidence (args : Args) (prepared : Prepared) (localTxid : FixedBytes 32)
    (feeSats : UInt64) (rawTxHex : String) (registered : Registered) : Value :=
  evidence true
    (.object (fundingFields args prepared ++
      [("txid", .string (displayTxid localTxid)), ("vout", ofU32 registered.utxo.vout),
        ("amount_sats", ofU64 registered.utxo.amountSats), ("fee_sats", ofU64 feeSats),
        ("confirmations", ofU32 registered.utxo.confirmations),
        ("confirmation_block_hash", .string registered.blockHashText),
        ("confirmation_height", ofU32 registered.blockHeight),
        ("confirmation_block_time", registered.blockTime.elim .null ofU32),
        ("transaction_index", ofU16 registered.transactionIndex),
        ("raw_transaction_hex", .string rawTxHex)]))
    (.object (("registered", .bool true) :: custodyFields args prepared ++
      [("script_pubkey_hex", .string registered.utxo.scriptPubkeyHex)] ++
      scriptFields prepared.custody ++ [("leaf_index", ofU64 registered.utxo.leafIndex)]))

/-- From the verified funding output to the registered deposit. -/
def sendAndRegister (args : Args) (prepared : Prepared) : DepositFlow Unit := do
  let (depositTx, feeSats) ← buildSignedDepositTransaction prepared.fundingKey
    (fundingScript prepared.fundingKey) args.fundingOutpoint prepared.custody.depositScript
    args.amountSats
  let localTxid := depositTx.txid
  let rawTxHex := hexEncode depositTx.serialize
  let broadcastTxid ← broadcastElectrs args.electrsUrl rawTxHex
  bailWhen (broadcastTxid ≠ localTxid)
    s!"Electrs returned txid {displayTxid broadcastTxid}, but rust-dogecoin constructed {displayTxid localTxid}"
  writeEvidence args.evidencePath (pendingEvidence args prepared localTxid feeSats rawTxHex)
  let confirmed ← pollDeposit args.electrsUrl localTxid args.confirmationTimeoutMs
    args.pollIntervalMs.toNat
  let registered ← registerConfirmed args prepared.custody localTxid confirmed
  writeEvidence args.evidencePath
    (completedEvidence args prepared localTxid feeSats rawTxHex registered)

def run (args : Args) : DepositFlow Unit := do
  let prepared ← prepare args
  verifyFundingUtxo args.dogeNetwork args.electrsUrl (fundingAddress args prepared.fundingKey)
    args.fundingOutpoint
  sendAndRegister args prepared

end

end DogeOperator.DepositRun
