import DogeOperator.Confirm

/-! The deposit command: the custody script a deposit pays, and the UTXO that is registered
once the deposit is confirmed. -/
namespace DogeOperator.Deposit
open Bytes Outcome Crypto Redeem Tx Network Manager Records Confirm

/-- The compile-time custody profiles a runtime manager set is pinned to, and the address the
Dogecoin library derives for a script hash. -/
class CustodyProfiles where
  localRegtest : UInt8 × List (FixedBytes 33)
  officialTestnet : UInt8 × List (FixedBytes 33)
  /-- `std::any::type_name` of the profiles. -/
  localRegtestTypeName : String
  officialTestnetTypeName : String
  p2shAddress : DogeNetwork → FixedBytes 20 → Except String String

structure DepositArgs where
  dogeNetwork : DogeNetwork
  managerSetIndex : UInt32
  recipientTokenAccount : Pubkey
  custodyKeyReference : String
  amountSats : UInt64

structure DepositOutput where
  scriptpubkey : String
  value : UInt64

structure DepositStatus where
  blockHeight : Option UInt32
  blockHash : Option String

structure DepositTransaction where
  txid : FixedBytes 32
  vout : List DepositOutput
  status : DepositStatus

section
variable [Hashes] [Base58Check]

def p2shCustodyAddress (network : DogeNetwork) (bridgeStatePda recipientTokenAccount : Pubkey)
    (managerSetIndex : UInt32) : Result (String × FixedBytes 20) := do
  let managerSet ← managerSetForIndex managerSetIndex
  let redeemScript ← buildRedeemScript 1 bridgeStatePda recipientTokenAccount managerSet.m
    managerSet.pubkeys
  let scriptHash := hash160 redeemScript
  let address ← network.encodeAddress 1 scriptHash
  return (address, scriptHash)

end

def assertManagerSetMatchesProfile (typeName : String) (profile : UInt8 × List (FixedBytes 33))
    (managerSet : ManagerSet) : Result Unit := do
  if managerSet.m ≠ profile.1 then
    bail s!"manager set threshold {managerSet.m} does not match custody profile threshold {profile.1}"
  if managerSet.pubkeys ≠ profile.2 then
    bail s!"manager set index keys do not match the {typeName.quote} custody profile; deposit script would diverge from the canonical custody script"

/-- The runtime manager set is the compile-time profile of its index. -/
def assertCustodyProfile [CustodyProfiles] (managerSetIndex : UInt32) (managerSet : ManagerSet) :
    Result Unit :=
  if managerSetIndex = 0 then
    assertManagerSetMatchesProfile CustodyProfiles.localRegtestTypeName
      CustodyProfiles.localRegtest managerSet
  else if managerSetIndex = 1 then
    assertManagerSetMatchesProfile CustodyProfiles.officialTestnetTypeName
      CustodyProfiles.officialTestnet managerSet
  else
    bail s!"unsupported manager set index {managerSetIndex}; custody profile keys are only pinned for indices 0 (local regtest) and 1 (official testnet)"

/-- One step of the search; a second match is refused. -/
def keepDeposit (found : Option (UInt32 × UInt64 × String)) (entry : DepositOutput × ℕ) :
    Result (Option (UInt32 × UInt64 × String)) := do
  if found.isSome then bail "confirmed transaction has multiple matching custody outputs"
  let vout ← toU32 "deposit vout exceeds u32" entry.2
  return some (vout, entry.1.value, entry.1.scriptpubkey)

/-- The single output that pays the expected script and amount, with its index. -/
def findDeposit (amountSats : UInt64) (expectedScriptPubkeyHex : String) (outputs : List DepositOutput) :
    Result (UInt32 × UInt64 × String) := do
  let found ← (outputs.zipIdx.filter fun entry => entry.1.value = amountSats &&
    eqIgnoreAsciiCase entry.1.scriptpubkey expectedScriptPubkeyHex).foldlM keepDeposit none
  orBail found "confirmed transaction does not contain the expected custody output"

/-- From the custody address to the registered UTXO; what Electrs answers is an argument. -/
def registerDeposit [Hashes] [Base58Check] [BlockHashText] [TxoConstants] [CustodyProfiles]
    (args : DepositArgs) (bridgeState : Pubkey) (localTxid : FixedBytes 32)
    (confirmed : DepositTransaction) (blockTxids : List (FixedBytes 32)) (tipHeight : UInt32) :
    Result CustodyUtxo := do
  let (depositAddress, scriptHash) ← p2shCustodyAddress args.dogeNetwork bridgeState
    args.recipientTokenAccount args.managerSetIndex
  let managerSet ← managerSetForIndex args.managerSetIndex
  let _redeemScript ← buildRedeemScript 1 bridgeState args.recipientTokenAccount managerSet.m
    managerSet.pubkeys
  assertCustodyProfile args.managerSetIndex managerSet
  let rustDogecoinDepositAddress ← context "derive rust-dogecoin P2SH address"
    ((CustodyProfiles.p2shAddress args.dogeNetwork scriptHash).mapError ([·]))
  if rustDogecoinDepositAddress ≠ depositAddress then
    bail s!"P2SH address mismatch: bridge derivation produced {depositAddress}, rust-dogecoin produced {rustDogecoinDepositAddress}"
  if confirmed.txid ≠ localTxid then
    bail s!"Electrs returned transaction {hexEncode confirmed.txid.reverse.toList} while polling {hexEncode localTxid.reverse.toList}"
  let (depositVout, depositSats, scriptPubkeyHex) ← findDeposit args.amountSats
    (hexEncode (p2shScriptPubkey scriptHash)) confirmed.vout
  let blockHeight ← orBail confirmed.status.blockHeight
    "confirmed Electrs transaction is missing block_height"
  let blockHashText ← orBail confirmed.status.blockHash
    "confirmed Electrs transaction is missing block_hash"
  let blockHash ← context "parse confirmation block hash"
    ((BlockHashText.fromStr blockHashText).mapError ([·]))
  let position ← orBail (blockTxids.findIdx? (· = localTxid))
    "deposit transaction is absent from its confirmation block txids"
  let txIndex ← toU16 "deposit block transaction index exceeds u16" position
  let confirmations ← orBail (confirmationsAt tipHeight blockHeight)
    s!"Electrs tip height {tipHeight} precedes deposit height {blockHeight}"
  let depositVoutU16 ← toU16 "deposit vout exceeds u16" depositVout.toNat
  return {
    txid := localTxid
    vout := depositVout
    amountSats := depositSats
    scriptPubkeyHex
    custodyAddress := depositAddress
    keyReference := args.custodyKeyReference
    confirmationBlockHash := some blockHash
    confirmationHeight := some blockHeight
    confirmations
    leafIndex := TxoConstants.combinedIndex blockHeight txIndex depositVoutU16
    status := .available
    reservationId := none
    spendTxid := none
    sourceDepositTxid := some localTxid
    sourceSolanaSignature := none
    spendRequestIndex := none
    spendProcessSignature := none
    originalRecipientAddress := args.recipientTokenAccount }

end DogeOperator.Deposit
