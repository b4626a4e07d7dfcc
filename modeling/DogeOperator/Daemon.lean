import DogeOperator.CommandLine
import DogeOperator.Withdraw

/-! The operator daemon: the withdraw command it puts together for each cycle, and its poll loop with
the count of consecutive failures. -/
namespace DogeOperator.Daemon
open Outcome Crypto CommandLine IntegerText Network Confirm Operations Solana Electrs Withdraw

def defaultDogeBridge : String := "9HdfoY6yYFLo3sQ5qMv9tHHgXzB3AnA2GXXyedeWrLdN"
def defaultPendingMint : String := "DHB58D8HbnRM7QQiJ37iE3YjCfUbzbhpcc2Bf5rAXkua"
def defaultTxoBuffer : String := "9N217cCfEhickevyD3amY1BQh8P8Hay7CKKWa5kgrgHs"
def defaultGenericBuffer : String := "marxYjRRhMAmfyGPNwkKEgwzKsSNfmKQ4gzMLadZxuz"
def defaultEvidencePath : String := "/tmp/doge-process-withdrawal-evidence.json"
def defaultFeeSats : UInt64 := 1000000
def dustThresholdSats : UInt64 := 10000
def defaultPollIntervalMs : UInt64 := 500
def defaultSigningTimeoutSecs : UInt64 := 120

/-- The withdraw command line as parsed; what the network fills in is still open. -/
structure WithdrawArgs where
  requestIndex : Option UInt64
  requestSignature : Option SolanaSignature
  feeSats : UInt64
  dustThresholdSats : UInt64
  solanaRpcUrl : Option String
  operatorKeypair : String
  payerKeypair : String
  dogeBridgeProgram : Pubkey
  pendingMintProgram : Pubkey
  txoBufferProgram : Pubkey
  genericBufferProgram : Pubkey
  wormholeCoreProgram : Option Pubkey
  wormholeShimProgram : Option Pubkey
  bridgeState : Option Pubkey
  managerServiceUrl : Option String
  electrsUrl : Option String
  pollIntervalMs : UInt64
  signingTimeoutSecs : UInt64
  operatorStore : String
  evidencePath : String
  managerSetIndex : Option UInt32
  managerSigningEnabled : Bool
  broadcastEnabled : Bool
  resume : Bool

def withdrawCommand : Command where
  options := ["--request-index", "--request-signature", "--fee-sats", "--dust-threshold-sats",
    "--solana-rpc-url", "--operator-keypair", "--payer-keypair", "--doge-bridge-program",
    "--pending-mint-program", "--txo-buffer-program", "--generic-buffer-program",
    "--wormhole-core-program", "--wormhole-shim-program", "--bridge-state",
    "--manager-service-url", "--electrs-url", "--poll-interval-ms", "--signing-timeout-secs",
    "--operator-store", "--evidence-path", "--manager-set-index"]
  switches := ["--manager-signing-enabled", "--broadcast-enabled", "--resume"]

section
variable [SolanaSdk]

def WithdrawArgs.fromArgMatches (m : ArgMatches) : Result WithdrawArgs := do
  let requestIndex ← optionalValue (parseNumber parseU64) m "--request-index"
  let requestSignature ← optionalValue SolanaSdk.signatureFromStr m "--request-signature"
  let feeSats ← optionalValue (parseNumber parseU64) m "--fee-sats"
  let dustThreshold ← optionalValue (parseNumber parseU64) m "--dust-threshold-sats"
  let solanaRpcUrl ← optionalValue parseText m "--solana-rpc-url"
  let operatorKeypair ← requiredValue parsePath m "--operator-keypair"
  let payerKeypair ← requiredValue parsePath m "--payer-keypair"
  let dogeBridgeProgram ← valueOr SolanaSdk.pubkeyFromStr m "--doge-bridge-program" defaultDogeBridge
  let pendingMintProgram ←
    valueOr SolanaSdk.pubkeyFromStr m "--pending-mint-program" defaultPendingMint
  let txoBufferProgram ← valueOr SolanaSdk.pubkeyFromStr m "--txo-buffer-program" defaultTxoBuffer
  let genericBufferProgram ←
    valueOr SolanaSdk.pubkeyFromStr m "--generic-buffer-program" defaultGenericBuffer
  let wormholeCoreProgram ← optionalValue SolanaSdk.pubkeyFromStr m "--wormhole-core-program"
  let wormholeShimProgram ← optionalValue SolanaSdk.pubkeyFromStr m "--wormhole-shim-program"
  let bridgeState ← optionalValue SolanaSdk.pubkeyFromStr m "--bridge-state"
  let managerServiceUrl ← optionalValue parseText m "--manager-service-url"
  let electrsUrl ← optionalValue parseText m "--electrs-url"
  let pollIntervalMs ← optionalValue (parseNumber parseU64) m "--poll-interval-ms"
  let signingTimeoutSecs ← optionalValue (parseNumber parseU64) m "--signing-timeout-secs"
  let operatorStore ← requiredValue parsePath m "--operator-store"
  let evidencePath ← valueOr parsePath m "--evidence-path" defaultEvidencePath
  let managerSetIndex ← optionalValue (parseNumber parseU32) m "--manager-set-index"
  return {
    requestIndex, requestSignature
    feeSats := feeSats.getD defaultFeeSats
    dustThresholdSats := dustThreshold.getD Daemon.dustThresholdSats
    solanaRpcUrl, operatorKeypair, payerKeypair, dogeBridgeProgram, pendingMintProgram
    txoBufferProgram, genericBufferProgram, wormholeCoreProgram, wormholeShimProgram, bridgeState
    managerServiceUrl, electrsUrl
    pollIntervalMs := pollIntervalMs.getD defaultPollIntervalMs
    signingTimeoutSecs := signingTimeoutSecs.getD defaultSigningTimeoutSecs
    operatorStore, evidencePath, managerSetIndex
    managerSigningEnabled := "--manager-signing-enabled" ∈ m.switches
    broadcastEnabled := "--broadcast-enabled" ∈ m.switches
    resume := "--resume" ∈ m.switches }

def WithdrawArgs.tryParseFrom (arguments : List String) : Result WithdrawArgs := do
  let m ← withdrawCommand.getMatches arguments
  fromArgMatches m

/-- The given program, or the profile's, whose text is expected to parse. -/
def fillProgram (slot : Option Pubkey) (default message : String) : Result Pubkey :=
  match slot with
  | some program => .ok program
  | none => context message (orFail (SolanaSdk.pubkeyFromStr default))

def WithdrawArgs.applyNetworkDefaults (args : WithdrawArgs) (network : RuntimeNetwork) :
    Result Prepare.Args := do
  let defaults := network.defaults
  let wormholeCoreProgram ←
    fillProgram args.wormholeCoreProgram defaults.wormholeCoreProgram "wormhole core"
  let wormholeShimProgram ←
    fillProgram args.wormholeShimProgram defaults.wormholeShimProgram "wormhole shim"
  return { args with
    dogeNetwork := defaults.dogeNetwork
    runtimeNetwork := network
    managerSetIndex := args.managerSetIndex.getD defaults.managerSetIndex
    solanaRpcUrl := args.solanaRpcUrl.getD defaults.solanaRpcUrl
    electrsUrl := args.electrsUrl.getD defaults.electrsUrl
    managerServiceUrl := args.managerServiceUrl.or defaults.managerServiceUrl
    wormholeCoreProgram, wormholeShimProgram }

end

/-- The daemon's own arguments, after the network defaults filled the optional ones. -/
structure Args where
  runtimeNetwork : RuntimeNetwork
  solanaRpcUrl : String
  operatorKeypair : String
  payerKeypair : String
  operatorStore : String
  dogeBridgeProgram : Pubkey
  managerServiceUrl : Option String
  electrsUrl : String
  managerSetIndex : UInt32
  wormholeCoreProgram : Pubkey
  wormholeShimProgram : Pubkey

def managerServiceUrl (args : Args) : Result String :=
  orBail args.managerServiceUrl
    "--manager-service-url is required on --network devnet (localhost defaults to the local Manager service)"

section
variable [SolanaSdk]

def withdrawOptions (args : Args) (managerUrl : String) : List (String × String) :=
  [("--operator-keypair", args.operatorKeypair),
    ("--payer-keypair", args.payerKeypair),
    ("--operator-store", args.operatorStore),
    ("--solana-rpc-url", args.solanaRpcUrl),
    ("--doge-bridge-program", SolanaSdk.pubkeyToString args.dogeBridgeProgram),
    ("--manager-service-url", managerUrl),
    ("--electrs-url", args.electrsUrl),
    ("--manager-set-index", toString args.managerSetIndex),
    ("--wormhole-core-program", SolanaSdk.pubkeyToString args.wormholeCoreProgram),
    ("--wormhole-shim-program", SolanaSdk.pubkeyToString args.wormholeShimProgram)]

/-- Nothing is said of the fee, the dust threshold or the timeouts. -/
def processWithdrawalArgs (args : Args) (requestIndex : Option UInt64) (resume : Bool) :
    Result (List String) := do
  let managerUrl ← managerServiceUrl args
  return optionArguments (withdrawOptions args managerUrl) ++
    (["--manager-signing-enabled", "--broadcast-enabled"] ++
      (match requestIndex with
        | some index => ["--request-index", toString index]
        | none => []) ++
      if resume then ["--resume"] else [])

/-- The withdraw arguments of one dispatch. -/
def dispatchedArgs (args : Args) (requestIndex : Option UInt64) (resume : Bool) :
    Result Prepare.Args := do
  let values ← processWithdrawalArgs args requestIndex resume
  let withdrawArgs ← context "parse process_withdrawal args" (WithdrawArgs.tryParseFrom values)
  withdrawArgs.applyNetworkDefaults args.runtimeNetwork

variable [UrlParser] [Hashes] [Base58Check] [Secp256k1] [BlockHashText] [TxoConstants]

def dispatchWithdrawal (args : Args) (requestIndex : Option UInt64) (resume : Bool) : Flow Unit := do
  let withdrawArgs ← dispatchedArgs args requestIndex resume
  withContext "process or resume withdrawal snapshot batch" (runWithStore withdrawArgs)

inductive PollAction
  | resume
  | start (index : UInt64)
  | idle
  deriving DecidableEq, Repr

def selectPollAction (hasIncompleteBatch : Bool) (snapshotCursor requestedCursor : UInt64) :
    PollAction :=
  if hasIncompleteBatch then .resume
  else if snapshotCursor < requestedCursor then .start snapshotCursor
  else .idle

/-- The client of the bridge program, as far as the daemon uses it. -/
structure BridgeClient where
  getCurrentBridgeState : Flow BridgeProgramState

def pollOnce (args : Args) (client : BridgeClient) : Flow Unit := do
  match ← store .oldestIncompleteSnapshotBatch with
  | some _ => dispatchWithdrawal args none true
  | none => do
    let state ← withContext "read current bridge state" client.getCurrentBridgeState
    match selectPollAction false state.withdrawalSnapshot.nextRequestedWithdrawalsTreeIndex
        state.requestedWithdrawalsTree.nextIndex with
    | .resume => dispatchWithdrawal args none true
    | .start index => dispatchWithdrawal args (some index) false
    | .idle => return ()

end

structure PollFailureTracker where
  consecutive : UInt32
  threshold : UInt32

def pollFailureThreshold : UInt32 := 5

namespace PollFailureTracker

def new (threshold : UInt32) : PollFailureTracker where
  consecutive := 0
  threshold

def recordSuccess (failures : PollFailureTracker) : PollFailureTracker :=
  { failures with consecutive := 0 }

/-- Whether the threshold has been reached; the count saturates. -/
def recordFailure (failures : PollFailureTracker) : Bool × PollFailureTracker :=
  let consecutive :=
    if failures.consecutive.toNat + 1 < 2 ^ 32 then failures.consecutive + 1
    else failures.consecutive
  (decide (failures.threshold ≤ consecutive), { failures with consecutive })

/-- The count is saturated at the largest `u32`, which no threshold exceeds. -/
theorem recordFailure_count (failures : PollFailureTracker) :
    failures.recordFailure.2.threshold = failures.threshold ∧
      failures.recordFailure.2.consecutive.toNat =
        min (failures.consecutive.toNat + 1) (2 ^ 32 - 1) ∧
      (failures.recordFailure.1 = true ↔
        failures.threshold.toNat ≤ failures.consecutive.toNat + 1) := by
  have hbound := failures.threshold.toNat_lt
  have hlt := failures.consecutive.toNat_lt
  by_cases hcount : failures.consecutive.toNat + 1 < 2 ^ 32
  · have hnext : (failures.consecutive + 1).toNat = failures.consecutive.toNat + 1 := by
      rw [UInt32.toNat_add]
      exact Nat.mod_eq_of_lt (by simp; omega)
    simp only [recordFailure, if_pos hcount, decide_eq_true_eq, UInt32.le_iff_toNat_le, hnext,
      true_and, and_true]
    omega
  · simp only [recordFailure, if_neg hcount, decide_eq_true_eq, UInt32.le_iff_toNat_le, true_and]
    constructor
    · omega
    · omega

end PollFailureTracker

/-- The loop over a number of cycles, until a signal stops the daemon. -/
def pollLoop (cycle : Flow Unit) : ℕ → PollFailureTracker → Flow Unit
  | 0, _ => return ()
  | cycles + 1, failures => do
    match ← cycle.attempt with
    | .ok () => pollLoop cycle cycles failures.recordSuccess
    | .error error =>
      let (reached, failures) := failures.recordFailure
      if reached then
        .done (.error [error.headD default,
          s!"operator-daemon aborting after {pollFailureThreshold} consecutive poll failures"])
      else pollLoop cycle cycles failures

end DogeOperator.Daemon
