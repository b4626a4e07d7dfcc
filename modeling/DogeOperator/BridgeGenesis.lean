import DogeOperator.SetupCommands
import DogeOperator.Spendable

/-! What the setup commands leave on chain, whatever the services answer and wherever a command is
stopped: what is there is left as it is, and what is new is never half made. -/
namespace DogeOperator.BridgeGenesis
open Bytes Outcome Crypto Network Manager Records Json Operations Solana Withdraw Deposit Program
  SolanaChain BridgeSetup CreateDogemint

section
variable [ChainPrograms] [BridgeClient]

/-- An account that is found is there; one that is not found may be there. -/
def exec : Exec SetupOp.Answer ErrorChain Chain
  | .getAccount address, c, answer, c' => c' = c ∧ (answer.isOk = true → c address ≠ none)
  | .sendAndConfirmTransaction tx, c, answer, c' => tx.Sent c answer c'
  | .initializeBridge config params, c, answer, c' =>
    (c' = c ∧ answer.isOk = false) ∨ BridgeClient.Initializes config params c c'
  | _, c, _, c' => c' = c

/-- Operations that send no transaction. -/
def Quiet : SetupOp → Prop
  | .sendAndConfirmTransaction _ => False
  | .initializeBridge _ _ => False
  | _ => True

theorem exec_quiet {op : SetupOp} {c c' : Chain} {answer : Result op.Answer} (h : Quiet op)
    (hexec : exec op c answer c') : c' = c := by
  cases op with
  | sendAndConfirmTransaction tx => exact h.elim
  | initializeBridge config params => exact h.elim
  | getAccount address => exact hexec.1
  | _ => exact hexec

variable {α β : Type} {Inv : Chain → Prop} {c : Chain} {Q : Result β → Chain → Prop}

theorem quiet_safe {p : Setup α} (hcalls : p.Calls Quiet) (hc : Inv c) :
    Safe exec Inv (fun _ c' => c' = c) p c := by
  have hsafe : Safe exec (· = c) (fun _ c' => c' = c) p c :=
    Safe.of_calls hcalls (fun _ _ _ _ hquiet hexec h => (exec_quiet hquiet hexec).trans h) rfl
  exact hsafe.mono (fun _ h => h ▸ hc) fun _ _ => id

theorem after_quiet {p : Setup α} {f : α → Setup β} (hcalls : p.Calls Quiet) (hc : Inv c)
    (hok : ∀ a, Safe exec Inv Q (f a) c) (herror : ∀ e, Q (.error e) c) :
    Safe exec Inv Q (p.bind f) c := by
  refine (quiet_safe hcalls hc).bind (fun a c' h => ?_) fun e c' h => ?_
  · rw [h]
    exact hok a
  · rw [h]
    exact herror e

/-- A transaction, and what comes after it. It may have taken effect where its answer is lost. -/
theorem after_send {message : String} {tx : Transaction} {f : SolanaSignature → Setup β} (hc : Inv c)
    (herror : ∀ e, Q (.error e) c)
    (hsent : ∀ c', ChainPrograms.Confirms tx c c' → Inv c' ∧ (∀ e, Q (.error e) c') ∧
      ∀ signature, Safe exec Inv Q (f signature) c') :
    Safe exec Inv Q ((within message (perform (.sendAndConfirmTransaction tx))).bind f) c := by
  intro answer c' hexec
  rcases hexec with ⟨rfl, hfailed⟩ | hconfirms
  · refine ⟨hc, ?_⟩
    cases answer with
    | error e => exact herror _
    | ok signature => cases hfailed
  · rcases hsent c' hconfirms with ⟨hc', herror', hnext⟩
    refine ⟨hc', ?_⟩
    cases answer with
    | error e => exact herror' _
    | ok signature => exact hnext signature

omit [ChainPrograms] [BridgeClient] in
theorem readKeypair_quiet (path role : String) : (BridgeSetup.readKeypair path role).Calls Quiet := by
  simp [BridgeSetup.readKeypair, readKeypairFile, perform, invoke, Quiet]

omit [ChainPrograms] [BridgeClient] in
theorem succeeds_quiet {p : Setup α} (hcalls : p.Calls Quiet) :
    (BridgeSetup.succeeds p).Calls Quiet :=
  Calls.bind (calls_attempt.mpr hcalls) fun _ => trivial

/-- Whether an account is there; it is, if the answer is yes. -/
theorem after_succeeds {address : Pubkey} {f : Bool → Setup β} (hc : Inv c)
    (hfound : c address ≠ none → Safe exec Inv Q (f true) c) (hother : Safe exec Inv Q (f false) c) :
    Safe exec Inv Q ((succeeds (perform (.getAccount address))).bind f) c := by
  intro answer c' hexec
  rcases hexec with ⟨rfl, htrue⟩
  refine ⟨hc, ?_⟩
  cases answer with
  | error e => exact hother
  | ok u => exact hfound (htrue rfl)

end

/-! The one-shot command. -/

section
variable [SolanaSdk] [CustodyProfiles] [BridgeCore] [ChainPrograms] {program : Pubkey}
  {network : RuntimeNetwork} {c₀ c c' : Chain}

/-- What the one-shot command makes: mints under the bridge's authority from the first moment on, the
token account of the recipient, and the bridge state for a mint that is there. -/
def BornAs (program : Pubkey) (network : RuntimeNetwork) (c : Chain) (key : Pubkey) :
    ChainAccount → Prop
  | .mint m => m = ⟨some (bridgeStateAddress program), none, 8⟩
  | .token t => key = TokenPrograms.associatedTokenAddress t.owner t.mint ∧ t.closeAuthority = none
  | .bridge record => key = bridgeStateAddress program ∧ c record.dogeMint ≠ none ∧
      (network = .devnet →
        InitBridge.expectedConfigHash program = .ok record.params.custodianWalletConfigHash)
  | .allocated _ _ => False
  | .metadata _ => False

abbrev Born (program : Pubkey) (network : RuntimeNetwork) : Chain → Chain → Prop :=
  Grown (BornAs program network)

/-- A new account does not undo how the others were made. -/
theorem BornAs.update {key other : Pubkey} {a b : ChainAccount} (habsent : c key = none)
    (h : BornAs program network c other b) :
    BornAs program network (Function.update c key (some a)) other b := by
  cases b with
  | bridge record =>
    refine ⟨h.1, ?_, h.2.2⟩
    have hne : record.dogeMint ≠ key := fun heq => h.2.1 (heq ▸ habsent)
    rw [Function.update_of_ne hne]
    exact h.2.1
  | _ => exact h

theorem Born.add {key : Pubkey} {a : ChainAccount} (h : Born program network c₀ c)
    (habsent : c key = none) (hnew : BornAs program network c key a) :
    Born program network c₀ (Function.update c key (some a)) :=
  Grown.add h habsent (fun _ _ => .update habsent) (.update habsent hnew)

/-- On a public network the bridge is initialized with the hash of the official custody. -/
def HashChecked (args : InitBridge.Args) (params : InitializeBridgeParams) : Prop :=
  args.runtimeNetwork = .devnet → InitBridge.expectedConfigHash args.dogeBridgeProgram =
    .ok params.custodianWalletConfigHash

omit [ChainPrograms] in
theorem checkInstructionData_eq_ok {args : InitBridge.Args} {data : InitializeBridgeParams} {u : Unit}
    (h : InitBridge.checkInstructionData args data = .ok u) : HashChecked args data := by
  intro hdevnet
  rw [InitBridge.checkInstructionData, hdevnet] at h
  rcases bind_eq_ok.mp h with ⟨expected, hexpected, h⟩
  rw [hexpected, not_not.mp (guard_eq_ok.mp h)]

variable [BridgeClient]

theorem initializeParams_safe {args : InitBridge.Args} {Inv : Chain → Prop} (hc : Inv c) :
    Safe exec Inv (EndsWith (· = c) fun params _ => HashChecked args params)
      (InitBridge.initializeParams args) c := by
  have herror : ∀ e, EndsWith (· = c) (fun params _ => HashChecked args params)
      (.error e : Result InitializeBridgeParams) c := fun _ => endsWith_error rfl
  unfold InitBridge.initializeParams
  cases args.dogeConfig with
  | some path =>
    refine after_quiet (by simp [within, perform, invoke, Quiet]) hc (fun bytes => ?_) herror
    refine after_done (fun data _ => ?_) herror
    refine after_done (fun u hchecked => ?_) herror
    exact endsWith_ok rfl (checkInstructionData_eq_ok hchecked)
  | none =>
    refine after_done (fun _ hlocal => ?_) herror
    refine endsWith_ok rfl fun hdevnet => ?_
    have hlocalhost := not_not.mp (guard_eq_ok.mp hlocal)
    rw [hdevnet] at hlocalhost
    cases hlocalhost

variable [LawfulPrograms]

theorem createDogeMintIfNeeded_safe {payer mintKeypair : Keypair} (h : Born program network c₀ c) :
    Safe exec (Born program network c₀)
      (EndsWith (Born program network c₀) fun _ c' => c' mintKeypair.pubkey ≠ none)
      (InitBridge.createDogeMintIfNeeded payer mintKeypair (bridgeStateAddress program)) c := by
  refine after_succeeds h (fun hfound => endsWith_ok h hfound) ?_
  refine after_quiet (by simp [within, perform, invoke, Quiet]) h (fun rent => ?_)
    fun _ => endsWith_error h
  refine after_quiet (by simp [perform, invoke, Quiet]) h (fun blockhash => ?_)
    fun _ => endsWith_error h
  refine after_send h (fun _ => endsWith_error h) fun c' hconfirms => ?_
  rcases confirms_createMint hconfirms with ⟨habsent, rfl⟩
  have hmade := Born.add h habsent (a := .mint ⟨some (bridgeStateAddress program), none, 8⟩) rfl
  exact ⟨hmade, fun _ => endsWith_error hmade, fun _ => endsWith_ok hmade (by simp)⟩

theorem ensureRecipientAta_safe {payer : Keypair} {owner dogeMint : Pubkey}
    (h : Born program network c₀ c) :
    Safe exec (Born program network c₀) (fun _ => Born program network c₀)
      (InitBridge.ensureRecipientAta payer owner dogeMint) c := by
  refine after_succeeds h (fun _ => h) ?_
  refine after_quiet (by simp [perform, invoke, Quiet]) h (fun blockhash => ?_) fun _ => h
  refine after_send h (fun _ => h) fun c' hconfirms => ?_
  rcases LawfulPrograms.createAssociatedTokenAccount (confirms_single hconfirms) with ⟨habsent, rfl⟩
  have hmade := Born.add h habsent (a := .token ⟨owner, dogeMint, none⟩) ⟨rfl, rfl⟩
  exact ⟨hmade, fun _ => hmade, fun _ => hmade⟩

/-- The bridge state, for a mint that is there. -/
theorem initializeBridge_safe [LawfulBridgeClient] {config : BridgeClientConfig} {params : InitializeBridgeParams}
    {message : String} {f : SolanaSignature → Setup Unit} (h : Born program network c₀ c)
    (hstate : config.bridgeState = bridgeStateAddress program) (hmint : c config.dogeMint ≠ none)
    (hhash : network = .devnet →
      InitBridge.expectedConfigHash program = .ok params.custodianWalletConfigHash)
    (hnext : ∀ signature c', Born program network c₀ c' →
      Safe exec (Born program network c₀) (fun _ => Born program network c₀) (f signature) c') :
    Safe exec (Born program network c₀) (fun _ => Born program network c₀)
      ((within message (perform (.initializeBridge config params))).bind f) c := by
  intro answer c' hexec
  have hc' : Born program network c₀ c' := by
    rcases hexec with ⟨rfl, -⟩ | hinitializes
    · exact h
    · rcases LawfulBridgeClient.initializes hinitializes with ⟨signers, feeSpender, heffect⟩
      rcases LawfulPrograms.initializeBridge heffect with ⟨habsent, rfl⟩
      exact h.add habsent ⟨hstate, hmint, hhash⟩
  refine ⟨hc', ?_⟩
  cases answer with
  | error e => exact hc'
  | ok signature => exact hnext signature c' hc'

theorem openRecipient_safe {args : InitBridge.Args} {payer : Keypair} {dogeMint : Pubkey}
    (h : Born program network c₀ c) :
    Safe exec (Born program network c₀) (fun _ => Born program network c₀)
      (InitBridge.openRecipient args payer dogeMint) c := by
  unfold InitBridge.openRecipient
  split
  · refine after_quiet (readKeypair_quiet _ _) h (fun recipient => ?_) fun _ => h
    exact (ensureRecipientAta_safe h).bind (fun _ _ h' => h') fun _ _ h' => h'
  · exact h

variable [UrlParser] [LawfulBridgeClient]

/-- One run of the one-shot command, from any chain. -/
theorem initBridge_safe {args : InitBridge.Args} (hprogram : args.dogeBridgeProgram = program)
    (hnetwork : args.runtimeNetwork = network) (h : Born program network c₀ c) :
    Safe exec (Born program network c₀) (fun _ => Born program network c₀) (InitBridge.run args) c := by
  subst hprogram hnetwork
  have hmintKey : (InitBridge.mintKeypair args).Calls Quiet := by
    unfold InitBridge.mintKeypair
    split
    · exact readKeypair_quiet _ _
    · exact calls_invoke.mpr trivial
  refine after_done (fun _ _ => ?_) fun _ => h
  refine after_done (fun _ _ => ?_) fun _ => h
  refine (initializeParams_safe h).bind (fun params c₁ h₁ => ?_) fun _ _ h' => h'.1 ▸ h
  rcases h₁.1 with rfl
  have hchecked := h₁.value
  refine after_quiet (readKeypair_quiet _ _) h (fun operator => ?_) fun _ => h
  refine after_quiet (readKeypair_quiet _ _) h (fun payer => ?_) fun _ => h
  refine after_quiet (succeeds_quiet (calls_invoke.mpr trivial)) h (fun initialized => ?_) fun _ => h
  refine after_done (fun _ _ => ?_) fun _ => h
  refine after_quiet hmintKey h (fun mintKeypair => ?_) fun _ => h
  refine (createDogeMintIfNeeded_safe h).bind (fun u c₂ h₂ => ?_) fun _ _ h' => h'.1
  rcases h₂ with ⟨h₂, hmint⟩
  refine after_quiet (by simp [within, perform, invoke, Quiet]) h₂ (fun _ => ?_) fun _ => h₂
  refine initializeBridge_safe h₂ rfl (hmint u rfl) hchecked fun _ c₃ h₃ => ?_
  exact openRecipient_safe h₃

end

end DogeOperator.BridgeGenesis

/-! A validator that confirms what takes effect, and the keys that the commands read on the local
network. -/
namespace DogeOperator.Localnet
open Bytes Outcome Crypto Network Operations Solana Program SolanaChain BridgeSetup BridgeGenesis

scoped instance : TokenPrograms where
  tokenProgram := List.Vector.replicate 32 6
  associatedTokenAddress owner mint := List.Vector.map₂ (· + ·) owner mint
  metadataAddress mint := mint.map (· + 1)

def localParams : InitializeBridgeParams :=
  { bridgeHeader := {
      tipState := {
        blockHash := List.Vector.replicate 32 0, blockMerkleTreeRoot := List.Vector.replicate 32 0
        blockTime := 0, blockHeight := 0 }
      finalizedState := {
        blockHash := List.Vector.replicate 32 0, blockMerkleTreeRoot := List.Vector.replicate 32 0
        pendingMintsFinalizedHash := List.Vector.replicate 32 0
        txoOutputListFinalizedHash := List.Vector.replicate 32 0
        autoClaimedTxoTreeRoot := List.Vector.replicate 32 0
        autoClaimedDepositsTreeRoot := List.Vector.replicate 32 0
        autoClaimedDepositsNextIndex := 0, blockHeight := 0 }
      bridgeStateHash := List.Vector.replicate 32 0
      lastRollbackAtSecs := 0, pausedUntilSecs := 0, totalFinalizedFeesCollectedChainHistory := 0 }
    custodianWalletConfigHash := List.Vector.replicate 32 1
    startReturnTxoOutput := {
      sighash := List.Vector.replicate 32 0, outputIndex := 0, amountSats := 0 }
    configParams := {
      depositFeeRateNumerator := 0, depositFeeRateDenominator := 100, withdrawalFeeRateNumerator := 2
      withdrawalFeeRateDenominator := 100, depositFlatFeeSats := 0, withdrawalFlatFeeSats := 1000 } }

scoped instance : BridgeCore where
  instructionDataFromJson _ := .ok localParams
  defaultHeader := localParams.bridgeHeader
  custodyConfigHash _ _ _ _ := .ok (List.Vector.replicate 32 1)

/-- One key for each length of a path. -/
def keypairAt (path : String) : Keypair where
  pubkey := List.Vector.replicate 32 (UInt8.ofNat path.length)
  secret := List.Vector.replicate 32 0

/-- What the programs of the local validator do with an instruction, if it does not fail. -/
def process (signers : List Pubkey) (c : Chain) : Instruction → Option Chain
  | .createAccount payer account _ space owner =>
    if payer ∈ signers ∧ account ∈ signers ∧ c account = none then
      some (Function.update c account (some (.allocated owner space)))
    else none
  | .initializeMint mint authority freezeAuthority decimals =>
    if c mint = some (.allocated TokenPrograms.tokenProgram mintLen) then
      some (Function.update c mint (some (.mint ⟨some authority, freezeAuthority, decimals⟩)))
    else none
  | .setMintAuthority mint newAuthority authority =>
    match c mint with
    | some (.mint m) =>
      if m.mintAuthority = some authority ∧ authority ∈ signers then
        some (Function.update c mint (some (.mint { m with mintAuthority := newAuthority })))
      else none
    | _ => none
  | .setCloseAuthority account newAuthority authority =>
    match c account with
    | some (.token t) =>
      if t.closeAuthority.getD t.owner = authority ∧ authority ∈ signers then
        some (Function.update c account (some (.token { t with closeAuthority := newAuthority })))
      else none
    | _ => none
  | .createMetadata metadata mint mintAuthority payer _ data =>
    match c mint with
    | some (.mint m) =>
      if c metadata = none ∧ m.mintAuthority = some mintAuthority ∧ mintAuthority ∈ signers ∧
          payer ∈ signers then
        some (Function.update c metadata (some (.metadata data)))
      else none
    | _ => none
  | .createAssociatedTokenAccount payer owner mint =>
    match c mint with
    | some (.mint _) =>
      if payer ∈ signers ∧ c (TokenPrograms.associatedTokenAddress owner mint) = none then
        some (Function.update c (TokenPrograms.associatedTokenAddress owner mint)
          (some (.token ⟨owner, mint, none⟩)))
      else none
    | _ => none
  | .initializeBridge bridgeState payer _ _ dogeMint params =>
    if payer ∈ signers ∧ c bridgeState = none then
      some (Function.update c bridgeState (some (.bridge ⟨dogeMint, params⟩)))
    else none

def processAll (tx : Transaction) (c : Chain) : Option Chain :=
  tx.instructions.foldlM (process tx.signers) c

def clientInitialize (config : BridgeClientConfig) (params : InitializeBridgeParams) (c : Chain) :
    Option Chain :=
  process [config.payer.pubkey] c (.initializeBridge config.bridgeState config.payer.pubkey
    config.operator.pubkey config.operator.pubkey config.dogeMint params)

scoped instance : ChainPrograms where
  Effect signers instruction c c' := process signers c instruction = some c'
  Confirms tx c c' := processAll tx c = some c'

scoped instance : BridgeClient where
  Initializes config params c c' := clientInitialize config params c = some c'

theorem processAll_performs {signers : List Pubkey} {instructions : List Instruction} {c c' : Chain}
    (h : instructions.foldlM (process signers) c = some c') : Performs signers instructions c c' := by
  induction instructions generalizing c with
  | nil =>
    cases h
    exact .nil _
  | cons instruction rest ih =>
    rw [List.foldlM_cons, Option.bind_eq_bind, Option.bind_eq_some_iff] at h
    rcases h with ⟨c₁, heffect, hrest⟩
    exact .cons heffect (ih hrest)

scoped instance : LawfulPrograms where
  confirms h := processAll_performs h
  createAccount {_ _ _ _ _ _ c c'} h := by
    simp only [ChainPrograms.Effect, process] at h
    split_ifs at h with hcreate
    cases h
    exact ⟨hcreate.2.2, rfl⟩
  initializeMint {_ _ _ _ _ c c'} h := by
    simp only [ChainPrograms.Effect, process] at h
    split_ifs at h
    cases h
    rfl
  setMintAuthority {_ _ _ _ c c'} h := by
    simp only [ChainPrograms.Effect, process] at h
    split at h
    · rename_i m hmint
      split_ifs at h
      cases h
      exact ⟨m, hmint, rfl⟩
    · cases h
  setCloseAuthority {_ _ _ _ c c'} h := by
    simp only [ChainPrograms.Effect, process] at h
    split at h
    · rename_i t haccount
      split_ifs at h
      cases h
      exact ⟨t, haccount, rfl⟩
    · cases h
  createMetadata {_ _ _ _ _ _ _ c c'} h := by
    simp only [ChainPrograms.Effect, process] at h
    split at h
    · split_ifs at h with hsigned
      cases h
      exact ⟨hsigned.1, rfl⟩
    · cases h
  createAssociatedTokenAccount {_ _ _ _ c c'} h := by
    simp only [ChainPrograms.Effect, process] at h
    split at h
    · split_ifs at h with habsent
      cases h
      exact ⟨habsent.2, rfl⟩
    · cases h
  initializeBridge {_ _ _ _ _ _ _ c c'} h := by
    simp only [ChainPrograms.Effect, process] at h
    split_ifs at h with habsent
    cases h
    exact ⟨habsent.2, rfl⟩

scoped instance : LawfulBridgeClient where
  initializes h := ⟨_, _, h⟩

def confirmed (after : Option Chain) (c : Chain) : Result SolanaSignature × Chain :=
  match after with
  | some c' => (.ok localSignature, c')
  | none => (.error ["Transaction simulation failed"], c)

/-- A local validator, without any failure of its own. -/
def validator : Handler SetupOp.Answer ErrorChain Chain
  | .readKeypairFile path, c => (.ok (keypairAt path), c)
  | .newKeypair, c => (.ok localOperator, c)
  | .pathExists _, c => (.ok true, c)
  | .createDirectories _, c => (.ok (), c)
  | .readDirectory _, c => (.ok [], c)
  | .saveKeypair _ _, c => (.ok (), c)
  | .readFile _, c => (.ok [], c)
  | .readLine, c => (.ok "y", c)
  | .writeOutput _ _, c => (.ok (), c)
  | .getAccount address, c =>
    (if (c address).isSome then .ok () else .error ["AccountNotFound"], c)
  | .getBalance _, c => (.ok 0, c)
  | .airdrop _ _, c => (.ok (), c)
  | .getMinimumBalanceForRentExemption _, c => (.ok 1461600, c)
  | .getLatestBlockhash, c => (.ok (List.Vector.replicate 32 0x77), c)
  | .sendAndConfirmTransaction tx, c => confirmed (processAll tx c) c
  | .createBridgeClient _, c => (.ok (), c)
  | .initializeBridge config params, c => confirmed (clientInitialize config params c) c

theorem validator_exec (op : SetupOp) (c : Chain) :
    exec op c (validator op c).1 (validator op c).2 := by
  cases op with
  | getAccount address =>
    refine ⟨rfl, fun hfound hnone => ?_⟩
    simp [validator, hnone, Except.isOk, Except.toBool] at hfound
  | sendAndConfirmTransaction tx =>
    simp only [exec, Transaction.Sent, validator]
    cases hprocess : processAll tx c with
    | some c' => exact .inr hprocess
    | none => exact .inl ⟨rfl, rfl⟩
  | initializeBridge config params =>
    simp only [exec, validator]
    cases hprocess : clientInitialize config params c with
    | some c' => exact .inr hprocess
    | none => exact .inl ⟨rfl, rfl⟩
  | _ => rfl

theorem validator_completes {α : Type} (p : Setup α) (c : Chain) :
    Completes exec p c (p.runWith validator c).1 (p.runWith validator c).2 := by
  have hexec : ∀ op (c : Chain), True →
      exec op c (validator op c).1 (validator op c).2 ∧ True :=
    fun op c _ => ⟨validator_exec op c, trivial⟩
  exact completes_runWith hexec p trivial

end DogeOperator.Localnet

namespace DogeOperator.BridgeGenesis
open Bytes Network Prepare Operations Withdraw SolanaChain Digests Localnet

def localInitArgs : InitBridge.Args where
  runtimeNetwork := .localhost
  solanaRpcUrl := "http://127.0.0.1:8899"
  operatorKeypair := "operator.json"
  payerKeypair := "payer.json"
  dogeBridgeProgram := List.Vector.replicate 32 1
  recipientKeypair := some "recipient.json"
  dogeMintKeypair := none
  dogeConfig := none
  wormholeCoreProgram := List.Vector.replicate 32 3
  wormholeShimProgram := List.Vector.replicate 32 3

end DogeOperator.BridgeGenesis
