import DogeOperator.BridgeGenesis

/-! Runs of all the setup commands, one after another: what they leave on chain, and what a bridge is
initialized with where the mint is made under the payer first. -/
namespace DogeOperator.SetupSessions
open Bytes Outcome Crypto Network Manager Records Json Operations Solana Withdraw Deposit Program
  SolanaChain BridgeSetup CreateDogemint BridgeGenesis

theorem loadOrCreateKeypair_quiet (keysDir name : String) :
    (InitializeFromDoge.loadOrCreateKeypair keysDir name).Calls Quiet := by
  refine Calls.bind ?_ fun found => ?_
  · simp [InitializeFromDoge.fileExists, calls_bind, perform, invoke, Quiet]
  · split <;> simp [calls_bind, within, readKeypairFile, perform, invoke, Quiet]

theorem loadOrCreateMintKeypair_quiet (path : String) :
    (InitializeFromDoge.loadOrCreateMintKeypair path).Calls Quiet := by
  refine Calls.bind ?_ fun found => ?_
  · simp [InitializeFromDoge.fileExists, calls_bind, perform, invoke, Quiet]
  · split <;> simp [calls_bind, within, readKeypairFile, perform, invoke, Quiet]

theorem loadPayer_quiet (keysDir : String) (payerKeypair : Option String) :
    (InitializeFromDoge.loadPayer keysDir payerKeypair).Calls Quiet := by
  cases payerKeypair with
  | some path =>
    simp [InitializeFromDoge.loadPayer, InitializeFromDoge.loadKeypairFromPath, readKeypairFile, perform,
      invoke, Quiet]
  | none => exact loadOrCreateKeypair_quiet _ _

theorem requestAirdrop_quiet (airdrop : Bool) (payer : Pubkey) (rpcUrl : String) :
    (InitializeFromDoge.requestAirdrop airdrop payer rpcUrl).Calls Quiet := by
  cases airdrop with
  | true => simp [InitializeFromDoge.requestAirdrop, calls_bind, perform, invoke, Quiet]
  | false => trivial

theorem confirmed_quiet (yes : Bool) : (InitializeBridge.confirmed yes).Calls Quiet := by
  unfold InitializeBridge.confirmed
  split <;> simp [calls_bind, perform, invoke, Quiet]

theorem loadKeypair_quiet (role : String) (home keypair : Option String) :
    (loadKeypair role home keypair).Calls Quiet := by
  cases keypair with
  | some path => simp [loadKeypair, readKeypairFile, perform, invoke, Quiet]
  | none => simp [loadKeypair, calls_bind, readKeypairFile, perform, invoke, Quiet]

section
variable [SolanaSdk] [ChainPrograms] {program : Pubkey} {c₀ c c' : Chain}

/-- What any of the commands makes: nothing that is allocated only, no mint that can be frozen, and
each other account where it belongs. -/
def LegitAt (program key : Pubkey) : ChainAccount → Prop
  | .mint m => m.freezeAuthority = none
  | .token t => key = TokenPrograms.associatedTokenAddress t.owner t.mint ∧ t.closeAuthority = none
  | .metadata _ => ∃ mint, key = TokenPrograms.metadataAddress mint
  | .bridge _ => key = bridgeStateAddress program
  | .allocated _ _ => False

abbrev SetUp (program : Pubkey) : Chain → Chain → Prop := Grown fun _ => LegitAt program

theorem LegitAt.settled (key : Pubkey) (a a' : ChainAccount) (h : Settles a a')
    (hlegit : LegitAt program key a) : LegitAt program key a' := by
  cases h with
  | same => exact hlegit
  | closed t => exact ⟨hlegit.1, rfl⟩

theorem SetUp.add {key : Pubkey} {a : ChainAccount} (h : SetUp program c₀ c) (habsent : c key = none)
    (hlegit : LegitAt program key a) : SetUp program c₀ (Function.update c key (some a)) :=
  Grown.add h habsent (fun _ _ => id) hlegit

theorem SetUp.trans (h : SetUp program c₀ c) (h' : SetUp program c c') : SetUp program c₀ c' :=
  Grown.trans h h' LegitAt.settled

variable [BridgeClient] {α : Type} {S : SolanaSignature → Chain → Prop}

omit [SolanaSdk] in
/-- A transaction that is sent last. -/
theorem send_safe {Inv : Chain → Prop} {message : String} {tx : Transaction} (hc : Inv c)
    (hsent : ∀ c', ChainPrograms.Confirms tx c c' → Inv c' ∧ ∀ signature, S signature c') :
    Safe exec Inv (EndsWith Inv S) (within message (perform (.sendAndConfirmTransaction tx))) c := by
  apply safe_mapError.mpr
  intro answer c' hexec
  rcases hexec with ⟨rfl, hfailed⟩ | hconfirms
  · refine ⟨hc, ?_⟩
    cases answer with
    | error e => exact endsWith_error hc
    | ok signature => cases hfailed
  · rcases hsent c' hconfirms with ⟨hc', hvalue⟩
    refine ⟨hc', ?_⟩
    cases answer with
    | error e => exact endsWith_error hc'
    | ok signature => exact endsWith_ok hc' (hvalue signature)

omit [SolanaSdk] in
/-- A transaction that keeps an invariant, whatever is heard of it. -/
theorem sent_safe {Inv : Chain → Prop} {tx : Transaction} (hc : Inv c)
    (hsent : ∀ c', ChainPrograms.Confirms tx c c' → Inv c') :
    Safe exec Inv (fun _ => Inv) (perform (.sendAndConfirmTransaction tx)) c := by
  intro answer c' hexec
  have hc' : Inv c' := by
    rcases hexec with ⟨rfl, -⟩ | hconfirms
    · exact hc
    · exact hsent c' hconfirms
  exact ⟨hc', hc'⟩

def withMint (c : Chain) (mint authority : Pubkey) (decimals : UInt8) : Chain :=
  Function.update c mint (some (.mint ⟨some authority, none, decimals⟩))

variable [LawfulPrograms]

theorem createMint_safe {payer mintKeypair : Keypair} {authority : Pubkey} {decimals : UInt8}
    (h : SetUp program c₀ c) :
    Safe exec (SetUp program c₀) (EndsWith (SetUp program c₀) fun _ c' => c mintKeypair.pubkey = none ∧
        c' = withMint c mintKeypair.pubkey authority decimals)
      (createMint payer mintKeypair authority decimals) c := by
  refine after_quiet (by simp [within, perform, invoke, Quiet]) h (fun rent => ?_)
    fun _ => endsWith_error h
  refine after_quiet (by simp [within, perform, invoke, Quiet]) h (fun blockhash => ?_)
    fun _ => endsWith_error h
  refine send_safe h fun c' hconfirms => ?_
  rcases confirms_createMint hconfirms with ⟨habsent, rfl⟩
  exact ⟨SetUp.add h habsent rfl, fun _ => ⟨habsent, rfl⟩⟩

omit [BridgeClient] in
/-- Metadata is an account of its own. -/
theorem metadata_sent {payer : Keypair} {signers : List Keypair} {mint authority : Pubkey}
    {data : TokenMetadata} {blockhash : FixedBytes 32} {a : ChainAccount} (h : SetUp program c₀ c)
    (hmint : c mint = some a)
    (hconfirms : ChainPrograms.Confirms (signedTransaction payer signers
      [createMetadataIx payer.pubkey mint authority data] blockhash) c c') : SetUp program c₀ c' ∧ c' mint = some a := by
  rcases LawfulPrograms.createMetadata (confirms_single hconfirms) with ⟨habsent, rfl⟩
  refine ⟨SetUp.add h habsent ⟨mint, rfl⟩, ?_⟩
  have hother : mint ≠ TokenPrograms.metadataAddress mint := by
    intro heq
    rw [← heq, hmint] at habsent
    cases habsent
  rw [Function.update_of_ne hother, hmint]

theorem createMetadata_safe {payer : Keypair} {mint : Pubkey} {a : ChainAccount}
    (h : SetUp program c₀ c) (hmint : c mint = some a) :
    Safe exec (SetUp program c₀) (fun _ c' => SetUp program c₀ c' ∧ c' mint = some a)
      (InitializeFromDoge.createMetadata payer mint) c := by
  refine after_quiet (by simp [within, perform, invoke, Quiet]) h (fun blockhash => ?_)
    fun _ => ⟨h, hmint⟩
  intro answer c' hexec
  have hc' : SetUp program c₀ c' ∧ c' mint = some a := by
    rcases hexec with ⟨rfl, -⟩ | hconfirms
    · exact ⟨h, hmint⟩
    · exact metadata_sent h hmint hconfirms
  exact ⟨hc'.1, hc'⟩

/-- The mint has been made since the start, and is handed over. -/
theorem transferAuthority_safe {payer : Keypair} {mint newAuthority : Pubkey} {failure : String}
    {m : Mint} (h : SetUp program c₀ c) (hnew : c₀ mint = none) (hmint : c mint = some (.mint m)) :
    Safe exec (SetUp program c₀) (EndsWith (SetUp program c₀) fun _ c' =>
        c' mint = some (.mint { m with mintAuthority := some newAuthority }))
      (transferAuthority payer mint newAuthority failure) c := by
  refine after_quiet (by simp [within, perform, invoke, Quiet]) h (fun blockhash => ?_)
    fun _ => endsWith_error h
  refine after_send h (fun _ => endsWith_error h) fun c' hconfirms => ?_
  rcases LawfulPrograms.setMintAuthority (confirms_single hconfirms) with ⟨m', hm', rfl⟩
  cases hmint.symm.trans hm'
  have hfree : LegitAt program mint (.mint { m with mintAuthority := some newAuthority }) :=
    h.made mint (.mint m) hnew hmint
  have hchanged := Grown.change h hnew hfree
  exact ⟨hchanged, fun _ => endsWith_error hchanged,
    fun _ => endsWith_ok hchanged (Function.update_self _ _ _)⟩

theorem sendInitialize_safe {payer : Keypair} {operator feeSpender dogeMint : Pubkey}
    {params : InitializeBridgeParams} (h : SetUp program c₀ c) :
    Safe exec (SetUp program c₀) (EndsWith (SetUp program c₀) fun _ c' =>
        c (bridgeStateAddress program) = none ∧
          c' = Function.update c (bridgeStateAddress program) (some (.bridge ⟨dogeMint, params⟩)))
      (InitializeBridge.sendInitialize program payer operator feeSpender dogeMint params) c := by
  refine after_quiet (by simp [within, perform, invoke, Quiet]) h (fun blockhash => ?_)
    fun _ => endsWith_error h
  refine send_safe h fun c' hconfirms => ?_
  rcases LawfulPrograms.initializeBridge (confirms_single hconfirms) with ⟨habsent, rfl⟩
  exact ⟨SetUp.add h habsent rfl, fun _ => ⟨habsent, rfl⟩⟩

/-- A mint that is made here ends under the bridge. -/
theorem createDogeMint_safe [BridgeCore] {payer mintKeypair : Keypair} {decimals : UInt8}
    (h : SetUp program c₀ c) :
    Safe exec (SetUp program c₀) (EndsWith (SetUp program c₀) fun _ c' =>
        c mintKeypair.pubkey = none ∧ c' mintKeypair.pubkey =
          some (.mint ⟨some (bridgeStateAddress program), none, decimals⟩))
      (InitializeFromDoge.createDogeMint program decimals payer mintKeypair) c := by
  refine (createMint_safe h).bind (fun _ c₁ h₁ => ?_) fun _ _ h₁ => endsWith_error h₁.1
  rcases h₁.value with ⟨habsent, rfl⟩
  have hmade : withMint c mintKeypair.pubkey payer.pubkey decimals mintKeypair.pubkey =
      some (.mint ⟨some payer.pubkey, none, decimals⟩) := Function.update_self _ _ _
  refine (createMetadata_safe h₁.1 hmade).bind (fun _ c₂ h₂ => ?_) fun _ _ h₂ => endsWith_error h₂.1
  refine (transferAuthority_safe h₂.1 (h.kept.absent habsent) h₂.2).bind (fun _ c₃ h₃ => ?_)
    fun _ _ h₃ => endsWith_error h₃.1
  exact endsWith_ok h₃.1 ⟨habsent, h₃.value⟩

/-- The bridge has just been initialized for a mint: one that is held by the bridge, unless it was
there before. -/
structure Initialized (program mint : Pubkey) (decimals : UInt8) (params : InitializeBridgeParams)
    (c c' : Chain) : Prop where
  before : c (bridgeStateAddress program) = none
  after : c' (bridgeStateAddress program) = some (.bridge ⟨mint, params⟩)
  mint : (c mint = none ∧ c' mint = some (.mint ⟨some (bridgeStateAddress program), none, decimals⟩)) ∨
    (c mint ≠ none ∧ c' mint = c mint)

/-- The mint is there, as it should be, when the bridge is initialized. -/
theorem initialize_safe (decimals : UInt8) {payer : Keypair} {operator feeSpender mint : Pubkey}
    {params : InitializeBridgeParams} {a : ChainAccount} (h : SetUp program c c')
    (hstored : c' mint = some a)
    (hmint : (c mint = none ∧ a = .mint ⟨some (bridgeStateAddress program), none, decimals⟩) ∨
      c mint = some a) :
    Safe exec (SetUp program c)
      (EndsWith (SetUp program c) fun _ => Initialized program mint decimals params c)
      (InitializeBridge.sendInitialize program payer operator feeSpender mint params) c' := by
  refine (sendInitialize_safe h).imp fun result c'' hsent => ⟨hsent.1, fun signature hok => ?_⟩
  rcases hsent.2 signature hok with ⟨habsent, rfl⟩
  have hother : mint ≠ bridgeStateAddress program := by
    intro heq
    rw [heq, habsent] at hstored
    cases hstored
  have hkept : Function.update c' (bridgeStateAddress program) (some (.bridge ⟨mint, params⟩)) mint =
      some a := by rw [Function.update_of_ne hother, hstored]
  refine ⟨h.kept.absent habsent, Function.update_self _ _ _, ?_⟩
  rcases hmint with ⟨hnew, rfl⟩ | hthere
  · exact .inl ⟨hnew, hkept⟩
  · exact .inr ⟨by simp [hthere], hkept.trans hthere.symm⟩

variable [BridgeCore]

omit [BridgeCore] [LawfulPrograms] in
theorem saveOutput_safe {path : String} {output : Value} {S : Unit → Chain → Prop}
    (h : SetUp program c c') (hvalue : S () c') :
    Safe exec (SetUp program c) (EndsWith (SetUp program c) S)
      (InitializeFromDoge.saveOutput path output) c' := by
  refine after_quiet (by simp [within, perform, invoke, Quiet]) h (fun _ => ?_)
    fun _ => endsWith_error h
  refine (quiet_safe (by simp [within, perform, invoke, Quiet]) h).imp fun result c'' heq => ?_
  rw [heq]
  exact ⟨h, fun _ _ => hvalue⟩

theorem createAndInitialize_safe {args : InitializeFromDoge.Args}
    {payer operator feeSpender mintKeypair : Keypair} {mintExists : Bool}
    {params : InitializeBridgeParams} (hfound : mintExists = true → c mintKeypair.pubkey ≠ none) :
    Safe exec (SetUp program c) (EndsWith (SetUp program c) fun _ =>
        Initialized program mintKeypair.pubkey args.decimals params c)
      (InitializeFromDoge.createAndInitialize program args payer operator feeSpender mintKeypair
        mintExists params) c := by
  unfold InitializeFromDoge.createAndInitialize
  cases mintExists with
  | true =>
    rcases Option.ne_none_iff_exists'.mp (hfound rfl) with ⟨a, hstored⟩
    refine (initialize_safe args.decimals (.refl c) hstored (.inr hstored)).bind
      (fun signature c₁ h₁ => ?_) fun _ _ h₁ => endsWith_error h₁.1
    exact saveOutput_safe h₁.1 h₁.value
  | false =>
    have hcreated : Safe exec (SetUp program c) (EndsWith (SetUp program c) fun _ c' =>
        c mintKeypair.pubkey = none ∧ c' mintKeypair.pubkey =
          some (.mint ⟨some (bridgeStateAddress program), none, args.decimals⟩))
        (some <$> InitializeFromDoge.createDogeMint program args.decimals payer mintKeypair) c :=
      (createDogeMint_safe (.refl c)).bind (fun _ _ h₁ => endsWith_ok h₁.1 h₁.value)
        fun _ _ h₁ => endsWith_error h₁.1
    refine hcreated.bind (fun created c₁ h₁ => ?_) fun _ _ h₁ => endsWith_error h₁.1
    refine (initialize_safe args.decimals h₁.1 h₁.value.2 (.inl ⟨h₁.value.1, rfl⟩)).bind (fun signature c₂ h₂ => ?_)
      fun _ _ h₂ => endsWith_error h₂.1
    exact saveOutput_safe h₂.1 h₂.value

theorem initializeFromDoge_safe (rpcUrl : String) (payerKeypair : Option String)
    (args : InitializeFromDoge.Args) :
    Safe exec (SetUp program c) (EndsWith (SetUp program c) fun _ c' => c' = c ∨
        ∃ mint params, Initialized program mint args.decimals params c c')
      (InitializeFromDoge.execute program rpcUrl payerKeypair args) c := by
  have h : SetUp program c c := .refl c
  refine after_quiet (by simp [within, perform, invoke, Quiet]) h (fun _ => ?_) fun _ => endsWith_error h
  refine after_quiet (loadPayer_quiet _ _) h (fun payer => ?_) fun _ => endsWith_error h
  refine after_quiet (requestAirdrop_quiet _ _ _) h (fun _ => ?_) fun _ => endsWith_error h
  refine after_quiet (loadOrCreateKeypair_quiet _ _) h (fun operator => ?_) fun _ => endsWith_error h
  refine after_quiet (loadOrCreateKeypair_quiet _ _) h (fun feeSpender => ?_) fun _ => endsWith_error h
  refine after_quiet (by simp [within, perform, invoke, Quiet]) h (fun content => ?_)
    fun _ => endsWith_error h
  refine after_done (fun dogeData _ => ?_) fun _ => endsWith_error h
  refine after_quiet (loadOrCreateMintKeypair_quiet _) h (fun mintKeypair => ?_)
    fun _ => endsWith_error h
  have hproceed : ∀ mintExists, (mintExists = true → c mintKeypair.pubkey ≠ none) →
      Safe exec (SetUp program c) (EndsWith (SetUp program c) fun _ c' => c' = c ∨
          ∃ mint params, Initialized program mint args.decimals params c c')
        ((InitializeBridge.confirmed args.yes).bind fun yes =>
          if yes then InitializeFromDoge.createAndInitialize program args payer operator feeSpender
            mintKeypair mintExists dogeData else pure ()) c := by
    intro mintExists hfound
    refine after_quiet (confirmed_quiet _) h (fun yes => ?_) fun _ => endsWith_error h
    cases yes with
    | true =>
      exact (createAndInitialize_safe hfound).imp fun result c' hend =>
        ⟨hend.1, fun u hok => .inr ⟨_, _, hend.2 u hok⟩⟩
    | false => exact endsWith_ok h (.inl rfl)
  exact after_succeeds h (fun hthere => hproceed true fun _ => hthere)
    (hproceed false fun hfalse => by cases hfalse)

omit [BridgeCore] in
theorem createDogemint_metadata_safe {args : CreateDogemint.Args} {payer : Keypair} {mint : Pubkey}
    {a : ChainAccount} (h : SetUp program c₀ c) (hmint : c mint = some a) :
    Safe exec (SetUp program c₀) (EndsWith (SetUp program c₀) fun _ c' => c' mint = some a)
      (CreateDogemint.createMetadata args payer mint) c := by
  have hsigner : (metadataSigner args payer).Calls Quiet := by
    unfold metadataSigner
    split
    · trivial
    · split
      · simp [readKeypairFile, perform, invoke, Quiet]
      · trivial
  unfold CreateDogemint.createMetadata
  split
  · exact endsWith_ok h hmint
  refine after_quiet hsigner h (fun signer => ?_) fun _ => endsWith_error h
  refine after_quiet (by simp [within, perform, invoke, Quiet]) h (fun blockhash => ?_)
    fun _ => endsWith_error h
  refine after_send h (fun _ => endsWith_error h) fun c' hconfirms => ?_
  rcases metadata_sent h hmint hconfirms with ⟨hc', hmint'⟩
  exact ⟨hc', fun _ => endsWith_error hc', fun _ => endsWith_ok hc' hmint'⟩

omit [BridgeCore] in
theorem createDogemint_safe (home keypair : Option String) (args : CreateDogemint.Args) :
    Safe exec (SetUp program c) (fun _ => SetUp program c)
      (CreateDogemint.execute program home keypair args) c := by
  have h : SetUp program c c := .refl c
  have hauthority : ∀ payer, (initialAuthority args payer).Calls Quiet := by
    intro payer
    unfold initialAuthority
    split
    · trivial
    · split
      · simp [calls_bind, readKeypairFile, perform, invoke, Quiet]
      · trivial
  refine after_quiet (loadKeypair_quiet _ _ _) h (fun payer => ?_) fun _ => h
  refine after_quiet (by simp [perform, invoke, Quiet]) h (fun mintKeypair => ?_) fun _ => h
  refine after_quiet (hauthority payer) h (fun authority => ?_) fun _ => h
  refine (createMint_safe h).bind (fun _ c₁ h₁ => ?_) fun _ _ h₁ => h₁.1
  rcases h₁.value with ⟨habsent, rfl⟩
  have hmade : withMint c mintKeypair.pubkey authority args.decimals mintKeypair.pubkey =
      some (.mint ⟨some authority, none, args.decimals⟩) := Function.update_self _ _ _
  refine (createDogemint_metadata_safe h₁.1 hmade).bind (fun _ c₂ h₂ => ?_) fun _ _ h₂ => h₂.1
  have hhanded : Safe exec (SetUp program c) (fun _ => SetUp program c)
      (handOver program args payer mintKeypair.pubkey) c₂ := by
    unfold handOver
    split
    · exact (transferAuthority_safe h₂.1 habsent h₂.value).imp fun _ _ h₃ => h₃.1
    · exact h₂.1
  refine hhanded.bind (fun _ c₃ h₃ => ?_) fun _ _ h₃ => h₃
  split
  · refine (quiet_safe (by simp [within, perform, invoke, Quiet]) h₃).imp fun _ c₄ heq => ?_
    rw [heq]
    exact h₃
  · exact h₃

omit [BridgeCore] in
theorem initialize_command_safe [SerdeJson] (home keypair : Option String)
    (args : InitializeBridge.Args) :
    Safe exec (SetUp program c) (fun _ => SetUp program c)
      (InitializeBridge.execute program home keypair args) c := by
  have h : SetUp program c c := .refl c
  have hresolve : ∀ role field keypair configured,
      (InitializeBridge.resolvePubkey role field keypair configured).Calls Quiet := by
    intro role field keypair configured
    unfold InitializeBridge.resolvePubkey
    split
    · simp [calls_bind, readKeypairFile, perform, invoke, Quiet]
    · trivial
  refine after_quiet (loadKeypair_quiet _ _ _) h (fun payer => ?_) fun _ => h
  refine after_quiet (by simp [within, perform, invoke, Quiet]) h (fun content => ?_) fun _ => h
  refine after_done (fun config _ => ?_) fun _ => h
  refine after_quiet (hresolve _ _ _ _) h (fun operator => ?_) fun _ => h
  refine after_quiet (hresolve _ _ _ _) h (fun feeSpender => ?_) fun _ => h
  refine after_done (fun dogeMint _ => ?_) fun _ => h
  refine after_done (fun params _ => ?_) fun _ => h
  refine after_quiet (confirmed_quiet _) h (fun yes => ?_) fun _ => h
  cases yes with
  | true =>
    exact (sendInitialize_safe h).bind (fun _ _ h₁ => h₁.1) fun _ _ h₁ => h₁.1
  | false => exact h

omit [BridgeCore] in
theorem openAta_safe {payer : Keypair} {user dogeMint : Pubkey} {ataExists : Bool} (h : SetUp program c₀ c) :
    Safe exec (SetUp program c₀) (fun _ => SetUp program c₀)
      (SetupUserAtas.openAta payer user dogeMint ataExists) c := by
  unfold SetupUserAtas.openAta
  split
  · exact h
  refine after_quiet (by simp [perform, invoke, Quiet]) h (fun blockhash => ?_) fun _ => h
  refine (sent_safe h fun c' hconfirms => ?_).bind (fun _ _ h₁ => h₁) fun _ _ h₁ => h₁
  rcases LawfulPrograms.createAssociatedTokenAccount (confirms_single hconfirms) with ⟨habsent, rfl⟩
  exact SetUp.add h habsent ⟨rfl, rfl⟩

omit [BridgeCore] in
theorem clearCloseAuthority_safe {payer user : Keypair} {ata : Pubkey} (h : SetUp program c₀ c) :
    Safe exec (SetUp program c₀) (fun _ => SetUp program c₀)
      (SetupUserAtas.clearCloseAuthority payer user ata) c := by
  refine after_quiet (by simp [perform, invoke, Quiet]) h (fun blockhash => ?_) fun _ => h
  have hsent : Safe exec (SetUp program c₀) (fun _ => SetUp program c₀)
      (perform (.sendAndConfirmTransaction (signedTransaction payer [user]
        [.setCloseAuthority ata none user.pubkey] blockhash))).attempt c := by
    refine safe_attempt.mpr (sent_safe h fun c' hconfirms => ?_)
    rcases LawfulPrograms.setCloseAuthority (confirms_single hconfirms) with ⟨t, hstored, rfl⟩
    exact Grown.close h LegitAt.settled hstored
  exact hsent.bind (fun _ _ h₁ => h₁) fun _ _ h₁ => h₁

section
variable [SerdeJson] {args : SetupUserAtas.Args} {payer : Keypair} {dogeMint : Pubkey}

omit [BridgeCore] in
/-- One user, whatever comes of it. -/
theorem setupUser_safe {path : String} (h : SetUp program c₀ c) :
    Safe exec (SetUp program c₀) (fun _ => SetUp program c₀)
      (SetupUserAtas.setupUser args payer dogeMint path) c := by
  refine after_quiet (by simp [perform, invoke, Quiet]) h (fun content => ?_) fun _ => h
  refine after_done (fun userInfo _ => ?_) fun _ => h
  refine after_done (fun user _ => ?_) fun _ => h
  refine after_quiet (succeeds_quiet (calls_invoke.mpr trivial)) h (fun ataExists => ?_) fun _ => h
  split
  · exact h
  refine (openAta_safe h).bind (fun _ c₁ h₁ => ?_) fun _ _ h₁ => h₁
  split
  · exact clearCloseAuthority_safe h₁
  · exact h₁

omit [BridgeCore] in
theorem setupUsers_safe {paths : List String} {counts : ℕ × ℕ} (h : SetUp program c₀ c) :
    Safe exec (SetUp program c₀) (fun _ => SetUp program c₀)
      (SetupUserAtas.setupUsers args payer dogeMint paths counts) c := by
  induction paths generalizing counts c with
  | nil => exact h
  | cons path rest ih =>
    rcases counts with ⟨successCount, errorCount⟩
    have huser : Safe exec (SetUp program c₀) (fun _ => SetUp program c₀)
        (SetupUserAtas.setupUser args payer dogeMint path).attempt c :=
      safe_attempt.mpr (setupUser_safe h)
    refine huser.bind (fun outcome c₁ h₁ => ?_) fun _ _ h₁ => h₁
    cases outcome with
    | ok u => exact ih h₁
    | error e => exact ih h₁

omit [BridgeCore] in
theorem setupUserAtas_safe (home keypair : Option String) (args : SetupUserAtas.Args) :
    Safe exec (SetUp program c) (fun _ => SetUp program c)
      (SetupUserAtas.execute home keypair args) c := by
  have h : SetUp program c c := .refl c
  refine after_done (fun dogeMint _ => ?_) fun _ => h
  refine after_quiet (loadKeypair_quiet _ _ _) h (fun payer => ?_) fun _ => h
  refine after_quiet (by simp [InitializeFromDoge.fileExists, calls_bind, perform, invoke, Quiet]) h
    (fun found => ?_) fun _ => h
  refine after_done (fun _ _ => ?_) fun _ => h
  refine after_quiet (by simp [within, perform, invoke, Quiet]) h (fun entries => ?_) fun _ => h
  exact setupUsers_safe h

end

end

/-! All the commands. -/

section
variable [SolanaSdk] [ChainPrograms] [UrlParser] [CustodyProfiles] [BridgeCore] [SerdeJson]
  {program : Pubkey} {c₀ c c' : Chain}

/-- The setup commands, with any arguments. -/
inductive SetupCommand (program : Pubkey) : Setup Unit → Prop
  | initBridge (args : InitBridge.Args) (hprogram : args.dogeBridgeProgram = program) :
    SetupCommand program (InitBridge.run args)
  | createDogemint (home keypair : Option String) (args : CreateDogemint.Args) :
    SetupCommand program (CreateDogemint.execute program home keypair args)
  | initializeBridge (home keypair : Option String) (args : InitializeBridge.Args) :
    SetupCommand program (InitializeBridge.execute program home keypair args)
  | initializeFromDoge (rpcUrl : String) (payerKeypair : Option String)
      (args : InitializeFromDoge.Args) :
    SetupCommand program (InitializeFromDoge.execute program rpcUrl payerKeypair args)
  | setupUserAtas (home keypair : Option String) (args : SetupUserAtas.Args) :
    SetupCommand program ((SetupUserAtas.execute home keypair args).bind fun _ => .done (.ok ()))

omit [UrlParser] [CustodyProfiles] [BridgeCore] [SerdeJson] in
theorem bornAs_legit [CustodyProfiles] [BridgeCore] {network : RuntimeNetwork} {key : Pubkey}
    {a : ChainAccount} (h : BornAs program network c key a) : LegitAt program key a := by
  cases a with
  | mint m =>
    rw [LegitAt, show m = _ from h]
  | token t => exact h
  | bridge record => exact h.1
  | allocated owner space => exact h.elim
  | metadata metadata => exact h.elim

variable [BridgeClient] [LawfulPrograms] [LawfulBridgeClient]

theorem setupCommand_safe {p : Setup Unit} (h : SetupCommand program p) :
    Safe exec (SetUp program c) (fun _ => SetUp program c) p c := by
  cases h with
  | initBridge args hprogram =>
    exact (initBridge_safe hprogram rfl (.refl c)).mono
      (fun _ hborn => hborn.mono fun _ _ => bornAs_legit) fun _ _ hborn => hborn.mono fun _ _ => bornAs_legit
  | createDogemint home keypair args => exact createDogemint_safe home keypair args
  | initializeBridge home keypair args => exact initialize_command_safe home keypair args
  | initializeFromDoge rpcUrl payerKeypair args =>
    exact (initializeFromDoge_safe rpcUrl payerKeypair args).imp fun _ _ hend => hend.1
  | setupUserAtas home keypair args =>
    exact (setupUserAtas_safe home keypair args).bind (fun _ _ h₁ => h₁) fun _ _ h₁ => h₁

end

section
open Digests Localnet

scoped instance : SerdeJson where
  fromSlice _ := .error ""
  keypairFromBytes _ := .error ""

def localDogeArgs : InitializeFromDoge.Args where
  config := "doge_config.json"
  keysDir := "keys"
  decimals := 8
  output := "bridge.json"
  yes := true
  airdrop := false

def localProgram : Pubkey := List.Vector.replicate 32 1

/-- The key that is read from `keys/doge_mint.json`. -/
def localMint : Pubkey := (keypairAt "keys/doge_mint.json").pubkey

/-- A run was stopped before it could hand the mint over. -/
def strandedChain : Chain :=
  withMint (fun _ => none) localMint (keypairAt "keys/payer.json").pubkey 8

end

end DogeOperator.SetupSessions
