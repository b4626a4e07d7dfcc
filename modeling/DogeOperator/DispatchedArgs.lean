import DogeOperator.Daemon

/-! What a resumed batch is recovered with: the daemon's withdraw command leaves fee and dust
threshold to their defaults, whatever the batch was prepared with. -/
namespace DogeOperator.Daemon
open Outcome Crypto CommandLine IntegerText Utx0 Tx Network Manager Prepare Records Solana Withdraw

section
variable [SolanaSdk]

theorem withdrawOptions_known (args : Args) (managerUrl : String) :
    ∀ option ∈ withdrawOptions args managerUrl,
      option.1 ∈ withdrawCommand.options ∧ option.1 ∉ withdrawCommand.switches := by
  simp [withdrawOptions, withdrawCommand]

/-- The matches of a resume dispatch. -/
theorem getMatches_resume {args : Args} {values : List String} {m : ArgMatches}
    (hvalues : processWithdrawalArgs args none true = .ok values)
    (h : withdrawCommand.getMatches values = .ok m) :
    ∃ managerUrl, args.managerServiceUrl = some managerUrl ∧
      m.values = withdrawOptions args managerUrl ∧
      m.switches = ["--manager-signing-enabled", "--broadcast-enabled", "--resume"] := by
  rcases bind_eq_ok.mp hvalues with ⟨managerUrl, hurl, hvalues⟩
  cases hvalues
  refine ⟨managerUrl, orBail_eq_ok.mp hurl, ?_⟩
  have hrest := readArguments_options (withdrawOptions_known args managerUrl) h
  have hswitches := readArguments_switches (by simp [withdrawCommand]) hrest
  rw [hswitches]
  exact ⟨rfl, rfl⟩

theorem fromArgMatches_fees {m : ArgMatches} {args : WithdrawArgs}
    (h : WithdrawArgs.fromArgMatches m = .ok args) :
    ∃ fee dust, optionalValue (parseNumber parseU64) m "--fee-sats" = .ok fee ∧
      optionalValue (parseNumber parseU64) m "--dust-threshold-sats" = .ok dust ∧
      args.feeSats = fee.getD defaultFeeSats ∧
      args.dustThresholdSats = dust.getD dustThresholdSats := by
  rcases bind_eq_ok.mp h with ⟨_, _, h⟩
  rcases bind_eq_ok.mp h with ⟨_, _, h⟩
  rcases bind_eq_ok.mp h with ⟨fee, hfee, h⟩
  rcases bind_eq_ok.mp h with ⟨dust, hdust, h⟩
  refine ⟨fee, dust, hfee, hdust, ?_⟩
  -- the other options do not touch the two amounts
  simp only [bind_eq_ok] at h
  rcases h with ⟨_, -, _, -, _, -, _, -, _, -, _, -, _, -, _, -, _, -, _, -, _, -, _, -, _, -, _, -,
    _, -, _, -, _, -, h⟩
  cases h
  exact ⟨rfl, rfl⟩

/-- The fee and the dust threshold of a resume are the defaults. -/
theorem dispatchedArgs_resume {args : Args} {resumed : Prepare.Args}
    (h : dispatchedArgs args none true = .ok resumed) :
    resumed.feeSats = defaultFeeSats ∧ resumed.dustThresholdSats = dustThresholdSats := by
  rcases bind_eq_ok.mp h with ⟨values, hvalues, h⟩
  rcases bind_eq_ok.mp h with ⟨withdrawArgs, hparsed, h⟩
  rcases bind_eq_ok.mp (context_eq_ok.mp hparsed) with ⟨m, hmatches, hparsed⟩
  rcases getMatches_resume hvalues hmatches with ⟨managerUrl, -, hm, -⟩
  rcases fromArgMatches_fees hparsed with ⟨fee, dust, hfee, hdust, hfeeSats, hdustSats⟩
  have hnofee : fee = none := optionalValue_eq_ok hfee (by rw [hm]; rfl)
  have hnodust : dust = none := optionalValue_eq_ok hdust (by rw [hm]; rfl)
  rcases bind_eq_ok.mp h with ⟨core, -, h⟩
  rcases bind_eq_ok.mp h with ⟨shim, -, h⟩
  cases h
  rw [hnofee] at hfeeSats
  rw [hnodust] at hdustSats
  exact ⟨hfeeSats, hdustSats⟩

variable [Hashes] [Base58Check]

/-- Paid with the default fee, and with no change below the default dust threshold. -/
def DefaultFees (args : Prepare.Args) (reservation : CustodyReservation) : Prop :=
  args.feeSats = defaultFeeSats ∧
    (reservation.selectedAmountSats = reservation.requiredAmountSats ∨
      reservation.requiredAmountSats.toNat + dustThresholdSats.toNat ≤
        reservation.selectedAmountSats.toNat)

variable {args resumed : Prepare.Args} {bridgeState : Pubkey} {payload : Utx0UnlockPayload}
  {managerSet : ManagerSet} {reservation : CustodyReservation} {withdrawalSats : UInt64}
  {plan : CustodyTransactionPlan}

omit [SolanaSdk] in
/-- The change is what is selected beyond the required amount. -/
theorem changeSats_of_checks
    (h : PreparationChecks args bridgeState payload managerSet reservation withdrawalSats plan) :
    reservation.selectedAmountSats.toNat =
      reservation.requiredAmountSats.toNat + plan.changeSats.toNat := by
  rcases planCustodyTransaction_eq_ok.mp h.planned with ⟨-, -, -, hselected, -⟩
  rw [checkedAdd_eq_some.mp h.required]
  exact hselected

omit [SolanaSdk] in
/-- The checks of one preparation hold for other arguments exactly when these ask the same fee and
allow the change. -/
theorem checks_other_iff
    (h : PreparationChecks args bridgeState payload managerSet reservation withdrawalSats plan) :
    (∃ withdrawalSats' plan', PreparationChecks resumed bridgeState payload managerSet reservation
        withdrawalSats' plan') ↔
      resumed.feeSats = args.feeSats ∧
        (plan.changeSats = 0 ∨ resumed.dustThresholdSats ≤ plan.changeSats) := by
  constructor
  · intro hother
    rcases hother with ⟨withdrawalSats', plan', hother⟩
    have hsum : withdrawalSats' = withdrawalSats := Except.ok.inj (hother.sum.symm.trans h.sum)
    subst hsum
    have hrequired := checkedAdd_eq_some.mp h.required
    have hrequired' := checkedAdd_eq_some.mp hother.required
    have hchange := changeSats_of_checks h
    have hchange' := changeSats_of_checks hother
    have hsame : plan'.changeSats = plan.changeSats := UInt64.toNat_inj.mp (by omega)
    rcases planCustodyTransaction_eq_ok.mp hother.planned with ⟨-, -, -, -, hdust⟩
    rw [hsame] at hdust
    exact ⟨UInt64.toNat_inj.mp (by omega), hdust⟩
  · intro hsame
    rcases planCustodyTransaction_eq_ok.mp h.planned with ⟨hpositive, hrecipient, hfee, hselected, -⟩
    refine ⟨withdrawalSats, plan, h.sum, ?_, ?_, h.inputs, h.change, h.nonempty⟩
    · rw [hsame.1]
      exact h.required
    · refine planCustodyTransaction_eq_ok.mpr ⟨hpositive, hrecipient, ?_, ?_, hsame.2⟩
      · rw [hsame.1]
        exact hfee
      · rw [hsame.1]
        exact hselected

omit [SolanaSdk] in
theorem defaultFees_iff
    (h : PreparationChecks args bridgeState payload managerSet reservation withdrawalSats plan) :
    DefaultFees args reservation ↔ defaultFeeSats = args.feeSats ∧
      (plan.changeSats = 0 ∨ dustThresholdSats ≤ plan.changeSats) := by
  have hchange := changeSats_of_checks h
  have hzero : reservation.selectedAmountSats = reservation.requiredAmountSats ↔
      plan.changeSats = 0 := by
    rw [← UInt64.toNat_inj, ← UInt64.toNat_inj, hchange]
    simp
  have hdust : reservation.requiredAmountSats.toNat + dustThresholdSats.toNat ≤
      reservation.selectedAmountSats.toNat ↔ dustThresholdSats ≤ plan.changeSats := by
    rw [UInt64.le_iff_toNat_le, hchange]
    omega
  rw [DefaultFees, hzero, hdust, eq_comm]

/-- A batch prepared by any withdraw run is recovered from its bytes by the daemon's resume exactly
when it was paid with the default fee and leaves no change below the default threshold. -/
theorem dispatched_recovery_iff {daemon : Args} {p : PreparedTransaction}
    (hdispatched : dispatchedArgs daemon none true = .ok resumed)
    (hprogram : resumed.dogeBridgeProgram = args.dogeBridgeProgram)
    (hprepared : preparedFromReservation args (bridgeStateAddress args.dogeBridgeProgram) payload
      managerSet reservation none = .ok p)
    (hpayload : payload.outputs.length ≤ snapshotProofMaxBatch)
    (hutxos : reservation.utxos.length ≤ maxPersistedInputs) :
    (∃ q, preparedFromReservation resumed (bridgeStateAddress resumed.dogeBridgeProgram) payload
        managerSet reservation (some p.unsignedBytes) = .ok q ∧
          q.unsignedBytes = p.unsignedBytes) ↔ DefaultFees args reservation := by
  rcases preparedFromReservation_eq_ok.mp hprepared with ⟨withdrawalSats, plan, hchecks, -, rfl⟩
  rcases dispatchedArgs_resume hdispatched with ⟨hfee, hdust⟩
  rw [hprogram, defaultFees_iff hchecks, ← hfee, ← hdust, ← checks_other_iff hchecks]
  constructor
  · intro hrecovered
    rcases hrecovered with ⟨q, hq, -⟩
    rcases preparedFromReservation_eq_ok.mp hq with ⟨withdrawalSats', plan', hchecks', -, -⟩
    exact ⟨withdrawalSats', plan', hchecks'⟩
  · intro hother
    rcases hother with ⟨withdrawalSats', plan', hchecks'⟩
    have hchange := changeSats_of_checks hchecks
    have hchange' := changeSats_of_checks hchecks'
    have hsame : plan'.changeSats = plan.changeSats := UInt64.toNat_inj.mp (by omega)
    refine ⟨_, preparedFromReservation_eq_ok.mpr
      ⟨withdrawalSats', plan', hchecks', ⟨?_, ?_, ?_⟩, rfl⟩, ?_⟩
    · rw [hsame]
      rfl
    · rw [preparedUnsigned_inputs_length]
      exact hutxos
    · exact preparedUnsigned_outputs_length_le _ _ _ _ hpayload
    · rw [preparedRecord, preparedRecord, hsame]

end

deriving instance DecidableEq for Prepare.Args

section
open Localnet Digests

def localDaemon : Args where
  runtimeNetwork := .localhost
  solanaRpcUrl := localSolanaRpc
  operatorKeypair := "operator.json"
  payerKeypair := "payer.json"
  operatorStore := "operator.sqlite"
  dogeBridgeProgram := localArgs.dogeBridgeProgram
  managerServiceUrl := some localManagerServiceUrl
  electrsUrl := localElectrsUrl
  managerSetIndex := 0
  wormholeCoreProgram := localArgs.wormholeCoreProgram
  wormholeShimProgram := localArgs.wormholeShimProgram

def programOf (text : String) : Pubkey :=
  (SolanaSdk.pubkeyFromStr text).toOption.getD (List.Vector.replicate 32 0)

/-- The local arguments, with the programs that the command line defaults to. -/
def localResumed : Prepare.Args :=
  { localArgs with
    pendingMintProgram := programOf defaultPendingMint
    txoBufferProgram := programOf defaultTxoBuffer
    genericBufferProgram := programOf defaultGenericBuffer }

theorem localDaemon_dispatches : dispatchedArgs localDaemon none true = .ok localResumed := by
  have hvalue : (dispatchedArgs localDaemon none true).toOption = some localResumed := by
    decide +kernel
  cases hresult : dispatchedArgs localDaemon none true with
  | error error =>
    rw [hresult] at hvalue
    cases hvalue
  | ok resumed =>
    rw [hresult] at hvalue
    exact congrArg _ (Option.some.inj hvalue)

theorem dispatched_recovery_iff_local :
    (∃ q, preparedFromReservation localResumed
        (bridgeStateAddress localResumed.dogeBridgeProgram) localPayload localRegtestManagerSet
        (localReservation (localDeposit 1)) (some (localPrepared (localDeposit 1)).unsignedBytes) =
          .ok q ∧ q.unsignedBytes = (localPrepared (localDeposit 1)).unsignedBytes) ↔
      DefaultFees localArgs (localReservation (localDeposit 1)) :=
  dispatched_recovery_iff localDaemon_dispatches rfl (localDeposit_prepared (by decide))
    (by decide) (by decide)

/-- The same withdrawal paid with twice the fee. -/
def generousArgs : Prepare.Args := { localArgs with feeSats := 2000000 }

def generousReservation : CustodyReservation :=
  { localReservation [localUtxo "key-1" 0x11 0 11010000] with
    requiredAmountSats := 11000000
    selectedAmountSats := 11010000 }

def generousPlan : CustodyTransactionPlan := { localPlan with feeSats := 2000000 }

theorem generousReservation_checks :
    PreparationChecks generousArgs localBridgeState localPayload localRegtestManagerSet
      generousReservation 9000000 generousPlan where
  sum := rfl
  required := rfl
  planned := planCustodyTransaction_eq_ok.mpr
    ⟨by decide, rfl, rfl, (by decide : (11010000 : UInt64).toNat = _), .inr (by decide)⟩
  inputs := by
    intro utxo hmem
    rw [List.mem_singleton.mp hmem]
    exact custodyUtxo_matches localRegtestManagerSet_quorum
  change := .inr localRegtestManagerSet_quorum
  nonempty := List.cons_ne_nil _ _

/-- It is prepared and persisted, and the daemon never recovers it. -/
theorem generous_not_recovered :
    dispatchedArgs localDaemon none true = .ok localResumed ∧
      (localResumed.dogeNetwork, localResumed.dogeBridgeProgram, localResumed.managerSetIndex) =
        (generousArgs.dogeNetwork, generousArgs.dogeBridgeProgram, generousArgs.managerSetIndex) ∧
      localPayload.outputs.length ≤ snapshotProofMaxBatch ∧
      generousReservation.utxos.length ≤ maxPersistedInputs ∧
      ∃ p, preparedFromReservation generousArgs (bridgeStateAddress generousArgs.dogeBridgeProgram)
        localPayload localRegtestManagerSet generousReservation none = .ok p ∧
        ¬ ∃ q, preparedFromReservation localResumed
          (bridgeStateAddress localResumed.dogeBridgeProgram) localPayload localRegtestManagerSet
          generousReservation (some p.unsignedBytes) = .ok q := by
  refine ⟨localDaemon_dispatches, rfl, by decide, by decide, _,
    preparedFromReservation_eq_ok.mpr
      ⟨9000000, generousPlan, generousReservation_checks, trivial, rfl⟩, ?_⟩
  intro hrecovered
  rcases hrecovered with ⟨q, hq⟩
  rcases preparedFromReservation_eq_ok.mp hq with ⟨withdrawalSats, plan, hchecks, -, -⟩
  have hfee := (checks_other_iff generousReservation_checks).mp ⟨withdrawalSats, plan, hchecks⟩
  exact absurd hfee.1 (by decide)

end

end DogeOperator.Daemon
