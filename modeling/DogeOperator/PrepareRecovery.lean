import DogeOperator.Digests
import DogeOperator.PrepareSpec

/-! Prepare, persist, recover. Recovery has an input limit that construction lacks, so a
persisted batch can be continued exactly when its reservation stays within that limit. -/
namespace DogeOperator.Prepare
open Bytes Crypto Utx0 Redeem Tx Network Manager Records

section
variable [Hashes] [Base58Check] {args : Args} {bridgeState : Pubkey} {payload : Utx0UnlockPayload}
  {managerSet : ManagerSet} {reservation : CustodyReservation} {p : PreparedTransaction}

/-- The same preparation, with the same data and the same digest for every input. -/
structure SamePreparation (p q : PreparedTransaction) : Prop where
  unsignedBytes : q.unsignedBytes = p.unsignedBytes
  outputs : q.transaction.logicalOutputs = p.transaction.logicalOutputs
  plan : q.plan = p.plan
  changeScriptHash : q.changeScriptHash = p.changeScriptHash
  sighashAll : ∀ index, q.transaction.sighashAll index = p.transaction.sighashAll index

omit [Base58Check] in
theorem preparedUnsigned_inputs_length (bridgeState : Pubkey) (payload : Utx0UnlockPayload)
    (managerSet : ManagerSet) (reservation : CustodyReservation) (changeSats : UInt64) :
    (preparedUnsigned bridgeState payload managerSet reservation changeSats).inputs.length =
      reservation.utxos.length := by
  simp [preparedUnsigned, UnsignedTransaction.built]

omit [Base58Check] in
theorem changeOutputs_length_le (bridgeState : Pubkey) (managerSet : ManagerSet)
    (changeSats : UInt64) : (changeOutputs bridgeState managerSet changeSats).length ≤ 1 := by
  unfold changeOutputs
  split_ifs <;> simp

omit [Base58Check] in
/-- A full batch and its change stay within the output limit of recovery. -/
theorem preparedUnsigned_outputs_length_le (bridgeState : Pubkey) (managerSet : ManagerSet)
    (reservation : CustodyReservation) (changeSats : UInt64)
    (h : payload.outputs.length ≤ snapshotProofMaxBatch) :
    (preparedUnsigned bridgeState payload managerSet reservation changeSats).outputs.length ≤
      maxPersistedOutputs := by
  have hchange := changeOutputs_length_le bridgeState managerSet changeSats
  simp only [preparedUnsigned, UnsignedTransaction.built, plannedOutputs, List.length_map,
    List.length_append]
  unfold snapshotProofMaxBatch at h
  unfold maxPersistedOutputs
  omega

/-- Recovery from the bytes of a fresh preparation succeeds within the input limit. -/
theorem prepared_recovers
    (hp : preparedFromReservation args bridgeState payload managerSet reservation none = .ok p)
    (hpayload : payload.outputs.length ≤ snapshotProofMaxBatch)
    (hinputs : reservation.utxos.length ≤ maxPersistedInputs) :
    preparedFromReservation args bridgeState payload managerSet reservation
      (some p.unsignedBytes) = .ok p := by
  obtain ⟨withdrawalSats, plan, hchecks, -, rfl⟩ := preparedFromReservation_eq_ok.mp hp
  refine preparedFromReservation_eq_ok.mpr ⟨withdrawalSats, plan, hchecks, ⟨rfl, ?_, ?_⟩, rfl⟩
  · rw [preparedUnsigned_inputs_length]
    exact hinputs
  · exact preparedUnsigned_outputs_length_le _ _ _ _ hpayload

theorem recovered_inputs_length_le {bytes : ByteString} {q : PreparedTransaction}
    (hq : preparedFromReservation args bridgeState payload managerSet reservation (some bytes) =
      .ok q) : reservation.utxos.length ≤ maxPersistedInputs := by
  obtain ⟨_, plan, -, hadm, -⟩ := preparedFromReservation_eq_ok.mp hq
  rw [← preparedUnsigned_inputs_length bridgeState payload managerSet reservation plan.changeSats]
  exact hadm.2.1

/-- A freshly prepared batch is recovered with the same data exactly when its reservation has
at most the recovery limit of inputs. -/
theorem prepared_recovery_iff
    (hpayload : payload.outputs.length ≤ snapshotProofMaxBatch)
    (hp : preparedFromReservation args bridgeState payload managerSet reservation none = .ok p) :
    (∃ q, preparedFromReservation args bridgeState payload managerSet reservation
        (some p.unsignedBytes) = .ok q ∧ SamePreparation p q) ↔
      reservation.utxos.length ≤ maxPersistedInputs := by
  constructor
  · rintro ⟨q, hq, -⟩
    exact recovered_inputs_length_le hq
  · intro hinputs
    exact ⟨p, prepared_recovers hp hpayload hinputs, ⟨rfl, rfl, rfl, rfl, fun _ => rfl⟩⟩

/-! A concrete local custody, at the executable digests. -/

/-- An available UTXO locked by the custody script of a recipient. -/
def custodyUtxo (bridgeState : Pubkey) (managerSet : ManagerSet) (keyReference : String)
    (recipient : FixedBytes 32) (vout : UInt32) (amountSats : UInt64) : CustodyUtxo where
  txid := List.Vector.replicate 32 9
  vout := vout
  amountSats := amountSats
  scriptPubkeyHex := hexEncode (p2shScriptPubkey (custodyHash bridgeState managerSet recipient))
  custodyAddress := DogeNetwork.p2shAddress (custodyHash bridgeState managerSet recipient)
  keyReference := keyReference
  confirmationBlockHash := none
  confirmationHeight := none
  confirmations := 6
  leafIndex := 0
  status := .available
  reservationId := none
  spendTxid := none
  sourceDepositTxid := none
  sourceSolanaSignature := none
  spendRequestIndex := none
  spendProcessSignature := none
  originalRecipientAddress := recipient

theorem custodyUtxo_matches {keyReference : String} {recipient : FixedBytes 32} {vout : UInt32}
    {amountSats : UInt64} (h : QuorumValid managerSet.m managerSet.pubkeys) :
    Matches bridgeState managerSet
      (custodyUtxo bridgeState managerSet keyReference recipient vout amountSats) :=
  ⟨h, rfl, .inr (eqIgnoreAsciiCase_refl _)⟩

end

theorem localRegtestManagerSet_quorum :
    QuorumValid localRegtestManagerSet.m localRegtestManagerSet.pubkeys := by
  decide

section
open Digests

def localBridgeState : Pubkey := List.Vector.replicate 32 0x44

def localArgs : Args where
  dogeNetwork := .regtest
  runtimeNetwork := .localhost
  requestIndex := none
  requestSignature := none
  feeSats := 1000000
  dustThresholdSats := 10000
  solanaRpcUrl := "http://127.0.0.1:8899"
  operatorKeypair := "operator.json"
  payerKeypair := "payer.json"
  dogeBridgeProgram := List.Vector.replicate 32 1
  pendingMintProgram := List.Vector.replicate 32 4
  txoBufferProgram := List.Vector.replicate 32 5
  genericBufferProgram := List.Vector.replicate 32 2
  wormholeCoreProgram := List.Vector.replicate 32 3
  wormholeShimProgram := List.Vector.replicate 32 3
  bridgeState := none
  managerServiceUrl := some "http://127.0.0.1:7071"
  electrsUrl := "http://127.0.0.1:3002"
  pollIntervalMs := 500
  signingTimeoutSecs := 120
  evidencePath := "/tmp/doge-process-withdrawal-evidence.json"
  managerSetIndex := 0
  managerSigningEnabled := true
  broadcastEnabled := true
  resume := true

def localPayload : Utx0UnlockPayload where
  destinationChain := 65
  delegatedManagerSetIndex := 0
  outputs := [{ amount := 9000000, addressType := .p2pkh, address := List.Vector.replicate 20 0x33 }]

/-- A reservation of ten million satoshis and one change of the rest, spread over
the given outputs of one deposit transaction. -/
def localReservation (utxos : List CustodyUtxo) : CustodyReservation where
  reservationId := "withdrawal-snapshot-0-1"
  requiredAmountSats := 10000000
  selectedAmountSats := 10010000
  status := .reserved
  spendTxid := none
  requestIndex := none
  processSolanaSignature := none
  utxos := utxos

def localUtxo (keyReference : String) (recipient : UInt8) (vout : UInt32) (amountSats : UInt64) :
    CustodyUtxo :=
  custodyUtxo localBridgeState localRegtestManagerSet keyReference
    (List.Vector.replicate 32 recipient) vout amountSats

def localPlan : CustodyTransactionPlan where
  recipientSats := 9000000
  changeSats := 10000
  feeSats := 1000000

theorem localReservation_checks {utxos : List CustodyUtxo} (hne : utxos ≠ [])
    (h : ∀ utxo ∈ utxos, Matches localBridgeState localRegtestManagerSet utxo) :
    PreparationChecks localArgs localBridgeState localPayload localRegtestManagerSet
      (localReservation utxos) 9000000 localPlan where
  sum := rfl
  required := rfl
  planned := planCustodyTransaction_eq_ok.mpr
    ⟨by decide, rfl, rfl, (by decide : (10010000 : UInt64).toNat = _), .inr (by decide)⟩
  inputs := h
  change := .inr localRegtestManagerSet_quorum
  nonempty := hne

/-- Ten thousand satoshis in each of `count` outputs of one deposit transaction. -/
def localDeposit (count : ℕ) : List CustodyUtxo :=
  (List.range count).map fun vout => localUtxo "key-1" 0x11 (UInt32.ofNat vout) 10000

def localPrepared (utxos : List CustodyUtxo) : PreparedTransaction :=
  preparedRecord localBridgeState localPayload localRegtestManagerSet (localReservation utxos)
    localPlan

theorem localDeposit_prepared {count : ℕ} (h : 0 < count) :
    preparedFromReservation localArgs localBridgeState localPayload localRegtestManagerSet
      (localReservation (localDeposit count)) none = .ok (localPrepared (localDeposit count)) := by
  refine preparedFromReservation_eq_ok.mpr
    ⟨9000000, localPlan, localReservation_checks ?_ ?_, trivial, rfl⟩
  · rw [localDeposit, ne_eq, List.map_eq_nil_iff, List.range_eq_nil]
    omega
  · intro utxo hu
    obtain ⟨vout, -, rfl⟩ := List.mem_map.mp hu
    exact custodyUtxo_matches localRegtestManagerSet_quorum

theorem prepared_recovery_iff_local :
    (∃ q, preparedFromReservation localArgs localBridgeState localPayload localRegtestManagerSet
        (localReservation (localDeposit 1000))
        (some (localPrepared (localDeposit 1000)).unsignedBytes) = .ok q ∧
          SamePreparation (localPrepared (localDeposit 1000)) q) ↔
      (localReservation (localDeposit 1000)).utxos.length ≤ maxPersistedInputs :=
  prepared_recovery_iff (by decide) (localDeposit_prepared (by decide))

/-- One input more than the limit: prepared, persisted, and never recovered. -/
theorem localDeposit_not_recovered :
    localPayload.outputs.length ≤ snapshotProofMaxBatch ∧
      (∃ p, preparedFromReservation localArgs localBridgeState localPayload localRegtestManagerSet
        (localReservation (localDeposit 1001)) none = .ok p ∧
        ¬ ∃ q, preparedFromReservation localArgs localBridgeState localPayload
          localRegtestManagerSet (localReservation (localDeposit 1001)) (some p.unsignedBytes) =
            .ok q) := by
  refine ⟨by decide, _, localDeposit_prepared (by decide), ?_⟩
  rintro ⟨q, hq⟩
  have h := recovered_inputs_length_le hq
  simp only [localReservation, localDeposit, List.length_map, List.length_range] at h
  exact absurd h (by decide)

end

end DogeOperator.Prepare
