import DogeOperator.Registrations

/-! Where a signed transaction may send value. The service holds the operator's outputs against the
authorized ones, and lets one more be any P2SH output. -/
namespace DogeOperator.LocalManager
open Bytes Crypto Utx0 Redeem Tx Manager Vaa Agreement

section
variable [Hashes]

/-- The output is locked by a custody script of the registered emitter. -/
def PaysCustody (key : VaaKey) (output : TransactionOutput) : Prop :=
  output.addressType = .p2sh ∧ ∃ recipient redeemScript,
    buildRedeemScript key.emitterChain key.emitterAddress recipient localRegtestManagerSet.m
      localRegtestManagerSet.pubkeys = .ok redeemScript ∧ output.address = hash160 redeemScript

/-- The authorized outputs in order, and at most one more, back to custody. -/
def KeepsCustody (key : VaaKey) (payload : Utx0UnlockPayload) (t : UnsignedTransaction) : Prop :=
  ∃ change : Option TransactionOutput,
    t.logicalOutputs = payload.outputs.map Prepare.toTransactionOutput ++ change.toList ∧
      ∀ output ∈ change, PaysCustody key output

/-- An output behind the authorized ones has the hash of a custody script. -/
def ChangeIsCustody (r : LocalWithdrawalRegistration) (payload : Utx0UnlockPayload) : Prop :=
  ∀ output, r.outputs[payload.outputs.length]? = some output →
    ∃ recipient, output.address = hash160 (registeredScript r.key recipient)

theorem paysCustody_iff {key : VaaKey} {output : TransactionOutput} :
    PaysCustody key output ↔ output.addressType = .p2sh ∧
      ∃ recipient, output.address = hash160 (registeredScript key recipient) := by
  unfold PaysCustody
  apply and_congr_right'
  constructor
  · intro h
    rcases h with ⟨recipient, redeemScript, hbuild, haddress⟩
    rw [(buildRedeemScript_eq_ok.mp hbuild).2] at haddress
    exact ⟨recipient, haddress⟩
  · intro h
    rcases h with ⟨recipient, haddress⟩
    exact ⟨recipient, _, buildRedeemScript_eq_ok.mpr
      ⟨Prepare.localRegtestManagerSet_quorum, rfl⟩, haddress⟩

omit [Hashes] in
/-- The output behind the authorized ones. -/
theorem change_getElem? (authorized : List TransactionOutput) (change : Option TransactionOutput) :
    (authorized ++ change.toList)[authorized.length]? = change := by
  rw [List.getElem?_append_right le_rfl, Nat.sub_self]
  cases change <;> rfl

variable [Secp256k1]

/-- The service signs the submitted bytes of the registered outputs: the authorized ones in order,
and at most one more, which is P2SH. Value stays in custody exactly when that one is custody's. -/
theorem signed_keepsCustody_iff (r : LocalWithdrawalRegistration) (signed : LocalSignedWithdrawal)
    (h : buildLocalSignedWithdrawal r = .ok signed) :
    ∃ payload, Utx0UnlockPayload.parse r.payload = .ok payload ∧
      signed.unsignedTransaction = (registeredTransaction r).serialize ∧
      (KeepsCustody r.key payload (registeredTransaction r) ↔ ChangeIsCustody r payload) ∧
      ∃ change : Option TransactionOutput, (registeredTransaction r).logicalOutputs =
          payload.outputs.map Prepare.toTransactionOutput ++ change.toList ∧
        ∀ output ∈ change, output.addressType = .p2sh := by
  rcases buildLocalSignedWithdrawal_eq_ok.mp h with
    ⟨payload, vaaHash, signers, hchecks, -, -, rfl⟩
  rcases checkOutputs_eq_ok.mp hchecks.outputs with ⟨change, houtputs, hchange⟩
  have hlast : ∀ other : Option TransactionOutput,
      (payload.outputs.map Prepare.toTransactionOutput ++ other.toList)[payload.outputs.length]? =
        other := by
    intro other
    have hget := change_getElem? (payload.outputs.map Prepare.toTransactionOutput) other
    rwa [List.length_map] at hget
  refine ⟨payload, hchecks.parsed, hchecks.bytes, ?_, change, houtputs, hchange⟩
  constructor
  · intro hkeeps output houtput
    rcases hkeeps with ⟨other, hother, hpays⟩
    have hsome : (registeredTransaction r).logicalOutputs[payload.outputs.length]? = some output :=
      houtput
    rw [hother, hlast] at hsome
    exact (paysCustody_iff.mp (hpays output hsome)).2
  · intro hcustody
    refine ⟨change, houtputs, ?_⟩
    intro output houtput
    refine paysCustody_iff.mpr ⟨hchange output houtput, hcustody output ?_⟩
    rw [houtputs, hlast]
    exact houtput

end

/-! An operator that sends the change to itself. -/

def divertedKey : VaaKey where
  emitterChain := 1
  emitterAddress := Prepare.localBridgeState
  sequence := 17

def divertedInputs : List LocalSigningInput :=
  [{ originalRecipientAddress := .replicate 32 0x11, transactionId := .replicate 32 9, vout := 0 }]

/-- The authorized output, then a million satoshis to any script hash. -/
def divertedOutputs (address : FixedBytes 20) : List TransactionOutput :=
  Prepare.localPayload.outputs.map Prepare.toTransactionOutput ++
    [{ amount := 1000000, addressType := .p2sh, address }]

def divertedRegistration (address : FixedBytes 20) : LocalWithdrawalRegistration where
  key := divertedKey
  payload := localPayloadBytes
  unsignedTransaction := (UnsignedTransaction.built
    (divertedInputs.map (registeredInput divertedKey)) (divertedOutputs address)).serialize
  inputs := divertedInputs
  outputs := divertedOutputs address

theorem divertedRegistration_checks (address : FixedBytes 20) :
    RegistrationChecks (divertedRegistration address) Prepare.localPayload where
  parsed := localPayloadBytes_parse
  managerSet := rfl
  chain := rfl
  recipients := by decide
  inputs := List.cons_ne_nil _ _
  outputs := checkOutputs_eq_ok.mpr ⟨some ⟨1000000, .p2sh, address⟩, rfl, by simp⟩
  bytes := rfl

section
variable [Hashes] [Secp256k1]

/-- Any script hash will do. -/
theorem divertedRegistration_signed (hecdsa : FixtureEcdsa) (address : FixedBytes 20) :
    ∃ signed, buildLocalSignedWithdrawal (divertedRegistration address) = .ok signed := by
  have hformed : WellFormed (registeredTransaction (divertedRegistration address)) :=
    built_wellFormed _ (List.cons_ne_nil _ _)
  rcases signTransaction_accepts hecdsa hformed with ⟨signers, hsigners, -⟩
  rcases vaaBody_synthesizeLocalVaa divertedKey localPayloadBytes with ⟨body, hbody⟩
  have hdigest : vaaSigningDigest (synthesizeLocalVaa divertedKey localPayloadBytes) =
      .ok (Hashes.keccak256 (Hashes.keccak256 body).toList) := by
    rw [vaaSigningDigest, hbody]
    rfl
  exact ⟨_, buildLocalSignedWithdrawal_eq_ok.mpr
    ⟨_, _, signers, divertedRegistration_checks address, hsigners, hdigest, rfl⟩⟩

end

section
open Digests

/-- Change to the custody of the zero recipient stays in custody. -/
theorem signed_keepsCustody_iff_local :
    KeepsCustody divertedKey Prepare.localPayload (registeredTransaction (divertedRegistration
        (hash160 (registeredScript divertedKey Prepare.zeroRecipient)))) ↔
      ChangeIsCustody (divertedRegistration
        (hash160 (registeredScript divertedKey Prepare.zeroRecipient))) Prepare.localPayload := by
  rcases divertedRegistration_signed fixtureEcdsa_standIn
    (hash160 (registeredScript divertedKey Prepare.zeroRecipient)) with ⟨signed, hbuild⟩
  rcases signed_keepsCustody_iff _ signed hbuild with ⟨payload, hparsed, -, hiff, -⟩
  cases hparsed.symm.trans localPayloadBytes_parse
  exact hiff

/-- The operator's own script hash. -/
def divertedAddress : FixedBytes 20 := .replicate 20 0x99

/-- RIPEMD-160, but for the scripts whose hash is the operator's. -/
@[reducible] def custodyDigests : Hashes where
  sha256 := Digests.sha256
  ripemd160 bytes :=
    if Digests.ripemd160 bytes = divertedAddress then .replicate 20 0 else Digests.ripemd160 bytes
  keccak256 := Digests.keccak256

attribute [local instance] custodyDigests

theorem custodyDigests_hash160 (script : ByteString) : hash160 script ≠ divertedAddress := by
  show (if Digests.ripemd160 _ = divertedAddress then _ else Digests.ripemd160 _) ≠ divertedAddress
  split_ifs with h
  · decide
  · exact h

/-- A million satoshis leave custody under the signatures of the local Manager. -/
theorem change_diverted :
    ∃ signed, buildLocalSignedWithdrawal (divertedRegistration divertedAddress) = .ok signed ∧
      Utx0UnlockPayload.parse (divertedRegistration divertedAddress).payload =
        .ok Prepare.localPayload ∧
      ¬ KeepsCustody divertedKey Prepare.localPayload
        (registeredTransaction (divertedRegistration divertedAddress)) := by
  rcases divertedRegistration_signed fixtureEcdsa_standIn divertedAddress with ⟨signed, hbuild⟩
  refine ⟨signed, hbuild, localPayloadBytes_parse, ?_⟩
  intro hkeeps
  rcases hkeeps with ⟨change, houtputs, hpays⟩
  have hchange := List.append_cancel_left houtputs
  cases change with
  | none => cases hchange
  | some output =>
    have houtput := List.head_eq_of_cons_eq hchange
    rcases paysCustody_iff.mp (hpays output rfl) with ⟨-, recipient, haddress⟩
    rw [← houtput] at haddress
    exact custodyDigests_hash160 _ haddress.symm

end

end DogeOperator.LocalManager
