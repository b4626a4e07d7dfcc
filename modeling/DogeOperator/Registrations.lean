import DogeOperator.Agreement
import DogeOperator.Preimage
import DogeOperator.Utx0Codec

/-! What the local manager service signs, and what it holds after any sequence of registrations:
the first accepted one under a key, and nothing else under that key ever after. -/
namespace DogeOperator.LocalManager
open Bytes Outcome Crypto Utx0 Redeem Tx Manager Vaa Agreement

/-- The redeem script an input is signed under. -/
def registeredScript (key : VaaKey) (recipient : FixedBytes 32) : ByteString :=
  scriptBytes key.emitterChain key.emitterAddress recipient localRegtestManagerSet.m
    localRegtestManagerSet.pubkeys

def registeredInput (key : VaaKey) (input : LocalSigningInput) : SelectedUtxo where
  transactionId := input.transactionId
  vout := input.vout
  redeemScript := registeredScript key input.originalRecipientAddress

/-- The transaction of the registered inputs and outputs. -/
def registeredTransaction (r : LocalWithdrawalRegistration) : UnsignedTransaction :=
  .built (r.inputs.map (registeredInput r.key)) r.outputs

theorem localSelectedUtxo_registered (key : VaaKey) (inputs : List LocalSigningInput) :
    inputs.mapM (localSelectedUtxo key localRegtestManagerSet) =
      .ok (inputs.map (registeredInput key)) := by
  apply mapM_ok_map
  intro input _
  rw [localSelectedUtxo, buildRedeemScript_eq_ok.mpr ⟨Prepare.localRegtestManagerSet_quorum, rfl⟩]
  rfl

theorem checkAuthorized_eq_ok {index : ℕ} {authorized : List Utx0Output}
    {outputs : List TransactionOutput} (h : authorized.length ≤ outputs.length) :
    checkAuthorized index authorized outputs = .ok () ↔
      outputs.take authorized.length = authorized.map Prepare.toTransactionOutput := by
  induction authorized generalizing index outputs with
  | nil => simp [checkAuthorized]
  | cons first authorized ih =>
    cases outputs with
    | nil => exact absurd h (by simp)
    | cons output outputs =>
      rw [checkAuthorized, guard_bind_eq_ok, ih (by simpa using h), List.length_cons,
        List.take_succ_cons, List.map_cons, List.cons.injEq, not_or, not_or, not_not, not_not,
        not_not]
      cases output
      simp [Prepare.toTransactionOutput]

/-- The authorized outputs in order, then at most one more, which is P2SH. -/
theorem checkOutputs_eq_ok {authorized : List Utx0Output} {outputs : List TransactionOutput} :
    checkOutputs authorized outputs = .ok () ↔
      ∃ change : Option TransactionOutput,
        outputs = authorized.map Prepare.toTransactionOutput ++ change.toList ∧
          ∀ output ∈ change, output.addressType = .p2sh := by
  unfold checkOutputs
  rw [guard_bind_eq_ok, bind_eq_ok]
  constructor
  · intro h
    rcases h with ⟨hcount, ⟨⟩, hauthorized, hchange⟩
    have hle : authorized.length ≤ outputs.length := by omega
    have hrest : (outputs.drop authorized.length).length ≤ 1 := by
      rw [List.length_drop]
      omega
    rw [checkAuthorized_eq_ok hle] at hauthorized
    have hlast : outputs.drop authorized.length = (outputs[authorized.length]?).toList := by
      rw [← List.head?_drop]
      cases hdrop : outputs.drop authorized.length with
      | nil => rfl
      | cons output rest =>
        rw [hdrop, List.length_cons] at hrest
        have hnil : rest = [] := List.length_eq_zero_iff.mp (by omega)
        rw [hnil]
        rfl
    refine ⟨outputs[authorized.length]?, ?_, ?_⟩
    · rw [← hauthorized, ← hlast, List.take_append_drop]
    · intro output houtput
      rw [Option.mem_def.mp houtput] at hchange
      by_contra hother
      rw [checkChange, if_pos hother] at hchange
      exact bail_ne_ok hchange
  · intro h
    rcases h with ⟨change, rfl, hchange⟩
    have hlength : (authorized.map Prepare.toTransactionOutput ++ change.toList).length =
        authorized.length + change.toList.length := by
      rw [List.length_append, List.length_map]
    have hone : change.toList.length ≤ 1 := by cases change <;> simp
    have hlast : (authorized.map Prepare.toTransactionOutput ++
        change.toList)[authorized.length]? = change := by
      rw [List.getElem?_append_right (by rw [List.length_map]), List.length_map, Nat.sub_self]
      cases change <;> rfl
    refine ⟨by omega, (), checkAuthorized_planned 0 authorized change.toList, ?_⟩
    rw [hlast]
    cases change with
    | none => rfl
    | some output => exact if_neg (not_not.mpr (hchange output rfl))

/-- What a registration must satisfy before anything is signed. -/
structure RegistrationChecks (r : LocalWithdrawalRegistration) (payload : Utx0UnlockPayload) :
    Prop where
  parsed : Utx0UnlockPayload.parse r.payload = .ok payload
  managerSet : payload.delegatedManagerSetIndex = 0
  chain : payload.destinationChain = chainIdDogecoin
  recipients : payload.outputs ≠ []
  inputs : r.inputs ≠ []
  outputs : checkOutputs payload.outputs r.outputs = .ok ()
  bytes : r.unsignedTransaction = (registeredTransaction r).serialize

/-- Some output is paid, since some output is authorized. -/
theorem RegistrationChecks.paid {r : LocalWithdrawalRegistration} {payload : Utx0UnlockPayload}
    (h : RegistrationChecks r payload) : r.outputs ≠ [] := by
  rcases checkOutputs_eq_ok.mp h.outputs with ⟨change, houtputs, -⟩
  intro hnil
  rw [hnil] at houtputs
  exact h.recipients (List.map_eq_nil_iff.mp (List.append_eq_nil_iff.mp houtputs.symm).1)

section
variable [Secp256k1] [Hashes]

/-- The service signs exactly the registrations that pass its checks, and signs the transaction of
the registered inputs and outputs. -/
theorem buildLocalSignedWithdrawal_eq_ok {r : LocalWithdrawalRegistration}
    {signed : LocalSignedWithdrawal} :
    buildLocalSignedWithdrawal r = .ok signed ↔ ∃ payload vaaHash signers,
      RegistrationChecks r payload ∧
      signTransaction localRegtestManagerSet (registeredTransaction r) = .ok signers ∧
      vaaSigningDigest (synthesizeLocalVaa r.key r.payload) = .ok vaaHash ∧
      signed = materialized r payload vaaHash signers := by
  have hselect := localSelectedUtxo_registered r.key r.inputs
  unfold buildLocalSignedWithdrawal
  constructor
  · intro h
    rcases bind_eq_ok.mp h with ⟨payload, hparsed, h⟩
    rcases guard_bind_eq_ok.mp h with ⟨hset, h⟩
    rcases guard_bind_eq_ok.mp h with ⟨hchain, h⟩
    rcases guard_bind_eq_ok.mp h with ⟨hempty, h⟩
    rcases bind_eq_ok.mp h with ⟨selected, hselected, h⟩
    rcases bind_eq_ok.mp h with ⟨⟨⟩, houtputs, h⟩
    rcases bind_eq_ok.mp h with ⟨transaction, hnew, h⟩
    rcases guard_bind_eq_ok.mp h with ⟨hbytes, h⟩
    rcases bind_eq_ok.mp h with ⟨signers, hsigners, h⟩
    rcases bind_eq_ok.mp h with ⟨vaaHash, hhash, h⟩
    cases h
    cases hselect.symm.trans hselected
    rcases UnsignedTransaction.new_eq_ok.mp hnew with ⟨-, -, rfl⟩
    rw [not_or] at hempty
    exact ⟨payload, vaaHash, signers, ⟨context_eq_ok.mp hparsed, not_not.mp hset, not_not.mp hchain,
      hempty.1, hempty.2, houtputs, (not_not.mp hbytes).symm⟩, hsigners, hhash, rfl⟩
  · intro h
    rcases h with ⟨payload, vaaHash, signers, hchecks, hsigners, hhash, rfl⟩
    have hinputs : r.inputs.map (registeredInput r.key) ≠ [] := by
      rw [ne_eq, List.map_eq_nil_iff]
      exact hchecks.inputs
    have hnew := UnsignedTransaction.new_eq_ok.mpr ⟨hinputs, hchecks.paid, rfl⟩
    refine bind_eq_ok.mpr ⟨payload, context_eq_ok.mpr hchecks.parsed, ?_⟩
    refine guard_bind_eq_ok.mpr ⟨not_not.mpr hchecks.managerSet, ?_⟩
    refine guard_bind_eq_ok.mpr ⟨not_not.mpr hchecks.chain, ?_⟩
    refine guard_bind_eq_ok.mpr ⟨not_or.mpr ⟨hchecks.recipients, hchecks.inputs⟩, ?_⟩
    refine bind_eq_ok.mpr ⟨_, hselect, bind_eq_ok.mpr ⟨(), hchecks.outputs, ?_⟩⟩
    refine bind_eq_ok.mpr ⟨_, hnew, ?_⟩
    refine guard_bind_eq_ok.mpr ⟨not_not.mpr hchecks.bytes.symm, ?_⟩
    exact bind_eq_ok.mpr ⟨signers, hsigners, bind_eq_ok.mpr ⟨vaaHash, hhash, rfl⟩⟩

/-- Signatures of the transaction of a registration, whose bytes no other transaction has. -/
structure SignsRegistered (r : LocalWithdrawalRegistration) (signed : LocalSignedWithdrawal) :
    Prop where
  submitted : signed.unsignedTransaction = r.unsignedTransaction
  bytes : signed.unsignedTransaction = (registeredTransaction r).serialize
  inputs : (registeredTransaction r).inputs = r.inputs.map fun input =>
    { prevTxidLe := input.transactionId.reverse, vout := input.vout, scriptSig := [],
      sequence := sequenceFinal }
  outputs : (registeredTransaction r).logicalOutputs = r.outputs
  /-- A vector has fewer elements than a 64-bit count. -/
  decodes : r.inputs.length < 2 ^ 64 → ∀ version inputs outputs locktime,
    Preimage.Encodable inputs outputs →
      serializeTransaction version inputs outputs locktime = signed.unsignedTransaction →
        inputs = (registeredTransaction r).inputs ∧ outputs = (registeredTransaction r).outputs ∧
          version = txVersion ∧ locktime = 0
  recovers : r.inputs.length ≤ maxPersistedInputs → r.outputs.length ≤ maxPersistedOutputs →
    UnsignedTransaction.fromPersistedBytes signed.unsignedTransaction
      (r.inputs.map (registeredInput r.key)) = .ok (registeredTransaction r)
  signatures : ∃ digests, (List.range (registeredTransaction r).inputCount).mapM
      (registeredTransaction r).sighashAll = .ok digests ∧
    ∀ signer ∈ signed.managerSignatures.signatures, ∃ bytes ∈ localRegtestManagerPrivateKeys,
      ∃ secret, Secp256k1.secretKeyFromByteArray bytes = .ok secret ∧
        signer.inputSignatures = digests.map fun digest =>
          Secp256k1.serializeDer (Secp256k1.signEcdsa digest secret) ++ [sighashAllType.toUInt8]

omit [Hashes] in
theorem signInputs_eq_ok {digests : List (FixedBytes 32)} {key : FixedBytes 32 × ℕ}
    {signer : SignerSignatures} (h : signInputs digests key = .ok signer) :
    ∃ secret, Secp256k1.secretKeyFromByteArray key.1 = .ok secret ∧
      signer.inputSignatures = digests.map fun digest =>
        Secp256k1.serializeDer (Secp256k1.signEcdsa digest secret) ++ [sighashAllType.toUInt8] := by
  rcases bind_eq_ok.mp h with ⟨secret, hsecret, h⟩
  cases h
  exact ⟨secret, mapError_eq_ok.mp hsecret, rfl⟩

omit [Secp256k1] [Hashes] in
/-- Every length of a checked registration is one that a count can say. -/
theorem RegistrationChecks.encodable {r : LocalWithdrawalRegistration} {payload : Utx0UnlockPayload}
    (h : RegistrationChecks r payload) (hinputs : r.inputs.length < 2 ^ 64) :
    Preimage.Encodable (registeredTransaction r).inputs (registeredTransaction r).outputs := by
  rcases checkOutputs_eq_ok.mp h.outputs with ⟨change, houtputs, -⟩
  have hcount := (Utx0UnlockPayload.parse_eq_ok.mp h.parsed).1
  have hone : change.toList.length ≤ 1 := by cases change <;> simp
  have hpaid := congrArg List.length houtputs
  rw [List.length_append, List.length_map] at hpaid
  refine ⟨?_, ?_, ?_, ?_⟩
  · simp only [registeredTransaction, UnsignedTransaction.built, List.length_map]
    exact hinputs
  · intro input hinput
    rcases List.mem_map.mp hinput with ⟨selected, -, rfl⟩
    exact Nat.two_pow_pos 64
  · simp only [registeredTransaction, UnsignedTransaction.built, List.length_map]
    omega
  · intro output houtput
    rcases List.mem_map.mp houtput with ⟨logical, -, rfl⟩
    have hlen := scriptPubKeyFor_length logical.addressType logical.address
    simp only [maxStandardOutputScriptLen] at hlen
    simp only [TransactionOutput.toTxOut]
    omega

theorem buildLocalSignedWithdrawal_registered {r : LocalWithdrawalRegistration}
    {signed : LocalSignedWithdrawal} (h : buildLocalSignedWithdrawal r = .ok signed) :
    SignsRegistered r signed := by
  rcases buildLocalSignedWithdrawal_eq_ok.mp h with
    ⟨payload, vaaHash, signers, hchecks, hsigners, -, rfl⟩
  refine ⟨rfl, hchecks.bytes, ?_, rfl, ?_, ?_, ?_⟩
  · simp [registeredTransaction, UnsignedTransaction.built, registeredInput, SelectedUtxo.toTxIn]
  · intro hinputs version inputs outputs locktime hencodable hbytes
    have hsame : serializeTransaction version inputs outputs locktime ++ [] =
        serializeTransaction txVersion (registeredTransaction r).inputs
          (registeredTransaction r).outputs 0 ++ [] := by
      rw [hbytes]
      exact congrArg (· ++ []) hchecks.bytes
    rcases Preimage.serializeTransaction_inj hencodable (hchecks.encodable hinputs) hsame with
      ⟨hversion, hin, hout, hlocktime, -⟩
    exact ⟨hin, hout, hversion, hlocktime⟩
  · intro hinputs houtputs
    have hsome : r.inputs.map (registeredInput r.key) ≠ [] := by
      rw [ne_eq, List.map_eq_nil_iff]
      exact hchecks.inputs
    show UnsignedTransaction.fromPersistedBytes r.unsignedTransaction _ = _
    rw [hchecks.bytes]
    exact UnsignedTransaction.fromPersistedBytes_serialize hsome hchecks.paid
      (by rwa [List.length_map]) houtputs
  · rcases bind_eq_ok.mp hsigners with ⟨digests, hdigests, hsigned⟩
    refine ⟨digests, hdigests, ?_⟩
    intro signer hsigner
    rcases List.forall₂_iff_get.mp (mapM_eq_ok.mp hsigned) with ⟨hlength, hsigns⟩
    rcases List.mem_iff_get.mp hsigner with ⟨index, rfl⟩
    have hindex := lt_of_lt_of_eq index.isLt hlength.symm
    rcases signInputs_eq_ok (hsigns index hindex index.isLt) with ⟨secret, hsecret, hmade⟩
    refine ⟨_, ?_, secret, hsecret, hmade⟩
    have hmem := List.fst_mem_of_mem_zipIdx (List.get_mem _ ⟨index, hindex⟩)
    exact List.mem_of_mem_take hmem

/-! The calls of a run, one after the other. -/

/-- What one call can do. -/
inductive Registers (service : LocalManagerService) (r : LocalWithdrawalRegistration) :
    Result RegistrationOutcome → LocalManagerService → Prop
  | repeated {payload : ByteString} {signed : LocalSignedWithdrawal}
      (held : service.withdrawals r.key = some (payload, signed)) (hpayload : payload = r.payload)
      (hbytes : signed.unsignedTransaction = r.unsignedTransaction) :
      Registers service r (.ok .alreadyRegistered) service
  | conflicting {payload : ByteString} {signed : LocalSignedWithdrawal}
      (held : service.withdrawals r.key = some (payload, signed))
      (hother : ¬ (payload = r.payload ∧ signed.unsignedTransaction = r.unsignedTransaction))
      {error : ErrorChain} : Registers service r (.error error) service
  | refused (vacant : service.withdrawals r.key = none) {error : ErrorChain}
      (hbuild : buildLocalSignedWithdrawal r = .error error) :
      Registers service r (.error error) service
  | inserted (vacant : service.withdrawals r.key = none) {signed : LocalSignedWithdrawal}
      (hbuild : buildLocalSignedWithdrawal r = .ok signed) :
      Registers service r (.ok .inserted) (service.insert r signed)

theorem register_registers (service : LocalManagerService) (r : LocalWithdrawalRegistration) :
    Registers service r (service.register r).1 (service.register r).2 := by
  unfold LocalManagerService.register
  cases hheld : service.withdrawals r.key with
  | some held =>
    by_cases hsame : held.1 = r.payload ∧ held.2.unsignedTransaction = r.unsignedTransaction
    · dsimp only
      rw [if_pos hsame]
      exact .repeated hheld hsame.1 hsame.2
    · dsimp only
      rw [if_neg hsame]
      exact .conflicting hheld hsame
  | none =>
    cases hbuild : buildLocalSignedWithdrawal r with
    | error error => exact .refused hheld hbuild
    | ok signed => exact .inserted hheld hbuild

omit [Secp256k1] [Hashes] in
theorem insert_withdrawals (service : LocalManagerService) (r : LocalWithdrawalRegistration)
    (signed : LocalSignedWithdrawal) (key : VaaKey) :
    (service.insert r signed).withdrawals key =
      if key = r.key then some (r.payload, signed) else service.withdrawals key := by
  simp [LocalManagerService.insert, Function.update_apply]

/-- No call replaces what is held. -/
theorem register_keeps {service : LocalManagerService} {key : VaaKey}
    {held : ByteString × LocalSignedWithdrawal} (h : service.withdrawals key = some held)
    (r : LocalWithdrawalRegistration) : (service.register r).2.withdrawals key = some held := by
  have hstep := register_registers service r
  generalize (service.register r).1 = outcome at hstep
  generalize (service.register r).2 = service' at hstep
  cases hstep with
  | repeated => exact h
  | conflicting => exact h
  | refused => exact h
  | inserted vacant _ =>
    have hother : key ≠ r.key := by
      intro hkey
      rw [← hkey, h] at vacant
      cases vacant
    rw [insert_withdrawals, if_neg hother, h]

/-- The service after a run of calls. -/
def afterCalls (run : List LocalWithdrawalRegistration) : LocalManagerService :=
  run.foldl (fun service r => (service.register r).2) .empty

theorem afterCalls_concat (run : List LocalWithdrawalRegistration)
    (r : LocalWithdrawalRegistration) :
    afterCalls (run ++ [r]) = ((afterCalls run).register r).2 := by
  rw [afterCalls, List.foldl_append]
  rfl

/-- What is held after some calls is held after more of them. -/
theorem afterCalls_keeps {before : List LocalWithdrawalRegistration} {key : VaaKey}
    {held : ByteString × LocalSignedWithdrawal} (h : (afterCalls before).withdrawals key = some held)
    (after : List LocalWithdrawalRegistration) :
    (afterCalls (before ++ after)).withdrawals key = some held := by
  induction after generalizing before with
  | nil => rwa [List.append_nil]
  | cons r after ih =>
    rw [List.append_cons]
    apply ih
    rw [afterCalls_concat]
    exact register_keeps h r

/-- Some call of the run for `r` finds its key free and makes these signatures. -/
def SignedIn (run : List LocalWithdrawalRegistration) (r : LocalWithdrawalRegistration)
    (signed : LocalSignedWithdrawal) : Prop :=
  ∃ before after, run = before ++ r :: after ∧ (afterCalls before).withdrawals r.key = none ∧
    buildLocalSignedWithdrawal r = .ok signed

variable {run : List LocalWithdrawalRegistration} {r r' : LocalWithdrawalRegistration}
  {signed signed' : LocalSignedWithdrawal} {key : VaaKey}

theorem SignedIn.append (h : SignedIn run r signed) (more : List LocalWithdrawalRegistration) :
    SignedIn (run ++ more) r signed := by
  rcases h with ⟨before, after, rfl, hvacant, hbuild⟩
  exact ⟨before, after ++ more, by simp, hvacant, hbuild⟩

/-- What a run has signed it holds. -/
theorem SignedIn.held (h : SignedIn run r signed) :
    (afterCalls run).withdrawals r.key = some (r.payload, signed) := by
  rcases h with ⟨before, after, rfl, hvacant, hbuild⟩
  rw [List.append_cons]
  apply afterCalls_keeps
  rw [afterCalls_concat, LocalManagerService.register, hvacant, hbuild]
  dsimp only
  rw [insert_withdrawals, if_pos rfl]

/-- What a run holds it has signed. -/
theorem held_signedIn {payload : ByteString}
    (h : (afterCalls run).withdrawals key = some (payload, signed)) :
    ∃ r, SignedIn run r signed ∧ r.key = key ∧ r.payload = payload := by
  induction run using List.reverseRecOn with
  | nil => cases h
  | append_singleton run last ih =>
    rw [afterCalls_concat] at h
    have hkept : (afterCalls run).withdrawals key = some (payload, signed) →
        ∃ r, SignedIn (run ++ [last]) r signed ∧ r.key = key ∧ r.payload = payload := by
      intro hheld
      rcases ih hheld with ⟨r, hsigned, hr⟩
      exact ⟨r, hsigned.append [last], hr⟩
    have hstep := register_registers (afterCalls run) last
    generalize ((afterCalls run).register last).1 = outcome at hstep
    generalize ((afterCalls run).register last).2 = service at hstep h
    cases hstep with
    | repeated => exact hkept h
    | conflicting => exact hkept h
    | refused => exact hkept h
    | inserted vacant hbuild =>
      rw [insert_withdrawals] at h
      by_cases hkey : key = last.key
      · rw [if_pos hkey] at h
        cases h
        exact ⟨last, ⟨run, [], rfl, vacant, hbuild⟩, hkey.symm, rfl⟩
      · rw [if_neg hkey] at h
        exact hkept h

/-- Signatures are made once for a key. -/
theorem SignedIn.unique (h : SignedIn run r signed) (h' : SignedIn run r' signed')
    (hkey : r'.key = r.key) : signed' = signed := by
  have hheld := h.held
  have hheld' := h'.held
  rw [hkey, hheld] at hheld'
  exact (Prod.mk.inj (Option.some.inj hheld')).2.symm

/-- A key under which every call failed is still free. -/
theorem vacant_of_failed
    (h : ∀ before earlier after, run = before ++ earlier :: after → earlier.key = key →
      ∃ error, ((afterCalls before).register earlier).1 = .error error) :
    (afterCalls run).withdrawals key = none := by
  cases hheld : (afterCalls run).withdrawals key with
  | none => rfl
  | some held =>
    rcases held_signedIn (show _ = some (held.1, held.2) from hheld) with
      ⟨r, ⟨before, after, hrun, hvacant, hbuild⟩, hkey, -⟩
    rcases h before r after hrun hkey with ⟨error, herror⟩
    rw [LocalManagerService.register, hvacant, hbuild] at herror
    cases herror

/-- The service never equivocates. Over every run of calls on a fresh service: what it answers for a
key never changes; all signatures made for a key are of one transaction, the registered one; calls
that insert nothing change nothing; and failed registrations leave a key to a valid one. -/
theorem never_equivocates (run : List LocalWithdrawalRegistration) (key : VaaKey) :
    (∀ before after signed, run = before ++ after → (afterCalls before).get key = some signed →
      (afterCalls run).get key = some signed) ∧
    ((∀ r signed, SignedIn run r signed → r.key = key → SignsRegistered r signed ∧
        (afterCalls run).get key = some signed ∧
        ∀ r' signed', SignedIn run r' signed' → r'.key = key →
          signed'.unsignedTransaction = signed.unsignedTransaction ∧ signed' = signed) ∧
      ∀ signed, (afterCalls run).get key = some signed → ∃ r, SignedIn run r signed ∧ r.key = key) ∧
    (∀ before r after, run = before ++ r :: after →
      ((afterCalls before).register r).1 ≠ .ok .inserted →
        ((afterCalls before).register r).2 = afterCalls before) ∧
    ∀ r signed, r.key = key → buildLocalSignedWithdrawal r = .ok signed →
      (∀ before earlier after, run = before ++ earlier :: after → earlier.key = key →
        ∃ error, ((afterCalls before).register earlier).1 = .error error) →
      ((afterCalls run).register r).1 = .ok .inserted ∧
        (afterCalls (run ++ [r])).get key = some signed := by
  refine ⟨?_, ⟨?_, ?_⟩, ?_, ?_⟩
  · intro before after signed hrun hget
    rcases Option.map_eq_some_iff.mp hget with ⟨held, hheld, rfl⟩
    rw [hrun, LocalManagerService.get, afterCalls_keeps hheld]
    rfl
  · intro r signed hsigned hkey
    rcases hsigned with ⟨before, after, hrun, hvacant, hbuild⟩
    have hsigned : SignedIn run r signed := ⟨before, after, hrun, hvacant, hbuild⟩
    refine ⟨buildLocalSignedWithdrawal_registered hbuild, ?_, ?_⟩
    · rw [LocalManagerService.get, ← hkey, hsigned.held]
      rfl
    · intro r' signed' hsigned' hkey'
      have hsame := hsigned.unique hsigned' (hkey'.trans hkey.symm)
      exact ⟨by rw [hsame], hsame⟩
  · intro signed hget
    rcases Option.map_eq_some_iff.mp hget with ⟨held, hheld, rfl⟩
    rcases held_signedIn (show _ = some (held.1, held.2) from hheld) with ⟨r, hsigned, hkey, -⟩
    exact ⟨r, hsigned, hkey⟩
  · intro before r after _ hinserted
    have hstep := register_registers (afterCalls before) r
    generalize ((afterCalls before).register r).1 = outcome at hstep hinserted
    generalize ((afterCalls before).register r).2 = service at hstep
    cases hstep with
    | repeated => rfl
    | conflicting => rfl
    | refused => rfl
    | inserted => exact absurd rfl hinserted
  · intro r signed hkey hbuild hfailed
    have hvacant := vacant_of_failed hfailed
    rw [← hkey] at hvacant
    have hsigned : SignedIn (run ++ [r]) r signed := ⟨run, [], rfl, hvacant, hbuild⟩
    refine ⟨?_, ?_⟩
    · rw [LocalManagerService.register, hvacant, hbuild]
    · rw [LocalManagerService.get, ← hkey, hsigned.held]
      rfl

end

section
open Digests Prepare

/-- Ten thousand satoshis in each of two outputs of one deposit. -/
def localRegistration : LocalWithdrawalRegistration :=
  registrationOf localBridgeState 17 localPayloadBytes (localPrepared (localDeposit 2))

theorem localRegistration_signed :
    ∃ signed, buildLocalSignedWithdrawal localRegistration = .ok signed := by
  rcases buildLocalSignedWithdrawal_prepared 17 fixtureEcdsa_standIn localPayloadBytes_parse rfl rfl
    (localDeposit_prepared (show 0 < 2 by decide)) with ⟨signed, hbuild, -⟩
  exact ⟨signed, hbuild⟩

theorem localRegistration_signedIn :
    ∃ signed, SignedIn [localRegistration] localRegistration signed := by
  rcases localRegistration_signed with ⟨signed, hbuild⟩
  exact ⟨signed, [], [], rfl, rfl, hbuild⟩

/-- Registered twice, answered with the first signatures. -/
theorem never_equivocates_local :
    ∃ signed, (afterCalls [localRegistration, localRegistration]).get localRegistration.key =
        some signed ∧ SignsRegistered localRegistration signed := by
  rcases localRegistration_signedIn with ⟨signed, hsigned⟩
  have hrun := never_equivocates [localRegistration, localRegistration] localRegistration.key
  have hregistered := hrun.2.1.1 localRegistration signed (hsigned.append [localRegistration]) rfl
  exact ⟨signed, hregistered.2.1, hregistered.1⟩

end

end DogeOperator.LocalManager
