import DogeOperator.Registrations

/-! Repeated registrations. The service compares the payload and the unsigned bytes, while what it
signs depends on the recipients behind the inputs too, which these bytes do not say. -/
namespace DogeOperator.LocalManager
open Bytes Outcome Crypto Utx0 Redeem Tx Manager Vaa

/-! What the compared bytes do say. -/

theorem toTxOut_injective : Function.Injective TransactionOutput.toTxOut := by
  intro a b h
  simp only [TransactionOutput.toTxOut, TxOut.mk.injEq] at h
  have ha := parseStandardOutput_eq_ok.mpr (rfl : scriptPubKeyFor a.addressType a.address = _)
  have hb := parseStandardOutput_eq_ok.mpr (rfl : scriptPubKeyFor b.addressType b.address = _)
  rw [h.2, hb, Except.ok.injEq, Prod.mk.injEq] at ha
  cases a
  cases b
  simp_all

/-- The custody script before and after its recipient. -/
theorem registeredScript_layout (key : VaaKey) (recipient : FixedBytes 32) :
    registeredScript key recipient = pushData (u16Be key.emitterChain) ++
      pushData key.emitterAddress.toList ++ [op2Drop] ++ ([0x20] ++ (recipient.toList ++
        ([opDrop] ++ pushInt (Int64.ofNat localRegtestManagerSet.m.toNat) ++
          localRegtestManagerSet.pubkeys.flatMap (fun pk => pushData pk.toList) ++
          pushInt (Int64.ofNat (UInt8.ofNat localRegtestManagerSet.pubkeys.length).toNat) ++
          [opCheckmultisig]))) := by
  have hpush : pushData recipient.toList = [0x20] ++ recipient.toList := by
    rw [pushData, List.Vector.toList_length]
    rfl
  rw [registeredScript, scriptBytes, hpush]
  simp only [List.append_assoc]

theorem registeredScript_injective (key : VaaKey) : Function.Injective (registeredScript key) := by
  intro a b h
  rw [registeredScript_layout, registeredScript_layout] at h
  have htail := List.append_cancel_left (List.append_cancel_left h)
  have hlen : a.toList.length = b.toList.length := by simp
  exact List.Vector.eq a b (List.append_inj htail hlen).1

theorem registeredScript_size (key : VaaKey) (recipient : FixedBytes 32) :
    0 < (registeredScript key recipient).length ∧
      (registeredScript key recipient).length < 2 ^ 64 := by
  have htail : ([opDrop] ++ pushInt (Int64.ofNat localRegtestManagerSet.m.toNat) ++
      localRegtestManagerSet.pubkeys.flatMap (fun pk => pushData pk.toList) ++
      pushInt (Int64.ofNat (UInt8.ofNat localRegtestManagerSet.pubkeys.length).toNat) ++
      [opCheckmultisig]).length = 242 := by decide +kernel
  have hchain : (pushData (u16Be key.emitterChain)).length = 3 := by
    rw [pushData, u16Be_length, List.length_append, u16Be_length]
    rfl
  have hemitter : (pushData key.emitterAddress.toList).length = 33 := by
    rw [pushData, List.length_append, List.Vector.toList_length]
    rfl
  have hlen : (registeredScript key recipient).length = 312 := by
    rw [registeredScript_layout, List.length_append, List.length_append, List.length_append,
      List.length_append, List.length_append, hchain, hemitter, htail, List.Vector.toList_length]
    rfl
  omega

section
variable [Secp256k1] [Hashes] {run : List LocalWithdrawalRegistration}
  {r r' : LocalWithdrawalRegistration} {signed signed' : LocalSignedWithdrawal}

/-- A call that succeeds is answered by what is held under its key, and repeats a registration
only if it is the same. -/
structure Answers (run : List LocalWithdrawalRegistration) (r : LocalWithdrawalRegistration)
    (outcome : Result RegistrationOutcome) (service : LocalManagerService) : Prop where
  answer : ∀ success, outcome = .ok success → ∃ built held, buildLocalSignedWithdrawal r = .ok built ∧
    service.get r.key = some held ∧ held.signedVaa = built.signedVaa ∧
    held.managerSignatures = built.managerSignatures
  repeats : outcome = .ok .alreadyRegistered → ∀ first signed, SignedIn run first signed →
    first.key = r.key → first.payload = r.payload ∧
      first.unsignedTransaction = r.unsignedTransaction ∧ first.inputs = r.inputs ∧
      first.outputs = r.outputs

/-- The call for `r` after the run. -/
def Answered (run : List LocalWithdrawalRegistration) (r : LocalWithdrawalRegistration) : Prop :=
  Answers run r ((afterCalls run).register r).1 ((afterCalls run).register r).2

/-- The registration under a key that has the same payload and the same unsigned bytes as the first
one has also its inputs and outputs. -/
def RepeatsWhole (run : List LocalWithdrawalRegistration) (r : LocalWithdrawalRegistration) : Prop :=
  ∀ first signed, SignedIn run first signed → first.key = r.key → first.payload = r.payload →
    first.unsignedTransaction = r.unsignedTransaction →
      first.inputs = r.inputs ∧ first.outputs = r.outputs

theorem SignedIn.submitted (h : SignedIn run r signed) :
    signed.unsignedTransaction = r.unsignedTransaction := by
  rcases h with ⟨before, after, -, -, hbuild⟩
  exact (buildLocalSignedWithdrawal_registered hbuild).submitted

/-- The bytes that are compared decide the outcome of a repeated key. -/
theorem register_repeated (h : SignedIn run r signed) (hkey : r.key = r'.key)
    (hpayload : r.payload = r'.payload)
    (hbytes : r.unsignedTransaction = r'.unsignedTransaction) :
    (afterCalls run).register r' = (.ok .alreadyRegistered, afterCalls run) := by
  have hheld := h.held
  rw [hkey] at hheld
  rw [LocalManagerService.register, hheld]
  dsimp only
  rw [if_pos ⟨hpayload, h.submitted.trans hbytes⟩]

/-- What a run signed under the key is what is compared with. -/
theorem SignedIn.compared {payload : ByteString} (h : SignedIn run r' signed') (hkey : r'.key = r.key)
    (held : (afterCalls run).withdrawals r.key = some (payload, signed)) :
    r'.payload = payload ∧ r'.unsignedTransaction = signed.unsignedTransaction := by
  have hheld := h.held
  rw [hkey, held, Option.some.injEq, Prod.mk.injEq] at hheld
  exact ⟨hheld.1.symm, by rw [← h.submitted, hheld.2]⟩

theorem answers_of_registers {outcome : Result RegistrationOutcome} {service : LocalManagerService}
    (h : RepeatsWhole run r) (hstep : Registers (afterCalls run) r outcome service) :
    Answers run r outcome service := by
  cases hstep with
  | repeated held hpayload hbytes =>
    have hfirst : ∀ first signed, SignedIn run first signed → first.key = r.key →
        first.payload = r.payload ∧ first.unsignedTransaction = r.unsignedTransaction ∧
          first.inputs = r.inputs ∧ first.outputs = r.outputs := by
      intro first signed hsigned hkey
      have hcompared := hsigned.compared hkey held
      have hsame := hcompared.1.trans hpayload
      have hsubmitted := hcompared.2.trans hbytes
      exact ⟨hsame, hsubmitted, h first signed hsigned hkey hsame hsubmitted⟩
    refine ⟨fun _ _ => ?_, fun _ => hfirst⟩
    rcases held_signedIn held with ⟨first, hsigned, hkey, -⟩
    rcases hfirst first _ hsigned hkey with ⟨hsame, hsubmitted, hinputs, houtputs⟩
    have hwhole : first = r := by
      cases first
      cases r
      simp_all
    rcases hsigned with ⟨before, after, -, -, hbuild⟩
    rw [hwhole] at hbuild
    refine ⟨_, _, hbuild, ?_, rfl, rfl⟩
    rw [LocalManagerService.get, held]
    rfl
  | conflicting => exact ⟨fun _ h => absurd h (by simp), fun h => absurd h (by simp)⟩
  | refused => exact ⟨fun _ h => absurd h (by simp), fun h => absurd h (by simp)⟩
  | inserted vacant hbuild =>
    refine ⟨fun _ _ => ⟨_, _, hbuild, ?_, rfl, rfl⟩, fun h => absurd h (by simp)⟩
    rw [LocalManagerService.get, insert_withdrawals, if_pos rfl]
    rfl

theorem answered_iff (run : List LocalWithdrawalRegistration) (r : LocalWithdrawalRegistration) :
    Answered run r ↔ RepeatsWhole run r := by
  constructor
  · intro h first signed hsigned hkey hpayload hbytes
    have hrepeated := congrArg Prod.fst (register_repeated hsigned hkey hpayload hbytes)
    exact (h.repeats hrepeated first signed hsigned hkey).2.2
  · intro h
    exact answers_of_registers h (register_registers (afterCalls run) r)

/-! The answer alone. A repetition that is answered with its own signatures has the first outputs
and outpoints, and the first recipients unless a key signs two messages alike. -/

/-- One key gives one signature to two different messages for the same input. -/
def SharedSignature (t t' : UnsignedTransaction) : Prop :=
  ∃ index bytes bytes' secret, t.sighashPreimage index sighashAllType = .ok bytes ∧
    t'.sighashPreimage index sighashAllType = .ok bytes' ∧ bytes ≠ bytes' ∧
    Secp256k1.serializeDer (Secp256k1.signEcdsa (doubleSha256 bytes) secret) =
      Secp256k1.serializeDer (Secp256k1.signEcdsa (doubleSha256 bytes') secret)

omit [Secp256k1] [Hashes] in
theorem registeredTransaction_signable {payload : Utx0UnlockPayload}
    (hchecks : RegistrationChecks r payload) (hlen : r.inputs.length < 2 ^ 64) {index : ℕ}
    {input : LocalSigningInput} (hinput : r.inputs[index]? = some input) :
    Preimage.Signable (registeredTransaction r) index ∧
      (registeredTransaction r).redeemScripts[index]? =
        some (registeredScript r.key input.originalRecipientAddress) := by
  have hencodable := hchecks.encodable hlen
  have hscript : (registeredTransaction r).redeemScripts[index]? =
      some (registeredScript r.key input.originalRecipientAddress) := by
    simp [registeredTransaction, UnsignedTransaction.built, registeredInput, hinput]
  have hsize := registeredScript_size r.key input.originalRecipientAddress
  have hvalid : index < (registeredTransaction r).inputs.length := by
    simp only [registeredTransaction, UnsignedTransaction.built, List.length_map]
    exact (List.getElem?_eq_some_iff.mp hinput).1
  exact ⟨⟨hvalid, ⟨_, hscript, List.ne_nil_of_length_pos hsize.1, hsize.2⟩, hencodable.inputCount,
    hencodable.outputCount, hencodable.scriptPubkeys⟩, hscript⟩

/-- Equal signers have signed equally what each transaction asks of an input. -/
theorem same_signatures {t t' : UnsignedTransaction} {signers : List SignerSignatures}
    (hformed : WellFormed t) (hformed' : WellFormed t')
    (h : signTransaction localRegtestManagerSet t = .ok signers)
    (h' : signTransaction localRegtestManagerSet t' = .ok signers) {index : ℕ}
    (hindex : index < t.inputCount) (hindex' : index < t'.inputCount) :
    ∃ secret digest digest', t.sighashAll index = .ok digest ∧ t'.sighashAll index = .ok digest' ∧
      Secp256k1.serializeDer (Secp256k1.signEcdsa digest secret) =
        Secp256k1.serializeDer (Secp256k1.signEcdsa digest' secret) := by
  rcases sighashes_eq_ok hformed with ⟨digests, hdigests, hlength, hat⟩
  rcases sighashes_eq_ok hformed' with ⟨digests', hdigests', hlength', hat'⟩
  rw [signTransaction, hdigests, ok_bind, mapM_eq_ok] at h
  rw [signTransaction, hdigests', ok_bind, mapM_eq_ok] at h'
  have hkeys : ∃ key keys, (localRegtestManagerPrivateKeys.take
      localRegtestManagerSet.m.toNat).zipIdx = key :: keys := ⟨_, _, rfl⟩
  rcases hkeys with ⟨key, keys, hkeys⟩
  rw [hkeys] at h h'
  cases h with
  | cons hfirst _ =>
    cases h' with
    | cons hfirst' _ =>
      rcases signInputs_eq_ok hfirst with ⟨secret, hsecret, hmade⟩
      rcases signInputs_eq_ok hfirst' with ⟨secret', hsecret', hmade'⟩
      cases hsecret.symm.trans hsecret'
      have hsome := List.getElem?_eq_getElem (hlength ▸ hindex : index < digests.length)
      have hsome' := List.getElem?_eq_getElem (hlength' ▸ hindex' : index < digests'.length)
      have hsame := congrArg (·[index]?) (hmade.symm.trans hmade')
      simp only [List.getElem?_map, hsome, hsome', Option.map_some, Option.some.injEq] at hsame
      exact ⟨secret, _, _, hat _ _ hsome, hat' _ _ hsome', List.append_cancel_right hsame⟩

omit [Secp256k1] in
theorem sighashAll_eq_ok {t : UnsignedTransaction} {index : ℕ} {digest : FixedBytes 32} :
    t.sighashAll index = .ok digest ↔
      ∃ bytes, t.sighashPreimage index sighashAllType = .ok bytes ∧ digest = doubleSha256 bytes := by
  rw [UnsignedTransaction.sighashAll, UnsignedTransaction.sighash, bind_eq_ok]
  simp only [pure_eq_ok, Except.ok.injEq, eq_comm]

omit [Secp256k1] [Hashes] in
/-- Equal bytes say equal outputs and equal outpoints. -/
theorem registered_bytes {payload payload' : Utx0UnlockPayload}
    (hchecks : RegistrationChecks r payload) (hchecks' : RegistrationChecks r' payload')
    (hlen : r.inputs.length < 2 ^ 64) (hlen' : r'.inputs.length < 2 ^ 64)
    (h : r.unsignedTransaction = r'.unsignedTransaction) :
    r.outputs = r'.outputs ∧
      r.inputs.map (fun input => (input.transactionId, input.vout)) =
        r'.inputs.map fun input => (input.transactionId, input.vout) := by
  rw [hchecks.bytes, hchecks'.bytes] at h
  rcases Preimage.serializeTransaction_inj (hchecks.encodable hlen) (hchecks'.encodable hlen')
    (congrArg (· ++ ([] : ByteString)) h) with ⟨-, hinputs, houtputs, -, -⟩
  refine ⟨(List.map_injective_iff.mpr toTxOut_injective) houtputs, ?_⟩
  have houtpoints := congrArg (List.map fun input => (input.prevTxidLe.reverse, input.vout)) hinputs
  simpa [registeredTransaction, UnsignedTransaction.built, registeredInput, SelectedUtxo.toTxIn,
    Function.comp_def] using houtpoints

omit [Secp256k1] [Hashes] in
/-- Other inputs with the same outpoints have another recipient somewhere. -/
theorem other_recipient {inputs inputs' : List LocalSigningInput}
    (houtpoints : inputs.map (fun input => (input.transactionId, input.vout)) =
      inputs'.map fun input => (input.transactionId, input.vout)) (hne : inputs ≠ inputs') :
    ∃ (index : ℕ) (input input' : LocalSigningInput), inputs[index]? = some input ∧
      inputs'[index]? = some input' ∧
      input.originalRecipientAddress ≠ input'.originalRecipientAddress := by
  induction inputs generalizing inputs' with
  | nil => exact absurd (List.map_eq_nil_iff.mp houtpoints.symm).symm hne
  | cons input inputs ih =>
    cases inputs' with
    | nil => exact absurd houtpoints (by simp)
    | cons input' inputs' =>
      simp only [List.map_cons, List.cons.injEq, Prod.mk.injEq] at houtpoints
      by_cases hinput : input = input'
      · have hrest : inputs ≠ inputs' := fun h => hne (by rw [hinput, h])
        rcases ih houtpoints.2 hrest with ⟨index, other, other', hother, hother', hrecipient⟩
        exact ⟨index + 1, other, other', hother, hother', hrecipient⟩
      · refine ⟨0, input, input', rfl, rfl, fun hrecipient => hinput ?_⟩
        cases input
        cases input'
        simp_all

/-- Equal signers for two recipients of one input: the scripts differ, so do the hashed bytes. -/
theorem sharedSignature_of_recipients {payload payload' : Utx0UnlockPayload}
    {signers : List SignerSignatures} (hchecks : RegistrationChecks r payload)
    (hchecks' : RegistrationChecks r' payload') (hkey : r.key = r'.key)
    (hlen : r.inputs.length < 2 ^ 64) (hlen' : r'.inputs.length < 2 ^ 64)
    (hsigners : signTransaction localRegtestManagerSet (registeredTransaction r) = .ok signers)
    (hsigners' : signTransaction localRegtestManagerSet (registeredTransaction r') = .ok signers)
    {index : ℕ} {input input' : LocalSigningInput} (hinput : r.inputs[index]? = some input)
    (hinput' : r'.inputs[index]? = some input')
    (hrecipient : input.originalRecipientAddress ≠ input'.originalRecipientAddress) :
    SharedSignature (registeredTransaction r) (registeredTransaction r') := by
  rcases registeredTransaction_signable hchecks hlen hinput with ⟨hsignable, hscript⟩
  rcases registeredTransaction_signable hchecks' hlen' hinput' with ⟨hsignable', hscript'⟩
  have hformed : WellFormed (registeredTransaction r) := built_wellFormed _ (by
    rw [ne_eq, List.map_eq_nil_iff]
    exact hchecks.inputs)
  have hformed' : WellFormed (registeredTransaction r') := built_wellFormed _ (by
    rw [ne_eq, List.map_eq_nil_iff]
    exact hchecks'.inputs)
  rcases same_signatures hformed hformed' hsigners hsigners' hsignable.valid hsignable'.valid
    with ⟨secret, digest, digest', hdigest, hdigest', hmade⟩
  rcases sighashAll_eq_ok.mp hdigest with ⟨bytes, hpreimage, rfl⟩
  rcases sighashAll_eq_ok.mp hdigest' with ⟨bytes', hpreimage', rfl⟩
  refine ⟨index, bytes, bytes', secret, hpreimage, hpreimage', ?_, hmade⟩
  intro heq
  have hsamePreimage := (Preimage.preimage_eq_iff hsignable hsignable').mp (by
    rw [hpreimage, hpreimage', heq])
  have hscripts := hsamePreimage.redeemScript
  rw [hscript, hscript', Option.some.injEq, hkey] at hscripts
  exact hrecipient (registeredScript_injective _ hscripts)

/-- What the answer to a repetition says about it. -/
theorem repeated_answer {built : LocalSignedWithdrawal}
    (hfirst : buildLocalSignedWithdrawal r = .ok signed)
    (hbuild : buildLocalSignedWithdrawal r' = .ok built)
    (hsignatures : signed.managerSignatures = built.managerSignatures) (hkey : r.key = r'.key)
    (hbytes : r.unsignedTransaction = r'.unsignedTransaction)
    (hlen : r.inputs.length < 2 ^ 64) (hlen' : r'.inputs.length < 2 ^ 64) :
    r.outputs = r'.outputs ∧ (r.inputs = r'.inputs ∨
      SharedSignature (registeredTransaction r) (registeredTransaction r')) := by
  rcases buildLocalSignedWithdrawal_eq_ok.mp hfirst with
    ⟨payload, vaaHash, signers, hchecks, hsigners, -, rfl⟩
  rcases buildLocalSignedWithdrawal_eq_ok.mp hbuild with
    ⟨payload', vaaHash', signers', hchecks', hsigners', -, rfl⟩
  have hsame : signers = signers' := congrArg ManagerSignatures.signatures hsignatures
  subst hsame
  rcases registered_bytes hchecks hchecks' hlen hlen' hbytes with ⟨houtputs, houtpoints⟩
  refine ⟨houtputs, ?_⟩
  by_cases hinputs : r.inputs = r'.inputs
  · exact .inl hinputs
  · rcases other_recipient houtpoints hinputs with
      ⟨index, input, input', hinput, hinput', hrecipient⟩
    exact .inr (sharedSignature_of_recipients hchecks hchecks' hkey hlen hlen' hsigners hsigners'
      hinput hinput' hrecipient)

/-- A call is answered by its own signatures, and repeats only an equal registration, exactly when
no registration under its key agrees with it in payload and unsigned bytes alone. Beyond that, a
repetition answered with its own signatures needs one signature for two messages. -/
theorem answered_exact (run : List LocalWithdrawalRegistration) (r : LocalWithdrawalRegistration) :
    (Answered run r ↔ RepeatsWhole run r) ∧
    ∀ first signed built, SignedIn run first signed → first.key = r.key →
      first.payload = r.payload → first.unsignedTransaction = r.unsignedTransaction →
      buildLocalSignedWithdrawal r = .ok built →
      signed.managerSignatures = built.managerSignatures →
      first.inputs.length < 2 ^ 64 → r.inputs.length < 2 ^ 64 →
        first.outputs = r.outputs ∧ (first.inputs = r.inputs ∨
          SharedSignature (registeredTransaction first) (registeredTransaction r)) := by
  refine ⟨answered_iff run r, ?_⟩
  intro first signed built hsigned hkey _ hbytes hbuild hsignatures hlen hlen'
  rcases hsigned with ⟨before, after, -, -, hfirst⟩
  exact repeated_answer hfirst hbuild hsignatures hkey hbytes hlen hlen'

end

section
open Digests

/-- The registered transaction, said to spend deposits of somebody else. -/
def otherRecipients : LocalWithdrawalRegistration :=
  { localRegistration with inputs := localRegistration.inputs.map fun input =>
      { input with originalRecipientAddress := List.Vector.replicate 32 7 } }

theorem otherRecipients_signed :
    ∃ built, buildLocalSignedWithdrawal otherRecipients = .ok built := by
  rcases localRegistration_signed with ⟨signed, hsigned⟩
  rcases buildLocalSignedWithdrawal_eq_ok.mp hsigned with
    ⟨payload, vaaHash, -, hchecks, -, hdigest, -⟩
  have hformed : WellFormed (registeredTransaction otherRecipients) :=
    built_wellFormed _ (List.cons_ne_nil _ _)
  rcases Agreement.signTransaction_accepts Agreement.fixtureEcdsa_standIn hformed with
    ⟨signers, hsigners, -⟩
  have hchecked : RegistrationChecks otherRecipients payload :=
    { hchecks with inputs := List.cons_ne_nil _ _ }
  exact ⟨_, buildLocalSignedWithdrawal_eq_ok.mpr
    ⟨payload, vaaHash, signers, hchecked, hsigners, hdigest, rfl⟩⟩

/-- The repetition for other recipients is not answered by its own signatures; these are the first
ones only where two messages have one digest. -/
theorem answered_exact_local :
    ¬ Answered [localRegistration] otherRecipients ∧
      ∃ signed built, buildLocalSignedWithdrawal localRegistration = .ok signed ∧
        buildLocalSignedWithdrawal otherRecipients = .ok built ∧
        (signed.managerSignatures = built.managerSignatures →
          ∃ bytes bytes', bytes ≠ bytes' ∧ doubleSha256 bytes = doubleSha256 bytes') := by
  rcases localRegistration_signed with ⟨signed, hsigned⟩
  rcases otherRecipients_signed with ⟨built, hbuilt⟩
  have hfirst : SignedIn [localRegistration] localRegistration signed := ⟨[], [], rfl, rfl, hsigned⟩
  have hinputs : localRegistration.inputs ≠ otherRecipients.inputs := by decide
  rcases answered_exact [localRegistration] otherRecipients with ⟨hanswered, hrepetition⟩
  refine ⟨fun h => hinputs (hanswered.mp h _ _ hfirst rfl rfl rfl).1, signed, built, hsigned,
    hbuilt, fun hsame => ?_⟩
  rcases (hrepetition localRegistration signed built hfirst rfl rfl rfl hbuilt hsame (by decide)
    (by decide)).2 with hequal | ⟨index, bytes, bytes', secret, -, -, hne, hmade⟩
  · exact absurd hequal hinputs
  · have hdigests := List.append_inj_left hmade (by simp only [List.Vector.toList_length])
    exact ⟨bytes, bytes', hne, List.Vector.eq _ _ hdigests⟩

/-- The registered key, payload and bytes, and no inputs at all: a fresh service refuses it, the
one that holds the key answers that it is registered. -/
theorem inputless_answered :
    ((afterCalls [localRegistration]).register { localRegistration with inputs := [] }).1 =
        .ok .alreadyRegistered ∧
      ((afterCalls []).register { localRegistration with inputs := [] }).1 ≠ .ok .inserted ∧
      ¬ Answered [localRegistration] { localRegistration with inputs := [] } := by
  rcases localRegistration_signedIn with ⟨signed, hsigned⟩
  have hrefused : ∀ built,
      buildLocalSignedWithdrawal { localRegistration with inputs := [] } ≠ .ok built := by
    intro built hbuild
    rcases buildLocalSignedWithdrawal_eq_ok.mp hbuild with ⟨payload, vaaHash, signers, hchecks, -⟩
    exact hchecks.inputs rfl
  have hrepeated : (afterCalls [localRegistration]).register { localRegistration with inputs := [] } =
      (.ok .alreadyRegistered, afterCalls [localRegistration]) :=
    register_repeated hsigned rfl rfl rfl
  refine ⟨by rw [hrepeated], ?_, ?_⟩
  · intro hinserted
    cases hbuild : buildLocalSignedWithdrawal { localRegistration with inputs := [] } with
    | error error =>
      rw [LocalManagerService.register] at hinserted
      simp [afterCalls, LocalManagerService.empty, hbuild] at hinserted
    | ok built => exact hrefused built hbuild
  · intro hanswered
    rcases hanswered.answer .alreadyRegistered (by rw [hrepeated]) with ⟨built, held, hbuild, -⟩
    exact hrefused built hbuild

end

end DogeOperator.LocalManager
