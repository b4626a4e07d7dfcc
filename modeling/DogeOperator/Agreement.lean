import DogeOperator.ApplySignatures
import DogeOperator.LocalManager
import DogeOperator.ManagerClient
import DogeOperator.PrepareRecovery

/-! The operator and the local manager service agree: what the operator posts is accepted, and
what the service answers passes the operator's checks and signs every input. -/
namespace DogeOperator.Agreement
open Bytes Outcome Crypto Utx0 Redeem Tx Network Manager Prepare Records Vaa Json Base64
open ManagerClient LocalManager

/-! The registration survives the exchange. -/

theorem signingInput_decodes (utxo : CustodyUtxo) :
    SigningInputRequest.fromJson (signingInput utxo).toJson =
      .ok { originalRecipientAddressHex := hexEncode utxo.originalRecipientAddress.toList,
            transactionIdHex := hexEncode utxo.txid.reverse.toList, vout := utxo.vout } := by
  unfold SigningInputRequest.fromJson SigningInput.toJson
  rw [asFields_object, ok_bind]
  refine bind_eq_ok.mpr ⟨(), rfl, ?_⟩
  refine bind_eq_ok.mpr ⟨_, required_eq_ok rfl rfl, ?_⟩
  refine bind_eq_ok.mpr ⟨_, required_eq_ok rfl rfl, ?_⟩
  exact bind_eq_ok.mpr ⟨_, required_eq_ok rfl (asU32_ofU32 _), rfl⟩

theorem signingOutput_decodes (output : TransactionOutput) :
    SigningOutputRequest.fromJson (signingOutput output).toJson =
      .ok { amount := output.amount, addressType := output.addressType.toU32,
            addressHex := hexEncode output.address.toList } := by
  unfold SigningOutputRequest.fromJson SigningOutput.toJson
  rw [asFields_object, ok_bind]
  refine bind_eq_ok.mpr ⟨(), rfl, ?_⟩
  refine bind_eq_ok.mpr ⟨_, required_eq_ok rfl (asU64_ofU64 _), ?_⟩
  refine bind_eq_ok.mpr ⟨_, required_eq_ok rfl (asU32_ofU32 _), ?_⟩
  exact bind_eq_ok.mpr ⟨_, required_eq_ok rfl rfl, rfl⟩

/-- The service's reading of the operator's request. -/
def receivedRequest (emitter : Pubkey) (sequence : UInt64) (payload : ByteString)
    (prepared : PreparedTransaction) : LocalManager.RegisterWithdrawalRequest where
  emitterChain := solanaEmitterChain
  emitterAddressHex := hexEncode emitter.toList
  sequence := sequence
  payloadHex := hexEncode payload
  unsignedTransactionHex := hexEncode prepared.unsignedBytes
  inputs := prepared.selectedUtxos.map fun utxo =>
    { originalRecipientAddressHex := hexEncode utxo.originalRecipientAddress.toList,
      transactionIdHex := hexEncode utxo.txid.reverse.toList, vout := utxo.vout }
  outputs := prepared.transaction.logicalOutputs.map fun output =>
    { amount := output.amount, addressType := output.addressType.toU32,
      addressHex := hexEncode output.address.toList }

variable {emitter : Pubkey} {sequence : UInt64} {payloadBytes : ByteString}
  {prepared : PreparedTransaction}

theorem registrationRequest_decodes :
    LocalManager.RegisterWithdrawalRequest.fromJson
      (registrationRequest emitter sequence payloadBytes prepared).toJson =
        .ok (receivedRequest emitter sequence payloadBytes prepared) := by
  have hinputs := asArray_map signingInput_decodes prepared.selectedUtxos
  have houtputs := asArray_map signingOutput_decodes prepared.transaction.logicalOutputs
  unfold LocalManager.RegisterWithdrawalRequest.fromJson ManagerClient.RegisterWithdrawalRequest.toJson
  rw [asFields_object, ok_bind]
  refine bind_eq_ok.mpr ⟨(), rfl, ?_⟩
  refine bind_eq_ok.mpr ⟨_, required_eq_ok rfl (asU16_ofU16 _), ?_⟩
  refine bind_eq_ok.mpr ⟨_, required_eq_ok rfl rfl, ?_⟩
  refine bind_eq_ok.mpr ⟨_, required_eq_ok rfl (asU64_ofU64 _), ?_⟩
  refine bind_eq_ok.mpr ⟨_, required_eq_ok rfl rfl, ?_⟩
  refine bind_eq_ok.mpr ⟨_, required_eq_ok rfl rfl, ?_⟩
  unfold registrationRequest
  rw [List.map_map, List.map_map]
  refine bind_eq_ok.mpr ⟨_, required_eq_ok rfl hinputs, ?_⟩
  exact bind_eq_ok.mpr ⟨_, required_eq_ok rfl houtputs, rfl⟩

theorem decodeHex_hexEncode (field : String) (bytes : ByteString) :
    decodeHex field (hexEncode bytes) = .ok bytes := by
  rw [decodeHex, stripHexPrefix_hexEncode, hexDecode_hexEncode]
  rfl

theorem decodeFixed_hexEncode {n : ℕ} (field : String) (bytes : FixedBytes n) :
    decodeFixed n field (hexEncode bytes.toList) = .ok bytes := by
  rw [decodeFixed, decodeHex_hexEncode, ok_bind, toFixed?_toList]
  rfl

def localInput (utxo : CustodyUtxo) : LocalSigningInput where
  originalRecipientAddress := utxo.originalRecipientAddress
  transactionId := utxo.txid.reverse
  vout := utxo.vout

/-- What the service registers. -/
def registrationOf (emitter : Pubkey) (sequence : UInt64) (payload : ByteString)
    (prepared : PreparedTransaction) : LocalWithdrawalRegistration where
  key := { emitterChain := solanaEmitterChain, emitterAddress := emitter, sequence }
  payload := payload
  unsignedTransaction := prepared.unsignedBytes
  inputs := prepared.selectedUtxos.map localInput
  outputs := prepared.transaction.logicalOutputs

/-- A decoder that ignores the index, over an enumerated encoding. -/
theorem mapM_zipIdx_map {α β γ : Type} {f : β × ℕ → Result γ} {e : α → β} {g : α → γ} {xs : List α}
    (h : ∀ x index, f (e x, index) = .ok (g x)) :
    (xs.map e).zipIdx.mapM f = .ok (xs.map g) := by
  rw [List.zipIdx_map, mapM_eq_ok, List.forall₂_map_left_iff]
  have hfirst : xs.map g = xs.zipIdx.map fun p => g p.1 := by
    conv_lhs => rw [← List.zipIdx_map_fst 0 xs, List.map_map]
    rfl
  rw [hfirst, List.forall₂_map_right_iff, List.forall₂_same]
  exact fun p _ => h p.1 p.2

theorem registration_decodes :
    decodeRegistration (receivedRequest emitter sequence payloadBytes prepared) =
      .ok (registrationOf emitter sequence payloadBytes prepared) := by
  have hinput : ∀ (utxo : CustodyUtxo) index, decodeInput
      ({ originalRecipientAddressHex := hexEncode utxo.originalRecipientAddress.toList,
         transactionIdHex := hexEncode utxo.txid.reverse.toList, vout := utxo.vout }, index) =
      .ok (localInput utxo) := by
    intro utxo index
    rw [decodeInput, decodeFixed_hexEncode, ok_bind, decodeFixed_hexEncode]
    rfl
  have houtput : ∀ (output : TransactionOutput) index, decodeOutput
      ({ amount := output.amount, addressType := output.addressType.toU32,
         addressHex := hexEncode output.address.toList }, index) = .ok output := by
    intro output index
    rw [decodeOutput, UtxoAddressType.fromU32_toU32, ok_bind, decodeFixed_hexEncode]
    rfl
  unfold decodeRegistration decodeKey receivedRequest
  rw [decodeFixed_hexEncode, ok_bind]
  refine bind_eq_ok.mpr ⟨_, rfl, ?_⟩
  rw [mapM_zipIdx_map hinput, ok_bind, mapM_zipIdx_map houtput, ok_bind, decodeHex_hexEncode, ok_bind,
    decodeHex_hexEncode, ok_bind, List.map_id']
  rfl

/-! The responses survive the exchange. -/

theorem b64Decode_encode (bytes : ByteString) : b64Decode (encode bytes) = .ok bytes := by
  rw [b64Decode, trim_encode, decode_encode]
  rfl

theorem hexDecodeFixed_hexEncode {n : ℕ} (bytes : FixedBytes n) :
    hexDecodeFixed n (hexEncode bytes.toList) = .ok bytes := by
  rw [hexDecodeFixed, hexDecode_hexEncode, Except.mapError, ok_bind, toFixed?_toList]
  rfl

/-- A signer's signatures under any index. -/
def numberedSigner (index : UInt8 → UInt32) (signer : SignerSignatures) : Value :=
  .object [("signerIndex", ofU32 (index signer.signerIndex)),
    ("signatures", .array (signer.inputSignatures.map fun signature => .string (encode signature)))]

/-- A response with any chain and any signer indices. -/
def numberedResponse (chain : UInt32) (index : UInt8 → UInt32) (signatures : ManagerSignatures) :
    Value :=
  .object [("isComplete", .bool signatures.isComplete),
    ("vaaHash", .string (hexEncode signatures.vaaHash.toList)),
    ("vaaId", .string signatures.vaaId),
    ("destinationChain", ofU32 chain),
    ("managerSetIndex", ofU32 signatures.managerSetIndex),
    ("required", ofU32 signatures.required),
    ("total", ofU32 signatures.total),
    ("signatures", .array (signatures.signatures.map (numberedSigner index)))]

/-- The service's response is numbered by its own chain and indices. -/
theorem signaturesResponse_numbered (signatures : ManagerSignatures) :
    signaturesResponse signatures =
      numberedResponse signatures.destinationChain.toUInt32 UInt8.toUInt32 signatures := by
  have hchain : ofU16 signatures.destinationChain = ofU32 signatures.destinationChain.toUInt32 := by
    rw [ofU16, ofU32, UInt16.toNat_toUInt32]
  have hsigner : signerResponse = numberedSigner UInt8.toUInt32 := by
    funext signer
    rw [signerResponse, numberedSigner, ofU32, UInt8.toNat_toUInt32]
  rw [signaturesResponse, numberedResponse, hchain, hsigner]

theorem numberedSigner_decodes (index : UInt8 → UInt32) (signer : SignerSignatures) :
    SignerSignaturesJson.fromJson (numberedSigner index signer) =
      .ok { signerIndex := some (index signer.signerIndex),
            signatures := signer.inputSignatures.map encode } := by
  have hstring : ∀ signature : ByteString,
      asString ((fun signature => Value.string (encode signature)) signature) =
        .ok (encode signature) := fun _ => rfl
  have hsignatures := asArray_map hstring signer.inputSignatures
  unfold SignerSignaturesJson.fromJson numberedSigner
  rw [asStruct_object, ok_bind]
  refine bind_eq_ok.mpr ⟨_, optional_eq_ok rfl (by simp [ofU32]) (asU32_ofU32 _), ?_⟩
  exact bind_eq_ok.mpr ⟨_, defaulted_eq_ok rfl hsignatures, rfl⟩

/-- The signer as it is kept. -/
def renumbered (index : UInt8 → UInt32) (signer : SignerSignatures) : SignerSignatures :=
  { signer with signerIndex := (index signer.signerIndex).toUInt8 }

theorem decodeSigner_numbered (index : UInt8 → UInt32) (signer : SignerSignatures) :
    decodeSigner { signerIndex := some (index signer.signerIndex),
                   signatures := signer.inputSignatures.map encode } =
      .ok (renumbered index signer) := by
  have hsignatures : (signer.inputSignatures.map encode).mapM b64Decode =
      .ok signer.inputSignatures := by
    rw [mapM_eq_ok, List.forall₂_map_left_iff, List.forall₂_same]
    exact fun signature _ => b64Decode_encode signature
  rw [decodeSigner, hsignatures, ok_bind, Option.getD_some]
  rfl

/-- The operator's reading of a response. -/
def receivedSignatures (chain : UInt32) (index : UInt8 → UInt32) (signatures : ManagerSignatures) :
    ManagerSignaturesJson where
  isComplete := some signatures.isComplete
  vaaHash := some (hexEncode signatures.vaaHash.toList)
  vaaId := some signatures.vaaId
  destinationChain := some chain
  managerSetIndex := some signatures.managerSetIndex
  required := some signatures.required
  total := some signatures.total
  signatures := signatures.signatures.map fun signer =>
    { signerIndex := some (index signer.signerIndex),
      signatures := signer.inputSignatures.map encode }

theorem numberedResponse_decodes (chain : UInt32) (index : UInt8 → UInt32)
    (signatures : ManagerSignatures) :
    ManagerSignaturesJson.fromJson (numberedResponse chain index signatures) =
      .ok (receivedSignatures chain index signatures) := by
  have hsigners := asArray_map (numberedSigner_decodes index) signatures.signatures
  unfold ManagerSignaturesJson.fromJson numberedResponse
  rw [asStruct_object, ok_bind]
  refine bind_eq_ok.mpr ⟨_, optional_eq_ok rfl (by simp) rfl, ?_⟩
  refine bind_eq_ok.mpr ⟨_, optional_eq_ok rfl (by simp) rfl, ?_⟩
  refine bind_eq_ok.mpr ⟨_, optional_eq_ok rfl (by simp) rfl, ?_⟩
  refine bind_eq_ok.mpr ⟨_, optional_eq_ok rfl (by simp [ofU32]) (asU32_ofU32 _), ?_⟩
  refine bind_eq_ok.mpr ⟨_, optional_eq_ok rfl (by simp [ofU32]) (asU32_ofU32 _), ?_⟩
  refine bind_eq_ok.mpr ⟨_, optional_eq_ok rfl (by simp [ofU32]) (asU32_ofU32 _), ?_⟩
  refine bind_eq_ok.mpr ⟨_, optional_eq_ok rfl (by simp [ofU32]) (asU32_ofU32 _), ?_⟩
  exact bind_eq_ok.mpr ⟨_, defaulted_eq_ok rfl hsigners, rfl⟩

/-- Of a chain and of an index the low bits are kept, everything else as it is. -/
theorem parseManagerSignatures_numbered (chain : UInt32) (index : UInt8 → UInt32)
    (signatures : ManagerSignatures) :
    parseManagerSignatures (.ok (numberedResponse chain index signatures)) =
      .ok { signatures with destinationChain := chain.toUInt16,
                            signatures := signatures.signatures.map (renumbered index) } := by
  have hdecode : (receivedSignatures chain index signatures).signatures.mapM decodeSigner =
      .ok (signatures.signatures.map (renumbered index)) := by
    unfold receivedSignatures
    rw [mapM_eq_ok, List.forall₂_map_left_iff, List.forall₂_map_right_iff, List.forall₂_same]
    exact fun signer _ => decodeSigner_numbered index signer
  unfold parseManagerSignatures
  rw [ok_bind, numberedResponse_decodes, Except.mapError, ok_bind, hdecode]
  unfold receivedSignatures
  rw [orBail_some, ok_bind, trimHexPrefixes_hexEncode, hexDecodeFixed_hexEncode, ok_bind, ok_bind]
  rfl

/-- The operator reads back the signatures the service serializes. -/
theorem parseManagerSignatures_response (signatures : ManagerSignatures) :
    parseManagerSignatures (.ok (signaturesResponse signatures)) = .ok signatures := by
  have hsigners : renumbered UInt8.toUInt32 = id := by
    funext signer
    rw [renumbered, UInt8.toUInt8_toUInt32]
    rfl
  rw [signaturesResponse_numbered, parseManagerSignatures_numbered, hsigners, List.map_id,
    UInt16.toUInt16_toUInt32]

/-! The service signs what was prepared. -/

section
variable [Secp256k1]

/-- A signature made with a fixture secret verifies under the fixture key of the same index. -/
def FixtureEcdsa : Prop :=
  List.Forall₂ (fun secret pubkey => ∃ sk pk,
      Secp256k1.secretKeyFromByteArray secret = .ok sk ∧
      Secp256k1.publicKeyFromSlice pubkey = .ok pk ∧
      ∀ digest, ∃ sig, Secp256k1.signatureFromDer
          (Secp256k1.serializeDer (Secp256k1.signEcdsa digest sk)) = .ok sig ∧
        Secp256k1.verifyEcdsa digest sig pk = true)
    localRegtestManagerPrivateKeys localRegtestManagerSetPubkeys

/-- A fixture signer signs every digest, under its own index. -/
theorem signInputs_valid (hecdsa : FixtureEcdsa) (digests : List (FixedBytes 32))
    {signer : FixedBytes 32 × ℕ} (h : signer ∈ localRegtestManagerPrivateKeys.zipIdx) :
    ∃ signed, signInputs digests signer = .ok signed ∧
      signed.signerIndex = UInt8.ofNat signer.2 ∧
      SignerValid digests localRegtestManagerSetPubkeys signed := by
  rcases signer with ⟨secret, index⟩
  have hsecret : localRegtestManagerPrivateKeys[index]? = some secret :=
    List.mem_zipIdx_iff_getElem?.mp h
  rcases List.getElem?_eq_some_iff.mp hsecret with ⟨hindex, rfl⟩
  rcases List.forall₂_iff_get.mp hecdsa with ⟨hlength, hkeys⟩
  rcases hkeys index hindex (hlength ▸ hindex) with ⟨sk, pk, hsk, hpk, hsign⟩
  have hbyte : (UInt8.ofNat index).toNat = index := by
    have hseven : localRegtestManagerPrivateKeys.length = 7 := rfl
    rw [UInt8.toNat_ofNat', Nat.mod_eq_of_lt (by omega)]
  rw [List.get_eq_getElem] at hsk
  unfold signInputs
  rw [hsk]
  refine ⟨_, rfl, rfl, localRegtestManagerSetPubkeys[index], ?_, ?_⟩
  · rw [hbyte]
    exact List.getElem?_eq_getElem (hlength ▸ hindex)
  · rw [List.forall₂_map_right_iff, List.forall₂_same]
    intro digest _
    rcases hsign digest with ⟨sig, hsig, hverify⟩
    exact ⟨_, pk, sig, rfl, hpk, hsig, hverify⟩

/-- The first five fixture signers sign every digest. -/
theorem signers_valid (hecdsa : FixtureEcdsa) (digests : List (FixedBytes 32)) :
    ∃ signers, ((localRegtestManagerPrivateKeys.take localRegtestManagerSet.m.toNat).zipIdx).mapM
        (signInputs digests) = .ok signers ∧
      signers.map SignerSignatures.signerIndex = [0, 1, 2, 3, 4] ∧
      ∀ signer ∈ signers, SignerValid digests localRegtestManagerSetPubkeys signer := by
  have hsubset : ∀ signer ∈
      (localRegtestManagerPrivateKeys.take localRegtestManagerSet.m.toNat).zipIdx,
      signer ∈ localRegtestManagerPrivateKeys.zipIdx := by decide
  choose! signed hsigned using fun signer hs => signInputs_valid hecdsa digests (hsubset signer hs)
  refine ⟨_, mapM_ok_map fun signer hs => (hsigned signer hs).1, ?_, ?_⟩
  · rw [List.map_map]
    have hindex : ∀ signer ∈
        (localRegtestManagerPrivateKeys.take localRegtestManagerSet.m.toNat).zipIdx,
        (SignerSignatures.signerIndex ∘ signed) signer = UInt8.ofNat signer.2 := fun signer hs =>
      (hsigned signer hs).2.1
    rw [List.map_congr_left hindex]
    rfl
  · intro signer hs
    rcases List.mem_map.mp hs with ⟨key, hkey, rfl⟩
    exact (hsigned key hkey).2.2

/-- The service's signatures of a transaction are acceptable to the operator. -/
theorem signTransaction_accepts [Hashes] (hecdsa : FixtureEcdsa) {transaction : UnsignedTransaction}
    (h : WellFormed transaction) :
    ∃ signers, signTransaction localRegtestManagerSet transaction = .ok signers ∧
      signers.map SignerSignatures.signerIndex = [0, 1, 2, 3, 4] ∧
      Accepts transaction localRegtestManagerSet signers := by
  rcases sighashes_eq_ok h with ⟨digests, hdigests, hlength, hat⟩
  rcases signers_valid hecdsa digests with ⟨signers, hsigners, hindices, hvalid⟩
  have hdistinct : (signers.map SignerSignatures.signerIndex).Nodup := by
    rw [hindices]
    decide
  have hquorum : localRegtestManagerSet.m.toNat ≤ signers.length := by
    rw [← List.length_map SignerSignatures.signerIndex, hindices]
    decide
  refine ⟨signers, ?_, hindices, (accepts_iff hlength hat).mpr ⟨hdistinct, hvalid, hquorum⟩⟩
  rw [signTransaction, hdigests]
  exact hsigners

end

/-- The prepared outputs start with the authorized ones. -/
theorem checkAuthorized_planned (index : ℕ) (outputs : List Utx0Output)
    (change : List TransactionOutput) :
    checkAuthorized index outputs (outputs.map toTransactionOutput ++ change) = .ok () := by
  induction outputs generalizing index with
  | nil => rfl
  | cons output rest ih =>
    rw [List.map_cons, List.cons_append, checkAuthorized, guard_bind_of_neg, ih]
    simp [toTransactionOutput]

section
variable [Hashes] {bridgeState : Pubkey} {payload : Utx0UnlockPayload}

/-- The service accepts the planned outputs, with or without change. -/
theorem checkOutputs_planned (bridgeState : Pubkey) (payload : Utx0UnlockPayload)
    (changeSats : UInt64) :
    checkOutputs payload.outputs (plannedOutputs bridgeState payload localRegtestManagerSet
      changeSats) = .ok () := by
  have hlength : (plannedOutputs bridgeState payload localRegtestManagerSet changeSats).length =
      payload.outputs.length + (changeOutputs bridgeState localRegtestManagerSet changeSats).length := by
    rw [plannedOutputs, List.length_append, List.length_map]
  have hchange := changeOutputs_length_le bridgeState localRegtestManagerSet changeSats
  have hlast : (plannedOutputs bridgeState payload localRegtestManagerSet
      changeSats)[payload.outputs.length]? =
      (changeOutputs bridgeState localRegtestManagerSet changeSats)[0]? := by
    rw [plannedOutputs, List.getElem?_append_right (by rw [List.length_map]), List.length_map,
      Nat.sub_self]
  unfold checkOutputs
  rw [guard_bind_of_neg (by omega), hlast]
  unfold plannedOutputs
  rw [checkAuthorized_planned, ok_bind]
  unfold changeOutputs
  split_ifs <;> rfl

omit [Hashes] in
/-- The service rebuilds the operator's inputs. -/
theorem localSelectedUtxo_prepared (bridgeState : Pubkey) (utxos : List CustodyUtxo) :
    (utxos.map localInput).mapM (localSelectedUtxo
      { emitterChain := solanaEmitterChain, emitterAddress := bridgeState, sequence }
      localRegtestManagerSet) =
        .ok (utxos.map (selectedUtxo bridgeState localRegtestManagerSet)) := by
  rw [mapM_eq_ok, List.forall₂_map_left_iff, List.forall₂_map_right_iff, List.forall₂_same]
  intro utxo _
  unfold localSelectedUtxo
  rw [buildRedeemScript_eq_ok.mpr ⟨localRegtestManagerSet_quorum, rfl⟩]
  rfl

variable [Secp256k1]

/-- The signed withdrawal the service materializes for a registered transaction. -/
structure Signs (key : VaaKey) (payloadBytes : ByteString) (payload : Utx0UnlockPayload)
    (transaction : UnsignedTransaction) (signed : LocalSignedWithdrawal) : Prop where
  vaa : signed.signedVaa = synthesizeLocalVaa key payloadBytes
  vaaHash : vaaSigningDigest signed.signedVaa = .ok signed.managerSignatures.vaaHash
  isComplete : signed.managerSignatures.isComplete = true
  destinationChain : signed.managerSignatures.destinationChain = payload.destinationChain
  managerSetIndex : signed.managerSignatures.managerSetIndex = payload.delegatedManagerSetIndex
  required : signed.managerSignatures.required = localRegtestManagerSet.m.toUInt32
  total : signed.managerSignatures.total = localRegtestManagerSet.n.toUInt32
  indices : signed.managerSignatures.signatures.map SignerSignatures.signerIndex = [0, 1, 2, 3, 4]
  accepted : Accepts transaction localRegtestManagerSet signed.managerSignatures.signatures

/-- The value the service stores for a registration. -/
def materialized (registration : LocalWithdrawalRegistration) (payload : Utx0UnlockPayload)
    (vaaHash : FixedBytes 32) (signatures : List SignerSignatures) : LocalSignedWithdrawal where
  signedVaa := synthesizeLocalVaa registration.key registration.payload
  unsignedTransaction := registration.unsignedTransaction
  managerSignatures :=
    { isComplete := true, vaaHash, vaaId := vaaId registration.key,
      destinationChain := payload.destinationChain,
      managerSetIndex := payload.delegatedManagerSetIndex,
      required := localRegtestManagerSet.m.toUInt32, total := localRegtestManagerSet.n.toUInt32,
      signatures }

/-- The service signs every registration whose bytes its own construction reproduces. -/
theorem buildLocalSignedWithdrawal_signs (hecdsa : FixtureEcdsa)
    {r : LocalWithdrawalRegistration} {selected : List SelectedUtxo}
    (hparse : Utx0UnlockPayload.parse r.payload = .ok payload)
    (hchain : payload.destinationChain = 65) (hset : payload.delegatedManagerSetIndex = 0)
    (hnonempty : ¬ (payload.outputs = [] ∨ r.inputs = []))
    (hselected : r.inputs.mapM
      (localSelectedUtxo r.key localRegtestManagerSet) = .ok selected)
    (houtputs : checkOutputs payload.outputs r.outputs = .ok ())
    (hnew : UnsignedTransaction.new selected r.outputs = .ok
      (UnsignedTransaction.built selected r.outputs))
    (hbytes : r.unsignedTransaction =
      (UnsignedTransaction.built selected r.outputs).serialize) :
    ∃ signed, buildLocalSignedWithdrawal r = .ok signed ∧
      Signs r.key r.payload payload
        (UnsignedTransaction.built selected r.outputs) signed := by
  have hformed := built_wellFormed r.outputs (UnsignedTransaction.new_eq_ok.mp hnew).1
  rcases signTransaction_accepts hecdsa hformed with ⟨signers, hsigners, hindices, haccepts⟩
  rcases vaaBody_synthesizeLocalVaa r.key r.payload with ⟨body, hbody⟩
  have hdigest : vaaSigningDigest (synthesizeLocalVaa r.key r.payload) =
      .ok (Hashes.keccak256 (Hashes.keccak256 body).toList) := by
    rw [vaaSigningDigest, hbody]
    rfl
  refine ⟨materialized r payload _ signers, ?_,
    ⟨rfl, hdigest, rfl, rfl, rfl, rfl, rfl, hindices, haccepts⟩⟩
  unfold buildLocalSignedWithdrawal
  rw [hparse, context_ok, ok_bind]
  refine guard_bind_eq_ok.mpr ⟨not_not.mpr hset, ?_⟩
  refine guard_bind_eq_ok.mpr ⟨not_not.mpr hchain, ?_⟩
  refine guard_bind_eq_ok.mpr ⟨hnonempty, ?_⟩
  refine bind_eq_ok.mpr ⟨_, hselected, ?_⟩
  refine bind_eq_ok.mpr ⟨_, houtputs, ?_⟩
  refine bind_eq_ok.mpr ⟨_, hnew, ?_⟩
  refine guard_bind_eq_ok.mpr ⟨not_not.mpr hbytes.symm, ?_⟩
  refine bind_eq_ok.mpr ⟨_, hsigners, ?_⟩
  exact bind_eq_ok.mpr ⟨_, hdigest, rfl⟩

theorem buildLocalSignedWithdrawal_prepared [Base58Check] (sequence : UInt64)
    (hecdsa : FixtureEcdsa) {args : Args}
    {reservation : CustodyReservation} {persisted : Option ByteString}
    (hparse : Utx0UnlockPayload.parse payloadBytes = .ok payload)
    (hchain : payload.destinationChain = 65) (hset : payload.delegatedManagerSetIndex = 0)
    (hprepared : preparedFromReservation args bridgeState payload localRegtestManagerSet reservation
      persisted = .ok prepared) :
    ∃ signed, buildLocalSignedWithdrawal
        (registrationOf bridgeState sequence payloadBytes prepared) = .ok signed ∧
      Signs (registrationOf bridgeState sequence payloadBytes prepared).key payloadBytes payload
        prepared.transaction signed ∧ WellFormed prepared.transaction := by
  rcases preparedFromReservation_eq_ok.mp hprepared with ⟨withdrawalSats, plan, hchecks, -, rfl⟩
  have hsats : withdrawalSats ≠ 0 := (planCustodyTransaction_eq_ok.mp hchecks.planned).1
  have houtputs : payload.outputs ≠ [] := payload_outputs_ne_nil hchecks.sum hsats
  have hinputs : reservation.utxos.map (selectedUtxo bridgeState localRegtestManagerSet) ≠ [] := by
    rw [ne_eq, List.map_eq_nil_iff]
    exact hchecks.nonempty
  have hnonempty : ¬ (payload.outputs = [] ∨ reservation.utxos.map localInput = []) := by
    rw [List.map_eq_nil_iff]
    exact not_or.mpr ⟨houtputs, hchecks.nonempty⟩
  have hplanned : plannedOutputs bridgeState payload localRegtestManagerSet plan.changeSats ≠ [] := by
    intro hnil
    exact houtputs (List.map_eq_nil_iff.mp (List.append_eq_nil_iff.mp hnil).1)
  have hnew := UnsignedTransaction.new_eq_ok.mpr ⟨hinputs, hplanned, rfl⟩
  rcases buildLocalSignedWithdrawal_signs hecdsa (r := registrationOf bridgeState sequence
    payloadBytes (preparedRecord bridgeState payload localRegtestManagerSet reservation plan))
    hparse hchain hset hnonempty (localSelectedUtxo_prepared bridgeState reservation.utxos)
    (checkOutputs_planned bridgeState payload plan.changeSats) hnew rfl with ⟨signed, hbuild, hsigns⟩
  exact ⟨signed, hbuild, hsigns, built_wellFormed _ hinputs⟩

/-! The whole exchange. -/

/-- Each input is unlocked by the first five fixture keys, over its own digest, with its own
redeem script. -/
def InputsSigned (t signed : UnsignedTransaction) : Prop :=
  ∀ index < t.inputCount, ∃ digest signatures, t.sighashAll index = .ok digest ∧
    List.Forall₂ (fun pubkey signature => ValidSignature pubkey digest signature)
      (localRegtestManagerSetPubkeys.take 5) signatures ∧
    signed.inputs[index]?.map TxIn.scriptSig =
      some (scriptSigBytes signatures (t.redeemScripts.getD index []))

omit [Hashes] [Secp256k1] in
/-- Five signers listed in order are the five lowest. -/
theorem lowestSigners_inOrder {signers : List SignerSignatures}
    (h : signers.map SignerSignatures.signerIndex = [0, 1, 2, 3, 4]) :
    lowestSigners localRegtestManagerSet.m signers = signers := by
  have hlength : signers.length = 5 := by
    rw [← List.length_map SignerSignatures.signerIndex, h]
    rfl
  have hindices : (signers.map SignerSignatures.signerIndex).Pairwise (· ≤ ·) := by
    rw [h]
    decide
  have hsorted : signers.Pairwise fun a b => a.signerIndex ≤ b.signerIndex :=
    List.pairwise_map.mp hindices
  rw [lowestSigners, List.Pairwise.insertionSort_eq (r := byIndex) hsorted, List.take_of_length_le]
  rw [hlength]
  decide

/-- The fixture key of a signer. -/
def fixtureKey (signerIndex : UInt8) : FixedBytes 33 :=
  localRegtestManagerSetPubkeys.getD signerIndex.toNat (List.Vector.replicate 33 0)

theorem signedBy_inputsSigned {t : UnsignedTransaction} {signers : List SignerSignatures}
    (hformed : WellFormed t) (haccepts : Accepts t localRegtestManagerSet signers)
    (h : signers.map SignerSignatures.signerIndex = [0, 1, 2, 3, 4]) :
    InputsSigned t (signedBy t signers) := by
  intro index hindex
  rcases sighashAll_isOk hformed hindex with ⟨digest, hdigest⟩
  refine ⟨digest, signers.map fun signer => signer.inputSignatures.getD index [], hdigest, ?_, ?_⟩
  · have hkeys : localRegtestManagerSetPubkeys.take 5 =
        signers.map (fixtureKey ∘ SignerSignatures.signerIndex) := by
      rw [← List.map_map, h]
      rfl
    rw [hkeys, List.forall₂_map_left_iff, List.forall₂_map_right_iff, List.forall₂_same]
    intro signer hs
    rcases haccepts.valid signer hs index hindex with ⟨pubkey, digest', hpubkey, hdigest', hvalid⟩
    have hsame : digest' = digest := Except.ok.inj (hdigest'.symm.trans hdigest)
    have hkey : fixtureKey signer.signerIndex = pubkey := by
      rw [fixtureKey, List.getD_eq_getElem?_getD]
      exact congrArg (Option.getD · _) hpubkey
    rw [Function.comp_apply, hkey, ← hsame]
    exact hvalid
  · have hinput : t.inputs[index]? = some t.inputs[index] := List.getElem?_eq_getElem hindex
    rw [signedBy, List.getElem?_mapIdx, hinput]
    rfl

omit [Hashes] [Secp256k1] in
theorem decodeVaaAnswer_response (url : String) (text : Value → String) (signedVaa : ByteString) :
    decodeVaaAnswer url (Response.answer text ⟨200, signedVaaResponse signedVaa⟩) =
      .ok signedVaa := by
  have hdecoded : (Except.ok (signedVaaResponse signedVaa) >>= asFields ["vaaBytes"] >>=
      optional ["vaaBytes"] asString) = .ok (some (encode signedVaa)) := by
    rw [ok_bind, signedVaaResponse, asFields_object, ok_bind]
    exact optional_eq_ok rfl (by simp) rfl
  have hsuccess : ¬ ¬ (Response.answer text ⟨200, signedVaaResponse signedVaa⟩).isSuccess :=
    not_not.mpr rfl
  unfold decodeVaaAnswer
  rw [guard_bind_of_neg hsuccess]
  unfold Response.answer
  rw [hdecoded, Except.mapError, ok_bind, orBail_some, ok_bind, b64Decode_encode]

omit [Secp256k1] [Hashes] in
theorem decodeManagerAnswer_response (url : String) (text : Value → String)
    (signatures : ManagerSignatures) :
    decodeManagerAnswer url (Response.answer text ⟨200, signaturesResponse signatures⟩) =
      .ok signatures := by
  have hsuccess : ¬ ¬ (Response.answer text ⟨200, signaturesResponse signatures⟩).isSuccess :=
    not_not.mpr rfl
  unfold decodeManagerAnswer
  rw [guard_bind_of_neg hsuccess]
  exact parseManagerSignatures_response signatures

omit [Hashes] [Secp256k1] in
theorem checkRegistered_response (sequence : UInt64) (text : Value → String) :
    checkRegistered sequence (Response.answer text ⟨200, .object [("sequence", ofU64 sequence)]⟩) =
      .ok () := by
  have hsuccess : ¬ ¬ (Response.answer text
      ⟨200, .object [("sequence", ofU64 sequence)]⟩).isSuccess := not_not.mpr rfl
  have hsequence : required "sequence" asU64 [("sequence", ofU64 sequence)] = .ok sequence :=
    required_eq_ok rfl (asU64_ofU64 _)
  unfold checkRegistered
  rw [guard_bind_of_neg hsuccess]
  unfold Response.answer
  refine bind_eq_ok.mpr ⟨_, rfl, bind_eq_ok.mpr ⟨sequence, ?_, guard_eq_ok.mpr (not_not.mpr rfl)⟩⟩
  rw [asFields_object, ok_bind, hsequence]
  rfl

/-- The synthesized VAA passes the operator's checks. -/
theorem assertVaaAndManager_signs {key : VaaKey} {transaction : UnsignedTransaction}
    {signed : LocalSignedWithdrawal} (hkey : key.emitterChain = solanaEmitterChain)
    (hparse : Utx0UnlockPayload.parse payloadBytes = .ok payload)
    (hchain : payload.destinationChain = 65)
    (h : Signs key payloadBytes payload transaction signed) :
    assertVaaAndManager signed.signedVaa signed.managerSignatures key.emitterAddress key.sequence
      payload localRegtestManagerSet = .ok () := by
  unfold assertVaaAndManager vaaHashMatches
  rw [h.vaaHash, ok_bind]
  refine bind_eq_ok.mpr ⟨true, by simp, ?_⟩
  rw [guard_bind_of_neg (not_not.mpr rfl), h.vaa, parseVaa_synthesizeLocalVaa, ok_bind]
  unfold vaaIdentifies
  dsimp only
  rw [if_neg (by simp [hkey]), hparse, ok_bind]
  refine bind_eq_ok.mpr ⟨true, by simp, ?_⟩
  rw [guard_bind_of_neg (not_not.mpr rfl), h.destinationChain, h.managerSetIndex, h.required, h.total]
  apply guard_eq_ok.mpr
  rw [hchain]
  simp [dogecoinChainId]

omit [Hashes] [Secp256k1] in
/-- An inserted withdrawal is served under its key. -/
theorem serveWithdrawal_insert (service : LocalManagerService)
    (registration : LocalWithdrawalRegistration) (signed : LocalSignedWithdrawal)
    (body : LocalSignedWithdrawal → Value) :
    serveWithdrawal (service.insert registration signed) registration.key.emitterChain
      (hexEncode registration.key.emitterAddress.toList) registration.key.sequence body =
        ⟨200, body signed⟩ := by
  have hfound : (service.insert registration signed).get registration.key = some signed := by
    unfold LocalManagerService.get LocalManagerService.insert
    dsimp only
    rw [Function.update_self]
    rfl
  unfold serveWithdrawal decodeKey
  rw [decodeFixed_hexEncode, ok_bind]
  dsimp only [pure_eq_ok]
  rw [hfound]

/-- A request that decodes and registers is answered with its sequence. -/
theorem registerWithdrawal_registered {service registered : LocalManagerService} {body : Value}
    {request : LocalManager.RegisterWithdrawalRequest} {registration : LocalWithdrawalRegistration}
    {outcome : RegistrationOutcome}
    (hrequest : LocalManager.RegisterWithdrawalRequest.fromJson body = .ok request)
    (hdecode : decodeRegistration request = .ok registration)
    (hregister : service.register registration = (.ok outcome, registered)) :
    registerWithdrawal service body =
      (⟨200, .object [("sequence", ofU64 registration.key.sequence)]⟩, registered) := by
  unfold registerWithdrawal
  rw [hrequest]
  dsimp only
  rw [hdecode]
  dsimp only
  rw [hregister]

/-- What the operator posts is accepted by a service without that key; the service's answers pass
the operator's checks, and applying them signs every input. -/
theorem operator_manager_agree [Base58Check] (hecdsa : FixtureEcdsa) (sequence : UInt64)
    (service : LocalManagerService) (url : String) (text : Value → String) {args : Args}
    {reservation : CustodyReservation} {persisted : Option ByteString}
    (hparse : Utx0UnlockPayload.parse payloadBytes = .ok payload)
    (hchain : payload.destinationChain = 65) (hset : payload.delegatedManagerSetIndex = 0)
    (hprepared : preparedFromReservation args bridgeState payload localRegtestManagerSet reservation
      persisted = .ok prepared)
    (hfree : service.get { emitterChain := 1, emitterAddress := bridgeState, sequence } = none) :
    (∃ request registration,
      LocalManager.RegisterWithdrawalRequest.fromJson
        (registrationRequest bridgeState sequence payloadBytes prepared).toJson = .ok request ∧
      decodeRegistration request = .ok registration ∧
      (service.register registration).1 = .ok .inserted) ∧
    ∃ response registered, registerWithdrawal service
        (registrationRequest bridgeState sequence payloadBytes prepared).toJson =
          (response, registered) ∧
      checkRegistered sequence (response.answer text) = .ok () ∧
      ∃ signatures signedVaa signed,
        decodeManagerAnswer url ((getManagerSignatures registered 1 (hexEncode bridgeState.toList)
          sequence).answer text) = .ok signatures ∧
        signatures.isComplete = true ∧
        decodeVaaAnswer url ((getSignedVaa registered 1 (hexEncode bridgeState.toList)
          sequence).answer text) = .ok signedVaa ∧
        assertVaaAndManager signedVaa signatures bridgeState sequence payload
          localRegtestManagerSet = .ok () ∧
        applyManagerSignatures prepared.transaction signatures localRegtestManagerSet =
          (.ok (), signed) ∧
        InputsSigned prepared.transaction signed := by
  rcases buildLocalSignedWithdrawal_prepared sequence hecdsa hparse hchain hset hprepared with
    ⟨signed, hbuild, hsigns, hformed⟩
  have hvacant : service.withdrawals
      (registrationOf bridgeState sequence payloadBytes prepared).key = none :=
    Option.map_eq_none_iff.mp hfree
  have hregister : service.register (registrationOf bridgeState sequence payloadBytes prepared) =
      (.ok .inserted,
        service.insert (registrationOf bridgeState sequence payloadBytes prepared) signed) := by
    unfold LocalManagerService.register
    rw [hvacant]
    dsimp only
    rw [hbuild]
  have hmanager : getManagerSignatures (service.insert (registrationOf bridgeState sequence
      payloadBytes prepared) signed) 1 (hexEncode bridgeState.toList) sequence =
      ⟨200, signaturesResponse signed.managerSignatures⟩ :=
    serveWithdrawal_insert service (registrationOf bridgeState sequence payloadBytes prepared) signed _
  have hvaa : getSignedVaa (service.insert (registrationOf bridgeState sequence payloadBytes prepared)
      signed) 1 (hexEncode bridgeState.toList) sequence =
      ⟨200, signedVaaResponse signed.signedVaa⟩ :=
    serveWithdrawal_insert service (registrationOf bridgeState sequence payloadBytes prepared) signed _
  refine ⟨⟨_, _, registrationRequest_decodes, registration_decodes, by rw [hregister]⟩, _, _,
    registerWithdrawal_registered registrationRequest_decodes registration_decodes hregister, ?_,
    signed.managerSignatures, signed.signedVaa, _, ?_, hsigns.isComplete, ?_, ?_,
    applyManagerSignatures_accepted hformed hsigns.accepted, ?_⟩
  · exact checkRegistered_response sequence text
  · rw [hmanager]
    exact decodeManagerAnswer_response _ _ _
  · rw [hvaa]
    exact decodeVaaAnswer_response _ _ _
  · exact assertVaaAndManager_signs rfl hparse hchain hsigns
  · rw [lowestSigners_inOrder hsigns.indices]
    exact signedBy_inputsSigned hformed hsigns.accepted hsigns.indices

end

section
open Digests

theorem fixtureEcdsa_standIn : FixtureEcdsa := by
  refine List.forall₂_iff_get.mpr ⟨rfl, fun index hsecret hpubkey => ?_⟩
  refine ⟨_, _, rfl, rfl, fun digest =>
    ⟨(digest, localRegtestManagerPrivateKeys.get ⟨index, hsecret⟩), ?_, ?_⟩⟩
  · have hdigest := List.Vector.toList_length digest
    simp only [Secp256k1.signatureFromDer, Secp256k1.serializeDer, Secp256k1.signEcdsa,
      List.take_left' hdigest, List.drop_left' hdigest, toFixed?_toList]
  · have hpair : (localRegtestManagerPrivateKeys.get ⟨index, hsecret⟩,
        localRegtestManagerSetPubkeys.get ⟨index, hpubkey⟩) ∈
        localRegtestManagerPrivateKeys.zip localRegtestManagerSetPubkeys := by
      have hzip : index <
          (localRegtestManagerPrivateKeys.zip localRegtestManagerSetPubkeys).length := hsecret
      have hget := List.getElem_mem hzip
      rwa [List.getElem_zip] at hget
    simpa [Secp256k1.verifyEcdsa, Secp256k1.signEcdsa] using hpair

/-- The wire form of the local payload. -/
def localPayloadBytes : ByteString :=
  utx0Prefix ++ [0, 65, 0, 0, 0, 0, 0, 0, 0, 1] ++ [0, 0, 0, 0, 0, 0x89, 0x54, 0x40, 0, 0, 0, 0] ++
    List.replicate 20 0x33

theorem localPayloadBytes_parse : Utx0UnlockPayload.parse localPayloadBytes = .ok localPayload := by
  decide

theorem operator_manager_agree_local :
    ∃ signatures signed, applyManagerSignatures (localPrepared (localDeposit 2)).transaction
        signatures localRegtestManagerSet = (.ok (), signed) ∧
      InputsSigned (localPrepared (localDeposit 2)).transaction signed := by
  have hprepared := localDeposit_prepared (show 0 < 2 by decide)
  rcases (operator_manager_agree fixtureEcdsa_standIn 17 .empty "" (fun _ => "")
    localPayloadBytes_parse rfl rfl hprepared rfl).2 with
    ⟨-, -, -, -, signatures, -, signed, -, -, -, -, happly, hsigned⟩
  exact ⟨signatures, signed, happly, hsigned⟩

end

end DogeOperator.Agreement
