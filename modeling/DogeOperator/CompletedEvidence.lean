import DogeOperator.EvidenceValidator
import DogeOperator.ManagerSetCodec
import DogeOperator.Resume
import DogeOperator.Utx0Codec

/-! The evidence of a completed withdrawal and its validator. A run that signs its batch itself
writes every section of the schema; a run that finds the batch signed leaves the Manager's part out. -/
namespace DogeOperator.CompletedEvidence
open Bytes Outcome Crypto Json Utx0 Tx Network Manager Prepare Records Confirm Store ManagerClient
  Operations DogeOperator.Graph Signing Resume Program DoubleRounding EvidenceValidator

/-! The sections as they are written. -/

def evidenceFields (evidence : Evidence) : JsonObject :=
  [("schema", .string evidence.schema), ("completed", .bool evidence.completed),
    ("snapshot", evidence.snapshot), ("withdrawal", evidence.withdrawal),
    ("manager", evidence.manager), ("dogecoin", evidence.dogecoin), ("custody", evidence.custody)]

theorem toJson_eq (evidence : Evidence) : evidence.toJson = .object (evidenceFields evidence) := rfl

def snapshotFields (batch : SnapshotBatch) : JsonObject :=
  [("signature", .string batch.solanaSignature), ("slot", ofU64 batch.solanaSlot),
    ("requestStart", ofU64 batch.requestStartIndex), ("requestEnd", ofU64 batch.requestEndIndex),
    ("snapshotRootHex", hexValue batch.snapshotRoot.toList),
    ("sequence", ofU64 batch.wormholeSequence), ("payloadHex", hexValue batch.payload)]

def withdrawalFields (payload : Utx0UnlockPayload) : JsonObject :=
  [("outputCount", .integer payload.outputs.length),
    ("outputs", .array (payload.outputs.map outputEvidence))]

def outputFields (output : Utx0Output) : JsonObject :=
  [("recipientAddressHex", hexValue output.address.toList), ("amountSats", ofU64 output.amount),
    ("addressType", ofU32 output.addressType.toU32)]

def signerIndex (signer : SignerSignatures) : Value := .integer signer.signerIndex.toNat

def dogecoinFields (args : Args) (displayTxid : String) (signed : SignedSnapshot) : JsonObject :=
  [("unsignedTransactionHex", hexValue signed.prepared.unsignedBytes),
    ("signedTransactionHex", hexValue signed.transaction.serialize),
    ("txid", .string displayTxid), ("broadcast", .bool args.broadcastEnabled)]

def custodyFields (args : Args) (signed : SignedSnapshot) : JsonObject :=
  [("reservationId", .string signed.prepared.reservationId),
    ("selectedSats", ofU64 signed.prepared.selectedSats), ("minerFeeSats", ofU64 args.feeSats),
    ("changeSats", ofU64 signed.prepared.plan.changeSats),
    ("changeScriptHashHex", signed.prepared.changeScriptHash.elim .null fun hash =>
      hexValue hash.toList),
    ("inputs", .array (signed.prepared.selectedUtxos.map inputEvidence))]

def managerFields [Hashes] (managerUrl : String) (signed : SignedSnapshot) : JsonObject :=
  [("serviceUrl", .string managerUrl), ("vaaHashHex", hexValue signed.signatures.vaaHash.toList),
    ("signedVaaSha256Hex", hexValue (hashSha256 signed.signedVaa).toList),
    ("required", ofU32 signed.signatures.required), ("total", ofU32 signed.signatures.total),
    ("signerIndices", .array (signed.signatures.signatures.map signerIndex))]

/-! What the validator makes of them. -/

theorem validateDogecoin_written {args : Args} {txid : FixedBytes 32} {signed : SignedSnapshot}
    {evidence : JsonObject} (hserialized : signed.transaction.serialize ≠ [])
    (hcompleted : property evidence "completed" = some (.bool args.broadcastEnabled)) :
    isOk (validateDogecoin evidence (dogecoinFields args (hexEncode txid.toList) signed)) = true ↔
      args.broadcastEnabled = true := by
  obtain ⟨htxid, htxidHex⟩ := isHex_fixed txid (by norm_num)
  have hraw : property (dogecoinFields args (hexEncode txid.toList) signed) "signedTransactionHex" =
      some (.string (hexEncode signed.transaction.serialize)) := rfl
  have hdisplay : property (dogecoinFields args (hexEncode txid.toList) signed) "txid" =
      some (.string (hexEncode txid.toList)) := rfl
  have hbroadcast : isTrue (property (dogecoinFields args (hexEncode txid.toList) signed)
      "broadcast") = args.broadcastEnabled := rfl
  have hrawHex : isHex (hexEncode signed.transaction.serialize) none = true :=
    isHex_hexEncode.mpr ⟨hserialized, by simp⟩
  have hlength : 0 < (hexEncode signed.transaction.serialize).toList.length := by
    have hpos := List.length_pos_of_ne_nil hserialized
    rw [hexEncode_length]
    omega
  rw [validateDogecoin, requiredString_bind hraw, requiredString_bind hdisplay, assertCondition_bind,
    assertCondition_bind, assertCondition_bind, assertCondition_bind, toLowerCase_hexEncode,
    toLowerCase_hexEncode, hbroadcast, hcompleted]
  constructor
  · rintro ⟨-, -, -, -, h, -⟩
    exact h
  · intro h
    exact ⟨mt hexEncode_eq_empty.mp hserialized, htxid, ⟨hrawHex, hlength⟩, htxidHex, h, h, rfl⟩

section
variable [FloatLiterals]

theorem validateSnapshot_written (batch : SnapshotBatch) :
    isOk (validateSnapshot (snapshotFields batch)) = true ↔ batch.solanaSignature ≠ "" ∧
      0 < batch.solanaSlot ∧ batch.requestStartIndex < batch.requestEndIndex ∧
      batch.requestEndIndex.toNat ≤ maxSafeInteger ∧ batch.payload ≠ [] := by
  obtain ⟨hroot, hrootHex⟩ := isHex_fixed batch.snapshotRoot (by norm_num)
  have hpayload : property (snapshotFields batch) "payloadHex" =
      some (.string (hexEncode batch.payload)) := rfl
  have hsnapshotRoot : property (snapshotFields batch) "snapshotRootHex" =
      some (.string (hexEncode batch.snapshotRoot.toList)) := rfl
  rw [validateSnapshot,
    requiredString_bind (show property (snapshotFields batch) "signature" = _ from rfl),
    requiredNumber_bind (show property (snapshotFields batch) "slot" = _ from rfl)
      (finiteNumber_ofU64 _),
    requiredNumber_bind (show property (snapshotFields batch) "requestStart" = _ from rfl)
      (finiteNumber_ofU64 _),
    requiredNumber_bind (show property (snapshotFields batch) "requestEnd" = _ from rfl)
      (finiteNumber_ofU64 _), assertCondition_bind, requiredString_bind hsnapshotRoot,
    requiredNumber_bind (show property (snapshotFields batch) "sequence" = _ from rfl)
      (finiteNumber_ofU64 _), requiredString_bind hpayload, assertCondition_bind,
    assertCondition_bind, assertCondition_bind, toLowerCase_hexEncode, toLowerCase_hexEncode,
    isSafeInteger_roundToDouble, isSafeInteger_roundToDouble, Nat.cast_lt, Nat.cast_pos,
    roundToDouble_pos, UInt64.lt_iff_toNat_lt, UInt64.lt_iff_toNat_lt, maxSafeInteger]
  have hhex : isHex (hexEncode batch.payload) none = true ↔ batch.payload ≠ [] := by
    rw [isHex_hexEncode]
    simp
  rw [hhex, hexEncode_length, ne_eq (hexEncode batch.payload), hexEncode_eq_empty]
  constructor
  · rintro ⟨hsignature, ⟨hstart, hend, hrange⟩, -, hfilled, hslot, -⟩
    rw [roundToDouble_of_lt hstart, roundToDouble_of_lt hend] at hrange
    exact ⟨hsignature, hslot, hrange, Nat.le_sub_one_of_lt hend, hfilled⟩
  · rintro ⟨hsignature, hslot, hrange, hend, hfilled⟩
    have hend' : batch.requestEndIndex.toNat < 2 ^ 53 := by omega
    have hstart' : batch.requestStartIndex.toNat < 2 ^ 53 := by omega
    refine ⟨hsignature, ⟨hstart', hend', ?_⟩, hroot, hfilled, hslot, hrootHex, ⟨hfilled, ?_⟩, rfl⟩
    · rwa [roundToDouble_of_lt hstart', roundToDouble_of_lt hend']
    · have hlength := List.length_pos_of_ne_nil hfilled
      omega

theorem checkOutput_written (index : ℕ) (output : Utx0Output) :
    isOk (checkOutput index (outputEvidence output)) = true ↔ 0 < output.amount := by
  obtain ⟨haddress, haddressHex⟩ := isHex_fixed output.address (by norm_num)
  have hrecipient : property (outputFields output) "recipientAddressHex" =
      some (.string (hexEncode output.address.toList)) := rfl
  change isOk (checkOutput index (.object (outputFields output))) = true ↔ _
  rw [checkOutput,
    requiredNumber_bind (show property (outputFields output) "amountSats" = _ from rfl)
      (finiteNumber_ofU64 _), assertCondition_bind, requiredString_bind hrecipient,
    isOk_assertCondition, Nat.cast_pos, roundToDouble_pos, UInt64.lt_iff_toNat_lt]
  exact and_iff_left ⟨haddress, haddressHex⟩

theorem checkOutputs_written (index : ℕ) (outputs : List Utx0Output) :
    isOk (checkOutputs index (outputs.map outputEvidence)) = true ↔
      ∀ output ∈ outputs, 0 < output.amount := by
  induction outputs generalizing index with
  | nil => exact iff_of_true rfl (by simp)
  | cons output rest ih =>
    have hcheck := checkOutput_written index output
    rw [List.map_cons, checkOutputs, List.forall_mem_cons, ← hcheck, ← ih (index + 1)]
    cases checkOutput index (outputEvidence output) with
    | error e => simp [isOk]
    | ok u => simp [isOk]

theorem validateWithdrawal_written {payload : Utx0UnlockPayload} (hfilled : payload.outputs ≠ [])
    (hcount : payload.outputs.length < 2 ^ 53) :
    isOk (validateWithdrawal (withdrawalFields payload)) = true ↔
      ∀ output ∈ payload.outputs, 0 < output.amount := by
  have hlength : 0 < payload.outputs.length := List.length_pos_of_ne_nil hfilled
  have houtputs : property (withdrawalFields payload) "outputs" =
      some (.array (payload.outputs.map outputEvidence)) := rfl
  have hsafe : IsSafeInteger (payload.outputs.length : ℚ) := by
    rw [← roundToDouble_of_lt hcount, isSafeInteger_roundToDouble]
    exact hcount
  rw [validateWithdrawal,
    requiredNumber_bind (show property (withdrawalFields payload) "outputCount" = _ from rfl)
      (finiteNumber_small hcount), assertCondition_bind, houtputs, validateOutputs, List.length_map,
    and_iff_right ⟨hsafe, Nat.cast_pos.mpr hlength⟩, ← checkOutputs_written 0]
  rw [assertCondition, if_pos rfl, ok_bind]
  cases checkOutputs 0 (payload.outputs.map outputEvidence) with
  | error e => simp [isOk]
  | ok u => simp [isOk]

/-- What the run has made sure of when it writes the evidence. -/
structure SignedByQuorum (signatures : ManagerSignatures) : Prop where
  required : signatures.required = 5
  total : signatures.total = 7
  distinct : (signatures.signatures.map SignerSignatures.signerIndex).Nodup
  inRange : ∀ signer ∈ signatures.signatures, signer.signerIndex.toNat < 7
  quorum : 5 ≤ signatures.signatures.length

theorem signerNumber_written {signer : SignerSignatures} (h : signer.signerIndex.toNat < 7) :
    EvidenceValidator.signerNumber managerQuorumN (signerIndex signer) =
      .ok (signer.signerIndex.toNat : ℚ) := by
  have hlt : (signer.signerIndex.toNat : ℚ) < managerQuorumN := by
    rw [managerQuorumN]
    exact_mod_cast h
  have hnumber : (some (signer.signerIndex.toNat : ℚ)).filter (fun number =>
      number.den = 1 ∧ 0 ≤ number ∧ number < managerQuorumN) =
        some (signer.signerIndex.toNat : ℚ) := by
    rw [Option.filter_some, if_pos]
    simpa using hlt
  rw [EvidenceValidator.signerNumber, signerIndex, finiteNumber_small (by omega), hnumber]

variable [Hashes]

theorem validateManager_written {managerUrl : String} {signed : SignedSnapshot}
    (h : SignedByQuorum signed.signatures) :
    isOk (validateManager (managerFields managerUrl signed)) = true := by
  obtain ⟨hvaa, hvaaHex⟩ := isHex_fixed signed.signatures.vaaHash (by norm_num)
  obtain ⟨hsha, hshaHex⟩ := isHex_fixed (hashSha256 signed.signedVaa) (by norm_num)
  have hvaaHash : property (managerFields managerUrl signed) "vaaHashHex" =
      some (.string (hexEncode signed.signatures.vaaHash.toList)) := rfl
  have hsignedVaa : property (managerFields managerUrl signed) "signedVaaSha256Hex" =
      some (.string (hexEncode (hashSha256 signed.signedVaa).toList)) := rfl
  have hindices : property (managerFields managerUrl signed) "signerIndices" =
      some (.array (signed.signatures.signatures.map signerIndex)) := rfl
  have hrequired : property (managerFields managerUrl signed) "required" =
      some (.integer (5 : ℕ)) := by
    change some (Value.integer signed.signatures.required.toNat) = _
    rw [h.required]
    rfl
  have htotal : property (managerFields managerUrl signed) "total" = some (.integer (7 : ℕ)) := by
    change some (Value.integer signed.signatures.total.toNat) = _
    rw [h.total]
    rfl
  have henough : managerQuorumM ≤ ((signed.signatures.signatures.map signerIndex).length : ℚ) := by
    rw [List.length_map, managerQuorumM]
    exact_mod_cast h.quorum
  have hnumbers : (signed.signatures.signatures.map signerIndex).mapM
      (EvidenceValidator.signerNumber managerQuorumN) =
        .ok (signed.signatures.signatures.map fun signer => (signer.signerIndex.toNat : ℚ)) := by
    rw [mapM_eq_ok, List.forall₂_map_left_iff, List.forall₂_map_right_iff]
    exact List.forall₂_same.mpr fun signer hsigner => signerNumber_written (h.inRange signer hsigner)
  have hunique : (signed.signatures.signatures.map fun signer =>
      (signer.signerIndex.toNat : ℚ)).Nodup := by
    have hinjective : Function.Injective fun index : UInt8 => (index.toNat : ℚ) := by
      intro a b hab
      exact UInt8.toNat_inj.mp (Nat.cast_injective hab)
    have hmapped := h.distinct.map hinjective
    rwa [List.map_map] at hmapped
  rw [validateManager, requiredNumber_bind hrequired (finiteNumber_small (by norm_num)),
    requiredNumber_bind htotal (finiteNumber_small (by norm_num)), assertCondition_bind, hindices]
  refine ⟨⟨rfl, rfl⟩, ?_⟩
  have hsigners : requiredSigners ((5 : ℕ) : ℚ)
      (some (.array (signed.signatures.signatures.map signerIndex))) =
        .ok (signed.signatures.signatures.map signerIndex) := if_pos henough
  have hnumbers' : (signed.signatures.signatures.map signerIndex).mapM
      (EvidenceValidator.signerNumber ((7 : ℕ) : ℚ)) =
        .ok (signed.signatures.signatures.map fun signer => (signer.signerIndex.toNat : ℚ)) := hnumbers
  rw [hsigners, ok_bind, hnumbers', ok_bind, assertCondition_bind, requiredString_bind hvaaHash,
    requiredString_bind hsignedVaa, assertCondition_bind, hunique.dedup, toLowerCase_hexEncode,
    toLowerCase_hexEncode]
  exact ⟨by rw [List.length_map, List.length_map], hvaa, hsha, ⟨hvaaHex, hshaHex⟩, rfl⟩

/-- The evidence of a run that signed the batch itself. -/
theorem signedEvidence_accepted_iff {args : Args} {batch : SnapshotBatch}
    {payload : Utx0UnlockPayload} {managerUrl : String} {signed : SignedSnapshot}
    (hparse : Utx0UnlockPayload.parse batch.payload = .ok payload) (hfilled : payload.outputs ≠ [])
    (hquorum : SignedByQuorum signed.signatures) :
    isOk (validateWithdrawalEvidence (evidenceFields (signedEvidence args batch payload managerUrl
        (hexEncode signed.transaction.txid.toList) signed))) = true ↔
      (batch.solanaSignature ≠ "" ∧ 0 < batch.solanaSlot ∧
        batch.requestStartIndex < batch.requestEndIndex ∧
        batch.requestEndIndex.toNat ≤ maxSafeInteger) ∧
      (∀ output ∈ payload.outputs, 0 < output.amount) ∧ args.broadcastEnabled = true ∧
      signed.prepared.reservationId ≠ "" := by
  obtain ⟨hcount, hencoded⟩ := Utx0UnlockPayload.parse_eq_ok.mp hparse
  have hpayload : batch.payload ≠ [] := by
    intro hnil
    have hlength := congrArg List.length (hencoded.symm.trans hnil)
    rw [Utx0UnlockPayload.encoded_length, headerSize, List.length_nil] at hlength
    omega
  have hserialized : signed.transaction.serialize ≠ [] := List.cons_ne_nil _ _
  generalize hevidence : evidenceFields (signedEvidence args batch payload managerUrl
    (hexEncode signed.transaction.txid.toList) signed) = evidence
  have hschema : property evidence "schema" =
      some (.string "doge-process-withdrawal-v5-durable-snapshot") := by
    rw [← hevidence]
    rfl
  have hcompleted : property evidence "completed" = some (.bool args.broadcastEnabled) := by
    rw [← hevidence]
    rfl
  have hsections : evidenceSections evidence = .ok
      { snapshot := snapshotFields batch, withdrawal := withdrawalFields payload,
        manager := managerFields managerUrl signed,
        dogecoin := dogecoinFields args (hexEncode signed.transaction.txid.toList) signed,
        custody := custodyFields args signed } := by
    rw [← hevidence]
    rfl
  have hreservation : property (custodyFields args signed) "reservationId" =
      some (.string signed.prepared.reservationId) := rfl
  rw [validateWithdrawalEvidence, requiredString_bind hschema, and_iff_right (by decide),
    assertCondition_bind, and_iff_right rfl, hsections, ok_bind]
  -- every section is checked on its own
  refine (isOk_bind_and fun snapshot => isOk_bind_and fun outputCount => isOk_bind_and fun manager =>
    isOk_bind_and fun dogecoin =>
      (requiredString_bind hreservation).trans (and_iff_left rfl)).trans ?_
  rw [validateSnapshot_written, validateWithdrawal_written hfilled (by omega),
    validateDogecoin_written hserialized hcompleted, and_iff_right (validateManager_written hquorum),
    and_iff_left hpayload]

/-- The evidence of a run that found the batch signed has no quorum to show. -/
theorem resumedEvidence_refused {args : Args} {batch : SnapshotBatch} {payload : Utx0UnlockPayload}
    {signedBytes : ByteString} {displayTxid reservationId : String} :
    isOk (validateWithdrawalEvidence (evidenceFields
      (resumedEvidence args batch payload signedBytes displayTxid reservationId))) = false := by
  rw [Bool.eq_false_iff]
  intro h
  obtain ⟨schema, -, h⟩ := isOk_bind.mp h
  obtain ⟨-, -, h⟩ := isOk_bind.mp h
  obtain ⟨sections, hsections, h⟩ := isOk_bind.mp h
  obtain ⟨snapshot, -, h⟩ := isOk_bind.mp h
  obtain ⟨outputCount, -, h⟩ := isOk_bind.mp h
  obtain ⟨manager, hmanager, -⟩ := isOk_bind.mp h
  cases hsections
  have hmissing : isOk (validateManager [("reusedPersistedSignedTransaction", .bool true)]) = false :=
    requiredNumber_missing rfl
  have haccepted : isOk (validateManager [("reusedPersistedSignedTransaction", .bool true)]) = true :=
    congrArg isOk hmanager
  rw [hmissing] at haccepted
  cases haccepted

end

/-! The run. -/

/-- A reservation is found under its own id. -/
def FoundById : (op : Op) → Except ErrorChain op.Answer → Prop
  | .store (.loadReservation reservationId), .ok (some reservation) =>
    reservation.reservationId = reservationId
  | _, _ => True

/-- What is taken for granted of the batch: it is confirmed, its custody is reserved, it pays
positive amounts, and the run posts it. -/
structure Completable (args : Args) (batch : SnapshotBatch) : Prop where
  broadcasts : args.broadcastEnabled = true
  confirmed : 0 < batch.solanaSlot
  reserved : batch.reservationId ≠ some ""
  amounts : ∀ payload, Utx0UnlockPayload.parse batch.payload = .ok payload →
    ∀ output ∈ payload.outputs, 0 < output.amount

/-- When the evidence suffices: the run signs the batch itself, and the numbers fit a double. -/
structure Evident (batch : SnapshotBatch) : Prop where
  unsigned : batch.status ≠ .signed
  named : batch.solanaSignature ≠ ""
  range : batch.requestStartIndex < batch.requestEndIndex
  safe : batch.requestEndIndex.toNat ≤ maxSafeInteger

section
variable [FloatLiterals] [Hashes]

/-- Evidence is accepted exactly when it suffices; nothing else is written. -/
def EvidenceVerdict (args : Args) (batch : SnapshotBatch) : Op → Prop
  | .system (.writeFile _ contents) => ∃ evidence, contents = .object evidence ∧
      (isOk (validateWithdrawalEvidence evidence) = true ↔ Completable args batch ∧ Evident batch)
  | _ => True

end

end DogeOperator.CompletedEvidence
