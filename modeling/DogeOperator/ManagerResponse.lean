import DogeOperator.Agreement

/-! The numbers of a Manager response. The body says them in 32 bits; the chain is kept in sixteen
and a signer's index in eight. -/
namespace DogeOperator.ManagerClient
open Bytes Outcome Crypto Utx0 Tx Manager Json LocalManager Agreement

/-- The number in a field of a body, zero when the field is absent. -/
def fieldNumber (names : List String) (name : String) (body : Value) : ℤ :=
  match asStruct names body with
  | .error _ => 0
  | .ok fields =>
    match lookup [name] fields with
    | .ok (some (.integer number)) => number
    | _ => 0

/-- The signers a body lists. -/
def bodySigners (body : Value) : List Value :=
  match asStruct ManagerSignaturesJson.fields body with
  | .error _ => []
  | .ok fields =>
    match lookup ["signatures"] fields with
    | .ok (some (.array signers)) => signers
    | _ => []

def bodyNumber (name : String) (body : Value) : ℤ :=
  fieldNumber ManagerSignaturesJson.fields name body

def signerNumber (signer : Value) : ℤ := fieldNumber SignerSignaturesJson.fields "signerIndex" signer

/-- What is parsed are the numbers of the body. -/
structure NotAliased (body : Value) (parsed : ManagerSignatures) : Prop where
  destinationChain : (parsed.destinationChain.toNat : ℤ) = bodyNumber "destinationChain" body
  managerSetIndex : (parsed.managerSetIndex.toNat : ℤ) = bodyNumber "managerSetIndex" body
  required : (parsed.required.toNat : ℤ) = bodyNumber "required" body
  total : (parsed.total.toNat : ℤ) = bodyNumber "total" body
  signers : parsed.signatures.map (fun signer => (signer.signerIndex.toNat : ℤ)) =
    (bodySigners body).map signerNumber

/-- The chain of the body has sixteen bits and its signer indices have eight. -/
structure InRange (body : Value) : Prop where
  destinationChain : bodyNumber "destinationChain" body < 2 ^ 16
  signers : ∀ signer ∈ bodySigners body, signerNumber signer < 2 ^ 8

section
variable {names : List String} {name : String} {fields : List (String × Value)} {body : Value}

/-- An absent number is read as none, a number as itself. -/
theorem optional_asU32 {number : Option UInt32} (hbody : asStruct names body = .ok fields)
    (h : optional [name] asU32 fields = .ok number) :
    ((number.getD 0).toNat : ℤ) = fieldNumber names name body := by
  unfold fieldNumber
  rw [hbody]
  dsimp only
  rcases bind_eq_ok.mp h with ⟨found, hfound, h⟩
  rw [hfound]
  cases found with
  | none =>
    cases h
    rfl
  | some value =>
    cases value with
    | null =>
      cases h
      rfl
    | integer integer =>
      by_cases hrange : 0 ≤ integer ∧ integer < 2 ^ 32
      · have hread : asUnsigned 32 (.integer integer) = .ok integer.toNat := if_pos hrange
        have hnumber : number = some (UInt32.ofNat integer.toNat) := by
          simpa [asOption, asU32, hread, Except.map, eq_comm] using h
        rw [hnumber, Option.getD_some, UInt32.toNat_ofNat', Nat.mod_eq_of_lt (by omega)]
        exact Int.toNat_of_nonneg hrange.1
      · have hread : asUnsigned 32 (.integer integer) = .error _ := if_neg hrange
        simp [asOption, asU32, hread, Except.map] at h
    | bool _ => cases h
    | float _ => cases h
    | string _ => cases h
    | array _ => cases h
    | object _ => cases h

theorem SignerSignaturesJson.fromJson_number {signer : SignerSignaturesJson}
    (h : SignerSignaturesJson.fromJson body = .ok signer) :
    ((signer.signerIndex.getD 0).toNat : ℤ) = signerNumber body := by
  rcases bind_eq_ok.mp h with ⟨fields, hfields, h⟩
  rcases bind_eq_ok.mp h with ⟨signerIndex, hindex, h⟩
  rcases bind_eq_ok.mp h with ⟨signatures, -, h⟩
  cases h
  exact optional_asU32 hfields hindex

theorem fromJson_signers {items : List Value} {signers : List SignerSignaturesJson}
    (h : List.Forall₂ (fun item signer => SignerSignaturesJson.fromJson item = .ok signer) items
      signers) :
    signers.map (fun signer => ((signer.signerIndex.getD 0).toNat : ℤ)) =
      items.map signerNumber := by
  induction h with
  | nil => rfl
  | cons hfirst _ ih =>
    rw [List.map_cons, List.map_cons, SignerSignaturesJson.fromJson_number hfirst, ih]

/-- The signers are read one by one. -/
theorem signers_number {signers : List SignerSignaturesJson}
    (hbody : asStruct ManagerSignaturesJson.fields body = .ok fields)
    (h : defaulted ["signatures"] [] (asArray SignerSignaturesJson.fromJson) fields = .ok signers) :
    signers.map (fun signer => ((signer.signerIndex.getD 0).toNat : ℤ)) =
      (bodySigners body).map signerNumber := by
  unfold bodySigners
  rw [hbody]
  dsimp only
  rcases bind_eq_ok.mp h with ⟨found, hfound, h⟩
  rw [hfound]
  cases found with
  | none =>
    cases h
    rfl
  | some value =>
    cases value with
    | array items => exact fromJson_signers (mapM_eq_ok.mp h)
    | null => cases h
    | integer _ => cases h
    | bool _ => cases h
    | float _ => cases h
    | string _ => cases h
    | object _ => cases h

/-- The 32-bit numbers of an accepted body. -/
structure Numbers (body : Value) (json : ManagerSignaturesJson) : Prop where
  destinationChain : ((json.destinationChain.getD 0).toNat : ℤ) = bodyNumber "destinationChain" body
  managerSetIndex : ((json.managerSetIndex.getD 0).toNat : ℤ) = bodyNumber "managerSetIndex" body
  required : ((json.required.getD 0).toNat : ℤ) = bodyNumber "required" body
  total : ((json.total.getD 0).toNat : ℤ) = bodyNumber "total" body
  signers : json.signatures.map (fun signer => ((signer.signerIndex.getD 0).toNat : ℤ)) =
    (bodySigners body).map signerNumber

theorem ManagerSignaturesJson.fromJson_numbers {json : ManagerSignaturesJson}
    (h : ManagerSignaturesJson.fromJson body = .ok json) : Numbers body json := by
  rcases bind_eq_ok.mp h with ⟨fields, hfields, h⟩
  rcases bind_eq_ok.mp h with ⟨isComplete, -, h⟩
  rcases bind_eq_ok.mp h with ⟨vaaHash, -, h⟩
  rcases bind_eq_ok.mp h with ⟨vaaId, -, h⟩
  rcases bind_eq_ok.mp h with ⟨destinationChain, hchain, h⟩
  rcases bind_eq_ok.mp h with ⟨managerSetIndex, hset, h⟩
  rcases bind_eq_ok.mp h with ⟨required, hrequired, h⟩
  rcases bind_eq_ok.mp h with ⟨total, htotal, h⟩
  rcases bind_eq_ok.mp h with ⟨signatures, hsigners, h⟩
  cases h
  exact ⟨optional_asU32 hfields hchain, optional_asU32 hfields hset, optional_asU32 hfields hrequired,
    optional_asU32 hfields htotal, signers_number hfields hsigners⟩

/-- An index is cut down to eight bits. -/
theorem decodeSigner_indices {signers : List SignerSignaturesJson}
    {signatures : List SignerSignatures}
    (h : List.Forall₂ (fun signer decoded => decodeSigner signer = .ok decoded) signers signatures) :
    signatures.map SignerSignatures.signerIndex =
      signers.map fun signer => (signer.signerIndex.getD 0).toUInt8 := by
  induction h with
  | nil => rfl
  | cons hfirst _ ih =>
    rcases bind_eq_ok.mp hfirst with ⟨inputSignatures, -, hfirst⟩
    cases hfirst
    rw [List.map_cons, List.map_cons, ih]

/-- What becomes of the numbers. -/
theorem parseManagerSignatures_numbers {parsed : ManagerSignatures}
    (h : parseManagerSignatures (.ok body) = .ok parsed) :
    ∃ json, Numbers body json ∧
      parsed.destinationChain = (json.destinationChain.getD 0).toUInt16 ∧
      parsed.managerSetIndex = json.managerSetIndex.getD 0 ∧
      parsed.required = json.required.getD 0 ∧ parsed.total = json.total.getD 0 ∧
      parsed.signatures.map SignerSignatures.signerIndex =
        json.signatures.map fun signer => (signer.signerIndex.getD 0).toUInt8 := by
  rcases bind_eq_ok.mp h with ⟨json, hjson, h⟩
  rcases bind_eq_ok.mp h with ⟨vaaHashHex, -, h⟩
  rcases bind_eq_ok.mp h with ⟨vaaHash, -, h⟩
  rcases bind_eq_ok.mp h with ⟨signatures, hsignatures, h⟩
  cases h
  refine ⟨json, ManagerSignaturesJson.fromJson_numbers (mapError_eq_ok.mp hjson), rfl, rfl, rfl, rfl,
    ?_⟩
  exact decodeSigner_indices (mapM_eq_ok.mp hsignatures)

theorem notAliased_iff {parsed : ManagerSignatures}
    (h : parseManagerSignatures (.ok body) = .ok parsed) :
    NotAliased body parsed ↔ InRange body := by
  rcases parseManagerSignatures_numbers h with
    ⟨json, hnumbers, hchain, hset, hrequired, htotal, hsigners⟩
  have hindices : parsed.signatures.map (fun signer => (signer.signerIndex.toNat : ℤ)) =
      json.signatures.map fun signer => ((signer.signerIndex.getD 0).toUInt8.toNat : ℤ) := by
    have hmapped := congrArg (List.map fun index : UInt8 => (index.toNat : ℤ)) hsigners
    simpa [List.map_map, Function.comp_def] using hmapped
  have hbody : ∀ bound : ℤ, (∀ signer ∈ bodySigners body, signerNumber signer < bound) ↔
      ∀ signer ∈ json.signatures, ((signer.signerIndex.getD 0).toNat : ℤ) < bound := by
    intro bound
    have hall := congrArg (fun numbers : List ℤ => ∀ number ∈ numbers, number < bound)
      hnumbers.signers
    simpa [List.forall_mem_map] using (iff_of_eq hall).symm
  constructor
  · intro hsame
    refine ⟨?_, (hbody _).mpr ?_⟩
    · rw [← hsame.destinationChain]
      have hbound := parsed.destinationChain.toNat_lt
      omega
    · have hlist := hsame.signers
      rw [hindices, ← hnumbers.signers, List.map_inj_left] at hlist
      intro signer hsigner
      rw [← hlist signer hsigner]
      have hbound := (signer.signerIndex.getD 0).toUInt8.toNat_lt
      omega
  · intro hrange
    have hlow := hrange.destinationChain
    rw [← hnumbers.destinationChain] at hlow
    refine ⟨?_, by rw [hset, hnumbers.managerSetIndex], by rw [hrequired, hnumbers.required],
      by rw [htotal, hnumbers.total], ?_⟩
    · rw [← hnumbers.destinationChain, hchain, UInt32.toNat_toUInt16, Nat.mod_eq_of_lt (by omega)]
    · rw [hindices, ← hnumbers.signers, List.map_inj_left]
      intro signer hsigner
      have hindex := (hbody _).mp hrange.signers signer hsigner
      rw [UInt32.toNat_toUInt8, Nat.mod_eq_of_lt (by omega)]

end

/-! What later checks make of the numbers. -/

section
variable [Secp256k1]

/-- Collected signatures come from signers inside the set. -/
theorem collectSignatures_indices {managerSet : ManagerSet} {sighashes : List (FixedBytes 32)}
    {inputCount : ℕ} {signers : List SignerSignatures} {seen : List UInt8}
    {perInput collected : PerInput}
    (h : collectSignatures managerSet sighashes inputCount signers seen perInput = .ok collected) :
    ∀ signer ∈ signers, signer.signerIndex.toNat < managerSet.pubkeys.length := by
  induction signers generalizing seen perInput with
  | nil => simp
  | cons signer rest ih =>
    rw [collectSignatures] at h
    rcases guard_bind_eq_ok.mp h with ⟨-, h⟩
    rcases bind_eq_ok.mp h with ⟨publicKey, hkey, h⟩
    rcases guard_bind_eq_ok.mp h with ⟨-, h⟩
    rcases bind_eq_ok.mp h with ⟨pushed, -, h⟩
    rw [List.forall_mem_cons]
    exact ⟨(List.getElem?_eq_some_iff.mp (orBail_eq_ok.mp hkey)).1, ih h⟩

theorem applyManagerSignatures_indices [Hashes] {t t' : UnsignedTransaction}
    {signatures : ManagerSignatures} {managerSet : ManagerSet}
    (h : applyManagerSignatures t signatures managerSet = (.ok (), t')) :
    ∀ signer ∈ signatures.signatures, signer.signerIndex.toNat < managerSet.pubkeys.length := by
  unfold applyManagerSignatures at h
  dsimp only at h
  split at h
  · cases h
  · next perInput hcollected =>
    rcases bind_eq_ok.mp hcollected with ⟨sighashes, -, hcollected⟩
    exact collectSignatures_indices hcollected

end

theorem assertVaaAndManager_chain [Hashes] {signedVaa : ByteString} {signatures : ManagerSignatures}
    {emitter : Network.Pubkey} {sequence : UInt64} {payload : Utx0UnlockPayload}
    {managerSet : ManagerSet}
    (h : assertVaaAndManager signedVaa signatures emitter sequence payload managerSet = .ok ()) :
    signatures.destinationChain = Prepare.dogecoinChainId := by
  rcases bind_eq_ok.mp h with ⟨matched, -, h⟩
  rcases guard_bind_eq_ok.mp h with ⟨-, h⟩
  rcases bind_eq_ok.mp h with ⟨vaa, -, h⟩
  rcases bind_eq_ok.mp h with ⟨identified, -, h⟩
  rcases guard_bind_eq_ok.mp h with ⟨-, h⟩
  have hmetadata := guard_eq_ok.mp h
  rw [not_or, not_not] at hmetadata
  exact hmetadata.1

/-- A response is parsed to the numbers of its body exactly when the chain has sixteen bits and the
indices have eight. Then what the later checks accept about the response holds of the body, and no
two such bodies with other indices or chains are parsed alike. -/
theorem parseManagerSignatures_exact [Secp256k1] [Hashes] {body : Value}
    {parsed : ManagerSignatures} (h : parseManagerSignatures (.ok body) = .ok parsed) :
    (NotAliased body parsed ↔ InRange body) ∧ (InRange body →
      (∀ signedVaa emitter sequence payload managerSet,
        assertVaaAndManager signedVaa parsed emitter sequence payload managerSet = .ok () →
          bodyNumber "destinationChain" body = 65) ∧
      (∀ t t' managerSet, applyManagerSignatures t parsed managerSet = (.ok (), t') →
        ∀ signer ∈ bodySigners body,
          0 ≤ signerNumber signer ∧ signerNumber signer < managerSet.pubkeys.length) ∧
      ∀ body', parseManagerSignatures (.ok body') = .ok parsed → InRange body' →
        bodyNumber "destinationChain" body = bodyNumber "destinationChain" body' ∧
          (bodySigners body).map signerNumber = (bodySigners body').map signerNumber) := by
  refine ⟨notAliased_iff h, ?_⟩
  intro hrange
  have hsame := (notAliased_iff h).mpr hrange
  refine ⟨?_, ?_, ?_⟩
  · intro signedVaa emitter sequence payload managerSet hassert
    rw [← hsame.destinationChain, assertVaaAndManager_chain hassert]
    rfl
  · intro t t' managerSet happly signer hsigner
    have hmem := List.mem_map_of_mem (f := signerNumber) hsigner
    rw [← hsame.signers] at hmem
    rcases List.mem_map.mp hmem with ⟨accepted, haccepted, hnumber⟩
    have hindex := applyManagerSignatures_indices happly accepted haccepted
    omega
  · intro body' h' hrange'
    have hsame' := (notAliased_iff h').mpr hrange'
    exact ⟨hsame.destinationChain.symm.trans hsame'.destinationChain,
      hsame.signers.symm.trans hsame'.signers⟩

/-- The response of the service to the same signatures, with 2¹⁶ more for the chain and 2⁸ more for
every signer. -/
def shiftedResponse (signatures : ManagerSignatures) : Value :=
  numberedResponse (signatures.destinationChain.toUInt32 + 65536) (·.toUInt32 + 256) signatures

/-- It is parsed as the response itself. -/
theorem shiftedResponse_parses (signatures : ManagerSignatures) :
    parseManagerSignatures (.ok (shiftedResponse signatures)) = .ok signatures := by
  have hindex : ∀ index : UInt8, (index.toUInt32 + 256).toUInt8 = index := by
    intro index
    rw [UInt32.toUInt8_add, UInt8.toUInt8_toUInt32]
    exact UInt8.add_zero index
  have hsigners : renumbered (·.toUInt32 + 256) = id := by
    funext signer
    rw [renumbered, hindex]
    rfl
  have hchain : (signatures.destinationChain.toUInt32 + 65536).toUInt16 =
      signatures.destinationChain := by
    rw [UInt32.toUInt16_add, UInt16.toUInt16_toUInt32]
    exact UInt16.add_zero _
  rw [shiftedResponse, parseManagerSignatures_numbered, hsigners, List.map_id, hchain]

/-- One signer, one signature. -/
def singleSigner : ManagerSignatures :=
  { emptyResponse with signatures := [{ signerIndex := 2, inputSignatures := [[0x30]] }] }

section
open Digests

theorem parseManagerSignatures_exact_local :
    NotAliased (signaturesResponse singleSigner) singleSigner ↔
      InRange (signaturesResponse singleSigner) :=
  (parseManagerSignatures_exact (parseManagerSignatures_response singleSigner)).1

end

/-- Chain 65601 and signer 258 are taken for chain 65 and signer 2. -/
theorem chain_aliased :
    parseManagerSignatures (.ok (shiftedResponse singleSigner)) = .ok singleSigner ∧
      parseManagerSignatures (.ok (signaturesResponse singleSigner)) = .ok singleSigner ∧
      bodyNumber "destinationChain" (shiftedResponse singleSigner) = 65601 ∧
      (bodySigners (shiftedResponse singleSigner)).map signerNumber = [258] ∧
      ¬ NotAliased (shiftedResponse singleSigner) singleSigner := by
  refine ⟨shiftedResponse_parses _, parseManagerSignatures_response _, rfl, rfl, ?_⟩
  intro hsame
  have hchain := hsame.destinationChain
  cases hchain

/-- Every value of the service's response is read back as it was: its signers and their signatures in
order, every byte of them, and all metadata. Different values are written differently. -/
theorem response_roundTrip (signatures : ManagerSignatures) :
    parseManagerSignatures (.ok (signaturesResponse signatures)) = .ok signatures ∧
      ∀ other, signaturesResponse other = signaturesResponse signatures → other = signatures := by
  have hread := parseManagerSignatures_response signatures
  refine ⟨hread, ?_⟩
  intro other hsame
  have hother := parseManagerSignatures_response other
  rw [hsame, hread] at hother
  exact (Except.ok.inj hother).symm

theorem response_roundTrip_single :
    parseManagerSignatures (.ok (signaturesResponse singleSigner)) = .ok singleSigner :=
  (response_roundTrip singleSigner).1

end DogeOperator.ManagerClient
