import DogeOperator.Crypto
import DogeOperator.DoubleRounding
import DogeOperator.Json

/-! The validator of withdrawal evidence, as the local runner calls it before the confirmation: it
reads the evidence a withdraw run has written, and no operator store. -/
namespace DogeOperator.EvidenceValidator
open Bytes Outcome Crypto Json DoubleRounding

abbrev JsonObject := List (String × Value)

/-- What `JSON.parse` makes of the number literals that are no integers, unless it is infinite. -/
class FloatLiterals where
  value : String → Option ℚ

/-- Of two properties with one name the later one counts. -/
def property (object : JsonObject) (key : String) : Option Value := object.reverse.lookup key

def assertCondition (condition : Prop) [Decidable condition] (message : String) :
    Except String Unit := if condition then .ok () else .error message

def requiredString (object : JsonObject) (key source : String) : Except String String :=
  match property object key with
  | some (.string text) =>
    if text = "" then .error s!"{source} is missing non-empty string '{key}'" else .ok text
  | _ => .error s!"{source} is missing non-empty string '{key}'"

def optionalObject (object : JsonObject) (key : String) : Option JsonObject :=
  match property object key with
  | some (.object fields) => some fields
  | _ => none

def toLowerCase (text : String) : String := String.ofList (text.toList.map Char.toLower)

/-- `/^[0-9a-f]+$/i`, of whole bytes and of a given number of them. -/
def isHex (text : String) (bytes : Option ℕ) : Bool :=
  text.toList ≠ [] && text.toList.all (fun c => (hexValue c).isSome) &&
    text.toList.length % 2 = 0 && bytes.all fun bytes => text.toList.length = bytes * 2

/-- `Buffer.from(text, "hex")`, of text that is hexadecimal. -/
def hexBytes (text : String) : ByteString := (hexDecode text).toOption.getD []

def managerQuorumM : ℚ := 5
def managerQuorumN : ℚ := 7

section
variable [FloatLiterals]

/-- A number that is neither infinite nor absent. -/
def finiteNumber : Value → Option ℚ
  | .integer n =>
    if roundToDouble n.natAbs < infinity then some (n.sign * roundToDouble n.natAbs) else none
  | .float literal => FloatLiterals.value literal
  | _ => none

def requiredNumber (object : JsonObject) (key source : String) : Except String ℚ :=
  match (property object key).bind finiteNumber with
  | some number => .ok number
  | none => .error s!"{source} is missing finite number '{key}'"

structure SnapshotSection where
  signature : String
  slot : ℚ
  requestStart : ℚ
  requestEnd : ℚ
  snapshotRootHex : String
  sequence : ℚ
  payloadHex : String

def validateSnapshot (snapshot : JsonObject) : Except String SnapshotSection := do
  let signature ← requiredString snapshot "signature" "withdrawalEvidence.snapshot"
  let slot ← requiredNumber snapshot "slot" "withdrawalEvidence.snapshot"
  let requestStart ← requiredNumber snapshot "requestStart" "withdrawalEvidence.snapshot"
  let requestEnd ← requiredNumber snapshot "requestEnd" "withdrawalEvidence.snapshot"
  assertCondition
    (IsSafeInteger requestStart ∧ IsSafeInteger requestEnd ∧ requestStart < requestEnd)
    "withdrawalEvidence.snapshot request range is invalid"
  let snapshotRoot ← requiredString snapshot "snapshotRootHex" "withdrawalEvidence.snapshot"
  let sequence ← requiredNumber snapshot "sequence" "withdrawalEvidence.snapshot"
  let payload ← requiredString snapshot "payloadHex" "withdrawalEvidence.snapshot"
  assertCondition (0 < slot) "withdrawalEvidence.snapshot.slot must prove Solana confirmation"
  assertCondition (isHex (toLowerCase snapshotRoot) (some 32))
    "withdrawalEvidence.snapshot.snapshotRootHex must be 32 bytes"
  assertCondition (isHex (toLowerCase payload) none ∧ 0 < payload.toList.length)
    "withdrawalEvidence.snapshot.payloadHex must be non-empty hex"
  return { signature, slot, requestStart, requestEnd, snapshotRootHex := toLowerCase snapshotRoot,
           sequence, payloadHex := toLowerCase payload }

def checkOutput (index : ℕ) : Value → Except String Unit
  | .object output => do
    let amount ← requiredNumber output "amountSats" s!"withdrawalEvidence.withdrawal.outputs[{index}]"
    assertCondition (0 < amount) "withdrawalEvidence output amount must be positive"
    let recipient ← requiredString output "recipientAddressHex"
      s!"withdrawalEvidence.withdrawal.outputs[{index}]"
    assertCondition (isHex recipient (some 20)) "withdrawalEvidence recipient must be 20 bytes"
  | _ => .error s!"withdrawalEvidence.withdrawal.outputs[{index}] must be an object"

def checkOutputs : ℕ → List Value → Except String Unit
  | _, [] => .ok ()
  | index, output :: rest => do
    checkOutput index output
    checkOutputs (index + 1) rest

/-- Outputs may be left out. -/
def validateOutputs (outputCount : ℚ) : Option Value → Except String Unit
  | none => .ok ()
  | some (.array outputs) => do
    assertCondition ((outputs.length : ℚ) = outputCount)
      "withdrawalEvidence.withdrawal.outputs length mismatch"
    checkOutputs 0 outputs
  | some _ => .error "withdrawalEvidence.withdrawal.outputs length mismatch"

def validateWithdrawal (withdrawal : JsonObject) : Except String ℚ := do
  let outputCount ← requiredNumber withdrawal "outputCount" "withdrawalEvidence.withdrawal"
  assertCondition (IsSafeInteger outputCount ∧ 0 < outputCount)
    "withdrawalEvidence.withdrawal.outputCount must be positive"
  validateOutputs outputCount (property withdrawal "outputs")
  return outputCount

/-- An index of a Manager in the set. -/
def signerNumber (total : ℚ) (signer : Value) : Except String ℚ :=
  match (finiteNumber signer).filter fun number => number.den = 1 ∧ 0 ≤ number ∧ number < total with
  | some number => .ok number
  | none => .error "withdrawalEvidence.manager signer index is invalid"

/-- The signers, when there are enough of them. -/
def requiredSigners (required : ℚ) : Option Value → Except String (List Value)
  | some (.array signers) =>
    if required ≤ signers.length then .ok signers
    else .error "withdrawalEvidence.manager signer quorum is missing"
  | _ => .error "withdrawalEvidence.manager signer quorum is missing"

structure ManagerSection where
  required : ℚ
  total : ℚ
  signerIndices : List Value
  vaaHashHex : String
  signedVaaSha256Hex : String

def validateManager (manager : JsonObject) : Except String ManagerSection := do
  let required ← requiredNumber manager "required" "withdrawalEvidence.manager"
  let total ← requiredNumber manager "total" "withdrawalEvidence.manager"
  assertCondition (required = managerQuorumM ∧ total = managerQuorumN)
    "withdrawalEvidence.manager must be 5-of-7"
  let signerIndices ← requiredSigners required (property manager "signerIndices")
  let signers ← signerIndices.mapM (signerNumber total)
  assertCondition (signers.dedup.length = signerIndices.length)
    "withdrawalEvidence.manager signer indices must be unique"
  let vaaHash ← requiredString manager "vaaHashHex" "withdrawalEvidence.manager"
  let signedVaaSha256 ← requiredString manager "signedVaaSha256Hex" "withdrawalEvidence.manager"
  assertCondition (isHex (toLowerCase vaaHash) (some 32) ∧ isHex (toLowerCase signedVaaSha256) (some 32))
    "withdrawalEvidence.manager VAA identities must be 32-byte hex"
  return { required, total, signerIndices, vaaHashHex := toLowerCase vaaHash,
           signedVaaSha256Hex := toLowerCase signedVaaSha256 }

structure DogecoinSection where
  signedTransactionHex : String
  txid : String

def isTrue : Option Value → Bool
  | some (.bool value) => value
  | _ => false

def validateDogecoin (evidence dogecoin : JsonObject) : Except String DogecoinSection := do
  let signedTransaction ← requiredString dogecoin "signedTransactionHex" "withdrawalEvidence.dogecoin"
  let txid ← requiredString dogecoin "txid" "withdrawalEvidence.dogecoin"
  assertCondition
    (isHex (toLowerCase signedTransaction) none ∧ 0 < signedTransaction.toList.length)
    "withdrawalEvidence.dogecoin signed transaction is invalid"
  assertCondition (isHex (toLowerCase txid) (some 32))
    "withdrawalEvidence.dogecoin.txid must be 32-byte hex"
  assertCondition (isTrue (property dogecoin "broadcast"))
    "withdrawalEvidence.dogecoin.broadcast must be true"
  assertCondition (isTrue (property evidence "completed"))
    "withdrawalEvidence.completed must record the broadcast stage"
  return { signedTransactionHex := toLowerCase signedTransaction, txid := toLowerCase txid }

structure EvidenceSections where
  snapshot : JsonObject
  withdrawal : JsonObject
  manager : JsonObject
  dogecoin : JsonObject
  custody : JsonObject

def evidenceSections (evidence : JsonObject) : Except String EvidenceSections :=
  match optionalObject evidence "snapshot", optionalObject evidence "withdrawal",
    optionalObject evidence "manager", optionalObject evidence "dogecoin",
    optionalObject evidence "custody" with
  | some snapshot, some withdrawal, some manager, some dogecoin, some custody =>
    .ok { snapshot, withdrawal, manager, dogecoin, custody }
  | _, _, _, _, _ =>
    .error "withdrawalEvidence must contain snapshot/withdrawal/manager/dogecoin/custody"

/-- What the caller is told of valid evidence, apart from what says that no store was read. -/
structure VerifiedWithdrawal where
  snapshotSignature : String
  snapshotSlot : ℚ
  requestStart : ℚ
  requestEnd : ℚ
  snapshotRootHex : String
  sequence : ℚ
  payloadSha256Hex : String
  outputCount : ℚ
  recipientAmountSats : Option Value
  vaaHashHex : String
  signedVaaSha256Hex : String
  managerRequired : ℚ
  managerTotal : ℚ
  signatureCount : ℕ
  signerIndices : List Value
  signedRawBytes : ℕ
  signedRawSha256Hex : String
  txid : String

/-- The amount of the first output. -/
def recipientAmount (withdrawal : JsonObject) : Option Value :=
  match property withdrawal "outputs" with
  | some (.array (.object output :: _)) => property output "amountSats"
  | _ => none

def validateWithdrawalEvidence [Hashes] (evidence : JsonObject) :
    Except String VerifiedWithdrawal := do
  let schema ← requiredString evidence "schema" "withdrawalEvidence"
  assertCondition (schema = "doge-process-withdrawal-v5-durable-snapshot")
    s!"withdrawalEvidence.schema unexpected: {schema}"
  let sections ← evidenceSections evidence
  let snapshot ← validateSnapshot sections.snapshot
  let outputCount ← validateWithdrawal sections.withdrawal
  let manager ← validateManager sections.manager
  let dogecoin ← validateDogecoin evidence sections.dogecoin
  let _reservationId ← requiredString sections.custody "reservationId" "withdrawalEvidence.custody"
  let signedBytes := hexBytes dogecoin.signedTransactionHex
  return {
    snapshotSignature := snapshot.signature
    snapshotSlot := snapshot.slot
    requestStart := snapshot.requestStart
    requestEnd := snapshot.requestEnd
    snapshotRootHex := snapshot.snapshotRootHex
    sequence := snapshot.sequence
    payloadSha256Hex := hexEncode (hashSha256 (hexBytes snapshot.payloadHex)).toList
    outputCount
    recipientAmountSats := recipientAmount sections.withdrawal
    vaaHashHex := manager.vaaHashHex
    signedVaaSha256Hex := manager.signedVaaSha256Hex
    managerRequired := manager.required
    managerTotal := manager.total
    signatureCount := manager.signerIndices.length
    signerIndices := manager.signerIndices
    signedRawBytes := signedBytes.length
    signedRawSha256Hex := hexEncode (hashSha256 signedBytes).toList
    txid := dogecoin.txid }

end

/-! What each check accepts. -/

section
variable {α β : Type} {object : JsonObject} {key source : String}

theorem isOk_bind {x : Except String α} {f : α → Except String β} :
    isOk (x >>= f) = true ↔ ∃ a, x = .ok a ∧ isOk (f a) = true := by
  cases x with
  | ok a => simp
  | error e => simp [isOk]

/-- A check whose value the later ones do not depend on. -/
theorem isOk_bind_and {x : Except String α} {f : α → Except String β} {P : Prop}
    (hf : ∀ a, isOk (f a) = true ↔ P) : isOk (x >>= f) = true ↔ isOk x = true ∧ P := by
  cases x with
  | ok a => exact (hf a).trans (and_iff_right rfl).symm
  | error e => exact iff_of_false Bool.false_ne_true fun h => Bool.false_ne_true h.1

theorem isOk_assertCondition {condition : Prop} [Decidable condition] {message : String} :
    isOk (assertCondition condition message) = true ↔ condition := by
  rw [assertCondition]
  split_ifs with h
  · exact iff_of_true rfl h
  · exact iff_of_false Bool.false_ne_true h

theorem assertCondition_bind {condition : Prop} [Decidable condition] {message : String}
    {f : Unit → Except String β} :
    isOk (assertCondition condition message >>= f) = true ↔ condition ∧ isOk (f ()) = true := by
  rw [assertCondition]
  split_ifs with h
  · rw [ok_bind, and_iff_right h]
  · simp [isOk, h]

theorem requiredString_bind {text : String} {f : String → Except String β}
    (h : property object key = some (.string text)) :
    isOk (requiredString object key source >>= f) = true ↔ text ≠ "" ∧ isOk (f text) = true := by
  rw [requiredString, h]
  dsimp only
  split_ifs with hempty
  · simp [isOk, hempty]
  · rw [ok_bind, and_iff_right hempty]

variable [FloatLiterals]

theorem requiredNumber_bind {value : Value} {number : ℚ} {f : ℚ → Except String β}
    (h : property object key = some value) (hnumber : finiteNumber value = some number) :
    isOk (requiredNumber object key source >>= f) = true ↔ isOk (f number) = true := by
  rw [requiredNumber, h, Option.bind_some, hnumber]
  rfl

theorem requiredNumber_missing {f : ℚ → Except String β} (h : property object key = none) :
    isOk (requiredNumber object key source >>= f) = false := by
  rw [requiredNumber, h]
  rfl

/-! Integers. -/

theorem finiteNumber_natCast {n : ℕ} (h : n < 2 ^ 64) :
    finiteNumber (.integer n) = some (roundToDouble n : ℚ) := by
  have hbound : roundToDouble n < infinity := roundToDouble_finite (by omega)
  rw [finiteNumber, Int.natAbs_natCast, if_pos hbound]
  cases n with
  | zero => simp [roundToDouble]
  | succ n => simp

theorem finiteNumber_ofU64 (n : UInt64) :
    finiteNumber (ofU64 n) = some (roundToDouble n.toNat : ℚ) := finiteNumber_natCast n.toNat_lt

/-- Small integers are read as they are. -/
theorem finiteNumber_small {n : ℕ} (h : n < 2 ^ 53) : finiteNumber (.integer n) = some (n : ℚ) := by
  rw [finiteNumber_natCast (by omega), roundToDouble_of_lt h]

end

/-! Hexadecimal text. -/

theorem toLower_hexDigit {n : ℕ} (h : n < 16) : (hexDigit n).toLower = hexDigit n := by
  have hall : ∀ k : Fin 16, (hexDigit k.val).toLower = hexDigit k.val := by decide
  exact hall ⟨n, h⟩

theorem mem_hexChars {bytes : ByteString} {c : Char} (h : c ∈ hexChars bytes) :
    ∃ n < 16, c = hexDigit n := by
  induction bytes with
  | nil => cases h
  | cons b bs ih =>
    have hb : b.toNat < 256 := b.toNat_lt
    rw [hexChars, List.mem_cons, List.mem_cons] at h
    rcases h with rfl | rfl | h
    · exact ⟨_, by omega, rfl⟩
    · exact ⟨_, by omega, rfl⟩
    · exact ih h

theorem hexChars_length (bytes : ByteString) : (hexChars bytes).length = bytes.length * 2 := by
  induction bytes with
  | nil => rfl
  | cons b bs ih =>
    rw [hexChars, List.length_cons, List.length_cons, List.length_cons, ih]
    ring

theorem hexChars_eq_nil {bytes : ByteString} : hexChars bytes = [] ↔ bytes = [] := by
  rw [← List.length_eq_zero_iff, ← List.length_eq_zero_iff, hexChars_length]
  omega

theorem hexEncode_eq_empty {bytes : ByteString} : hexEncode bytes = "" ↔ bytes = [] := by
  rw [hexEncode, ← String.toList_inj, String.toList_ofList]
  exact hexChars_eq_nil

theorem hexEncode_length (bytes : ByteString) :
    (hexEncode bytes).toList.length = bytes.length * 2 := by
  rw [hexEncode, String.toList_ofList, hexChars_length]

theorem toLowerCase_hexEncode (bytes : ByteString) :
    toLowerCase (hexEncode bytes) = hexEncode bytes := by
  have hlower : ∀ c ∈ hexChars bytes, c.toLower = id c := by
    intro c hc
    obtain ⟨n, hn, rfl⟩ := mem_hexChars hc
    exact toLower_hexDigit hn
  rw [toLowerCase, hexEncode, String.toList_ofList, List.map_congr_left hlower, List.map_id]

theorem isHex_hexEncode {bytes : ByteString} {size : Option ℕ} :
    isHex (hexEncode bytes) size = true ↔ bytes ≠ [] ∧ ∀ n ∈ size, bytes.length = n := by
  have hvalues : (hexChars bytes).all (fun c => (hexValue c).isSome) = true := by
    rw [List.all_eq_true]
    intro c hc
    obtain ⟨n, hn, rfl⟩ := mem_hexChars hc
    rw [hexValue_hexDigit hn]
    rfl
  rw [isHex, hexEncode, String.toList_ofList, hvalues, hexChars_length]
  cases size with
  | none => simp [hexChars_eq_nil]
  | some n => simp [hexChars_eq_nil]

/-- Fixed bytes are written as the text the validator expects. -/
theorem isHex_fixed {size : ℕ} (bytes : FixedBytes size) (hsize : 0 < size) :
    hexEncode bytes.toList ≠ "" ∧ isHex (hexEncode bytes.toList) (some size) = true := by
  have hne : bytes.toList ≠ [] := by
    rw [← List.length_pos_iff, List.Vector.toList_length]
    exact hsize
  refine ⟨fun h => hne (hexEncode_eq_empty.mp h), isHex_hexEncode.mpr ⟨hne, ?_⟩⟩
  rintro n hn
  cases hn
  exact bytes.toList_length

end DogeOperator.EvidenceValidator
