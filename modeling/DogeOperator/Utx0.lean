import DogeOperator.Bytes
import DogeOperator.Outcome

/-! The outputs-only `UTX0` withdrawal payload. All integers are big-endian:
prefix, destination chain, manager set index, output count, then 32-byte outputs. -/
namespace DogeOperator.Utx0
open Bytes Outcome

/-- `b"UTX0"` -/
def utx0Prefix : ByteString := [0x55, 0x54, 0x58, 0x30]

inductive UtxoAddressType
  | p2pkh
  | p2sh
  deriving DecidableEq, Repr

/-- The `#[repr(u32)]` discriminant. -/
def UtxoAddressType.toU32 : UtxoAddressType → UInt32
  | .p2pkh => 0
  | .p2sh => 1

def UtxoAddressType.fromU32 (value : UInt32) : Result UtxoAddressType :=
  if value = 0 then .ok .p2pkh
  else if value = 1 then .ok .p2sh
  else bail s!"unknown UTXO address type: {value}"

@[simp] theorem UtxoAddressType.fromU32_toU32 (t : UtxoAddressType) : fromU32 t.toU32 = .ok t := by
  cases t <;> rfl

theorem UtxoAddressType.fromU32_eq_ok {value : UInt32} {t : UtxoAddressType} :
    fromU32 value = .ok t ↔ value = t.toU32 := by
  constructor
  · intro h
    unfold fromU32 at h
    split_ifs at h with h0 h1
    · cases h
      exact h0
    · cases h
      exact h1
    · exact absurd h bail_ne_ok
  · rintro rfl
    exact fromU32_toU32 t

structure Utx0Output where
  amount : UInt64
  addressType : UtxoAddressType
  address : FixedBytes 20
  deriving DecidableEq

def Utx0Output.size : ℕ := 32

def Utx0Output.serialize (o : Utx0Output) : ByteString :=
  u64Be o.amount ++ u32Be o.addressType.toU32 ++ o.address.toList

def Utx0Output.parse (bytes : ByteString) : Result Utx0Output := do
  if bytes.length < size then
    bail s!"UTX0 output too short: expected {size} bytes, got {bytes.length}"
  let amount := u64OfBe (bytes.take 8)
  let addressType ← UtxoAddressType.fromU32 (u32OfBe ((bytes.drop 8).take 4))
  let address ← orBail (toFixed? 20 ((bytes.drop 12).take 20)) "range end out of bounds"
  return { amount, addressType, address }

structure Utx0UnlockPayload where
  destinationChain : UInt16
  delegatedManagerSetIndex : UInt32
  outputs : List Utx0Output
  deriving DecidableEq

def headerSize : ℕ := 14

/-- The `usize` overflow checks of the capacity computation are on a 64-bit target. -/
def sizeWithOutputs (count : ℕ) (countOverflow sizeOverflow : String) : Result ℕ := do
  let body ← orBail (if count * Utx0Output.size < 2 ^ 64 then some (count * Utx0Output.size) else none)
    countOverflow
  orBail (if headerSize + body < 2 ^ 64 then some (headerSize + body) else none) sizeOverflow

def Utx0UnlockPayload.serialize (p : Utx0UnlockPayload) : Result ByteString := do
  let outputCount ← orBail
    (if p.outputs.length < 2 ^ 32 then some (UInt32.ofNat p.outputs.length) else none)
    s!"too many outputs: {p.outputs.length}"
  let _capacity ← sizeWithOutputs p.outputs.length "UTX0 payload size overflow"
    "UTX0 payload size overflow"
  return utx0Prefix ++ u16Be p.destinationChain ++ u32Be p.delegatedManagerSetIndex ++
    u32Be outputCount ++ p.outputs.flatMap Utx0Output.serialize

/-- `chunks_exact`: consecutive blocks of `size` elements, a shorter tail dropped. -/
def chunksExact (size : ℕ) : ℕ → ByteString → List ByteString
  | 0, _ => []
  | count + 1, bytes =>
    if bytes.length < size then [] else bytes.take size :: chunksExact size count (bytes.drop size)

def parseOutputs (index : ℕ) : List ByteString → Result (List Utx0Output)
  | [] => .ok []
  | chunk :: chunks => do
    let output ← (Utx0Output.parse chunk).mapError
      fun error => [s!"failed to parse output {index}: {error.headD default}"]
    let rest ← parseOutputs (index + 1) chunks
    return output :: rest

def Utx0UnlockPayload.parse (bytes : ByteString) : Result Utx0UnlockPayload := do
  if bytes.length < headerSize then
    bail s!"UTX0 unlock payload too short: expected at least {headerSize} bytes, got {bytes.length}"
  if bytes.take 4 ≠ utx0Prefix then
    bail "invalid UTX0 payload prefix"
  let destinationChain := u16OfBe ((bytes.drop 4).take 2)
  let delegatedManagerSetIndex := u32OfBe ((bytes.drop 6).take 4)
  let outputCount := (u32OfBe ((bytes.drop 10).take 4)).toNat
  let expectedSize ← sizeWithOutputs outputCount "UTX0 output count overflow"
    "UTX0 payload size overflow"
  if bytes.length ≠ expectedSize then
    bail s!"UTX0 unlock payload length mismatch: expected {expectedSize} bytes, got {bytes.length}"
  let outputs ← parseOutputs 0 (chunksExact Utx0Output.size outputCount (bytes.drop headerSize))
  return { destinationChain, delegatedManagerSetIndex, outputs }

@[simp] theorem Utx0Output.serialize_length (o : Utx0Output) : o.serialize.length = 32 := by
  simp [serialize]

/-- A serialized output parses back whatever bytes follow it. -/
theorem Utx0Output.parse_serialize (o : Utx0Output) (rest : ByteString) :
    Utx0Output.parse (o.serialize ++ rest) = .ok o := by
  have hlen : ¬ (o.serialize ++ rest).length < size := by simp [size]
  have h8 : (o.serialize ++ rest).take 8 = u64Be o.amount := by
    simp [serialize, List.append_assoc]
  have h12 : ((o.serialize ++ rest).drop 8).take 4 = u32Be o.addressType.toU32 := by
    simp [serialize, List.append_assoc]
  have h32 : ((o.serialize ++ rest).drop 12).take 20 = o.address.toList := by
    have hd : (u64Be o.amount ++ u32Be o.addressType.toU32).length = 12 := by simp
    rw [serialize, List.append_assoc, List.drop_left' hd]
    exact List.take_left' (List.Vector.toList_length _)
  unfold parse
  rw [if_neg hlen, h8, h12, h32, u64OfBe_u64Be, u32OfBe_u32Be, toFixed?_toList]
  simp

end DogeOperator.Utx0
