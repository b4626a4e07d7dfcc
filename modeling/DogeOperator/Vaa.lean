import DogeOperator.Crypto

/-! Wormhole VAAs: the header fields, the body behind the guardian signatures, and the digest
that joins a VAA to the manager's response. All integers are big-endian. -/
namespace DogeOperator.Vaa
open Bytes Outcome Crypto

structure VaaHeader where
  version : UInt8
  guardianSetIndex : UInt32
  emitterChain : UInt16
  emitterAddress : FixedBytes 32
  sequence : UInt64
  payload : ByteString

/-- One guardian signature is an index byte and 65 bytes. -/
def bodyOffset (bytes : ByteString) : ℕ := 6 + (bytes.getD 5 0).toNat * (1 + 65)

/-- The body starts with timestamp, nonce, emitter chain and address, sequence, consistency. -/
def parseVaa (bytes : ByteString) : Result VaaHeader := do
  if bytes.length < 6 then bail s!"VAA too short: {bytes.length} bytes"
  let off := bodyOffset bytes
  if bytes.length < off + 4 + 4 + 2 + 32 + 8 + 1 then bail "VAA body too short for header fields"
  let emitterAddress ← orBail (toFixed? 32 ((bytes.drop (off + 10)).take 32))
    "source slice length mismatch"
  return {
    version := bytes.getD 0 0
    guardianSetIndex := u32OfBe ((bytes.drop 1).take 4)
    emitterChain := u16OfBe ((bytes.drop (off + 8)).take 2)
    emitterAddress
    sequence := u64OfBe ((bytes.drop (off + 42)).take 8)
    payload := bytes.drop (off + 51) }

def vaaBody (signedVaa : ByteString) : Result ByteString := do
  if signedVaa.length < 6 then bail s!"VAA too short: {signedVaa.length} bytes"
  if signedVaa.length < bodyOffset signedVaa then bail "VAA truncated before body"
  return signedVaa.drop (bodyOffset signedVaa)

section
variable [Hashes]

/-- `keccak256(keccak256(body))` -/
def vaaSigningDigest (signedVaa : ByteString) : Result (FixedBytes 32) := do
  let body ← vaaBody signedVaa
  return Hashes.keccak256 (Hashes.keccak256 body).toList

def vaaHashMatches (signedVaa : ByteString) (managerVaaHash : FixedBytes 32) : Result Bool := do
  let computed ← vaaSigningDigest signedVaa
  return computed = managerVaaHash

end

/-- Identifier of one registered VAA. -/
structure VaaKey where
  emitterChain : UInt16
  emitterAddress : FixedBytes 32
  sequence : UInt64
  deriving DecidableEq

def vaaId (key : VaaKey) : String :=
  s!"{key.emitterChain}/{hexEncode key.emitterAddress.toList}/{key.sequence}"

/-- A VAA without guardian signatures, as the local noop shim has no guardian network. -/
def synthesizeLocalVaa (key : VaaKey) (payload : ByteString) : ByteString :=
  [1] ++ u32Be 0 ++ [0] ++ u32Be 0 ++ u32Be 0 ++ u16Be key.emitterChain ++
    key.emitterAddress.toList ++ u64Be key.sequence ++ [0] ++ payload

variable {key : VaaKey} {payload : ByteString}

/-- The header fields in front of the payload take 57 bytes, and the signature count is zero. -/
theorem synthesizeLocalVaa_layout (key : VaaKey) (payload : ByteString) :
    synthesizeLocalVaa key payload =
      [1, 0, 0, 0, 0, 0] ++ ([0, 0, 0, 0, 0, 0, 0, 0] ++ (u16Be key.emitterChain ++
        (key.emitterAddress.toList ++ (u64Be key.sequence ++ ([0] ++ payload))))) := by
  have hzero : u32Be 0 = [0, 0, 0, 0] := by decide
  simp only [synthesizeLocalVaa, hzero, List.append_assoc, List.cons_append, List.nil_append]

theorem synthesizeLocalVaa_length (key : VaaKey) (payload : ByteString) :
    (synthesizeLocalVaa key payload).length = 57 + payload.length := by
  simp only [synthesizeLocalVaa_layout, List.length_append, List.length_cons, List.length_nil,
    u16Be_length, u64Be_length, List.Vector.toList_length]
  omega

theorem bodyOffset_synthesizeLocalVaa (key : VaaKey) (payload : ByteString) :
    bodyOffset (synthesizeLocalVaa key payload) = 6 := by
  rw [bodyOffset, synthesizeLocalVaa_layout]
  rfl

/-- What the service synthesizes parses back to the registered key and payload. -/
theorem parseVaa_synthesizeLocalVaa (key : VaaKey) (payload : ByteString) :
    parseVaa (synthesizeLocalVaa key payload) =
      .ok { version := 1, guardianSetIndex := 0, emitterChain := key.emitterChain,
            emitterAddress := key.emitterAddress, sequence := key.sequence, payload := payload } := by
  have hlength := synthesizeLocalVaa_length key payload
  have hoffset := bodyOffset_synthesizeLocalVaa key payload
  have hshort : ¬ (synthesizeLocalVaa key payload).length < 6 := by omega
  have hheader : ¬ (synthesizeLocalVaa key payload).length < 6 + 4 + 4 + 2 + 32 + 8 + 1 := by omega
  have haddress := List.Vector.toList_length key.emitterAddress
  have hfields : (synthesizeLocalVaa key payload).drop 14 = u16Be key.emitterChain ++
      (key.emitterAddress.toList ++ (u64Be key.sequence ++ ([0] ++ payload))) := by
    rw [synthesizeLocalVaa_layout]
    rfl
  have hafter : (synthesizeLocalVaa key payload).drop 16 =
      key.emitterAddress.toList ++ (u64Be key.sequence ++ ([0] ++ payload)) := by
    rw [show 16 = 14 + 2 from rfl, ← List.drop_drop, hfields]
    exact List.drop_left' (u16Be_length _)
  have hbehind : (synthesizeLocalVaa key payload).drop 48 =
      u64Be key.sequence ++ ([0] ++ payload) := by
    rw [show 48 = 16 + 32 from rfl, ← List.drop_drop, hafter]
    exact List.drop_left' haddress
  have hpayload : (synthesizeLocalVaa key payload).drop 57 = payload := by
    rw [show 57 = 48 + 9 from rfl, ← List.drop_drop, hbehind, ← List.append_assoc]
    exact List.drop_left' (by simp)
  have hguardian : ((synthesizeLocalVaa key payload).drop 1).take 4 = [0, 0, 0, 0] := by
    rw [synthesizeLocalVaa_layout]
    rfl
  have hversion : (synthesizeLocalVaa key payload).getD 0 0 = 1 := by
    rw [synthesizeLocalVaa_layout]
    rfl
  unfold parseVaa
  rw [hoffset, guard_bind_of_neg hshort]
  dsimp only
  rw [guard_bind_of_neg hheader, hfields, List.take_left' (u16Be_length _), hafter,
    List.take_left' haddress, toFixed?_toList, hbehind, List.take_left' (u64Be_length _), hpayload,
    hguardian, hversion, u16OfBe_u16Be, u64OfBe_u64Be]
  rfl

theorem vaaBody_synthesizeLocalVaa (key : VaaKey) (payload : ByteString) :
    ∃ body, vaaBody (synthesizeLocalVaa key payload) = .ok body := by
  have hlength := synthesizeLocalVaa_length key payload
  have hoffset := bodyOffset_synthesizeLocalVaa key payload
  unfold vaaBody
  rw [hoffset, guard_bind_of_neg (by omega), guard_bind_of_neg (by omega)]
  exact ⟨_, rfl⟩

end DogeOperator.Vaa
