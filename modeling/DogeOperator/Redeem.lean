import DogeOperator.Bytes
import DogeOperator.Outcome

/-! The P2SH redeem script of bridge custody: emitter chain and contract, recipient, and an
`m`-of-`n` multisig over compressed keys. Every deposit and every change output is locked by it. -/
namespace DogeOperator.Redeem
open Bytes Outcome

def opPushdata1 : UInt8 := 0x4c
def opPushdata2 : UInt8 := 0x4d
def opPushdata4 : UInt8 := 0x4e
def op0 : UInt8 := 0x00
def op1Negate : UInt8 := 0x4f
def op1 : UInt8 := 0x51
def op2Drop : UInt8 := 0x6d
def opDrop : UInt8 := 0x75
def opCheckmultisig : UInt8 := 0xae

def maxPubkeys : ℕ := 13

/-- The opcode and length bytes in front of pushed data. -/
def pushHeader (len : ℕ) : ByteString :=
  if len ≤ 0x4b then [UInt8.ofNat len]
  else if len ≤ 0xff then [opPushdata1, UInt8.ofNat len]
  else if len ≤ 0xffff then opPushdata2 :: u16Le (UInt16.ofNat len)
  else opPushdata4 :: u32Le (UInt32.ofNat len)

def pushData (data : ByteString) : ByteString := pushHeader data.length ++ data

/-- `while tmp != 0`: a `u128` has at most sixteen bytes. -/
def magnitudeBytes : ℕ → ℕ → ByteString
  | 0, _ => []
  | fuel + 1, tmp => if tmp = 0 then [] else UInt8.ofNat (tmp % 256) :: magnitudeBytes fuel (tmp / 256)

/-- Drop high zero bytes while more than one byte is left. -/
def stripHighZeros : ByteString → ByteString
  | [] => []
  | b :: bs => match stripHighZeros bs with
    | [] => [b]
    | [z] => if z = 0 then [b] else [b, z]
    | rest => b :: rest

/-- Add the sign byte, or set the sign bit of the last byte. -/
def withSign (neg : Bool) (bytes : ByteString) : ByteString :=
  let last := bytes.getLastD 0
  if last &&& 0x80 ≠ 0 then bytes ++ [if neg then 0x80 else 0x00]
  else if neg then bytes.dropLast ++ [last ||| 0x80]
  else bytes

def pushInt (val : Int64) : ByteString :=
  if val = 0 then [op0]
  else if val = -1 then [op1Negate]
  else if 1 ≤ val ∧ val ≤ 16 then [op1 + UInt8.ofNat val.toInt.toNat - 1]
  else
    let neg := decide (val < 0)
    let v := if neg then -val else val
    -- `v as u128` sign-extends, which shows only for the one value whose negation overflows
    let magnitude := magnitudeBytes 16 (v.toInt % 2 ^ 128).toNat
    let bytes := if magnitude = [] then [0] else magnitude
    pushData (withSign neg (stripHighZeros bytes))

/-- The byte sequence once the threshold and key count are accepted. -/
def scriptBytes (emitterChain : UInt16) (emitterContract recipient : FixedBytes 32) (m : UInt8)
    (pubkeys : List (FixedBytes 33)) : ByteString :=
  pushData (u16Be emitterChain) ++ pushData emitterContract.toList ++ [op2Drop] ++
    pushData recipient.toList ++ [opDrop] ++ pushInt (Int64.ofNat m.toNat) ++
    pubkeys.flatMap (fun pk => pushData pk.toList) ++
    pushInt (Int64.ofNat (UInt8.ofNat pubkeys.length).toNat) ++ [opCheckmultisig]

def buildRedeemScript (emitterChain : UInt16) (emitterContract recipient : FixedBytes 32)
    (m : UInt8) (pubkeys : List (FixedBytes 33)) : Result ByteString := do
  if pubkeys.length > maxPubkeys then
    bail s!"too many pubkeys: {pubkeys.length} (max {maxPubkeys} for this redeem script)"
  let n := UInt8.ofNat pubkeys.length
  if m < 1 ∨ m > n then
    bail s!"invalid m-of-n: m={m}, n={n}"
  -- every key has the compressed length by its type, so the per-key length check is void
  return scriptBytes emitterChain emitterContract recipient m pubkeys

/-- The quorum condition: nothing else can make the builder refuse. -/
def QuorumValid (m : UInt8) (pubkeys : List (FixedBytes 33)) : Prop :=
  pubkeys.length ≤ maxPubkeys ∧ 1 ≤ m.toNat ∧ m.toNat ≤ pubkeys.length

instance (m : UInt8) (pubkeys : List (FixedBytes 33)) : Decidable (QuorumValid m pubkeys) := by
  unfold QuorumValid
  infer_instance

theorem buildRedeemScript_eq_ok {chain : UInt16} {contract recipient : FixedBytes 32} {m : UInt8}
    {pubkeys : List (FixedBytes 33)} {script : ByteString} :
    buildRedeemScript chain contract recipient m pubkeys = .ok script ↔
      QuorumValid m pubkeys ∧ script = scriptBytes chain contract recipient m pubkeys := by
  unfold buildRedeemScript QuorumValid
  by_cases hlen : pubkeys.length > maxPubkeys
  · rw [if_pos hlen]
    constructor
    · intro h
      cases h
    · rintro ⟨⟨h, -⟩, -⟩
      omega
  · have hn : (UInt8.ofNat pubkeys.length).toNat = pubkeys.length := by
      rw [UInt8.toNat_ofNat', Nat.mod_eq_of_lt]
      unfold maxPubkeys at hlen
      omega
    have hm : (m < 1 ∨ m > UInt8.ofNat pubkeys.length) ↔
        ¬ (1 ≤ m.toNat ∧ m.toNat ≤ pubkeys.length) := by
      rw [UInt8.lt_iff_toNat_lt, gt_iff_lt, UInt8.lt_iff_toNat_lt, hn, UInt8.toNat_one]
      omega
    rw [if_neg hlen]
    by_cases hq : 1 ≤ m.toNat ∧ m.toNat ≤ pubkeys.length
    · have hpass : ¬ (m < 1 ∨ m > UInt8.ofNat pubkeys.length) := fun h => hm.mp h hq
      rw [if_neg hpass]
      constructor
      · intro h
        cases h
        exact ⟨⟨by omega, hq⟩, rfl⟩
      · rintro ⟨-, rfl⟩
        rfl
    · rw [if_pos (hm.mpr hq)]
      constructor
      · intro h
        cases h
      · rintro ⟨⟨-, h⟩, -⟩
        exact absurd h hq

end DogeOperator.Redeem
