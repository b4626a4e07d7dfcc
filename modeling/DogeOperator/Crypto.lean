import DogeOperator.Bytes
import DogeOperator.Outcome

/-! Cryptographic and text primitives taken from third-party crates. They stay parameters:
every result below holds for all of them, and what a result assumes about one it says. -/
namespace DogeOperator.Crypto
open Bytes

/-- The digests of the `sha2`, `ripemd` and `sha3` crates. -/
class Hashes where
  sha256 : ByteString → FixedBytes 32
  ripemd160 : ByteString → FixedBytes 20
  keccak256 : ByteString → FixedBytes 32

section
variable [Hashes]

def hashSha256 (bytes : ByteString) : FixedBytes 32 := Hashes.sha256 bytes

def doubleSha256 (data : ByteString) : FixedBytes 32 := Hashes.sha256 (Hashes.sha256 data).toList

def hash160 (bytes : ByteString) : FixedBytes 20 := Hashes.ripemd160 (Hashes.sha256 bytes).toList

end

/-- `bs58::encode(..).with_check()`. -/
class Base58Check where
  encodeCheck : ByteString → String

/-- The `secp256k1` crate: key and signature parsing, signing, verification. -/
class Secp256k1 where
  PublicKey : Type
  SecretKey : Type
  Signature : Type
  publicKeyFromSlice : FixedBytes 33 → Except String PublicKey
  secretKeyFromByteArray : FixedBytes 32 → Except String SecretKey
  signatureFromDer : ByteString → Except String Signature
  serializeDer : Signature → ByteString
  signEcdsa : FixedBytes 32 → SecretKey → Signature
  verifyEcdsa : FixedBytes 32 → Signature → PublicKey → Bool

end DogeOperator.Crypto
