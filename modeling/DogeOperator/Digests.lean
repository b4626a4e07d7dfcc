import DogeOperator.Crypto

/-! The digests and the checked Base58 text as executable functions. No general result uses
them; they are the instances at which results are evaluated on concrete inputs. -/
namespace DogeOperator.Digests
open Bytes Crypto

def rotr32 (x : UInt32) (n : UInt32) : UInt32 := (x >>> n) ||| (x <<< (32 - n))
def rotl32 (x : UInt32) (n : UInt32) : UInt32 := (x <<< n) ||| (x >>> (32 - n))
def rotl64 (x : UInt64) (n : UInt64) : UInt64 := if n = 0 then x else (x <<< n) ||| (x >>> (64 - n))

/-- Split into blocks of `size` elements; the fuel is the number of blocks. -/
def blocks {α : Type} (size : ℕ) : ℕ → List α → List (List α)
  | 0, _ => []
  | count + 1, xs => xs.take size :: blocks size count (xs.drop size)

/-- Append `0x80`, zeros, and the eight length bytes, up to a multiple of 64 bytes. -/
def padded (lengthBytes : ByteString) (bytes : ByteString) : ByteString :=
  bytes ++ [0x80] ++ List.replicate ((119 - bytes.length % 64) % 64) 0 ++ lengthBytes

def sha256Constants : List UInt32 :=
  [ 0x428a2f98, 0x71374491, 0xb5c0fbcf, 0xe9b5dba5, 0x3956c25b, 0x59f111f1, 0x923f82a4, 0xab1c5ed5,
    0xd807aa98, 0x12835b01, 0x243185be, 0x550c7dc3, 0x72be5d74, 0x80deb1fe, 0x9bdc06a7, 0xc19bf174,
    0xe49b69c1, 0xefbe4786, 0x0fc19dc6, 0x240ca1cc, 0x2de92c6f, 0x4a7484aa, 0x5cb0a9dc, 0x76f988da,
    0x983e5152, 0xa831c66d, 0xb00327c8, 0xbf597fc7, 0xc6e00bf3, 0xd5a79147, 0x06ca6351, 0x14292967,
    0x27b70a85, 0x2e1b2138, 0x4d2c6dfc, 0x53380d13, 0x650a7354, 0x766a0abb, 0x81c2c92e, 0x92722c85,
    0xa2bfe8a1, 0xa81a664b, 0xc24b8b70, 0xc76c51a3, 0xd192e819, 0xd6990624, 0xf40e3585, 0x106aa070,
    0x19a4c116, 0x1e376c08, 0x2748774c, 0x34b0bcb5, 0x391c0cb3, 0x4ed8aa4a, 0x5b9cca4f, 0x682e6ff3,
    0x748f82ee, 0x78a5636f, 0x84c87814, 0x8cc70208, 0x90befffa, 0xa4506ceb, 0xbef9a3f7, 0xc67178f2]

/-- Extend the sixteen message words to sixty-four. -/
def sha256Schedule (block : List UInt32) : Array UInt32 :=
  (List.range 48).foldl (fun w i =>
    let a := w.getD (i + 1) 0
    let b := w.getD (i + 14) 0
    let s0 := rotr32 a 7 ^^^ rotr32 a 18 ^^^ (a >>> 3)
    let s1 := rotr32 b 17 ^^^ rotr32 b 19 ^^^ (b >>> 10)
    w.push (w.getD i 0 + s0 + w.getD (i + 9) 0 + s1)) block.toArray

structure Sha256State where
  a : UInt32
  b : UInt32
  c : UInt32
  d : UInt32
  e : UInt32
  f : UInt32
  g : UInt32
  h : UInt32

def Sha256State.round (s : Sha256State) (kw : UInt32) : Sha256State :=
  let s1 := rotr32 s.e 6 ^^^ rotr32 s.e 11 ^^^ rotr32 s.e 25
  let ch := (s.e &&& s.f) ^^^ (~~~s.e &&& s.g)
  let temp1 := s.h + s1 + ch + kw
  let s0 := rotr32 s.a 2 ^^^ rotr32 s.a 13 ^^^ rotr32 s.a 22
  let maj := (s.a &&& s.b) ^^^ (s.a &&& s.c) ^^^ (s.b &&& s.c)
  ⟨temp1 + (s0 + maj), s.a, s.b, s.c, s.d + temp1, s.e, s.f, s.g⟩

def Sha256State.add (s t : Sha256State) : Sha256State :=
  ⟨s.a + t.a, s.b + t.b, s.c + t.c, s.d + t.d, s.e + t.e, s.f + t.f, s.g + t.g, s.h + t.h⟩

def sha256Initial : Sha256State :=
  ⟨0x6a09e667, 0xbb67ae85, 0x3c6ef372, 0xa54ff53a, 0x510e527f, 0x9b05688c, 0x1f83d9ab, 0x5be0cd19⟩

def sha256Block (state : Sha256State) (block : ByteString) : Sha256State :=
  let w := sha256Schedule ((blocks 4 16 block).map u32OfBe)
  state.add <| (sha256Constants.zip w.toList).foldl (fun s kw => s.round (kw.1 + kw.2)) state

def sha256 (bytes : ByteString) : FixedBytes 32 :=
  let message := padded (beBytes 8 (8 * bytes.length)) bytes
  let s := (blocks 64 (message.length / 64) message).foldl sha256Block sha256Initial
  ⟨u32Be s.a ++ u32Be s.b ++ u32Be s.c ++ u32Be s.d ++ u32Be s.e ++ u32Be s.f ++ u32Be s.g ++
    u32Be s.h, by simp⟩

def ripemdWordsLeft : List ℕ :=
  [ 0, 1, 2, 3, 4, 5, 6, 7, 8, 9, 10, 11, 12, 13, 14, 15,
    7, 4, 13, 1, 10, 6, 15, 3, 12, 0, 9, 5, 2, 14, 11, 8,
    3, 10, 14, 4, 9, 15, 8, 1, 2, 7, 0, 6, 13, 11, 5, 12,
    1, 9, 11, 10, 0, 8, 12, 4, 13, 3, 7, 15, 14, 5, 6, 2,
    4, 0, 5, 9, 7, 12, 2, 10, 14, 1, 3, 8, 11, 6, 15, 13]

def ripemdWordsRight : List ℕ :=
  [ 5, 14, 7, 0, 9, 2, 11, 4, 13, 6, 15, 8, 1, 10, 3, 12,
    6, 11, 3, 7, 0, 13, 5, 10, 14, 15, 8, 12, 4, 9, 1, 2,
    15, 5, 1, 3, 7, 14, 6, 9, 11, 8, 12, 2, 10, 0, 4, 13,
    8, 6, 4, 1, 3, 11, 15, 0, 5, 12, 2, 13, 9, 7, 10, 14,
    12, 15, 10, 4, 1, 5, 8, 7, 6, 2, 13, 14, 0, 3, 9, 11]

def ripemdShiftsLeft : List UInt32 :=
  [ 11, 14, 15, 12, 5, 8, 7, 9, 11, 13, 14, 15, 6, 7, 9, 8,
    7, 6, 8, 13, 11, 9, 7, 15, 7, 12, 15, 9, 11, 7, 13, 12,
    11, 13, 6, 7, 14, 9, 13, 15, 14, 8, 13, 6, 5, 12, 7, 5,
    11, 12, 14, 15, 14, 15, 9, 8, 9, 14, 5, 6, 8, 6, 5, 12,
    9, 15, 5, 11, 6, 8, 13, 12, 5, 12, 13, 14, 11, 8, 5, 6]

def ripemdShiftsRight : List UInt32 :=
  [ 8, 9, 9, 11, 13, 15, 15, 5, 7, 7, 8, 11, 14, 14, 12, 6,
    9, 13, 15, 7, 12, 8, 9, 11, 7, 7, 12, 7, 6, 15, 13, 11,
    9, 7, 15, 11, 8, 6, 6, 14, 12, 13, 5, 14, 13, 13, 7, 5,
    15, 5, 8, 11, 14, 14, 6, 14, 6, 9, 12, 9, 12, 5, 15, 8,
    8, 5, 12, 9, 12, 5, 14, 6, 8, 13, 6, 5, 15, 13, 11, 11]

def ripemdFunction (round : ℕ) (x y z : UInt32) : UInt32 :=
  match round with
  | 0 => x ^^^ y ^^^ z
  | 1 => (x &&& y) ||| (~~~x &&& z)
  | 2 => (x ||| ~~~y) ^^^ z
  | 3 => (x &&& z) ||| (y &&& ~~~z)
  | _ => x ^^^ (y ||| ~~~z)

structure RipemdState where
  a : UInt32
  b : UInt32
  c : UInt32
  d : UInt32
  e : UInt32

def RipemdState.step (words : List UInt32) (round : ℕ) (k : UInt32) (s : RipemdState) (r : ℕ)
    (shift : UInt32) : RipemdState :=
  let t := rotl32 (s.a + ripemdFunction round s.b s.c s.d + words.getD r 0 + k) shift + s.e
  ⟨s.e, t, s.b, rotl32 s.c 10, s.d⟩

/-- One line of eighty steps: `order` maps a step's sixteenth to its function. -/
def ripemdLine (words : List UInt32) (order : ℕ → ℕ) (constants : List UInt32) (indices : List ℕ)
    (shifts : List UInt32) (s : RipemdState) : RipemdState :=
  ((indices.zip shifts).zipIdx).foldl (fun s step =>
    s.step words (order (step.2 / 16)) (constants.getD (step.2 / 16) 0) step.1.1 step.1.2) s

def ripemdBlock (s : RipemdState) (block : ByteString) : RipemdState :=
  let words := (blocks 4 16 block).map u32OfLe
  let l := ripemdLine words id [0, 0x5a827999, 0x6ed9eba1, 0x8f1bbcdc, 0xa953fd4e]
    ripemdWordsLeft ripemdShiftsLeft s
  let r := ripemdLine words (4 - ·) [0x50a28be6, 0x5c4dd124, 0x6d703ef3, 0x7a6d76e9, 0]
    ripemdWordsRight ripemdShiftsRight s
  ⟨s.b + l.c + r.d, s.c + l.d + r.e, s.d + l.e + r.a, s.e + l.a + r.b, s.a + l.b + r.c⟩

def ripemd160 (bytes : ByteString) : FixedBytes 20 :=
  let message := padded (leBytes 8 (8 * bytes.length)) bytes
  let s := (blocks 64 (message.length / 64) message).foldl ripemdBlock
    ⟨0x67452301, 0xefcdab89, 0x98badcfe, 0x10325476, 0xc3d2e1f0⟩
  ⟨u32Le s.a ++ u32Le s.b ++ u32Le s.c ++ u32Le s.d ++ u32Le s.e, by simp⟩

def keccakRoundConstants : List UInt64 :=
  [ 0x0000000000000001, 0x0000000000008082, 0x800000000000808a, 0x8000000080008000,
    0x000000000000808b, 0x0000000080000001, 0x8000000080008081, 0x8000000000008009,
    0x000000000000008a, 0x0000000000000088, 0x0000000080008009, 0x000000008000000a,
    0x000000008000808b, 0x800000000000008b, 0x8000000000008089, 0x8000000000008003,
    0x8000000000008002, 0x8000000000000080, 0x000000000000800a, 0x800000008000000a,
    0x8000000080008081, 0x8000000000008080, 0x0000000080000001, 0x8000000080008008]

def keccakRotations : List UInt64 :=
  [0, 1, 62, 28, 27, 36, 44, 6, 55, 20, 3, 10, 43, 25, 39, 41, 45, 15, 21, 8, 18, 2, 61, 56, 14]

/-- One round of Keccak-f on the twenty-five lanes `x + 5 * y`. -/
def keccakRound (a : List UInt64) (rc : UInt64) : List UInt64 :=
  let c := (List.range 5).map fun x => (List.range 5).foldl (fun acc y => acc ^^^ a.getD (x + 5 * y) 0) 0
  let d := (List.range 5).map fun x => c.getD ((x + 4) % 5) 0 ^^^ rotl64 (c.getD ((x + 1) % 5) 0) 1
  let theta := a.mapIdx fun i lane => lane ^^^ d.getD (i % 5) 0
  -- lane (x, y) moves to (y, 2x + 3y), so the lane at (x, y) comes from (x + 3y, x)
  let b := (List.range 25).map fun i =>
    let source := (i % 5 + 3 * (i / 5)) % 5 + 5 * (i % 5)
    rotl64 (theta.getD source 0) (keccakRotations.getD source 0)
  let chi := b.mapIdx fun i lane =>
    lane ^^^ (~~~(b.getD ((i % 5 + 1) % 5 + 5 * (i / 5)) 0) &&& b.getD ((i % 5 + 2) % 5 + 5 * (i / 5)) 0)
  chi.modify 0 (· ^^^ rc)

def keccakAbsorb (state : List UInt64) (block : ByteString) : List UInt64 :=
  let lanes := (blocks 8 17 block).map u64OfLe
  keccakRoundConstants.foldl keccakRound (state.mapIdx fun i lane => lane ^^^ lanes.getD i 0)

def keccak256 (bytes : ByteString) : FixedBytes 32 :=
  let zeros := List.replicate (135 - bytes.length % 136) (0 : UInt8)
  let message := (bytes ++ (0x01 :: zeros)).modify (bytes.length + zeros.length) (· ||| 0x80)
  let s := (blocks 136 (message.length / 136) message).foldl keccakAbsorb (List.replicate 25 0)
  ⟨u64Le (s.getD 0 0) ++ u64Le (s.getD 1 0) ++ u64Le (s.getD 2 0) ++ u64Le (s.getD 3 0), by simp⟩

def base58Alphabet : List Char := "123456789ABCDEFGHJKLMNPQRSTUVWXYZabcdefghijkmnopqrstuvwxyz".toList

/-- Base-58 digits, least significant first; the fuel bounds the number of digits. -/
def base58Digits : ℕ → ℕ → List ℕ
  | 0, _ => []
  | fuel + 1, n => if n = 0 then [] else n % 58 :: base58Digits fuel (n / 58)

def base58Encode (bytes : ByteString) : String :=
  let leading := (bytes.takeWhile (· = 0)).length
  let digits := (base58Digits (2 * bytes.length) (ofBe bytes)).reverse
  String.ofList (List.replicate leading '1' ++ digits.map (base58Alphabet.getD · '1'))

/-- The bytes of a number, least significant first and none of them leading zeros. -/
def base256Digits : ℕ → ℕ → ByteString
  | 0, _ => []
  | fuel + 1, n => if n = 0 then [] else UInt8.ofNat (n % 256) :: base256Digits fuel (n / 256)

def base58Decode (text : String) : Option ByteString := do
  let digits ← text.toList.mapM fun c => base58Alphabet.idxOf? c
  let leading := (digits.takeWhile (· = 0)).length
  let value := digits.foldl (fun n digit => 58 * n + digit) 0
  return List.replicate leading 0 ++ (base256Digits digits.length value).reverse

/-- The payload with the first four bytes of its double SHA-256 appended. -/
def base58EncodeCheck (bytes : ByteString) : String :=
  base58Encode (bytes ++ (sha256 (sha256 bytes).toList).toList.take 4)

scoped instance : Hashes where
  sha256 := sha256
  ripemd160 := ripemd160
  keccak256 := keccak256

scoped instance : Base58Check where
  encodeCheck := base58EncodeCheck

end DogeOperator.Digests
