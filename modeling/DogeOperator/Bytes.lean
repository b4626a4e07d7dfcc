import Mathlib.Data.Vector.Basic
import Mathlib.Tactic

/-! Byte strings, fixed-width little and big endian integers, and hexadecimal text.
Every wire format below is written with these codecs. -/
namespace DogeOperator.Bytes

abbrev ByteString := List UInt8

/-- A `[u8; n]` array: the length is part of the value. -/
abbrev FixedBytes (n : ℕ) := List.Vector UInt8 n

/-- The fallible conversion of a slice into an array of `n` bytes. -/
def toFixed? (n : ℕ) (bytes : ByteString) : Option (FixedBytes n) :=
  if h : bytes.length = n then some ⟨bytes, h⟩ else none

@[simp] theorem toFixed?_toList {n : ℕ} (v : FixedBytes n) : toFixed? n v.toList = some v := by
  simp only [toFixed?, List.Vector.toList_length, ↓reduceDIte]
  exact congrArg some (List.Vector.eq _ _ rfl)

theorem toFixed?_eq_some {n : ℕ} {bytes : ByteString} {v : FixedBytes n} :
    toFixed? n bytes = some v ↔ bytes = v.toList := by
  constructor
  · intro h
    unfold toFixed? at h
    split_ifs at h with hl
    cases h
    rfl
  · rintro rfl
    exact toFixed?_toList v

/-- The low `width` bytes of a number, least significant first. -/
def leBytes : ℕ → ℕ → ByteString
  | 0, _ => []
  | width + 1, value => UInt8.ofNat (value % 256) :: leBytes width (value / 256)

def ofLe : ByteString → ℕ
  | [] => 0
  | b :: bs => b.toNat + 256 * ofLe bs

@[simp] theorem leBytes_length (width value : ℕ) : (leBytes width value).length = width := by
  induction width generalizing value with
  | zero => rfl
  | succ width ih => simp [leBytes, ih]

theorem ofLe_lt (bytes : ByteString) : ofLe bytes < 256 ^ bytes.length := by
  induction bytes with
  | nil => simp [ofLe]
  | cons b bs ih =>
    have hb : b.toNat < 256 := b.toNat_lt
    simp only [ofLe, List.length_cons, pow_succ]
    omega

theorem ofLe_leBytes (width value : ℕ) : ofLe (leBytes width value) = value % 256 ^ width := by
  induction width generalizing value with
  | zero => simp [leBytes, ofLe, Nat.mod_one]
  | succ width ih =>
    simp only [leBytes, ofLe, ih, UInt8.toNat_ofNat', Nat.reducePow, Nat.mod_mod]
    rw [pow_succ, Nat.mul_comm (256 ^ width), Nat.mod_mul]

theorem leBytes_ofLe (bytes : ByteString) : leBytes bytes.length (ofLe bytes) = bytes := by
  induction bytes with
  | nil => rfl
  | cons b bs ih =>
    have hb : b.toNat < 256 := b.toNat_lt
    have hmod : (b.toNat + 256 * ofLe bs) % 256 = b.toNat := by omega
    have hdiv : (b.toNat + 256 * ofLe bs) / 256 = ofLe bs := by omega
    simp only [List.length_cons, leBytes, ofLe, hmod, hdiv, ih, UInt8.ofNat_toNat]

def beBytes (width value : ℕ) : ByteString := (leBytes width value).reverse

def ofBe (bytes : ByteString) : ℕ := ofLe bytes.reverse

@[simp] theorem beBytes_length (width value : ℕ) : (beBytes width value).length = width := by
  simp [beBytes]

theorem ofBe_beBytes (width value : ℕ) : ofBe (beBytes width value) = value % 256 ^ width := by
  simp [ofBe, beBytes, ofLe_leBytes]

theorem ofBe_lt (bytes : ByteString) : ofBe bytes < 256 ^ bytes.length := by
  simpa [ofBe] using ofLe_lt bytes.reverse

theorem beBytes_ofBe (bytes : ByteString) : beBytes bytes.length (ofBe bytes) = bytes := by
  have h := leBytes_ofLe bytes.reverse
  rw [List.length_reverse] at h
  simp [beBytes, ofBe, h]

/-- A block of known length splits off the front of a concatenation. -/
theorem take_drop_block {α : Type*} {n : ℕ} {block : List α} (rest : List α)
    (h : block.length = n) :
    (block ++ rest).take n = block ∧ (block ++ rest).drop n = rest :=
  ⟨List.take_left' h, List.drop_left' h⟩

/-! Fixed-width unsigned integers on the wire. -/

def u16Le (v : UInt16) : ByteString := leBytes 2 v.toNat
def u32Le (v : UInt32) : ByteString := leBytes 4 v.toNat
def u64Le (v : UInt64) : ByteString := leBytes 8 v.toNat
def u16Be (v : UInt16) : ByteString := beBytes 2 v.toNat
def u32Be (v : UInt32) : ByteString := beBytes 4 v.toNat
def u64Be (v : UInt64) : ByteString := beBytes 8 v.toNat

def u16OfLe (bytes : ByteString) : UInt16 := UInt16.ofNat (ofLe bytes)
def u32OfLe (bytes : ByteString) : UInt32 := UInt32.ofNat (ofLe bytes)
def u64OfLe (bytes : ByteString) : UInt64 := UInt64.ofNat (ofLe bytes)
def u16OfBe (bytes : ByteString) : UInt16 := UInt16.ofNat (ofBe bytes)
def u32OfBe (bytes : ByteString) : UInt32 := UInt32.ofNat (ofBe bytes)
def u64OfBe (bytes : ByteString) : UInt64 := UInt64.ofNat (ofBe bytes)

@[simp] theorem u16Le_length (v : UInt16) : (u16Le v).length = 2 := leBytes_length _ _
@[simp] theorem u32Le_length (v : UInt32) : (u32Le v).length = 4 := leBytes_length _ _
@[simp] theorem u64Le_length (v : UInt64) : (u64Le v).length = 8 := leBytes_length _ _
@[simp] theorem u16Be_length (v : UInt16) : (u16Be v).length = 2 := beBytes_length _ _
@[simp] theorem u32Be_length (v : UInt32) : (u32Be v).length = 4 := beBytes_length _ _
@[simp] theorem u64Be_length (v : UInt64) : (u64Be v).length = 8 := beBytes_length _ _

@[simp] theorem u16OfLe_u16Le (v : UInt16) : u16OfLe (u16Le v) = v := by
  rw [u16OfLe, u16Le, ofLe_leBytes, Nat.mod_eq_of_lt (by simpa using v.toNat_lt), UInt16.ofNat_toNat]

@[simp] theorem u32OfLe_u32Le (v : UInt32) : u32OfLe (u32Le v) = v := by
  rw [u32OfLe, u32Le, ofLe_leBytes, Nat.mod_eq_of_lt (by simpa using v.toNat_lt), UInt32.ofNat_toNat]

@[simp] theorem u64OfLe_u64Le (v : UInt64) : u64OfLe (u64Le v) = v := by
  rw [u64OfLe, u64Le, ofLe_leBytes, Nat.mod_eq_of_lt (by simpa using v.toNat_lt), UInt64.ofNat_toNat]

@[simp] theorem u16OfBe_u16Be (v : UInt16) : u16OfBe (u16Be v) = v := by
  rw [u16OfBe, u16Be, ofBe_beBytes, Nat.mod_eq_of_lt (by simpa using v.toNat_lt), UInt16.ofNat_toNat]

@[simp] theorem u32OfBe_u32Be (v : UInt32) : u32OfBe (u32Be v) = v := by
  rw [u32OfBe, u32Be, ofBe_beBytes, Nat.mod_eq_of_lt (by simpa using v.toNat_lt), UInt32.ofNat_toNat]

@[simp] theorem u64OfBe_u64Be (v : UInt64) : u64OfBe (u64Be v) = v := by
  rw [u64OfBe, u64Be, ofBe_beBytes, Nat.mod_eq_of_lt (by simpa using v.toNat_lt), UInt64.ofNat_toNat]

theorem u16Be_u16OfBe {bytes : ByteString} (h : bytes.length = 2) : u16Be (u16OfBe bytes) = bytes := by
  have hlt : ofBe bytes < 2 ^ 16 := by simpa [h] using ofBe_lt bytes
  have hbytes := beBytes_ofBe bytes
  rwa [u16Be, u16OfBe, UInt16.toNat_ofNat', Nat.mod_eq_of_lt hlt, ← h]

theorem u32Be_u32OfBe {bytes : ByteString} (h : bytes.length = 4) : u32Be (u32OfBe bytes) = bytes := by
  have hlt : ofBe bytes < 2 ^ 32 := by simpa [h] using ofBe_lt bytes
  have hbytes := beBytes_ofBe bytes
  rwa [u32Be, u32OfBe, UInt32.toNat_ofNat', Nat.mod_eq_of_lt hlt, ← h]

theorem u64Be_u64OfBe {bytes : ByteString} (h : bytes.length = 8) : u64Be (u64OfBe bytes) = bytes := by
  have hlt : ofBe bytes < 2 ^ 64 := by simpa [h] using ofBe_lt bytes
  have hbytes := beBytes_ofBe bytes
  rwa [u64Be, u64OfBe, UInt64.toNat_ofNat', Nat.mod_eq_of_lt hlt, ← h]

/-! Hexadecimal text. -/

def hexDigit (n : ℕ) : Char :=
  if n < 10 then Char.ofNat (48 + n) else Char.ofNat (87 + n)

/-- Both cases are read, as the decoder of the `hex` crate does. -/
def hexValue (c : Char) : Option ℕ :=
  if '0' ≤ c ∧ c ≤ '9' then some (c.toNat - 48)
  else if 'a' ≤ c ∧ c ≤ 'f' then some (c.toNat - 87)
  else if 'A' ≤ c ∧ c ≤ 'F' then some (c.toNat - 55)
  else none

def hexChars : ByteString → List Char
  | [] => []
  | b :: bs => hexDigit (b.toNat / 16) :: hexDigit (b.toNat % 16) :: hexChars bs

def hexEncode (bytes : ByteString) : String := String.ofList (hexChars bytes)

def hexPairs : List Char → Except String ByteString
  | [] => .ok []
  | [_] => .error "Odd number of digits"
  | a :: b :: rest =>
    match hexValue a, hexValue b with
    | some hi, some lo => (hexPairs rest).map (UInt8.ofNat (16 * hi + lo) :: ·)
    | _, _ => .error "Invalid character"

def hexDecode (text : String) : Except String ByteString := hexPairs text.toList

theorem hexValue_hexDigit {n : ℕ} (h : n < 16) : hexValue (hexDigit n) = some n := by
  interval_cases n <;> decide

theorem hexPairs_hexChars (bytes : ByteString) : hexPairs (hexChars bytes) = .ok bytes := by
  induction bytes with
  | nil => rfl
  | cons b bs ih =>
    have hb : b.toNat < 256 := b.toNat_lt
    have hhi : b.toNat / 16 < 16 := by omega
    have hlo : b.toNat % 16 < 16 := by omega
    have hsum : 16 * (b.toNat / 16) + b.toNat % 16 = b.toNat := by omega
    simp only [hexChars, hexPairs, hexValue_hexDigit hhi, hexValue_hexDigit hlo, hsum, ih,
      UInt8.ofNat_toNat]
    rfl

@[simp] theorem hexDecode_hexEncode (bytes : ByteString) :
    hexDecode (hexEncode bytes) = .ok bytes := by
  simp [hexDecode, hexEncode, hexPairs_hexChars]

/-- `str::eq_ignore_ascii_case`: equality after lowering ASCII letters. -/
def eqIgnoreAsciiCase (a b : String) : Bool :=
  a.toList.map Char.toLower = b.toList.map Char.toLower

@[simp] theorem eqIgnoreAsciiCase_refl (a : String) : eqIgnoreAsciiCase a a = true := by
  simp [eqIgnoreAsciiCase]

end DogeOperator.Bytes
