import DogeOperator.Bytes
import DogeOperator.Outcome

/-! Standard Base64 text with canonical padding, and the whitespace and `0x` trimming that the
clients apply before they decode. -/
namespace DogeOperator.Base64
open Bytes Outcome

def sextetChar (n : ℕ) : Char :=
  if n < 26 then Char.ofNat (65 + n)
  else if n < 52 then Char.ofNat (71 + n)
  else if n < 62 then Char.ofNat (n - 4)
  else if n = 62 then '+'
  else '/'

def sextetValue (c : Char) : Option ℕ :=
  if 'A' ≤ c ∧ c ≤ 'Z' then some (c.toNat - 65)
  else if 'a' ≤ c ∧ c ≤ 'z' then some (c.toNat - 71)
  else if '0' ≤ c ∧ c ≤ '9' then some (c.toNat + 4)
  else if c = '+' then some 62
  else if c = '/' then some 63
  else none

theorem sextetValue_sextetChar {n : ℕ} (h : n < 64) : sextetValue (sextetChar n) = some n := by
  interval_cases n <;> decide

theorem sextetChar_ne_pad {n : ℕ} (h : n < 64) : sextetChar n ≠ '=' := by
  interval_cases n <;> decide

/-- Three bytes become four sextets; a shorter tail is padded. -/
def encodeChars : ByteString → List Char
  | [] => []
  | [a] => [sextetChar (a.toNat / 4), sextetChar (a.toNat % 4 * 16), '=', '=']
  | [a, b] =>
    [sextetChar (a.toNat / 4), sextetChar (a.toNat % 4 * 16 + b.toNat / 16),
      sextetChar (b.toNat % 16 * 4), '=']
  | a :: b :: c :: rest =>
    sextetChar (a.toNat / 4) :: sextetChar (a.toNat % 4 * 16 + b.toNat / 16) ::
      sextetChar (b.toNat % 16 * 4 + c.toNat / 64) :: sextetChar (c.toNat % 64) :: encodeChars rest

def encode (bytes : ByteString) : String := String.ofList (encodeChars bytes)

/-- The last group of four; the bits behind the last byte must be zero. -/
def decodePadded (w x y : Char) : Except String ByteString :=
  match sextetValue w, sextetValue x, sextetValue y with
  | some w, some x, none =>
    if y = '=' ∧ x % 16 = 0 then .ok [UInt8.ofNat (w * 4 + x / 16)] else .error "Invalid last symbol"
  | some w, some x, some y =>
    if y % 4 = 0 then .ok [UInt8.ofNat (w * 4 + x / 16), UInt8.ofNat (x % 16 * 16 + y / 4)]
    else .error "Invalid last symbol"
  | _, _, _ => .error "Invalid symbol"

def decodeGroup (w x y z : Char) : Except String ByteString :=
  match sextetValue w, sextetValue x, sextetValue y, sextetValue z with
  | some w, some x, some y, some z =>
    .ok [UInt8.ofNat (w * 4 + x / 16), UInt8.ofNat (x % 16 * 16 + y / 4), UInt8.ofNat (y % 4 * 64 + z)]
  | _, _, _, _ => .error "Invalid symbol"

def decodeChars : List Char → Except String ByteString
  | [] => .ok []
  | w :: x :: y :: z :: rest =>
    if z = '=' then
      if rest = [] then decodePadded w x y else .error "Invalid padding"
    else do
      let group ← decodeGroup w x y z
      let bytes ← decodeChars rest
      return group ++ bytes
  | _ => .error "Invalid padding"

def decode (text : String) : Except String ByteString := decodeChars text.toList

theorem decodePadded_one (a : UInt8) :
    decodePadded (sextetChar (a.toNat / 4)) (sextetChar (a.toNat % 4 * 16)) '=' = .ok [a] := by
  have ha := a.toNat_lt
  have hpad : sextetValue '=' = none := by decide
  have hzero : a.toNat % 4 * 16 % 16 = 0 := by omega
  have hbyte : a.toNat / 4 * 4 + a.toNat % 4 * 16 / 16 = a.toNat := by omega
  simp only [decodePadded, sextetValue_sextetChar (show a.toNat / 4 < 64 by omega),
    sextetValue_sextetChar (show a.toNat % 4 * 16 < 64 by omega), hpad, hzero, hbyte, and_self,
    ↓reduceIte, UInt8.ofNat_toNat]

theorem decodePadded_two (a b : UInt8) :
    decodePadded (sextetChar (a.toNat / 4)) (sextetChar (a.toNat % 4 * 16 + b.toNat / 16))
      (sextetChar (b.toNat % 16 * 4)) = .ok [a, b] := by
  have ha := a.toNat_lt
  have hb := b.toNat_lt
  have hzero : b.toNat % 16 * 4 % 4 = 0 := by omega
  have hfirst : a.toNat / 4 * 4 + (a.toNat % 4 * 16 + b.toNat / 16) / 16 = a.toNat := by omega
  have hsecond : (a.toNat % 4 * 16 + b.toNat / 16) % 16 * 16 + b.toNat % 16 * 4 / 4 = b.toNat := by
    omega
  simp only [decodePadded, sextetValue_sextetChar (show a.toNat / 4 < 64 by omega),
    sextetValue_sextetChar (show a.toNat % 4 * 16 + b.toNat / 16 < 64 by omega),
    sextetValue_sextetChar (show b.toNat % 16 * 4 < 64 by omega), hzero, hfirst, hsecond,
    ↓reduceIte, UInt8.ofNat_toNat]

theorem decodeGroup_three (a b c : UInt8) :
    decodeGroup (sextetChar (a.toNat / 4)) (sextetChar (a.toNat % 4 * 16 + b.toNat / 16))
      (sextetChar (b.toNat % 16 * 4 + c.toNat / 64)) (sextetChar (c.toNat % 64)) =
      .ok [a, b, c] := by
  have ha := a.toNat_lt
  have hb := b.toNat_lt
  have hc := c.toNat_lt
  have hfirst : a.toNat / 4 * 4 + (a.toNat % 4 * 16 + b.toNat / 16) / 16 = a.toNat := by omega
  have hsecond : (a.toNat % 4 * 16 + b.toNat / 16) % 16 * 16 +
      (b.toNat % 16 * 4 + c.toNat / 64) / 4 = b.toNat := by omega
  have hthird : (b.toNat % 16 * 4 + c.toNat / 64) % 4 * 64 + c.toNat % 64 = c.toNat := by omega
  simp only [decodeGroup, sextetValue_sextetChar (show a.toNat / 4 < 64 by omega),
    sextetValue_sextetChar (show a.toNat % 4 * 16 + b.toNat / 16 < 64 by omega),
    sextetValue_sextetChar (show b.toNat % 16 * 4 + c.toNat / 64 < 64 by omega),
    sextetValue_sextetChar (show c.toNat % 64 < 64 by omega), hfirst, hsecond, hthird,
    UInt8.ofNat_toNat]

theorem decodeChars_encodeChars (bytes : ByteString) :
    decodeChars (encodeChars bytes) = .ok bytes := by
  induction bytes using encodeChars.induct with
  | case1 => rfl
  | case2 a => simp only [encodeChars, decodeChars, ↓reduceIte, decodePadded_one]
  | case3 a b => simp only [encodeChars, decodeChars, ↓reduceIte, decodePadded_two]
  | case4 a b c rest ih =>
    have hpad := sextetChar_ne_pad (show c.toNat % 64 < 64 by omega)
    simp only [encodeChars, decodeChars, if_neg hpad, decodeGroup_three, ih, ok_bind]
    rfl

@[simp] theorem decode_encode (bytes : ByteString) : decode (encode bytes) = .ok bytes := by
  simp [decode, encode, decodeChars_encodeChars]

/-! Trimming. -/

/-- `char::is_whitespace`: the Unicode property `White_Space`. -/
def isWhitespace (c : Char) : Bool :=
  (0x09 ≤ c.toNat && c.toNat ≤ 0x0d) || (0x2000 ≤ c.toNat && c.toNat ≤ 0x200a) ||
    [0x20, 0x85, 0xa0, 0x1680, 0x2028, 0x2029, 0x202f, 0x205f, 0x3000].contains c.toNat

/-- `str::trim` -/
def trim (text : String) : String :=
  String.ofList ((text.toList.dropWhile isWhitespace).reverse.dropWhile isWhitespace).reverse

theorem dropWhile_of_all_false {α : Type} {p : α → Bool} {xs : List α}
    (h : ∀ x ∈ xs, p x = false) : xs.dropWhile p = xs := by
  cases xs with
  | nil => rfl
  | cons x xs => rw [List.dropWhile_cons_of_neg (by simp [h x List.mem_cons_self])]

theorem trim_of_visible {text : String} (h : ∀ c ∈ text.toList, isWhitespace c = false) :
    trim text = text := by
  have hreverse : ∀ c ∈ text.toList.reverse, isWhitespace c = false := fun c hc =>
    h c (List.mem_reverse.mp hc)
  rw [trim, dropWhile_of_all_false h, dropWhile_of_all_false hreverse, List.reverse_reverse,
    String.ofList_toList]

theorem sextetChar_visible {n : ℕ} (h : n < 64) : isWhitespace (sextetChar n) = false := by
  interval_cases n <;> decide

theorem encodeChars_visible (bytes : ByteString) :
    ∀ c ∈ encodeChars bytes, isWhitespace c = false := by
  have hpad : isWhitespace '=' = false := by decide
  induction bytes using encodeChars.induct with
  | case1 => simp [encodeChars]
  | case2 a =>
    have ha := a.toNat_lt
    simp only [encodeChars, List.mem_cons, List.not_mem_nil, or_false, forall_eq_or_imp, forall_eq]
    exact ⟨sextetChar_visible (by omega), sextetChar_visible (by omega), hpad, hpad⟩
  | case3 a b =>
    have ha := a.toNat_lt
    have hb := b.toNat_lt
    simp only [encodeChars, List.mem_cons, List.not_mem_nil, or_false, forall_eq_or_imp, forall_eq]
    exact ⟨sextetChar_visible (by omega), sextetChar_visible (by omega),
      sextetChar_visible (by omega), hpad⟩
  | case4 a b c rest ih =>
    have ha := a.toNat_lt
    have hb := b.toNat_lt
    have hc := c.toNat_lt
    simp only [encodeChars, List.mem_cons, forall_eq_or_imp]
    exact ⟨sextetChar_visible (by omega), sextetChar_visible (by omega),
      sextetChar_visible (by omega), sextetChar_visible (by omega), ih⟩

/-- Encoded text survives `trim`. -/
@[simp] theorem trim_encode (bytes : ByteString) : trim (encode bytes) = encode bytes := by
  apply trim_of_visible
  rw [encode, String.toList_ofList]
  exact encodeChars_visible bytes

/-- `strip_prefix("0x").unwrap_or(value)` -/
def stripHexPrefix (text : String) : String :=
  match text.toList with
  | '0' :: 'x' :: rest => String.ofList rest
  | _ => text

def trimHexChars : List Char → List Char
  | '0' :: 'x' :: rest => trimHexChars rest
  | chars => chars

/-- `trim_start_matches("0x")` -/
def trimHexPrefixes (text : String) : String := String.ofList (trimHexChars text.toList)

theorem hexDigit_ne_x {n : ℕ} (h : n < 16) : hexDigit n ≠ 'x' := by
  interval_cases n <;> decide

theorem hexChars_unmarked (bytes : ByteString) (rest : List Char) :
    hexChars bytes ≠ '0' :: 'x' :: rest := by
  cases bytes with
  | nil => simp [hexChars]
  | cons b bs =>
    intro h
    exact hexDigit_ne_x (show b.toNat % 16 < 16 by omega) (List.cons.inj (List.cons.inj h).2).1

@[simp] theorem stripHexPrefix_hexEncode (bytes : ByteString) :
    stripHexPrefix (hexEncode bytes) = hexEncode bytes := by
  unfold stripHexPrefix hexEncode
  rw [String.toList_ofList]
  split
  · rename_i rest heq
    exact absurd heq (hexChars_unmarked bytes rest)
  · rfl

@[simp] theorem trimHexPrefixes_hexEncode (bytes : ByteString) :
    trimHexPrefixes (hexEncode bytes) = hexEncode bytes := by
  unfold trimHexPrefixes hexEncode
  rw [String.toList_ofList]
  unfold trimHexChars
  split
  · rename_i rest heq
    exact absurd heq (hexChars_unmarked bytes rest)
  · rfl

end DogeOperator.Base64
