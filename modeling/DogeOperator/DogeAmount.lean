import DogeOperator.IntegerText
import DogeOperator.Json
import DogeOperator.Panics
import Mathlib.Data.List.DropRight

/-! Dogecoin amounts as Core writes them: decimal texts, plain or with an exponent, that are read
as satoshis without binary floating point. -/
namespace DogeOperator.DogeAmount
open Outcome Panics DecimalText IntegerText

def satsPerDoge : UInt64 := 100000000

/-! Integers. -/

/-- Whether `i32` arithmetic that overflows panics or wraps around. -/
inductive Profile
  | dev
  | release
  deriving DecidableEq

def FitsI32 (n : ℤ) : Prop := -2 ^ 31 ≤ n ∧ n < 2 ^ 31

instance (n : ℤ) : Decidable (FitsI32 n) := inferInstanceAs (Decidable (_ ∧ _))

/-- The `i32` for an exact result. -/
def Profile.i32 (profile : Profile) (exact : ℤ) : Checked ℤ :=
  if FitsI32 exact then .ok exact
  else match profile with
    | .dev => .error .panic
    | .release => .ok (exact.bmod (2 ^ 32))

def checkedMul (a b : UInt64) : Option UInt64 :=
  if a.toNat * b.toNat < 2 ^ 64 then some (a * b) else none

/-- `10u64.checked_pow(power)` -/
def checkedPow10 (power : ℕ) : Option UInt64 :=
  if 10 ^ power < 2 ^ 64 then some (UInt64.ofNat (10 ^ power)) else none

/-! Amounts. -/

/-- `char::is_whitespace` -/
def isWhitespace (c : Char) : Bool :=
  c.toNat ∈ [0x20, 0x85, 0xa0, 0x1680, 0x2028, 0x2029, 0x202f, 0x205f, 0x3000] ||
    (0x09 ≤ c.toNat && c.toNat ≤ 0x0d) || (0x2000 ≤ c.toNat && c.toNat ≤ 0x200a)

def trim (text : List Char) : List Char := (text.dropWhile isWhitespace).rdropWhile isWhitespace

def withText (message : String) (text : List Char) : String := message ++ String.ofList text

/-- `fractional_digits += 1` behind the point -/
def countDigit (profile : Profile) (sawDot : Bool) (fractionalDigits : ℤ) : Checked ℤ :=
  if sawDot then profile.i32 (fractionalDigits + 1) else .ok fractionalDigits

/-- `for byte in mantissa.bytes()` with the digits so far, how many of them follow the point, and
whether there was one. -/
def scanMantissa (profile : Profile) (text : List Char) :
    List Char → ℤ → Bool → List Char → Checked (List Char × ℤ)
  | digits, fractionalDigits, _, [] => .ok (digits, fractionalDigits)
  | digits, fractionalDigits, sawDot, c :: rest =>
    if c = '.' ∧ sawDot = false then scanMantissa profile text digits fractionalDigits true rest
    else if c.isDigit then do
      let fractionalDigits ← countDigit profile sawDot fractionalDigits
      scanMantissa profile text (digits ++ [c]) fractionalDigits sawDot rest
    else lift (bail (withText "invalid Dogecoin scientific amount: " text))

/-- What `parse_scientific_doge_decimal` does with the digits and the shift. -/
def shiftedAmount (text digits : List Char) (satoshiShift : ℤ) : Result UInt64 := do
  if satoshiShift < 0 then
    bail (withText "Dogecoin amount has sub-satoshi precision: " text)
  let base ← context (withText "invalid Dogecoin scientific amount: " text) (orFail (parseU64 digits))
  let power ← orBail (checkedPow10 satoshiShift.toNat)
    (withText "Dogecoin amount exponent overflows: " text)
  orBail (checkedMul base power) (withText "Dogecoin amount overflows u64 satoshis: " text)

def parseScientificDogeDecimal (profile : Profile) (text : List Char) (exponentIndex : ℕ) :
    Checked UInt64 := do
  let mantissa := text.take exponentIndex
  let exponentWithMarker := text.drop exponentIndex
  let exponent ← lift (context (withText "invalid Dogecoin amount exponent: " text)
    (orFail (parseI32 (exponentWithMarker.drop 1))))
  let (digits, fractionalDigits) ← scanMantissa profile text [] 0 false mantissa
  if digits = [] then
    lift (bail (withText "invalid Dogecoin scientific amount: " text))
  let difference ← profile.i32 (exponent - fractionalDigits)
  let satoshiShift ← profile.i32 (difference + 8)
  lift (shiftedAmount text digits satoshiShift)

/-- `fraction_sats` -/
def fractionSats (normalized fraction : List Char) : Result UInt64 :=
  if fraction = [] then .ok 0
  else do
    let digits ← context (withText "invalid fractional DOGE amount: " fraction) (orFail (parseU64 fraction))
    orBail (checkedMul digits (UInt64.ofNat (10 ^ (8 - fraction.length))))
      (withText "Dogecoin fractional amount overflows: " normalized)

/-- What `parse_doge_decimal` does without an exponent. -/
def parsePlainDogeDecimal (normalized : List Char) : Result UInt64 := do
  if normalized.head? = some '+' then
    bail (withText "Dogecoin amount must use unsigned decimal notation: " normalized)
  let parts := normalized.splitOn '.'
  let whole := parts.headD []
  let fraction := parts.getD 1 []
  if 2 < parts.length ∨ whole = [] then
    bail (withText "invalid Dogecoin decimal amount: " normalized)
  if ¬ (whole.all Char.isDigit ∧ fraction.all Char.isDigit) then
    bail (withText "invalid Dogecoin decimal amount: " normalized)
  if 8 < fraction.length then
    bail (withText "Dogecoin amount has more than eight fractional digits: " normalized)
  let wholeDoge ← context (withText "invalid whole-DOGE amount: " whole) (orFail (parseU64 whole))
  let wholeSats ← orBail (checkedMul wholeDoge satsPerDoge)
    (withText "Dogecoin amount overflows u64 satoshis: " normalized)
  let fractionSats ← fractionSats normalized fraction
  orBail (checkedAdd wholeSats fractionSats)
    (withText "Dogecoin amount overflows u64 satoshis: " normalized)

def parseDogeDecimal (profile : Profile) (text : List Char) : Checked UInt64 := do
  let normalized := trim text
  if normalized = [] then
    lift (bail "Dogecoin amount is empty")
  if normalized.head? = some '-' then
    lift (bail (withText "Dogecoin amount cannot be negative: " normalized))
  match normalized.findIdx? isMarker with
  | some exponentIndex => parseScientificDogeDecimal profile normalized exponentIndex
  | none => lift (parsePlainDogeDecimal normalized)

/-- A JSON number by its text, or a string. -/
def dogeAmountToSats (profile : Profile) : Json.Value → Checked UInt64
  | .integer value => parseDogeDecimal profile (toString value).toList
  | .float literal => parseDogeDecimal profile literal.toList
  | .string text => parseDogeDecimal profile text.toList
  | other => lift (bail s!"Dogecoin amount must be a number or decimal string, got {other.display}")

end DogeOperator.DogeAmount
