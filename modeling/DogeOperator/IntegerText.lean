import DogeOperator.DecimalText
import DogeOperator.Outcome

/-! Integers of a fixed width in decimal texts, as Rust's `str::parse` reads them: digits with or
without a sign, within the bounds of the type. -/
namespace DogeOperator.IntegerText
open Outcome DecimalText

/-- Digits from the left, as long as the number stays within the limit. -/
def accumulate (limit : ℕ) (overflow : String) : ℕ → List Char → Except String ℕ
  | n, [] => .ok n
  | n, c :: rest =>
    if c.isDigit then
      let next := 10 * n + (c.toNat - '0'.toNat)
      if limit < next then .error overflow else accumulate limit overflow next rest
    else .error "invalid digit found in string"

/-- `str::parse` into integers from `-low` to `high`; without a `low` it is unsigned. -/
def parseInteger (low high : ℕ) (text : List Char) : Except String ℤ :=
  let positive := fun digits => (accumulate high "number too large to fit in target type" 0 digits).map
    fun n : ℕ => (n : ℤ)
  let negative := fun digits => (accumulate low "number too small to fit in target type" 0 digits).map
    fun n : ℕ => -(n : ℤ)
  match text with
  | [] => .error "cannot parse integer from empty string"
  | c :: rest =>
    if rest = [] ∧ isSign c then .error "invalid digit found in string"
    else if c = '+' then positive rest
    else if c = '-' ∧ 0 < low then negative rest
    else positive text

def parseU32 (text : List Char) : Except String UInt32 :=
  (parseInteger 0 (2 ^ 32 - 1) text).map fun n => UInt32.ofNat n.toNat

def parseU64 (text : List Char) : Except String UInt64 :=
  (parseInteger 0 (2 ^ 64 - 1) text).map fun n => UInt64.ofNat n.toNat

def parseI32 (text : List Char) : Except String ℤ := parseInteger (2 ^ 31) (2 ^ 31 - 1) text

/-! What the integer parsers accept. -/

theorem le_ofDigitChars (digits : List Char) (n : ℕ) : n ≤ Nat.ofDigitChars 10 digits n := by
  have hpow : 1 ≤ 10 ^ digits.length := Nat.one_le_pow _ _ (by norm_num)
  rw [Nat.ofDigitChars_eq_ofDigitChars_zero]
  nlinarith [Nat.zero_le n, Nat.zero_le (Nat.ofDigitChars 10 digits 0)]

theorem accumulate_eq_ok {limit n k : ℕ} {overflow : String} {digits : List Char} (hn : n ≤ limit) :
    accumulate limit overflow n digits = .ok k ↔
      Digits digits ∧ k = Nat.ofDigitChars 10 digits n ∧ k ≤ limit := by
  induction digits generalizing n with
  | nil =>
    rw [accumulate, Except.ok.injEq, Nat.ofDigitChars_nil]
    constructor
    · rintro rfl
      exact ⟨by simp [Digits], rfl, hn⟩
    · exact fun h => h.2.1.symm
  | cons c digits ih =>
    rw [accumulate, Digits, List.forall_mem_cons, Nat.ofDigitChars_cons]
    by_cases hc : c.isDigit = true
    · rw [if_pos hc]
      dsimp only
      by_cases hlimit : limit < 10 * n + (c.toNat - '0'.toNat)
      · have hle := le_ofDigitChars digits (10 * n + (c.toNat - '0'.toNat))
        rw [if_pos hlimit]
        constructor
        · exact fun h => by cases h
        · rintro ⟨-, rfl, hk⟩
          omega
      · rw [if_neg hlimit, ih (by omega)]
        simp [hc, Digits]
    · rw [if_neg hc]
      simp [hc]

theorem positive_eq_ok {limit : ℕ} {overflow : String} {digits : List Char} {n : ℤ} :
    (accumulate limit overflow 0 digits).map (fun k : ℕ => (k : ℤ)) = .ok n ↔
      Digits digits ∧ n = value digits ∧ n ≤ limit := by
  rw [map_eq_ok]
  constructor
  · rintro ⟨k, hk, rfl⟩
    obtain ⟨hdigits, rfl, hle⟩ := (accumulate_eq_ok (Nat.zero_le _)).mp hk
    exact ⟨hdigits, rfl, by exact_mod_cast hle⟩
  · rintro ⟨hdigits, rfl, hle⟩
    exact ⟨_, (accumulate_eq_ok (Nat.zero_le _)).mpr ⟨hdigits, rfl, by exact_mod_cast hle⟩, rfl⟩

theorem negative_eq_ok {limit : ℕ} {overflow : String} {digits : List Char} {n : ℤ} :
    (accumulate limit overflow 0 digits).map (fun k : ℕ => -(k : ℤ)) = .ok n ↔
      Digits digits ∧ n = -(value digits : ℤ) ∧ -(limit : ℤ) ≤ n := by
  rw [map_eq_ok]
  constructor
  · rintro ⟨k, hk, rfl⟩
    obtain ⟨hdigits, rfl, hle⟩ := (accumulate_eq_ok (Nat.zero_le _)).mp hk
    exact ⟨hdigits, rfl, by exact_mod_cast neg_le_neg (Int.ofNat_le.mpr hle)⟩
  · rintro ⟨hdigits, rfl, hle⟩
    refine ⟨_, (accumulate_eq_ok (Nat.zero_le _)).mpr ⟨hdigits, rfl, ?_⟩, rfl⟩
    change value digits ≤ limit
    omega

theorem Signed.text_cons {n : Signed} {c : Char} {rest : List Char} (h : n.text = c :: rest) :
    (n.sign = none ∧ n.digits = c :: rest) ∨ (n.sign = some c ∧ n.digits = rest) := by
  cases hsign : n.sign with
  | none =>
    rw [Signed.text, hsign] at h
    exact .inl ⟨rfl, h⟩
  | some c' =>
    rw [Signed.text, hsign, Option.toList_some, List.singleton_append, List.cons.injEq] at h
    obtain ⟨rfl, hrest⟩ := h
    exact .inr ⟨rfl, hrest⟩

/-- A text is accepted exactly when it is digits with or without a sign, within the bounds. -/
theorem parseInteger_eq_ok {low high : ℕ} {text : List Char} {n : ℤ} (hlow : 0 < low) :
    parseInteger low high text = .ok n ↔
      ∃ s : Signed, s.text = text ∧ s.value = n ∧ -(low : ℤ) ≤ n ∧ n ≤ high := by
  cases text with
  | nil =>
    constructor
    · exact fun h => by cases h
    · rintro ⟨s, htext, -⟩
      exact absurd (List.append_eq_nil_iff.mp htext).2 s.nonempty
  | cons c rest =>
    rw [parseInteger]
    dsimp only
    by_cases halone : rest = [] ∧ isSign c = true
    · rw [if_pos halone]
      constructor
      · exact fun h => by cases h
      · rintro ⟨s, htext, -⟩
        rcases Signed.text_cons htext with ⟨-, hdigits⟩ | ⟨-, hdigits⟩
        · have hdigit := s.digits_digits c (by simp [hdigits])
          exact absurd halone.2 (by simp [Signed.isDigit_not_isSign hdigit])
        · exact absurd (hdigits.trans halone.1) s.nonempty
    · rw [if_neg halone]
      by_cases hplus : c = '+'
      · subst hplus
        have hrest : rest ≠ [] := fun hrest => halone ⟨hrest, rfl⟩
        rw [if_pos rfl, positive_eq_ok]
        constructor
        · rintro ⟨hdigits, rfl, hle⟩
          exact ⟨⟨some '+', rest, by simp [isSign], hdigits, hrest⟩, rfl, rfl, by omega, hle⟩
        · rintro ⟨s, htext, rfl, hlow, hhigh⟩
          rcases Signed.text_cons htext with ⟨-, hdigits⟩ | ⟨hsign, rfl⟩
          · exact absurd (s.digits_digits '+' (by simp [hdigits])) (by decide)
          · exact ⟨s.digits_digits, by simp [Signed.value, hsign], hhigh⟩
      · rw [if_neg hplus]
        by_cases hminus : c = '-'
        · subst hminus
          have hrest : rest ≠ [] := fun hrest => halone ⟨hrest, rfl⟩
          rw [if_pos ⟨rfl, hlow⟩, negative_eq_ok]
          constructor
          · rintro ⟨hdigits, rfl, hle⟩
            exact ⟨⟨some '-', rest, by simp [isSign], hdigits, hrest⟩, rfl, rfl, hle, by omega⟩
          · rintro ⟨s, htext, rfl, hlow, hhigh⟩
            rcases Signed.text_cons htext with ⟨-, hdigits⟩ | ⟨hsign, rfl⟩
            · exact absurd (s.digits_digits '-' (by simp [hdigits])) (by decide)
            · exact ⟨s.digits_digits, by simp [Signed.value, hsign], hlow⟩
        · rw [if_neg fun h => hminus h.1, positive_eq_ok]
          constructor
          · rintro ⟨hdigits, rfl, hle⟩
            exact ⟨⟨none, c :: rest, by simp, hdigits, by simp⟩, rfl, rfl, by omega, hle⟩
          · rintro ⟨s, htext, rfl, hlow, hhigh⟩
            rcases Signed.text_cons htext with ⟨hsign, hdigits⟩ | ⟨hsign, -⟩
            · rw [← hdigits]
              exact ⟨s.digits_digits, by simp [Signed.value, hsign], hhigh⟩
            · have hvalid := s.sign_valid c hsign
              simp [isSign, hplus, hminus] at hvalid

theorem parseU64_eq_ok {digits : List Char} (h : Digits digits) (hne : digits ≠ []) {n : UInt64} :
    parseU64 digits = .ok n ↔ n.toNat = value digits := by
  have hlt := n.toNat_lt
  cases digits with
  | nil => exact absurd rfl hne
  | cons c rest =>
    have hsign : isSign c = false := Signed.isDigit_not_isSign (h c List.mem_cons_self)
    have hplus : c ≠ '+' := by
      rintro rfl
      exact absurd hsign (by decide)
    rw [parseU64, parseInteger, map_eq_ok]
    dsimp only
    rw [if_neg (by simp [hsign]), if_neg hplus, if_neg (by simp)]
    constructor
    · rintro ⟨k, hk, rfl⟩
      obtain ⟨-, rfl, hle⟩ := positive_eq_ok.mp hk
      rw [UInt64.toNat_ofNat', Int.toNat_natCast, Nat.mod_eq_of_lt (by omega)]
    · intro hn
      refine ⟨n.toNat, positive_eq_ok.mpr ⟨h, by rw [hn], by omega⟩, ?_⟩
      rw [Int.toNat_natCast, UInt64.ofNat_toNat]

end DogeOperator.IntegerText
