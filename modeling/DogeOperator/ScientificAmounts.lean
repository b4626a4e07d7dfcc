import DogeOperator.AmountReadings

/-! Which amounts the scientific branch refuses. Numbers of satoshis have many spellings; those
with too many decimals are refused, whatever zeros they end in. -/
namespace DogeOperator.DogeAmount
open Outcome Panics DecimalText

/-- As long as its `i32` arithmetic stays in range, the scientific branch accepts every whole number
of satoshis that a `u64` holds, unless it is spelled with more than eight decimals or is a zero
that is shifted too far. -/
theorem scientific_complete (profile : Profile) (m : Mantissa) (e : Exponent)
    (hpower : FitsI32 e.power.value) (hdecimals : FitsI32 m.decimals)
    (hdifference : FitsI32 (e.power.value - m.decimals))
    (hshift : FitsI32 (e.power.value - m.decimals + 8)) :
    parseScientificDogeDecimal profile (m.text ++ e.text) m.text.length ≠ .error .panic ∧
    (∀ s, parseScientificDogeDecimal profile (m.text ++ e.text) m.text.length = .ok s →
      (⟨m, some e⟩ : Spelling).value * 10 ^ 8 = s.toNat) ∧
    ((∃ s, parseScientificDogeDecimal profile (m.text ++ e.text) m.text.length = .ok s) ↔
      (∃ n : ℕ, n < 2 ^ 64 ∧ (⟨m, some e⟩ : Spelling).value * 10 ^ 8 = n) ∧
        0 ≤ e.power.value - m.decimals + 8 ∧
        (value m.digits = 0 → e.power.value - m.decimals + 8 ≤ 19)) := by
  have hrun : parseScientificDogeDecimal profile (m.text ++ e.text) m.text.length =
      lift (shiftedAmount (m.text ++ e.text) m.digits (e.power.value - m.decimals + 8)) := by
    rw [parseScientificDogeDecimal_text m e hpower, shift_of_fits hdecimals hdifference hshift,
      ok_bind]
  have hsats : (⟨m, some e⟩ : Spelling).value * 10 ^ 8 =
      value m.digits * (10 : ℚ) ^ (e.power.value - m.decimals + 8) := value_sats _
  generalize e.power.value - m.decimals + 8 = k at hrun hsats
  have hok : ∀ s, parseScientificDogeDecimal profile (m.text ++ e.text) m.text.length = .ok s ↔
      0 ≤ k ∧ 10 ^ k.toNat < 2 ^ 64 ∧ s.toNat = value m.digits * 10 ^ k.toNat := by
    intro s
    have hamount : shiftedAmount (m.text ++ e.text) m.digits k = .ok s ↔ _ :=
      shiftedAmount_eq_ok m.digits_digits m.nonempty
    rw [hrun, ← hamount]
    exact mapError_eq_ok
  have hwhole : 0 ≤ k → (⟨m, some e⟩ : Spelling).value * 10 ^ 8 =
      (value m.digits * 10 ^ k.toNat : ℕ) := by
    intro hnonneg
    have hcast : k = (k.toNat : ℤ) := by omega
    rw [hsats, hcast, zpow_natCast, Int.toNat_natCast]
    push_cast
    rfl
  refine ⟨hrun ▸ lift_ne_panic, ?_, ?_⟩
  · intro s hs
    obtain ⟨hnonneg, -, hs⟩ := (hok s).mp hs
    rw [hwhole hnonneg, hs]
  · constructor
    · rintro ⟨s, hs⟩
      obtain ⟨hnonneg, hpow, hs⟩ := (hok s).mp hs
      have hsmall := lt_of_pow_lt hpow
      exact ⟨⟨s.toNat, s.toNat_lt, by rw [hwhole hnonneg, hs]⟩, hnonneg, fun _ => by omega⟩
    · rintro ⟨⟨n, hn, hvalue⟩, hnonneg, hzero⟩
      rw [hwhole hnonneg] at hvalue
      have hamount : value m.digits * 10 ^ k.toNat = n := by exact_mod_cast hvalue
      have hpow : 10 ^ k.toNat < 2 ^ 64 := by
        rcases Nat.eq_zero_or_pos (value m.digits) with hv | hv
        · have hk := hzero hv
          have hle : 10 ^ k.toNat ≤ 10 ^ 19 := Nat.pow_le_pow_right (by norm_num) (by omega)
          omega
        · have hle : 10 ^ k.toNat ≤ value m.digits * 10 ^ k.toNat := Nat.le_mul_of_pos_left _ hv
          omega
      refine ⟨UInt64.ofNat n, (hok _).mpr ⟨hnonneg, hpow, ?_⟩⟩
      rw [UInt64.toNat_ofNat', Nat.mod_eq_of_lt hn, hamount]

/-- `1.5` -/
def oneAndAHalf : Mantissa where
  whole := ['1']
  fraction := some ['5']
  whole_digits := by simp [Digits]
  fraction_digits := by simp [Digits]
  nonempty := by simp

theorem oneAndAHalf_complete :
    parseScientificDogeDecimal .dev (oneAndAHalf.text ++ zeroExponent.text) 3 ≠ .error .panic ∧
      ∃ s, parseScientificDogeDecimal .dev (oneAndAHalf.text ++ zeroExponent.text) 3 = .ok s := by
  have hcomplete := scientific_complete .dev oneAndAHalf zeroExponent (by decide) (by decide)
    (by decide) (by decide)
  refine ⟨hcomplete.1, hcomplete.2.2.mpr ⟨⟨150000000, by norm_num, ?_⟩, by decide, by decide⟩⟩
  rw [value_sats]
  have hdigits : value oneAndAHalf.digits = 15 := by decide
  change (value oneAndAHalf.digits : ℚ) * 10 ^ ((0 : ℤ) - (1 : ℕ) + 8) = _
  rw [hdigits]
  norm_num

/-- `10` -/
def ten : Mantissa where
  whole := ['1', '0']
  fraction := none
  whole_digits := by simp [Digits]
  fraction_digits := by simp [Digits]
  nonempty := by simp

theorem digits_nine : Digits ['9'] := by
  intro c hc
  rw [List.mem_singleton.mp hc]
  rfl

theorem isSign_minus : ∀ c ∈ some '-', isSign c = true := by
  intro c hc
  cases hc
  rfl

theorem isMarker_e : isMarker 'e' = true := rfl

theorem nine_ne_nil : ['9'] ≠ [] := List.cons_ne_nil _ _

/-- `e-9` -/
def nano : Exponent where
  marker := 'e'
  power := ⟨some '-', ['9'], isSign_minus, digits_nine, nine_ne_nil⟩
  marker_valid := isMarker_e

/-- One satoshi spelled with nine decimals is refused. -/
theorem ten_nano_refused : (⟨ten, some nano⟩ : Spelling).value * 10 ^ 8 = (1 : ℕ) ∧
    parseScientificDogeDecimal .dev (ten.text ++ nano.text) ten.text.length =
      .error (.error ["Dogecoin amount has sub-satoshi precision: 10e-9"]) := by
  constructor
  · have hdigits : value ten.digits = 10 := by decide
    have hpower : nano.power.value = -9 := by decide
    rw [value_sats]
    change (value ten.digits : ℚ) * 10 ^ (nano.power.value - (0 : ℕ) + 8) = _
    rw [hdigits, hpower]
    norm_num
  · rfl

end DogeOperator.DogeAmount
