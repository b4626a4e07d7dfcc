import DogeOperator.AmountBranches

/-! Amounts are never misread, up to where the `i32` shift of the scientific branch wraps around:
texts of two gigabytes in a build without overflow checks. -/
namespace DogeOperator.DogeAmount
open Outcome Panics DecimalText IntegerText

variable {text t : List Char} {s : UInt64} {profile : Profile} {m : Mantissa} {e : Exponent}

/-! Amounts beside the numbers they are. -/

/-- The text stands for this many satoshis. -/
def Exact (text : List Char) (s : UInt64) : Prop :=
  ∃ q : ℚ, Denotes text q ∧ 0 ≤ q ∧ q * 10 ^ 8 = s.toNat

/-- The satoshis of a spelling. -/
theorem value_sats (spelling : Spelling) : spelling.value * 10 ^ 8 =
    value spelling.mantissa.digits * (10 : ℚ) ^ (spelling.power - spelling.mantissa.decimals + 8) := by
  have hten : (10 : ℚ) ≠ 0 := by norm_num
  rw [Spelling.value, zpow_add₀ hten, mul_assoc]
  rfl

theorem exact_text {spelling : Spelling} : Exact spelling.text s ↔
    value spelling.mantissa.digits * (10 : ℚ) ^ (spelling.power - spelling.mantissa.decimals + 8) =
      s.toNat := by
  rw [← value_sats]
  constructor
  · rintro ⟨q, hdenotes, -, hq⟩
    rw [denotes_text.mp hdenotes, hq]
  · exact fun h => ⟨spelling.value, denotes_text.mpr rfl, spelling.value_nonneg, h⟩

theorem shiftedAmount_eq_ok {digits : List Char} {k : ℤ} (hdigits : Digits digits)
    (hne : digits ≠ []) : shiftedAmount text digits k = .ok s ↔
      0 ≤ k ∧ 10 ^ k.toNat < 2 ^ 64 ∧ s.toNat = value digits * 10 ^ k.toNat := by
  rw [shiftedAmount, guard_bind_eq_ok, not_lt, and_congr_right_iff]
  intro _
  constructor
  · intro h
    obtain ⟨base, hbase, h⟩ := bind_eq_ok.mp h
    obtain ⟨power, hpower, h⟩ := bind_eq_ok.mp h
    have hlt := power.toNat_lt
    rw [orBail_eq_ok, checkedPow10_eq_some] at hpower
    rw [orBail_eq_ok, checkedMul_eq_some, (parseU64_eq_ok hdigits hne).mp
      (orFail_eq_ok.mp (context_eq_ok.mp hbase)),
      hpower] at h
    exact ⟨hpower ▸ hlt, h⟩
  · rintro ⟨hfits, h⟩
    have hlt := s.toNat_lt
    have hle : value digits ≤ value digits * 10 ^ k.toNat :=
      Nat.le_mul_of_pos_right _ (by positivity)
    have hbase : (UInt64.ofNat (value digits)).toNat = value digits := by
      rw [UInt64.toNat_ofNat', Nat.mod_eq_of_lt (by omega)]
    have hpower : (UInt64.ofNat (10 ^ k.toNat)).toNat = 10 ^ k.toNat := by
      rw [UInt64.toNat_ofNat', Nat.mod_eq_of_lt hfits]
    refine bind_eq_ok.mpr
      ⟨_, context_eq_ok.mpr (orFail_eq_ok.mpr ((parseU64_eq_ok hdigits hne).mpr hbase)),
        bind_eq_ok.mpr ?_⟩
    refine ⟨UInt64.ofNat (10 ^ k.toNat), ?_, ?_⟩
    · rw [orBail_eq_ok, checkedPow10_eq_some, hpower]
    · rw [orBail_eq_ok, checkedMul_eq_some, hbase, hpower, h]

/-! The shift in both builds. -/

theorem shift_release (power : ℤ) (decimals : ℕ) :
    Profile.release.shift power decimals = .ok ((power - decimals + 8).bmod (2 ^ 32)) := by
  rw [Profile.shift, i32_release, ok_bind, i32_release, ok_bind, i32_release]

theorem shift_of_fits {power : ℤ} {decimals : ℕ} (hdecimals : FitsI32 decimals)
    (hdifference : FitsI32 (power - decimals)) (hshift : FitsI32 (power - decimals + 8)) :
    profile.shift power decimals = .ok (power - decimals + 8) := by
  rw [Profile.shift, i32_of_fits hdecimals, ok_bind, i32_of_fits hdifference, ok_bind,
    i32_of_fits hshift]

theorem shift_dev {power k : ℤ} {decimals : ℕ} (h : Profile.dev.shift power decimals = .ok k) :
    k = power - decimals + 8 := by
  rw [Profile.shift] at h
  obtain ⟨_, -, h⟩ := bind_eq_ok.mp h
  obtain ⟨_, -, h⟩ := bind_eq_ok.mp h
  exact (i32_dev_eq_ok.mp h).2

/-- A shift to the left is exact, or it wrapped around from far below zero. -/
theorem shift_eq_ok {power k : ℤ} {decimals : ℕ} (hpower : FitsI32 power)
    (h : profile.shift power decimals = .ok k) (hk : 0 ≤ k) : k = power - decimals + 8 ∨
      profile = .release ∧ ∃ turns : ℕ, power - decimals + 8 = k - 2 ^ 32 * (turns + 1) := by
  cases profile with
  | dev => exact .inl (shift_dev h)
  | release =>
    rw [shift_release, Except.ok.injEq] at h
    have hmod := Int.bmod_emod (x := power - decimals + 8) (m := 2 ^ 32)
    have hlt := Int.bmod_lt (x := power - decimals + 8) (m := 2 ^ 32) (by norm_num)
    rw [h] at hmod hlt
    obtain ⟨-, hhigh⟩ := hpower
    by_cases hexact : k = power - decimals + 8
    · exact .inl hexact
    · refine .inr ⟨rfl, ((k - (power - decimals + 8)) / 2 ^ 32 - 1).toNat, ?_⟩
      push_cast at hmod hlt ⊢
      omega

theorem lt_of_pow_lt {k : ℕ} (h : 10 ^ k < 2 ^ 64) : k < 20 := by
  by_contra hlarge
  have hle : 10 ^ 20 ≤ 10 ^ k := Nat.pow_le_pow_right (by norm_num) (by omega)
  omega

/-- Turns around the 32 bits are lost. -/
theorem shift_wraps {power : ℤ} {decimals k turns : ℕ}
    (h : power - decimals + 8 = k - 2 ^ 32 * (turns + 1)) (hk : k < 20) :
    Profile.release.shift power decimals = .ok (k : ℤ) := by
  have hsplit : (k : ℤ) - 2 ^ 32 * (turns + 1) = k - ((2 ^ 32 : ℕ) : ℤ) * (turns + 1) := by
    push_cast
    ring
  rw [shift_release, h, hsplit, Int.sub_mul_bmod_self_left, Int.bmod_eq_of_le]
  · omega
  · omega

/-! What the whole parser accepts. -/

theorem findIdx?_mantissa (m : Mantissa) : m.text.findIdx? isMarker = none := by
  rw [List.findIdx?_eq_none_iff]
  exact fun c hc => by simpa using m.not_isMarker c hc

theorem head?_mantissa_ne_minus (m : Mantissa) (rest : List Char) :
    (m.text ++ rest).head? ≠ some '-' := by
  rw [List.head?_append_of_ne_nil _ m.text_ne_nil]
  intro hminus
  rcases m.mem_text (List.mem_of_mem_head? hminus) with h | h
  · exact absurd h (by decide)
  · exact absurd h (by decide)

theorem parseDogeDecimal_minus (profile : Profile) (h : (trim text).head? = some '-') :
    ∃ chain, parseDogeDecimal profile text = .error (.error chain) := by
  have hne : trim text ≠ [] := by
    intro hne
    rw [hne] at h
    cases h
  rw [parseDogeDecimal]
  dsimp only
  rw [if_neg hne, if_pos h]
  exact ⟨_, rfl⟩

theorem parseDogeDecimal_plain (profile : Profile) (hne : trim text ≠ []) (hminus : (trim text).head? ≠ some '-')
    (hmarker : (trim text).findIdx? isMarker = none) :
    parseDogeDecimal profile text = lift (parsePlainDogeDecimal (trim text)) := by
  rw [parseDogeDecimal]
  dsimp only
  rw [if_neg hne, if_neg hminus, hmarker]

theorem parseDogeDecimal_scientific (profile : Profile) {index : ℕ} (hminus : (trim text).head? ≠ some '-')
    (hindex : (trim text).findIdx? isMarker = some index) :
    parseDogeDecimal profile text = parseScientificDogeDecimal profile (trim text) index := by
  have hne : trim text ≠ [] := by
    intro hne
    rw [hne] at hindex
    cases hindex
  rw [parseDogeDecimal]
  dsimp only
  rw [if_neg hne, if_neg hminus, hindex]

theorem parseDogeDecimal_eq_ok : parseDogeDecimal profile text = .ok s ↔
    (∃ m : Mantissa, m.text = trim text ∧ m.whole ≠ [] ∧ m.decimals ≤ 8 ∧
      s.toNat = value m.digits * 10 ^ (8 - m.decimals)) ∨
    ∃ (m : Mantissa) (e : Exponent) (k : ℤ), m.text ++ e.text = trim text ∧
      FitsI32 e.power.value ∧ profile.shift e.power.value m.decimals = .ok k ∧
      shiftedAmount (trim text) m.digits k = .ok s := by
  constructor
  · intro h
    have hminus : (trim text).head? ≠ some '-' := by
      intro hminus
      obtain ⟨chain, hchain⟩ := parseDogeDecimal_minus profile hminus
      rw [hchain] at h
      cases h
    cases hindex : (trim text).findIdx? isMarker with
    | some index =>
      rw [parseDogeDecimal_scientific profile hminus hindex, parseScientificDogeDecimal_eq_ok hindex] at h
      exact .inr h
    | none =>
      by_cases hne : trim text = []
      · rw [parseDogeDecimal] at h
        dsimp only at h
        rw [if_pos hne] at h
        cases h
      · rw [parseDogeDecimal_plain profile hne hminus hindex] at h
        exact .inl (parsePlainDogeDecimal_eq_ok.mp (mapError_eq_ok.mp h))
  · rintro (hplain | hscientific)
    · obtain ⟨m, hm, -⟩ := id hplain
      have hne : trim text ≠ [] := hm ▸ m.text_ne_nil
      have hminus : (trim text).head? ≠ some '-' := by
        rw [← hm, ← List.append_nil m.text]
        exact head?_mantissa_ne_minus m []
      have hmarker : (trim text).findIdx? isMarker = none := hm ▸ findIdx?_mantissa m
      rw [parseDogeDecimal_plain profile hne hminus hmarker, parsePlainDogeDecimal_eq_ok.mpr hplain]
      rfl
    · obtain ⟨m, e, k, htext, -⟩ := id hscientific
      have hindex : (trim text).findIdx? isMarker = some m.text.length := htext ▸ findIdx?_text m e
      have hminus : (trim text).head? ≠ some '-' := htext ▸ head?_mantissa_ne_minus m e.text
      rw [parseDogeDecimal_scientific profile hminus hindex]
      exact (parseScientificDogeDecimal_eq_ok hindex).mpr hscientific

/-! Misreadings. -/

/-- Without overflow checks a shift far below zero wraps around into a small one. -/
def Misread (profile : Profile) (text : List Char) : Prop :=
  profile = .release ∧ ∃ (m : Mantissa) (e : Exponent) (k turns : ℕ),
    m.text ++ e.text = trim text ∧ FitsI32 e.power.value ∧ value m.digits ≠ 0 ∧
    e.power.value - m.decimals + 8 = k - 2 ^ 32 * (turns + 1) ∧ value m.digits * 10 ^ k < 2 ^ 64

/-- What the plain branch accepts is exact. -/
theorem exact_plain (hdecimals : m.decimals ≤ 8)
    (hs : s.toNat = value m.digits * 10 ^ (8 - m.decimals)) : Exact m.text s := by
  have htext : (⟨m, none⟩ : Spelling).text = m.text := List.append_nil _
  rw [← htext, exact_text, hs]
  have hpower : (0 : ℤ) - m.decimals + 8 = (8 - m.decimals : ℕ) := by omega
  change value m.digits * (10 : ℚ) ^ ((0 : ℤ) - m.decimals + 8) = _
  rw [hpower, zpow_natCast]
  push_cast
  rfl

theorem exact_scientific : Exact (m.text ++ e.text) s ↔
    value m.digits * (10 : ℚ) ^ (e.power.value - m.decimals + 8) = s.toNat := by
  have htext : m.text ++ e.text = (⟨m, some e⟩ : Spelling).text := rfl
  rw [htext, exact_text]
  rfl

/-- What is accepted is exact, and only the texts that wrap around are misread. -/
theorem exact_iff_not_misread (profile : Profile) (text : List Char) :
    (∀ s, parseDogeDecimal profile text = .ok s → Exact (trim text) s) ↔ ¬ Misread profile text := by
  constructor
  · rintro hexact ⟨rfl, m, e, k, turns, htext, hpower, hvalue, hshift, hlt⟩
    have hpow : 10 ^ k ≤ value m.digits * 10 ^ k :=
      Nat.le_mul_of_pos_left _ (Nat.pos_of_ne_zero hvalue)
    have hk : 10 ^ k < 2 ^ 64 := by omega
    have hwrapped := shift_wraps hshift (lt_of_pow_lt hk)
    have hs : (UInt64.ofNat (value m.digits * 10 ^ k)).toNat = value m.digits * 10 ^ k := by
      rw [UInt64.toNat_ofNat', Nat.mod_eq_of_lt hlt]
    have hread := hexact _ (parseDogeDecimal_eq_ok.mpr (.inr ⟨m, e, k, htext, hpower, hwrapped,
      (shiftedAmount_eq_ok m.digits_digits m.nonempty).mpr ⟨by omega, by simpa using hk, hs⟩⟩))
    rw [← htext, exact_scientific, hs, hshift] at hread
    push_cast at hread
    have hne : (value m.digits : ℚ) ≠ 0 := by exact_mod_cast hvalue
    have hpowers := mul_left_cancel₀ hne hread
    rw [← zpow_natCast] at hpowers
    have hsame := zpow_right_injective₀ (by norm_num) (by norm_num) hpowers
    omega
  · intro hnot s h
    rcases parseDogeDecimal_eq_ok.mp h with ⟨m, hm, -, hdecimals, hs⟩ |
      ⟨m, e, k, htext, hpower, hk, hamount⟩
    · exact hm ▸ exact_plain hdecimals hs
    · rw [shiftedAmount_eq_ok m.digits_digits m.nonempty] at hamount
      obtain ⟨hnonneg, hpow, hs⟩ := hamount
      rw [← htext, exact_scientific]
      by_cases hzero : value m.digits = 0
      · rw [hs, hzero]
        simp
      · rcases shift_eq_ok hpower hk hnonneg with hexact | ⟨rfl, turns, hwrapped⟩
        · have hcast : k = (k.toNat : ℤ) := by omega
          rw [← hexact, hcast, zpow_natCast, hs]
          push_cast
          rfl
        · exfalso
          refine hnot ⟨rfl, m, e, k.toNat, turns, htext, hpower, hzero, by omega, ?_⟩
          rw [← hs]
          exact s.toNat_lt

/-! Agreement of the branches. -/

/-- `e0` -/
def zeroExponent : Exponent where
  marker := 'e'
  power := ⟨none, ['0'], by simp, by simp [Digits], by simp⟩
  marker_valid := rfl

/-- Both texts are read as one amount, or both are refused. -/
def BranchesAgree (profile : Profile) (t : List Char) : Prop :=
  (∃ s, parseDogeDecimal profile t = .ok s ∧
    parseDogeDecimal profile (t ++ zeroExponent.text) = .ok s) ∨
  (∃ chain, parseDogeDecimal profile t = .error (.error chain)) ∧
    ∃ chain, parseDogeDecimal profile (t ++ zeroExponent.text) = .error (.error chain)

/-- With so many decimals that their count overflows, or the shift below zero wraps around. -/
def Overlong (profile : Profile) (t : List Char) : Prop :=
  match profile with
  | .dev => ∃ whole fraction rest, Digits whole ∧ Digits fraction ∧ fraction.length = 2 ^ 31 ∧
      t = whole ++ '.' :: (fraction ++ rest)
  | .release => ∃ (m : Mantissa) (k turns : ℕ), m.text = t ∧
      m.decimals + k = 8 + 2 ^ 32 * (turns + 1) ∧ 10 ^ k < 2 ^ 64 ∧ value m.digits * 10 ^ k < 2 ^ 64

theorem not_overlong_of_minus (h : t.head? = some '-') : ¬ Overlong profile t := by
  cases profile with
  | dev =>
    rintro ⟨whole, fraction, rest, hwhole, -, -, rfl⟩
    cases whole with
    | nil => cases h
    | cons c whole =>
      cases h
      exact absurd (hwhole '-' List.mem_cons_self) (by decide)
  | release =>
    rintro ⟨m, -, -, rfl, -⟩
    rw [← List.append_nil m.text] at h
    exact head?_mantissa_ne_minus m [] h

theorem trim_ends {first last : Char} {middle : List Char} (hfirst : isWhitespace first = false)
    (hlast : isWhitespace last = false) :
    trim (first :: middle ++ [last]) = first :: middle ++ [last] := by
  rw [trim, List.cons_append, List.dropWhile_cons_of_neg (by simp [hfirst]), ← List.cons_append,
    List.rdropWhile_concat_neg _ _ _ (by simp [hlast])]

/-- An exponent is appended to a trimmed text. -/
theorem trim_append (hne : t ≠ []) (h : trim t = t) :
    trim (t ++ zeroExponent.text) = t ++ zeroExponent.text := by
  obtain ⟨c, rest, rfl⟩ := List.exists_cons_of_ne_nil hne
  have hhead : isWhitespace c = false := by
    by_contra hspace
    rw [Bool.not_eq_false] at hspace
    have hlength := congrArg List.length h
    have hdrop := (List.dropWhile_suffix isWhitespace (l := rest)).length_le
    have htrim := (List.rdropWhile_prefix isWhitespace (rest.dropWhile isWhitespace)).length_le
    rw [trim, List.dropWhile_cons_of_pos hspace, List.length_cons] at hlength
    omega
  have hends : c :: rest ++ zeroExponent.text = c :: (rest ++ ['e']) ++ ['0'] := by
    rw [List.cons_append, List.cons_append, List.append_assoc]
    rfl
  rw [hends]
  exact trim_ends hhead (by decide)

/-- A trimmed text without an exponent and with an integer part. -/
structure PlainText (t : List Char) : Prop where
  trimmed : trim t = t
  unmarked : ∀ c ∈ t, isMarker c = false
  whole : (t.splitOn '.').headD [] ≠ []

namespace PlainText

theorem ne_nil (h : PlainText t) : t ≠ [] := by
  rintro rfl
  exact h.whole rfl

theorem mantissa_whole (h : PlainText m.text) : m.whole ≠ [] := by
  have hwhole := h.whole
  rw [splitOn_text] at hwhole
  exact hwhole

theorem parse_plain (h : PlainText t) (hminus : t.head? ≠ some '-') :
    parseDogeDecimal profile t = lift (parsePlainDogeDecimal t) := by
  have hne : trim t ≠ [] := h.trimmed.symm ▸ h.ne_nil
  have hminus' : (trim t).head? ≠ some '-' := h.trimmed.symm ▸ hminus
  have hmarker : (trim t).findIdx? isMarker = none :=
    h.trimmed.symm ▸ List.findIdx?_eq_none_iff.mpr h.unmarked
  rw [parseDogeDecimal_plain profile hne hminus' hmarker, h.trimmed]

theorem findIdx?_marked (h : PlainText t) :
    (t ++ zeroExponent.text).findIdx? isMarker = some t.length :=
  findIdx?_split h.unmarked zeroExponent.marker_valid

theorem parse_marked (h : PlainText t) (hminus : t.head? ≠ some '-') :
    parseDogeDecimal profile (t ++ zeroExponent.text) =
      parseScientificDogeDecimal profile (t ++ zeroExponent.text) t.length := by
  have htrim := trim_append h.ne_nil h.trimmed
  have hminus' : (trim (t ++ zeroExponent.text)).head? ≠ some '-' := by
    rw [htrim, List.head?_append_of_ne_nil _ h.ne_nil]
    exact hminus
  have hindex : (trim (t ++ zeroExponent.text)).findIdx? isMarker = some t.length := by
    rw [htrim, h.findIdx?_marked]
  rw [parseDogeDecimal_scientific profile hminus' hindex, htrim]

theorem scientific_eq_ok (h : PlainText t) :
    parseScientificDogeDecimal profile (t ++ zeroExponent.text) t.length = .ok s ↔
      ∃ (m : Mantissa) (k : ℤ), m.text = t ∧ profile.shift 0 m.decimals = .ok k ∧
        shiftedAmount (t ++ zeroExponent.text) m.digits k = .ok s := by
  rw [parseScientificDogeDecimal_eq_ok h.findIdx?_marked]
  constructor
  · rintro ⟨m, e, k, htext, -, hk, hamount⟩
    obtain ⟨hm, he⟩ := split_inj m.not_isMarker (fun c hc => by simp [h.unmarked c hc])
      (startsOutside_exponent (some e)) (startsOutside_exponent (some zeroExponent)) htext
    have hpower : e.power = zeroExponent.power :=
      Signed.text_injective (List.cons.inj he).2
    rw [hpower] at hk
    exact ⟨m, k, hm, hk, hamount⟩
  · rintro ⟨m, k, rfl, hk, hamount⟩
    exact ⟨m, zeroExponent, k, rfl, by decide, hk, hamount⟩

end PlainText

/-- The scan of the decimals overflows whatever follows them. -/
theorem scientific_overlong (h : Overlong .dev t) :
    parseScientificDogeDecimal .dev (t ++ zeroExponent.text) t.length = .error .panic := by
  obtain ⟨whole, fraction, rest, hwhole, hfraction, hlength, rfl⟩ := h
  have hpower : parseI32 (zeroExponent.text.drop 1) = .ok 0 := by decide
  have hfits : ¬ FitsI32 (2 ^ 31 : ℕ) := by decide
  rw [parseScientificDogeDecimal]
  dsimp only
  rw [List.drop_left' rfl, orFail_eq_ok.mpr hpower, context_ok, lift_ok, ok_bind, List.take_left' rfl,
    scanMantissa_whole hwhole, scanMantissa, if_pos ⟨rfl, rfl⟩,
    scanMantissa_fraction hfraction i32_zero, hlength, Nat.zero_add, i32_dev_of_not_fits hfits]
  rfl

/-- The decimals can be counted, and the shift computed. -/
theorem shift_ne_panic {whole rest : List Char} {fraction : Option (List Char)}
    (h : profile = .dev → ¬ Overlong .dev t) (hwhole : Digits whole)
    (hfraction : Digits (fraction.getD []))
    (htext : t = whole ++ fraction.elim [] ('.' :: ·) ++ rest) :
    ∃ n k, profile.i32 (fraction.getD []).length = .ok n ∧
      profile.shift 0 (fraction.getD []).length = .ok k := by
  cases profile with
  | release => exact ⟨_, _, i32_release _, shift_release _ _⟩
  | dev =>
    have hlength : (fraction.getD []).length < 2 ^ 31 := by
      by_contra hlong
      rw [not_lt] at hlong
      cases fraction with
      | none => simp at hlong
      | some fraction =>
        refine h rfl ⟨whole, fraction.take (2 ^ 31), fraction.drop (2 ^ 31) ++ rest, hwhole,
          fun c hc => hfraction c (List.mem_of_mem_take hc), ?_, ?_⟩
        · exact List.length_take_of_le hlong
        · rw [htext, ← List.append_assoc (fraction.take (2 ^ 31)), List.take_append_drop]
          simp
    have hdecimals : FitsI32 (fraction.getD []).length := ⟨by omega, by omega⟩
    exact ⟨_, _, i32_of_fits hdecimals,
      shift_of_fits hdecimals ⟨by omega, by omega⟩ ⟨by omega, by omega⟩⟩

theorem scientific_ne_panic (h : profile = .dev → ¬ Overlong .dev t) :
    parseScientificDogeDecimal profile (t ++ zeroExponent.text) t.length ≠ .error .panic := by
  obtain ⟨whole, fraction, rest, hwhole, hfraction, htext, hscan⟩ := scanMantissa_cases t
  have hpower : parseI32 (((t ++ zeroExponent.text).drop t.length).drop 1) = .ok 0 := by
    rw [List.drop_left' rfl]
    decide
  obtain ⟨n, k, hcount, hk⟩ := shift_ne_panic h hwhole hfraction htext
  by_cases hvalid : rest = [] ∧ whole ++ fraction.getD [] ≠ []
  · obtain ⟨rfl, hne⟩ := hvalid
    have hmantissa : scanMantissa profile (t ++ zeroExponent.text) [] 0 false
        ((t ++ zeroExponent.text).take t.length) = (profile.i32 (fraction.getD []).length >>=
          fun n => .ok (whole ++ fraction.getD [], n)) := by
      rw [List.take_left' rfl, hscan]
      rfl
    rw [parseScientificDogeDecimal_split hpower hne hmantissa, hk, ok_bind]
    exact lift_ne_panic
  · rw [parseScientificDogeDecimal]
    dsimp only
    rw [orFail_eq_ok.mpr hpower, context_ok, lift_ok, ok_bind, List.take_left' rfl, hscan, hcount,
      ok_bind]
    by_cases hrest : rest = []
    · have hempty : whole ++ fraction.getD [] = [] := by
        by_contra hne
        exact hvalid ⟨hrest, hne⟩
      rw [if_pos hrest, ok_bind]
      dsimp only
      rw [if_pos hempty]
      intro hpanic
      cases hpanic
    · rw [if_neg hrest]
      intro hpanic
      cases hpanic

/-- Short of an overflow both branches accept the same amounts. -/
theorem plain_iff_scientific (h : PlainText t) (hshort : ¬ Overlong profile t) :
    parsePlainDogeDecimal t = .ok s ↔
      parseScientificDogeDecimal profile (t ++ zeroExponent.text) t.length = .ok s := by
  rw [parsePlainDogeDecimal_eq_ok, h.scientific_eq_ok]
  constructor
  · rintro ⟨m, hm, -, hdecimals, hs⟩
    have hcast : (0 : ℤ) - m.decimals + 8 = (8 - m.decimals : ℕ) := by omega
    refine ⟨m, 0 - m.decimals + 8, hm, shift_of_fits ⟨by omega, by omega⟩ ⟨by omega, by omega⟩
      ⟨by omega, by omega⟩, (shiftedAmount_eq_ok m.digits_digits m.nonempty).mpr ?_⟩
    have hpow : 10 ^ (8 - m.decimals) ≤ 10 ^ 8 := Nat.pow_le_pow_right (by norm_num) (by omega)
    rw [hcast, Int.toNat_natCast]
    exact ⟨by omega, by omega, hs⟩
  · rintro ⟨m, k, rfl, hk, hamount⟩
    rw [shiftedAmount_eq_ok m.digits_digits m.nonempty] at hamount
    obtain ⟨hnonneg, hpow, hs⟩ := hamount
    rcases shift_eq_ok (by decide) hk hnonneg with hexact | ⟨rfl, turns, hwrapped⟩
    · have htoNat : k.toNat = 8 - m.decimals := by omega
      rw [htoNat] at hs
      exact ⟨m, rfl, h.mantissa_whole, by omega, hs⟩
    · exfalso
      refine hshort ⟨m, k.toNat, turns, rfl, by omega, hpow, ?_⟩
      rw [← hs]
      exact s.toNat_lt

theorem error_of_not_ok {x : Checked UInt64} (hpanic : x ≠ .error .panic) (h : ∀ s, x ≠ .ok s) :
    ∃ chain, x = .error (.error chain) := by
  match x with
  | .ok s => exact absurd rfl (h s)
  | .error .panic => exact absurd rfl hpanic
  | .error (.error chain) => exact ⟨chain, rfl⟩

/-- A wrapped shift accepts decimals that the plain branch refuses. -/
theorem scientific_wraps (h : PlainText t) (hlong : Overlong .release t) : ∃ s,
    parseScientificDogeDecimal .release (t ++ zeroExponent.text) t.length = .ok s ∧
      parsePlainDogeDecimal t ≠ .ok s := by
  obtain ⟨m, k, turns, rfl, hturns, hpow, hlt⟩ := hlong
  have hshift : (0 : ℤ) - m.decimals + 8 = k - 2 ^ 32 * (turns + 1) := by omega
  have hwrapped := shift_wraps hshift (lt_of_pow_lt hpow)
  have hs : (UInt64.ofNat (value m.digits * 10 ^ k)).toNat = value m.digits * 10 ^ k := by
    rw [UInt64.toNat_ofNat', Nat.mod_eq_of_lt hlt]
  have hamount : shiftedAmount (m.text ++ zeroExponent.text) m.digits k = .ok _ :=
    (shiftedAmount_eq_ok m.digits_digits m.nonempty).mpr ⟨by omega, by simpa using hpow, hs⟩
  refine ⟨_, h.scientific_eq_ok.mpr ⟨m, k, rfl, hwrapped, hamount⟩, fun hplain => ?_⟩
  obtain ⟨m', hm, -, hdecimals, -⟩ := parsePlainDogeDecimal_eq_ok.mp hplain
  rw [Mantissa.text_injective hm] at hdecimals
  have hsmall := lt_of_pow_lt hpow
  omega

/-- The branches agree exactly on the texts that do not overflow. -/
theorem branchesAgree_iff (h : PlainText t) : BranchesAgree profile t ↔ ¬ Overlong profile t := by
  by_cases hminus : t.head? = some '-'
  · have hleft : (trim t).head? = some '-' := by rw [h.trimmed, hminus]
    have hright : (trim (t ++ zeroExponent.text)).head? = some '-' := by
      rw [trim_append h.ne_nil h.trimmed, List.head?_append_of_ne_nil _ h.ne_nil, hminus]
    exact iff_of_true (.inr ⟨parseDogeDecimal_minus profile hleft,
      parseDogeDecimal_minus profile hright⟩) (not_overlong_of_minus hminus)
  · rw [BranchesAgree, h.parse_plain hminus, h.parse_marked hminus]
    constructor
    · intro hagree hlong
      cases profile with
      | dev =>
        rw [scientific_overlong hlong] at hagree
        rcases hagree with ⟨s, -, hpanic⟩ | ⟨-, chain, hpanic⟩
        · cases hpanic
        · cases hpanic
      | release =>
        obtain ⟨s, hs, hplain⟩ := scientific_wraps h hlong
        rw [hs] at hagree
        rcases hagree with ⟨s', hs', hsame⟩ | ⟨-, chain, herror⟩
        · cases hsame
          exact hplain (mapError_eq_ok.mp hs')
        · cases herror
    · intro hshort
      have hpanic : parseScientificDogeDecimal profile (t ++ zeroExponent.text) t.length ≠
          .error .panic := scientific_ne_panic fun hdev => hdev ▸ hshort
      by_cases hok : ∃ s, parsePlainDogeDecimal t = .ok s
      · obtain ⟨s, hs⟩ := hok
        exact .inl ⟨s, mapError_eq_ok.mpr hs, (plain_iff_scientific h hshort).mp hs⟩
      · rw [not_exists] at hok
        refine .inr ⟨error_of_not_ok lift_ne_panic fun s hs => hok s (mapError_eq_ok.mp hs),
          error_of_not_ok hpanic fun s hs => hok s ((plain_iff_scientific h hshort).mpr hs)⟩

/-- An accepted amount is exact but for a wrapped shift, and both branches agree but for an
overflow: texts of two gigabytes. -/
theorem amounts_exact_iff (profile : Profile) :
    (∀ text, (∀ s, parseDogeDecimal profile text = .ok s → Exact (trim text) s) ↔
      ¬ Misread profile text) ∧
    ∀ t, PlainText t → (BranchesAgree profile t ↔ ¬ Overlong profile t) :=
  ⟨exact_iff_not_misread profile, fun _ => branchesAgree_iff⟩

/-- A decimal fraction with a one behind so many zeros. -/
def oneBehind (zeros : ℕ) : Mantissa where
  whole := ['0']
  fraction := some (List.replicate zeros '0' ++ ['1'])
  whole_digits := by simp [Digits]
  fraction_digits := by
    intro c hc
    rcases List.mem_append.mp hc with hzero | hone
    · rw [List.eq_of_mem_replicate hzero]
      rfl
    · rw [List.mem_singleton.mp hone]
      rfl
  nonempty := by simp

/-- `e-2147483648` -/
def lowestExponent : Exponent where
  marker := 'e'
  power := ⟨some '-', "2147483648".toList, by simp [isSign], by simp [Digits], by simp⟩
  marker_valid := rfl

theorem misread_oneBehind {zeros : ℕ} (h : zeros + 1 = 2 ^ 31 - 1) :
    Misread .release ((oneBehind zeros).text ++ lowestExponent.text) := by
  have hdecimals : (oneBehind zeros).decimals = zeros + 1 := by
    simp [oneBehind, Mantissa.decimals]
  have hvalue : value (oneBehind zeros).digits = 1 := by
    change value (['0'] ++ (List.replicate zeros '0' ++ ['1'])) = 1
    rw [value_append, value_append, value_replicate_zero, Nat.zero_mul, Nat.zero_add]
    change 0 * _ + 1 = 1
    omega
  have hpower : lowestExponent.power.value = -2 ^ 31 := by decide
  have hends : (oneBehind zeros).text ++ lowestExponent.text =
      '0' :: ('.' :: (List.replicate zeros '0' ++ ['1'] ++ "e-214748364".toList)) ++ ['8'] := by
    rw [List.cons_append, List.cons_append, List.append_assoc _ "e-214748364".toList]
    rfl
  refine ⟨rfl, oneBehind zeros, lowestExponent, 9, 0, ?_, by rw [hpower]; decide, ?_, ?_, ?_⟩
  · rw [hends, trim_ends (by decide) (by decide)]
  · rw [hvalue]
    exact one_ne_zero
  · rw [hpower, hdecimals]
    push_cast
    omega
  · rw [hvalue]
    norm_num

/-- A number far below one satoshi that is read as ten coins. -/
theorem misread_two_gigabytes : ∃ s,
    parseDogeDecimal .release ((oneBehind 2147483646).text ++ lowestExponent.text) = .ok s ∧
      ¬ Exact (trim ((oneBehind 2147483646).text ++ lowestExponent.text)) s := by
  have hmisread : Misread .release ((oneBehind 2147483646).text ++ lowestExponent.text) :=
    misread_oneBehind (by norm_num)
  by_contra hnone
  push Not at hnone
  exact (exact_iff_not_misread _ _).mp hnone hmisread

end DogeOperator.DogeAmount
