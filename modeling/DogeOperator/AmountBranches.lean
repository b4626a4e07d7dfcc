import DogeOperator.DogeAmount

/-! What the two branches of the amount parser accept, and with which result. -/
namespace DogeOperator.DogeAmount
open Outcome Panics DecimalText IntegerText

variable {text digits : List Char} {s : UInt64} {profile : Profile}

theorem checkedMul_eq_some {a b c : UInt64} :
    checkedMul a b = some c ↔ c.toNat = a.toNat * b.toNat := by
  have hc := c.toNat_lt
  rw [checkedMul]
  by_cases hfits : a.toNat * b.toNat < 2 ^ 64
  · rw [if_pos hfits, Option.some.injEq, ← UInt64.toNat_inj, UInt64.toNat_mul,
      Nat.mod_eq_of_lt hfits, eq_comm]
  · rw [if_neg hfits]
    constructor
    · exact fun h => absurd h (by simp)
    · exact fun h => absurd (h ▸ hc) hfits

theorem checkedPow10_eq_some {power : ℕ} {c : UInt64} :
    checkedPow10 power = some c ↔ c.toNat = 10 ^ power := by
  have hc := c.toNat_lt
  rw [checkedPow10]
  by_cases hfits : 10 ^ power < 2 ^ 64
  · rw [if_pos hfits, Option.some.injEq, ← UInt64.toNat_inj, UInt64.toNat_ofNat',
      Nat.mod_eq_of_lt hfits, eq_comm]
  · rw [if_neg hfits]
    constructor
    · exact fun h => absurd h (by simp)
    · exact fun h => absurd (h ▸ hc) hfits

/-! The plain branch. -/

theorem splitOn_text (m : Mantissa) : m.text.splitOn '.' = m.whole :: m.fraction.toList := by
  have hpoint : ∀ digits : List Char, Digits digits → '.' ∉ digits :=
    fun digits h hmem => absurd (h '.' hmem) (by decide)
  have hfraction := hpoint _ m.fraction_digits
  rw [Mantissa.text]
  cases heq : m.fraction with
  | none =>
    rw [Option.elim_none, List.append_nil, List.splitOn_eq_singleton (hpoint _ m.whole_digits)]
    rfl
  | some fraction =>
    rw [heq, Option.getD_some] at hfraction
    rw [Option.elim_some, List.splitOn_append_cons_self_of_not_mem (hpoint _ m.whole_digits),
      List.splitOn_eq_singleton hfraction]
    rfl

/-- One point at most and digits around it make a mantissa. -/
theorem exists_mantissa (hparts : (text.splitOn '.').length ≤ 2)
    (hwhole : (text.splitOn '.').headD [] ≠ [])
    (hdigits : Digits ((text.splitOn '.').headD []) ∧ Digits ((text.splitOn '.').getD 1 [])) :
    ∃ m : Mantissa, m.text = text ∧ m.whole ≠ [] := by
  have hjoin : ['.'].intercalate (text.splitOn '.') = text := List.intercalate_splitOn '.'
  match hsplit : text.splitOn '.' with
  | [] => exact absurd hsplit (List.splitOn_ne_nil _ _)
  | [whole] =>
    rw [hsplit] at hwhole hdigits hjoin
    exact ⟨⟨whole, none, hdigits.1, by simp [Digits], by simpa using hwhole⟩,
      by simpa [Mantissa.text] using hjoin, hwhole⟩
  | [whole, fraction] =>
    rw [hsplit] at hwhole hdigits hjoin
    have hne : whole ++ fraction ≠ [] := fun h => hwhole (List.append_eq_nil_iff.mp h).1
    exact ⟨⟨whole, some fraction, hdigits.1, hdigits.2, hne⟩,
      by simpa [Mantissa.text, List.intercalate] using hjoin, hwhole⟩
  | whole :: fraction :: more :: rest =>
    rw [hsplit] at hparts
    simp at hparts

theorem digits_iff_all : Digits digits ↔ digits.all Char.isDigit := by simp [Digits]

theorem fractionSats_eq_ok (hdigits : Digits digits) (hlength : digits.length ≤ 8) :
    fractionSats text digits = .ok s ↔ s.toNat = value digits * 10 ^ (8 - digits.length) := by
  rw [fractionSats]
  by_cases hempty : digits = []
  · subst hempty
    rw [if_pos rfl, Except.ok.injEq, ← UInt64.toNat_inj, eq_comm]
    simp [value]
  · have hpow : (UInt64.ofNat (10 ^ (8 - digits.length))).toNat = 10 ^ (8 - digits.length) := by
      have hle : 10 ^ (8 - digits.length) ≤ 10 ^ 8 := Nat.pow_le_pow_right (by norm_num) (by omega)
      rw [UInt64.toNat_ofNat', Nat.mod_eq_of_lt (by omega)]
    rw [if_neg hempty, bind_eq_ok]
    constructor
    · rintro ⟨n, hn, h⟩
      rw [orBail_eq_ok, checkedMul_eq_some, hpow] at h
      rw [h, (parseU64_eq_ok hdigits hempty).mp (orFail_eq_ok.mp (context_eq_ok.mp hn))]
    · intro h
      have hlt := s.toNat_lt
      have hle : value digits ≤ value digits * 10 ^ (8 - digits.length) :=
        Nat.le_mul_of_pos_right _ (by positivity)
      have hvalue : (UInt64.ofNat (value digits)).toNat = value digits := by
        rw [UInt64.toNat_ofNat', Nat.mod_eq_of_lt (by omega)]
      refine ⟨UInt64.ofNat (value digits),
        context_eq_ok.mpr (orFail_eq_ok.mpr ((parseU64_eq_ok hdigits hempty).mpr hvalue)), ?_⟩
      rw [orBail_eq_ok, checkedMul_eq_some, hpow, hvalue, h]

/-- Eight decimals at most are the satoshis of the whole number. -/
theorem parsePlainDogeDecimal_text (m : Mantissa) (hwhole : m.whole ≠ []) :
    parsePlainDogeDecimal m.text = .ok s ↔
      m.decimals ≤ 8 ∧ s.toNat = value m.digits * 10 ^ (8 - m.decimals) := by
  have hplus : ¬ m.text.head? = some '+' := by
    intro hplus
    rcases m.mem_text (List.mem_of_mem_head? hplus) with h | h
    · exact absurd h (by decide)
    · exact absurd h (by decide)
  have hparts : ¬ (2 < (m.whole :: m.fraction.toList).length ∨ m.whole = []) := by
    have hone : m.fraction.toList.length ≤ 1 := by cases m.fraction <;> simp
    rw [not_or, List.length_cons]
    exact ⟨by omega, hwhole⟩
  have hfraction : (m.whole :: m.fraction.toList).getD 1 [] = m.fraction.getD [] := by
    cases m.fraction <;> rfl
  have hall : m.whole.all Char.isDigit ∧ (m.fraction.getD []).all Char.isDigit :=
    ⟨digits_iff_all.mp m.whole_digits, digits_iff_all.mp m.fraction_digits⟩
  rw [parsePlainDogeDecimal, guard_bind_of_neg hplus, splitOn_text]
  dsimp only
  rw [List.headD_cons, hfraction, guard_bind_of_neg hparts, guard_bind_of_neg (not_not.mpr hall),
    guard_bind_eq_ok, not_lt]
  change m.decimals ≤ 8 ∧ _ ↔ _
  rw [and_congr_right_iff]
  intro hdecimals
  have hsats : satsPerDoge.toNat = 10 ^ 8 := rfl
  have hshift : 10 ^ 8 = 10 ^ m.decimals * 10 ^ (8 - m.decimals) := by
    rw [← pow_add, Nat.add_sub_cancel' hdecimals]
  have hvalue : value m.digits * 10 ^ (8 - m.decimals) =
      value m.whole * 10 ^ 8 + value (m.fraction.getD []) * 10 ^ (8 - m.decimals) := by
    rw [Mantissa.digits, value_append, hshift, Mantissa.decimals]
    ring
  rw [hvalue, bind_eq_ok]
  constructor
  · rintro ⟨wholeDoge, hdoge, h⟩
    obtain ⟨wholeSats, hwholeSats, h⟩ := bind_eq_ok.mp h
    obtain ⟨sats, hfractionSats, h⟩ := bind_eq_ok.mp h
    rw [orBail_eq_ok, checkedMul_eq_some, hsats,
      (parseU64_eq_ok m.whole_digits hwhole).mp (orFail_eq_ok.mp (context_eq_ok.mp hdoge))]
      at hwholeSats
    rw [fractionSats_eq_ok m.fraction_digits hdecimals] at hfractionSats
    rw [orBail_eq_ok, checkedAdd_eq_some, hwholeSats, hfractionSats] at h
    exact h
  · intro h
    have hlt := s.toNat_lt
    have hwholeSats : (UInt64.ofNat (value m.whole * 10 ^ 8)).toNat = value m.whole * 10 ^ 8 := by
      rw [UInt64.toNat_ofNat', Nat.mod_eq_of_lt (by omega)]
    have hdoge : (UInt64.ofNat (value m.whole)).toNat = value m.whole := by
      rw [UInt64.toNat_ofNat', Nat.mod_eq_of_lt (by omega)]
    have hfractionSats : (UInt64.ofNat (value (m.fraction.getD []) * 10 ^ (8 - m.decimals))).toNat =
        value (m.fraction.getD []) * 10 ^ (8 - m.decimals) := by
      rw [UInt64.toNat_ofNat', Nat.mod_eq_of_lt (by omega)]
    refine ⟨UInt64.ofNat (value m.whole),
      context_eq_ok.mpr (orFail_eq_ok.mpr ((parseU64_eq_ok m.whole_digits hwhole).mpr hdoge)),
      bind_eq_ok.mpr ?_⟩
    refine ⟨UInt64.ofNat (value m.whole * 10 ^ 8), ?_, bind_eq_ok.mpr ?_⟩
    · rw [orBail_eq_ok, checkedMul_eq_some, hsats, hdoge, hwholeSats]
    · refine ⟨_, (fractionSats_eq_ok m.fraction_digits hdecimals).mpr hfractionSats, ?_⟩
      rw [orBail_eq_ok, checkedAdd_eq_some, hwholeSats, hfractionSats, h]

theorem parsePlainDogeDecimal_eq_ok : parsePlainDogeDecimal text = .ok s ↔
    ∃ m : Mantissa, m.text = text ∧ m.whole ≠ [] ∧ m.decimals ≤ 8 ∧
      s.toNat = value m.digits * 10 ^ (8 - m.decimals) := by
  constructor
  · intro h
    have hguards := h
    rw [parsePlainDogeDecimal, guard_bind_eq_ok] at hguards
    obtain ⟨-, hguards⟩ := hguards
    rw [guard_bind_eq_ok, not_or, not_lt] at hguards
    obtain ⟨⟨hparts, hne⟩, hguards⟩ := hguards
    rw [guard_bind_eq_ok, not_not, ← digits_iff_all, ← digits_iff_all] at hguards
    obtain ⟨m, rfl, hwhole⟩ := exists_mantissa hparts hne hguards.1
    exact ⟨m, rfl, hwhole, (parsePlainDogeDecimal_text m hwhole).mp h⟩
  · rintro ⟨m, rfl, hwhole, h⟩
    exact (parsePlainDogeDecimal_text m hwhole).mpr h

/-! `i32` arithmetic. A wrapped result goes on like the exact one. -/

theorem i32_release (exact : ℤ) : Profile.release.i32 exact = .ok (exact.bmod (2 ^ 32)) := by
  rw [Profile.i32]
  split_ifs with hfits
  · obtain ⟨hlow, hhigh⟩ := hfits
    rw [Int.bmod_eq_of_le] <;> omega
  · rfl

theorem i32_of_fits {exact : ℤ} (h : FitsI32 exact) : profile.i32 exact = .ok exact := if_pos h

theorem i32_dev_of_not_fits {exact : ℤ} (h : ¬ FitsI32 exact) :
    Profile.dev.i32 exact = .error .panic := if_neg h

theorem i32_dev_eq_ok {exact result : ℤ} :
    Profile.dev.i32 exact = .ok result ↔ FitsI32 exact ∧ result = exact := by
  by_cases hfits : FitsI32 exact
  · rw [i32_of_fits hfits, Except.ok.injEq, eq_comm]
    exact (and_iff_right hfits).symm
  · simp [i32_dev_of_not_fits hfits, hfits]

theorem i32_add {exact result : ℤ} (h : profile.i32 exact = .ok result) (d : ℤ) :
    profile.i32 (result + d) = profile.i32 (exact + d) := by
  cases profile with
  | dev => rw [(i32_dev_eq_ok.mp h).2]
  | release =>
    rw [i32_release, Except.ok.injEq] at h
    rw [← h, i32_release, i32_release, Int.bmod_add_bmod]

theorem i32_sub {exact result : ℤ} (h : profile.i32 exact = .ok result) (d : ℤ) :
    profile.i32 (d - result) = profile.i32 (d - exact) := by
  cases profile with
  | dev => rw [(i32_dev_eq_ok.mp h).2]
  | release =>
    rw [i32_release, Except.ok.injEq] at h
    rw [← h, i32_release, i32_release, Int.sub_bmod_bmod]

/-! The mantissa of the scientific branch. -/

section
variable {acc whole fraction rest : List Char} {n : ℤ}

theorem scanMantissa_digit {c : Char} {sawDot : Bool} (hc : c.isDigit) :
    scanMantissa profile text acc n sawDot (c :: rest) = (countDigit profile sawDot n >>= fun n' =>
      scanMantissa profile text (acc ++ [c]) n' sawDot rest) := by
  have hpoint : ¬ (c = '.' ∧ sawDot = false) := by
    rintro ⟨rfl, -⟩
    exact absurd hc (by decide)
  rw [scanMantissa, if_neg hpoint, if_pos hc]

theorem scanMantissa_whole (hwhole : Digits whole) :
    scanMantissa profile text acc n false (whole ++ rest) =
      scanMantissa profile text (acc ++ whole) n false rest := by
  induction whole generalizing acc with
  | nil => rw [List.nil_append, List.append_nil]
  | cons c whole ih =>
    obtain ⟨hc, hwhole⟩ := List.forall_mem_cons.mp hwhole
    rw [List.cons_append, scanMantissa_digit hc]
    change scanMantissa profile text (acc ++ [c]) n false (whole ++ rest) = _
    rw [ih hwhole, List.append_assoc, List.singleton_append]

/-- The count of the digits behind the point is exact or overflows once and for all. -/
theorem scanMantissa_fraction (hfraction : Digits fraction) {count : ℕ}
    (hcount : profile.i32 count = .ok n) :
    scanMantissa profile text acc n true (fraction ++ rest) =
      (profile.i32 (count + fraction.length : ℕ) >>= fun n' =>
        scanMantissa profile text (acc ++ fraction) n' true rest) := by
  induction fraction generalizing acc n count with
  | nil =>
    rw [List.length_nil, Nat.add_zero, hcount, List.nil_append, List.append_nil]
    rfl
  | cons c fraction ih =>
    obtain ⟨hc, hfraction⟩ := List.forall_mem_cons.mp hfraction
    have hnext : profile.i32 (n + 1) = profile.i32 (count + 1 : ℕ) := i32_add hcount 1
    have hlength : count + (c :: fraction).length = count + 1 + fraction.length := by
      rw [List.length_cons]
      omega
    rw [List.cons_append, scanMantissa_digit hc, countDigit, if_pos rfl, hnext, hlength]
    cases hstep : profile.i32 (count + 1 : ℕ) with
    | ok n' =>
      rw [ok_bind, ih hfraction hstep, List.append_assoc, List.singleton_append]
    | error fault =>
      cases profile with
      | release =>
        rw [i32_release] at hstep
        cases hstep
      | dev =>
        have hrange : ¬ FitsI32 (count + 1 : ℕ) := by
          intro hrange
          rw [i32_of_fits hrange] at hstep
          cases hstep
        have hlate : ¬ FitsI32 (count + 1 + fraction.length : ℕ) := by
          unfold FitsI32 at hrange ⊢
          omega
        rw [i32_dev_of_not_fits hrange] at hstep
        cases hstep
        rw [i32_dev_of_not_fits hlate]
        rfl

end

theorem i32_zero : profile.i32 (0 : ℕ) = .ok 0 := i32_of_fits (by decide)

/-- A mantissa is read as its digits and the number of its decimals. -/
theorem scanMantissa_text (m : Mantissa) : scanMantissa profile text [] 0 false m.text =
    (profile.i32 m.decimals >>= fun n => .ok (m.digits, n)) := by
  rw [Mantissa.text, scanMantissa_whole m.whole_digits, List.nil_append, Mantissa.decimals,
    Mantissa.digits]
  have hdigits := m.fraction_digits
  cases hfraction : m.fraction with
  | none =>
    rw [Option.elim_none, Option.getD_none, List.length_nil, i32_zero, List.append_nil]
    rfl
  | some fraction =>
    rw [hfraction, Option.getD_some] at hdigits
    have hscan : scanMantissa profile text m.whole 0 true (fraction ++ []) = _ :=
      scanMantissa_fraction hdigits i32_zero
    rw [List.append_nil, Nat.zero_add] at hscan
    rw [Option.elim_some, Option.getD_some, scanMantissa, if_pos ⟨rfl, rfl⟩, hscan]
    rfl

/-- What is left when a row of digits ends, and the scan of it. -/
theorem scanMantissa_blocked {acc rest : List Char} {n : ℤ} {sawDot : Bool}
    (hdigit : StartsOutside Char.isDigit rest) (hpoint : sawDot = true ∨ rest.head? ≠ some '.') :
    scanMantissa profile text acc n sawDot rest = if rest = [] then .ok (acc, n)
      else lift (bail (withText "invalid Dogecoin scientific amount: " text)) := by
  cases rest with
  | nil => rw [scanMantissa, if_pos rfl]
  | cons c rest =>
    have hc : ¬ c.isDigit = true := by simp [hdigit c rfl]
    have hdot : ¬ (c = '.' ∧ sawDot = false) := by
      rintro ⟨rfl, hsaw⟩
      rcases hpoint with hpoint | hpoint
      · rw [hsaw] at hpoint
        cases hpoint
      · exact hpoint rfl
    rw [scanMantissa, if_neg hdot, if_neg hc, if_neg (List.cons_ne_nil _ _)]

theorem digits_takeWhile (chars : List Char) : Digits (chars.takeWhile Char.isDigit) :=
  fun _ hc => (List.mem_takeWhile_imp hc)

theorem startsOutside_dropWhile (p : Char → Bool) (chars : List Char) :
    StartsOutside p (chars.dropWhile p) := by
  intro c hc
  have hhead := List.head?_dropWhile_not p chars
  rw [Option.mem_def.mp hc] at hhead
  exact hhead

/-- Any text is digits, a point and digits as far as it goes, and the scan fails on the rest. -/
theorem scanMantissa_cases (chars : List Char) : ∃ whole fraction rest, Digits whole ∧
    Digits (Option.getD fraction []) ∧ chars = whole ++ fraction.elim [] ('.' :: ·) ++ rest ∧
    ∀ profile text, scanMantissa profile text [] 0 false chars =
      (profile.i32 (fraction.getD []).length >>= fun n =>
        if rest = [] then .ok (whole ++ fraction.getD [], n)
        else lift (bail (withText "invalid Dogecoin scientific amount: " text))) := by
  have hjoin := List.takeWhile_append_dropWhile (p := Char.isDigit) (l := chars)
  have hwhole := digits_takeWhile chars
  have houtside := startsOutside_dropWhile Char.isDigit chars
  generalize chars.takeWhile Char.isDigit = whole at hjoin hwhole
  generalize chars.dropWhile Char.isDigit = rest at hjoin houtside
  subst hjoin
  by_cases hpoint : rest.head? = some '.'
  · obtain ⟨tail, rfl⟩ := List.head?_eq_some_iff.mp hpoint
    have hjoin := List.takeWhile_append_dropWhile (p := Char.isDigit) (l := tail)
    have hfraction := digits_takeWhile tail
    have htail := startsOutside_dropWhile Char.isDigit tail
    generalize tail.takeWhile Char.isDigit = fraction at hjoin hfraction
    generalize tail.dropWhile Char.isDigit = rest at hjoin htail
    subst hjoin
    refine ⟨whole, some fraction, rest, hwhole, hfraction, by simp, fun profile text => ?_⟩
    rw [scanMantissa_whole hwhole, scanMantissa, if_pos ⟨rfl, rfl⟩,
      scanMantissa_fraction hfraction i32_zero, Nat.zero_add, List.nil_append, Option.getD_some]
    congr 1
    funext n
    exact scanMantissa_blocked htail (.inl rfl)
  · refine ⟨whole, none, rest, hwhole, by simp [Digits], by simp, fun profile text => ?_⟩
    rw [scanMantissa_whole hwhole, scanMantissa_blocked houtside (.inr hpoint), Option.getD_none,
      List.length_nil, i32_zero, List.nil_append, List.append_nil]
    rfl

/-! The scientific branch. -/

/-- The shift for exact values, unless an `i32` overflows on the way. -/
def Profile.shift (profile : Profile) (power : ℤ) (decimals : ℕ) : Checked ℤ := do
  let _ ← profile.i32 decimals
  let _ ← profile.i32 (power - decimals)
  profile.i32 (power - decimals + 8)

theorem parseScientificDogeDecimal_split {power : ℤ} {index : ℕ} {d : List Char} {decimals : ℕ}
    (hpower : parseI32 ((text.drop index).drop 1) = .ok power) (hne : d ≠ [])
    (hscan : scanMantissa profile text [] 0 false (text.take index) =
      (profile.i32 decimals >>= fun n => .ok (d, n))) :
    parseScientificDogeDecimal profile text index =
      (profile.shift power decimals >>= fun k => lift (shiftedAmount text d k)) := by
  rw [parseScientificDogeDecimal]
  dsimp only
  rw [orFail_eq_ok.mpr hpower, context_ok, lift_ok, ok_bind, hscan, Profile.shift]
  cases hcount : profile.i32 decimals with
  | error fault => rfl
  | ok n =>
    rw [ok_bind, ok_bind]
    dsimp only
    rw [if_neg hne, i32_sub hcount]
    cases hdifference : profile.i32 (power - decimals) with
    | error fault => rfl
    | ok difference =>
      rw [ok_bind, ok_bind, i32_add hdifference]
      rfl

theorem findIdx?_split {p : Char → Bool} {front rest : List Char} {c : Char}
    (hfront : ∀ c ∈ front, p c = false) (hc : p c = true) :
    (front ++ c :: rest).findIdx? p = some front.length := by
  induction front with
  | nil =>
    rw [List.nil_append, List.findIdx?_cons, hc]
    rfl
  | cons c' front ih =>
    obtain ⟨hhead, hfront⟩ := List.forall_mem_cons.mp hfront
    rw [List.cons_append, List.findIdx?_cons, hhead, ih hfront]
    rfl

theorem findIdx?_text (m : Mantissa) (e : Exponent) :
    (m.text ++ e.text).findIdx? isMarker = some m.text.length :=
  findIdx?_split (fun c hc => by simpa using m.not_isMarker c hc) e.marker_valid

/-- A number with an exponent is shifted by what exact arithmetic gives, or overflows. -/
theorem parseScientificDogeDecimal_text (m : Mantissa) (e : Exponent)
    (hpower : FitsI32 e.power.value) :
    parseScientificDogeDecimal profile (m.text ++ e.text) m.text.length =
      (profile.shift e.power.value m.decimals >>= fun k =>
        lift (shiftedAmount (m.text ++ e.text) m.digits k)) := by
  apply parseScientificDogeDecimal_split
  · rw [List.drop_left' rfl, Exponent.text, List.drop_one, List.tail_cons, parseI32,
      parseInteger_eq_ok (by norm_num)]
    refine ⟨e.power, rfl, rfl, ?_⟩
    unfold FitsI32 at hpower
    omega
  · exact m.nonempty
  · rw [List.take_left' rfl, scanMantissa_text]

theorem parseScientificDogeDecimal_eq_ok {index : ℕ} (hindex : text.findIdx? isMarker = some index) :
    parseScientificDogeDecimal profile text index = .ok s ↔
      ∃ (m : Mantissa) (e : Exponent) (k : ℤ), m.text ++ e.text = text ∧ FitsI32 e.power.value ∧
        profile.shift e.power.value m.decimals = .ok k ∧ shiftedAmount text m.digits k = .ok s := by
  constructor
  · intro h
    have hrun := h
    rw [parseScientificDogeDecimal] at hrun
    obtain ⟨power, hpower, hrun⟩ := bind_eq_ok.mp hrun
    obtain ⟨⟨d, n⟩, hscan, hrun⟩ := bind_eq_ok.mp hrun
    dsimp only at hrun
    have hne : d ≠ [] := by
      rintro rfl
      rw [if_pos rfl] at hrun
      cases hrun
    obtain ⟨whole, fraction, rest, hwhole, hfraction, htake, hcases⟩ :=
      scanMantissa_cases (text.take index)
    have hscan' := hscan
    rw [hcases] at hscan'
    obtain ⟨n', hcount, hscan'⟩ := bind_eq_ok.mp hscan'
    by_cases hrest : rest = []
    · subst hrest
      rw [if_pos rfl, Except.ok.injEq, Prod.mk.injEq] at hscan'
      obtain ⟨rfl, rfl⟩ := hscan'
      rw [List.append_nil] at htake
      obtain ⟨hlt, hmarker, -⟩ := List.findIdx?_eq_some_iff_getElem.mp hindex
      have hparse : parseI32 ((text.drop index).drop 1) = .ok power :=
        orFail_eq_ok.mp (context_eq_ok.mp (mapError_eq_ok.mp hpower))
      have hdrop : text.drop index = text[index] :: text.drop (index + 1) :=
        List.drop_eq_getElem_cons hlt
      have hsigned := hparse
      rw [hdrop, List.drop_one, List.tail_cons, parseI32, parseInteger_eq_ok (by norm_num)] at hsigned
      obtain ⟨power', hpower', rfl, hlow, hhigh⟩ := hsigned
      refine ⟨⟨whole, fraction, hwhole, hfraction, hne⟩, ⟨text[index], power', hmarker⟩, ?_⟩
      have hsplit := parseScientificDogeDecimal_split hparse hne (hcases profile text)
      rw [h] at hsplit
      obtain ⟨k, hk, hamount⟩ := bind_eq_ok.mp hsplit.symm
      have hfits : FitsI32 power'.value := ⟨by omega, by omega⟩
      refine ⟨k, ?_, hfits, hk, mapError_eq_ok.mp hamount⟩
      rw [Exponent.text, hpower', ← hdrop, Mantissa.text, ← htake, List.take_append_drop]
    · rw [if_neg hrest] at hscan'
      cases hscan'
  · rintro ⟨m, e, k, rfl, hpower, hk, hamount⟩
    rw [findIdx?_text, Option.some.injEq] at hindex
    subst hindex
    rw [parseScientificDogeDecimal_text m e hpower, hk, ok_bind, hamount, lift_ok]

end DogeOperator.DogeAmount
