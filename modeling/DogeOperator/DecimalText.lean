import Mathlib.Tactic

/-! Texts of decimal numbers: digits, a point and digits, and an exponent. A text has at most one
reading, so it stands for at most one number. -/
namespace DogeOperator.DecimalText

def Digits (text : List Char) : Prop := ∀ c ∈ text, c.isDigit

/-- The number that a row of digits says. -/
def value (digits : List Char) : ℕ := Nat.ofDigitChars 10 digits 0

theorem value_append (front back : List Char) :
    value (front ++ back) = value front * 10 ^ back.length + value back := by
  rw [value, Nat.ofDigitChars_append, Nat.ofDigitChars_eq_ofDigitChars_zero, mul_comm]
  rfl

theorem value_replicate_zero (n : ℕ) : value (List.replicate n '0') = 0 := by
  rw [value, Nat.ofDigitChars_replicate_zero, mul_zero]

/-! Splitting a text where a class of characters ends. -/

/-- A text that does not start in the class. -/
def StartsOutside (p : Char → Bool) (text : List Char) : Prop := ∀ c ∈ text.head?, p c = false

section
variable {p : Char → Bool} {front front' rest rest' : List Char}

theorem takeWhile_split (hfront : ∀ c ∈ front, p c) (hrest : StartsOutside p rest) :
    (front ++ rest).takeWhile p = front := by
  rw [List.takeWhile_append_of_pos hfront]
  cases rest with
  | nil => simp
  | cons c rest => simp [hrest c rfl]

theorem split_inj (hfront : ∀ c ∈ front, p c) (hfront' : ∀ c ∈ front', p c)
    (hrest : StartsOutside p rest) (hrest' : StartsOutside p rest')
    (h : front ++ rest = front' ++ rest') : front = front' ∧ rest = rest' := by
  have hsame : front = front' := by
    rw [← takeWhile_split hfront hrest, h, takeWhile_split hfront' hrest']
  subst hsame
  exact ⟨rfl, List.append_cancel_left h⟩

end

/-! What stands before the exponent. -/

/-- Digits, then a point and more digits if any, with at least one digit. -/
@[ext]
structure Mantissa where
  whole : List Char
  fraction : Option (List Char)
  whole_digits : Digits whole
  fraction_digits : Digits (fraction.getD [])
  nonempty : whole ++ fraction.getD [] ≠ []

namespace Mantissa
variable (m : Mantissa)

def text : List Char := m.whole ++ m.fraction.elim [] ('.' :: ·)

def digits : List Char := m.whole ++ m.fraction.getD []

/-- How many digits stand behind the point. -/
def decimals : ℕ := (m.fraction.getD []).length

theorem digits_digits : Digits m.digits := by
  intro c hc
  rcases List.mem_append.mp hc with hwhole | hfraction
  · exact m.whole_digits c hwhole
  · exact m.fraction_digits c hfraction

theorem mem_text {c : Char} (h : c ∈ m.text) : c.isDigit ∨ c = '.' := by
  rcases List.mem_append.mp h with hwhole | hrest
  · exact .inl (m.whole_digits c hwhole)
  · cases hfraction : m.fraction with
    | none => simp [hfraction] at hrest
    | some fraction =>
      rw [hfraction, Option.elim_some, List.mem_cons] at hrest
      have hdigits := m.fraction_digits
      rw [hfraction, Option.getD_some] at hdigits
      exact hrest.symm.imp_left (hdigits c)

theorem text_ne_nil : m.text ≠ [] := by
  intro hnil
  obtain ⟨hwhole, hrest⟩ := List.append_eq_nil_iff.mp hnil
  apply m.nonempty
  cases hfraction : m.fraction with
  | none => rw [hwhole, Option.getD_none, List.append_nil]
  | some fraction => simp [hfraction] at hrest

theorem text_injective : Function.Injective text := by
  intro m m' h
  have hpoint : ∀ fraction : Option (List Char),
      StartsOutside Char.isDigit (fraction.elim [] ('.' :: ·)) := by
    intro fraction
    cases fraction with
    | none => simp [StartsOutside]
    | some fraction => simp [StartsOutside]
  obtain ⟨hwhole, hrest⟩ := split_inj m.whole_digits m'.whole_digits (hpoint m.fraction)
    (hpoint m'.fraction) h
  ext1
  · exact hwhole
  · cases hfraction : m.fraction with
    | none =>
      cases hfraction' : m'.fraction with
      | none => rfl
      | some fraction' => simp [hfraction, hfraction'] at hrest
    | some fraction =>
      cases hfraction' : m'.fraction with
      | none => simp [hfraction, hfraction'] at hrest
      | some fraction' => simpa [hfraction, hfraction'] using hrest

end Mantissa

/-! The exponent. -/

def isMarker (c : Char) : Bool := c = 'e' || c = 'E'

def isSign (c : Char) : Bool := c = '+' || c = '-'

/-- A whole number with or without a sign. -/
@[ext]
structure Signed where
  sign : Option Char
  digits : List Char
  sign_valid : ∀ c ∈ sign, isSign c
  digits_digits : Digits digits
  nonempty : digits ≠ []

namespace Signed

def text (n : Signed) : List Char := n.sign.toList ++ n.digits

def value (n : Signed) : ℤ :=
  if n.sign = some '-' then -(DecimalText.value n.digits : ℤ) else DecimalText.value n.digits

theorem isDigit_not_isSign {c : Char} (h : c.isDigit) : isSign c = false := by
  rw [isSign, Bool.or_eq_false_iff, decide_eq_false_iff_not, decide_eq_false_iff_not]
  constructor
  · rintro rfl
    exact absurd h (by decide)
  · rintro rfl
    exact absurd h (by decide)

theorem text_injective : Function.Injective text := by
  intro n n' h
  have houtside : ∀ digits : List Char, Digits digits → StartsOutside isSign digits :=
    fun digits hdigits c hc => isDigit_not_isSign (hdigits c (List.mem_of_mem_head? hc))
  have hsigns : ∀ n : Signed, ∀ c ∈ n.sign.toList, isSign c :=
    fun n c hc => n.sign_valid c (Option.mem_toList.mp hc)
  obtain ⟨hsign, hdigits⟩ := split_inj (hsigns n) (hsigns n') (houtside _ n.digits_digits)
    (houtside _ n'.digits_digits) h
  ext1
  · cases hleft : n.sign with
    | none =>
      cases hright : n'.sign with
      | none => rfl
      | some c' => simp [hleft, hright] at hsign
    | some c =>
      cases hright : n'.sign with
      | none => simp [hleft, hright] at hsign
      | some c' => simpa [hleft, hright] using hsign
  · exact hdigits

end Signed

/-- The part of a text from its first marker on. -/
@[ext]
structure Exponent where
  marker : Char
  power : Signed
  marker_valid : isMarker marker

def Exponent.text (e : Exponent) : List Char := e.marker :: e.power.text

/-! The number. -/

@[ext]
structure Spelling where
  mantissa : Mantissa
  exponent : Option Exponent

namespace Spelling
variable (s : Spelling)

def text : List Char := s.mantissa.text ++ s.exponent.elim [] Exponent.text

def power : ℤ := s.exponent.elim 0 fun e => e.power.value

def value : ℚ := DecimalText.value s.mantissa.digits * 10 ^ (s.power - s.mantissa.decimals)

end Spelling

theorem Mantissa.not_isMarker (m : Mantissa) : ∀ c ∈ m.text, (!isMarker c) = true := by
  intro c hc
  rw [Bool.not_eq_true', isMarker, Bool.or_eq_false_iff, decide_eq_false_iff_not,
    decide_eq_false_iff_not]
  rcases m.mem_text hc with hdigit | rfl
  · constructor
    · rintro rfl
      exact absurd hdigit (by decide)
    · rintro rfl
      exact absurd hdigit (by decide)
  · decide

theorem startsOutside_exponent (exponent : Option Exponent) :
    StartsOutside (fun c => !isMarker c) (exponent.elim [] Exponent.text) := by
  cases exponent with
  | none => simp [StartsOutside]
  | some e => simp [StartsOutside, Exponent.text, e.marker_valid]

/-- A text has one reading at most. -/
theorem Spelling.text_injective : Function.Injective Spelling.text := by
  intro s s' h
  obtain ⟨hmantissa, hexponent⟩ := split_inj s.mantissa.not_isMarker s'.mantissa.not_isMarker
    (startsOutside_exponent s.exponent) (startsOutside_exponent s'.exponent) h
  ext1
  · exact Mantissa.text_injective hmantissa
  · cases hleft : s.exponent with
    | none =>
      cases hright : s'.exponent with
      | none => rfl
      | some e' => simp [hleft, hright, Exponent.text] at hexponent
    | some e =>
      cases hright : s'.exponent with
      | none => simp [hleft, hright, Exponent.text] at hexponent
      | some e' =>
        simp only [hleft, hright, Option.elim_some, Exponent.text, List.cons.injEq] at hexponent
        rw [Exponent.ext hexponent.1 (Signed.text_injective hexponent.2)]

/-- The text stands for the number. -/
def Denotes (text : List Char) (q : ℚ) : Prop := ∃ s : Spelling, s.text = text ∧ s.value = q

theorem denotes_text {s : Spelling} {q : ℚ} : Denotes s.text q ↔ s.value = q := by
  constructor
  · rintro ⟨s', htext, hvalue⟩
    rw [← Spelling.text_injective htext]
    exact hvalue
  · exact fun h => ⟨s, rfl, h⟩

theorem Spelling.value_nonneg (s : Spelling) : 0 ≤ s.value := by
  unfold value
  positivity

end DogeOperator.DecimalText
