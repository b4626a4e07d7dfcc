import DogeOperator.Bytes
import Mathlib.Data.List.Infix

/-! IPv6 addresses as URLs write them: eight groups in their shortest lower-case hexadecimal form,
with `::` in place of the first longest run of zero groups. -/
namespace DogeOperator.Ipv6Text
open Bytes

/-- A group without leading zeros. -/
def shortestHex (n : ℕ) : List Char :=
  if n < 16 then [hexDigit n]
  else if n < 256 then [hexDigit (n / 16), hexDigit (n % 16)]
  else if n < 4096 then [hexDigit (n / 256), hexDigit (n / 16 % 16), hexDigit (n % 16)]
  else [hexDigit (n / 4096), hexDigit (n / 256 % 16), hexDigit (n / 16 % 16), hexDigit (n % 16)]

/-- How many zero groups follow from a position on. -/
def zerosAt (groups : List UInt16) (index : ℕ) : ℕ :=
  ((groups.drop index).takeWhile fun group => group = 0).length

/-- Where the first longest run of at least two zero groups starts. -/
def compressIndex (groups : List UInt16) : Option ℕ :=
  let runs := (List.range groups.length).map (zerosAt groups)
  let longest := runs.foldl max 0
  if 1 < longest then runs.findIdx? fun run => run = longest else none

/-- Groups from a position on; zeros are left out while a run is compressed. -/
def serializeGroups (compress : Option ℕ) : ℕ → Bool → List UInt16 → List Char
  | _, _, [] => []
  | index, ignoreZeros, group :: rest =>
    if ignoreZeros = true ∧ group = 0 then serializeGroups compress (index + 1) true rest
    else if compress = some index then
      (if index = 0 then [':', ':'] else [':']) ++ serializeGroups compress (index + 1) true rest
    else shortestHex group.toNat ++ (if index = 7 then [] else [':']) ++
      serializeGroups compress (index + 1) false rest

def serialize (segments : List.Vector UInt16 8) : List Char :=
  serializeGroups (compressIndex segments.toList) 0 false segments.toList

example : serialize ⟨[0xfe80, 0, 0, 1, 0, 0, 0, 0x2f], rfl⟩ = "fe80:0:0:1::2f".toList := by decide

/-! Characters. -/

def lowerHexDigits : List Char := "0123456789abcdef".toList

theorem hexDigit_mem {n : ℕ} (h : n < 16) : hexDigit n ∈ lowerHexDigits := by
  have hall : ∀ k : Fin 16, hexDigit k.val ∈ lowerHexDigits := by decide
  exact hall ⟨n, h⟩

theorem hexDigit_inj {m n : ℕ} (hm : m < 16) (hn : n < 16) : hexDigit m = hexDigit n ↔ m = n := by
  have hall : ∀ j k : Fin 16, hexDigit j.val = hexDigit k.val ↔ j.val = k.val := by decide
  exact hall ⟨m, hm⟩ ⟨n, hn⟩

theorem hexDigit_ne_colon {n : ℕ} (h : n < 16) : hexDigit n ≠ ':' := by
  have hall : ∀ k : Fin 16, hexDigit k.val ≠ ':' := by decide
  exact hall ⟨n, h⟩

theorem shortestHex_ne_nil (n : ℕ) : shortestHex n ≠ [] := by
  unfold shortestHex
  split_ifs <;> simp

theorem mem_shortestHex {n : ℕ} (h : n < 65536) {c : Char} (hc : c ∈ shortestHex n) :
    c ∈ lowerHexDigits := by
  have hdigits : ∃ k < 16, c = hexDigit k := by
    unfold shortestHex at hc
    split_ifs at hc with hone htwo hthree
    · exact ⟨n, hone, List.mem_singleton.mp hc⟩
    · simp only [List.mem_cons, List.not_mem_nil, or_false] at hc
      rcases hc with hc | hc
      · exact ⟨_, by omega, hc⟩
      · exact ⟨_, by omega, hc⟩
    · simp only [List.mem_cons, List.not_mem_nil, or_false] at hc
      rcases hc with hc | hc | hc
      · exact ⟨_, by omega, hc⟩
      · exact ⟨_, by omega, hc⟩
      · exact ⟨_, by omega, hc⟩
    · simp only [List.mem_cons, List.not_mem_nil, or_false] at hc
      rcases hc with hc | hc | hc | hc
      · exact ⟨_, by omega, hc⟩
      · exact ⟨_, by omega, hc⟩
      · exact ⟨_, by omega, hc⟩
      · exact ⟨_, by omega, hc⟩
  obtain ⟨k, hk, rfl⟩ := hdigits
  exact hexDigit_mem hk

variable {compress : Option ℕ} {index : ℕ} {ignoreZeros : Bool} {groups : List UInt16}

theorem mem_serializeGroups {c : Char} (h : c ∈ serializeGroups compress index ignoreZeros groups) :
    c ∈ lowerHexDigits ∨ c = ':' := by
  induction groups generalizing index ignoreZeros with
  | nil => cases h
  | cons group rest ih =>
    rw [serializeGroups] at h
    split_ifs at h
    · exact ih h
    · rcases List.mem_append.mp h with hc | hc
      · exact .inr (by simpa using hc)
      · exact ih hc
    · rcases List.mem_append.mp h with hc | hc
      · exact .inr (by simpa using hc)
      · exact ih hc
    all_goals
      rw [List.append_assoc] at h
      rcases List.mem_append.mp h with hc | hc
      · exact .inl (mem_shortestHex group.toNat_lt hc)
      · rcases List.mem_append.mp hc with hc | hc
        · exact .inr (by simp_all)
        · exact ih hc

/-! The first group. -/

/-- A run from the start on starts with a zero group. -/
theorem head_of_compressIndex {head : UInt16} {rest : List UInt16}
    (h : compressIndex (head :: rest) = some 0) : head = 0 := by
  rw [compressIndex] at h
  split_ifs at h with hlongest
  obtain ⟨hlt, hrun, -⟩ := List.findIdx?_eq_some_iff_getElem.mp h
  simp only [List.getElem_map, List.getElem_range, decide_eq_true_eq] at hrun
  by_contra hne
  have hzero : zerosAt (head :: rest) 0 = 0 := by
    rw [zerosAt, List.drop_zero, List.takeWhile_cons_of_neg (by simpa using hne), List.length_nil]
  rw [hzero] at hrun
  rw [← hrun] at hlongest
  omega

/-- Without a run at the start the text starts with the first group. -/
theorem serialize_head {segments : List.Vector UInt16 8}
    (h : compressIndex segments.toList ≠ some 0) :
    ∃ tail, serialize segments = shortestHex segments.head.toNat ++ ':' :: tail := by
  have hcons : segments.toList = segments.head :: segments.tail.toList := by
    rw [← List.Vector.toList_cons, List.Vector.cons_head_tail]
  refine ⟨serializeGroups (compressIndex segments.toList) 1 false segments.tail.toList, ?_⟩
  rw [serialize]
  generalize compressIndex segments.toList = compress at h ⊢
  rw [hcons, serializeGroups, if_neg (by simp), if_neg h, if_neg (by norm_num), List.append_assoc]
  rfl

/-- With a run at the start the text starts with two colons. -/
theorem serialize_compressed {segments : List.Vector UInt16 8}
    (h : compressIndex segments.toList = some 0) : serialize segments =
      ':' :: ':' :: serializeGroups (some 0) 1 true segments.tail.toList := by
  have hcons : segments.toList = segments.head :: segments.tail.toList := by
    rw [← List.Vector.toList_cons, List.Vector.cons_head_tail]
  rw [serialize, h, hcons, serializeGroups, if_neg (by simp), if_pos rfl, if_pos rfl]
  rfl

/-- What follows the run is nothing, so every group is zero. -/
theorem serializeGroups_eq_nil (h : serializeGroups (some 0) index true groups = [])
    (hindex : 0 < index) : ∀ group ∈ groups, group = 0 := by
  induction groups generalizing index with
  | nil => simp
  | cons group rest ih =>
    rw [serializeGroups] at h
    have hcompress : some 0 ≠ some index := by
      rw [Ne, Option.some.injEq]
      omega
    by_cases hzero : group = 0
    · rw [if_pos ⟨rfl, hzero⟩] at h
      exact List.forall_mem_cons.mpr ⟨hzero, ih h (by omega)⟩
    · rw [if_neg fun hignore => hzero hignore.2, if_neg hcompress, List.append_assoc] at h
      exact absurd (List.append_eq_nil_iff.mp h).1 (shortestHex_ne_nil _)

/-- What follows the run is a digit one, so the groups are zeros and a one. -/
theorem serializeGroups_eq_one (h : serializeGroups (some 0) index true groups = ['1'])
    (hindex : 0 < index) (hlength : index + groups.length = 8) :
    groups = List.replicate (7 - index) 0 ++ [1] := by
  induction groups generalizing index with
  | nil => cases h
  | cons group rest ih =>
    rw [List.length_cons] at hlength
    rw [serializeGroups] at h
    have hcompress : some 0 ≠ some index := by
      rw [Ne, Option.some.injEq]
      omega
    by_cases hzero : group = 0
    · rw [if_pos ⟨rfl, hzero⟩] at h
      by_cases hlast : index = 7
      · have hempty : rest = [] := List.eq_nil_of_length_eq_zero (by omega)
        rw [hempty] at h
        cases h
      · have hreplicate : 7 - index = 7 - (index + 1) + 1 := by omega
        rw [ih h (by omega) (by omega), hzero, hreplicate, List.replicate_succ, List.cons_append]
    · rw [if_neg fun hignore => hzero hignore.2, if_neg hcompress] at h
      by_cases hlast : index = 7
      · have hempty : rest = [] := List.eq_nil_of_length_eq_zero (by omega)
        subst hempty hlast
        rw [if_pos rfl, List.append_nil, serializeGroups, List.append_nil] at h
        have hone : group.toNat = 1 := by
          unfold shortestHex at h
          split_ifs at h with hdigit
          · have hdigits : hexDigit group.toNat = hexDigit 1 := (List.cons.inj h).1
            exact (hexDigit_inj hdigit (by norm_num)).mp hdigits
          all_goals simp at h
        have hgroup : group = 1 := UInt16.toNat_inj.mp hone
        rw [hgroup]
        rfl
      · rw [if_neg hlast] at h
        have hcolon : ':' ∈ ['1'] := by
          rw [← h]
          simp
        exact absurd hcolon (by decide)

/-- A compressed text of nothing or one after the colons is the unspecified or the loopback address. -/
theorem eq_of_compressed {segments : List.Vector UInt16 8}
    (h : serialize segments = [':', ':'] ∨ serialize segments = [':', ':', '1']) :
    segments.toList = [0, 0, 0, 0, 0, 0, 0, 0] ∨ segments.toList = [0, 0, 0, 0, 0, 0, 0, 1] := by
  have hcons : segments.toList = segments.head :: segments.tail.toList := by
    rw [← List.Vector.toList_cons, List.Vector.cons_head_tail]
  have hlength : segments.tail.toList.length = 7 := segments.tail.toList_length
  by_cases hcompress : compressIndex segments.toList = some 0
  · have hhead : segments.head = 0 := by
      rw [hcons] at hcompress
      exact head_of_compressIndex hcompress
    rw [serialize_compressed hcompress] at h
    simp only [List.cons.injEq, true_and] at h
    rw [hcons, hhead]
    rcases h with h | h
    · have hzeros := List.eq_replicate_of_mem (serializeGroups_eq_nil h (by norm_num))
      rw [hzeros, hlength]
      exact .inl rfl
    · rw [serializeGroups_eq_one h (by norm_num) (by omega)]
      exact .inr rfl
  · obtain ⟨tail, htail⟩ := serialize_head hcompress
    have hdigit : ∀ c ∈ shortestHex segments.head.toNat, c ≠ ':' := by
      rintro c hc rfl
      exact absurd (mem_shortestHex segments.head.toNat_lt hc) (by decide)
    rw [htail] at h
    cases hfirst : shortestHex segments.head.toNat with
    | nil => exact absurd hfirst (shortestHex_ne_nil _)
    | cons c rest =>
      rw [hfirst, List.cons_append, List.cons.injEq, List.cons.injEq] at h
      have hcolon : c = ':' := h.elim And.left And.left
      exact absurd hcolon (hdigit c (by rw [hfirst]; exact List.mem_cons_self))

/-! Which groups a text starts with. -/

theorem two_digits {x y n : ℕ} (hx : 0 < x ∧ x < 16) (hy : y < 16) (hn : n < 65536)
    (tail : List Char) : [hexDigit x, hexDigit y] <+: shortestHex n ++ ':' :: tail ↔
      n = 16 * x + y ∨ n / 16 = 16 * x + y ∨ n / 256 = 16 * x + y := by
  have hcolon := hexDigit_ne_colon hy
  unfold shortestHex
  split_ifs with hone htwo hthree
  · simp only [List.cons_append, List.nil_append, List.cons_prefix_cons, hcolon, false_and, and_false,
      false_iff]
    omega
  · simp only [List.cons_append, List.nil_append, List.cons_prefix_cons, List.nil_prefix, and_true]
    rw [hexDigit_inj hx.2 (by omega), hexDigit_inj hy (by omega)]
    omega
  · simp only [List.cons_append, List.nil_append, List.cons_prefix_cons, List.nil_prefix, and_true]
    rw [hexDigit_inj hx.2 (by omega), hexDigit_inj hy (by omega)]
    omega
  · simp only [List.cons_append, List.nil_append, List.cons_prefix_cons, List.nil_prefix, and_true]
    rw [hexDigit_inj hx.2 (by omega), hexDigit_inj hy (by omega)]
    omega

theorem three_digits {x y z n : ℕ} (hx : 0 < x ∧ x < 16) (hy : y < 16) (hz : z < 16) (hn : n < 65536)
    (tail : List Char) : [hexDigit x, hexDigit y, hexDigit z] <+: shortestHex n ++ ':' :: tail ↔
      n = 256 * x + 16 * y + z ∨ n / 16 = 256 * x + 16 * y + z := by
  have hcolon := hexDigit_ne_colon hy
  have hcolon' := hexDigit_ne_colon hz
  unfold shortestHex
  split_ifs with hone htwo hthree
  · simp only [List.cons_append, List.nil_append, List.cons_prefix_cons, hcolon, false_and, and_false,
      false_iff]
    omega
  · simp only [List.cons_append, List.nil_append, List.cons_prefix_cons, hcolon', false_and, and_false,
      false_iff]
    omega
  · simp only [List.cons_append, List.nil_append, List.cons_prefix_cons, List.nil_prefix, and_true]
    rw [hexDigit_inj hx.2 (by omega), hexDigit_inj hy (by omega), hexDigit_inj hz (by omega)]
    omega
  · simp only [List.cons_append, List.nil_append, List.cons_prefix_cons, List.nil_prefix, and_true]
    rw [hexDigit_inj hx.2 (by omega), hexDigit_inj hy (by omega), hexDigit_inj hz (by omega)]
    omega

/-- A mask of leading bits clears the others. -/
theorem and_leading_bits {a b n : ℕ} (h : n < 2 ^ (b + a)) :
    n &&& ((2 ^ b - 1) * 2 ^ a) = n / 2 ^ a * 2 ^ a := by
  have hpos : 0 < 2 ^ a := by positivity
  have hlead : (n &&& ((2 ^ b - 1) * 2 ^ a)) / 2 ^ a = n / 2 ^ a := by
    rw [Nat.and_div_two_pow, Nat.mul_div_cancel _ hpos, Nat.and_two_pow_sub_one_eq_mod]
    exact Nat.mod_eq_of_lt (Nat.div_lt_of_lt_mul (by rwa [← pow_add, add_comm a b]))
  have hrest : (n &&& ((2 ^ b - 1) * 2 ^ a)) % 2 ^ a = 0 := by
    rw [Nat.and_mod_two_pow, Nat.mul_mod_left, Nat.and_zero]
  rw [← Nat.div_add_mod (n &&& ((2 ^ b - 1) * 2 ^ a)) (2 ^ a), hlead, hrest, add_zero, mul_comm]

end DogeOperator.Ipv6Text
