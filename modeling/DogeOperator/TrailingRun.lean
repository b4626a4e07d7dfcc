import Mathlib.Data.List.DropRight
import Mathlib.Data.List.Infix

/-! The run of marked elements that a list ends in, and the first prefix of a list that has a
property. -/
namespace DogeOperator.TrailingRun

section
variable {α β : Type} (p : α → Bool)

/-- How many marked elements stand at the end. -/
def trailing (xs : List α) : ℕ := (xs.rtakeWhile p).length

/-- The last elements, so many of them, are marked. -/
def EndsIn (n : ℕ) (xs : List α) : Prop := ∃ run, run <:+ xs ∧ run.length = n ∧ ∀ x ∈ run, p x

/-- The last element is marked, and with it a run is that long. -/
def CompletesRun (n : ℕ) (xs : List α) : Prop :=
  (∃ earlier x, xs = earlier ++ [x] ∧ p x) ∧ EndsIn p n xs

variable {p} {xs : List α} {x : α} {n : ℕ}

theorem trailing_nil : trailing p [] = 0 := by rw [trailing, List.rtakeWhile_nil, List.length_nil]

theorem trailing_concat_pos (h : p x) : trailing p (xs ++ [x]) = trailing p xs + 1 := by
  rw [trailing, List.rtakeWhile_concat_pos p xs x h, List.length_append, List.length_singleton,
    trailing]

theorem trailing_concat_neg (h : ¬ p x) : trailing p (xs ++ [x]) = 0 := by
  rw [trailing, List.rtakeWhile_concat_neg p xs x h, List.length_nil]

theorem trailing_map {f : β → α} (ys : List β) :
    trailing p (ys.map f) = trailing (fun y => p (f y)) ys := by
  induction ys using List.reverseRecOn with
  | nil => rw [List.map_nil, trailing_nil, trailing_nil]
  | append_singleton ys y ih =>
    rw [List.map_append, List.map_singleton]
    by_cases h : p (f y) = true
    · rw [trailing_concat_pos h, trailing_concat_pos (p := fun y => p (f y)) h, ih]
    · rw [trailing_concat_neg h, trailing_concat_neg (p := fun y => p (f y)) h]

theorem trailing_of_all (h : ∀ x ∈ xs, p x) : trailing p xs = xs.length := by
  rw [trailing, List.rtakeWhile_eq_self_iff.mpr h]

theorem endsIn_zero : EndsIn p 0 xs := ⟨[], List.nil_suffix, rfl, by simp⟩

theorem endsIn_concat : EndsIn p (n + 1) (xs ++ [x]) ↔ p x ∧ EndsIn p n xs := by
  constructor
  · rintro ⟨run, hsuffix, hlength, hmarked⟩
    rcases List.suffix_concat_iff.mp hsuffix with rfl | ⟨run, rfl, hrun⟩
    · cases hlength
    · rw [List.length_append, List.length_singleton, Nat.add_right_cancel_iff] at hlength
      rw [List.forall_mem_append, List.forall_mem_singleton] at hmarked
      exact ⟨hmarked.2, run, hrun, hlength, hmarked.1⟩
  · rintro ⟨hx, run, hsuffix, rfl, hmarked⟩
    refine ⟨run ++ [x], List.suffix_concat_iff.mpr (.inr ⟨run, rfl, hsuffix⟩), by simp, ?_⟩
    rw [List.forall_mem_append, List.forall_mem_singleton]
    exact ⟨hmarked, hx⟩

/-- The last elements are marked when the run at the end is long enough. -/
theorem endsIn_iff : EndsIn p n xs ↔ n ≤ trailing p xs := by
  induction xs using List.reverseRecOn generalizing n with
  | nil =>
    rw [trailing_nil, Nat.le_zero]
    constructor
    · rintro ⟨run, hsuffix, rfl, -⟩
      rw [List.suffix_nil.mp hsuffix, List.length_nil]
    · rintro rfl
      exact endsIn_zero
  | append_singleton xs x ih =>
    cases n with
    | zero => exact iff_of_true endsIn_zero (Nat.zero_le _)
    | succ n =>
      rw [endsIn_concat, ih]
      by_cases hx : p x = true
      · rw [trailing_concat_pos hx, and_iff_right hx, Nat.add_le_add_iff_right]
      · rw [trailing_concat_neg hx]
        exact iff_of_false (fun h => hx h.1) (Nat.not_succ_le_zero n)

theorem not_completesRun_nil : ¬ CompletesRun p n [] := by
  rintro ⟨⟨earlier, x, hx, -⟩, -⟩
  exact List.append_ne_nil_of_right_ne_nil earlier (List.cons_ne_nil x []) hx.symm

theorem completesRun_concat :
    CompletesRun p n (xs ++ [x]) ↔ p x ∧ n ≤ trailing p xs + 1 := by
  rw [CompletesRun, endsIn_iff]
  constructor
  · rintro ⟨⟨earlier, last, hlast, hmarked⟩, hle⟩
    obtain ⟨-, rfl⟩ := List.append_singleton_inj.mp hlast
    rw [trailing_concat_pos hmarked] at hle
    exact ⟨hmarked, hle⟩
  · rintro ⟨hx, hle⟩
    rw [trailing_concat_pos hx]
    exact ⟨⟨xs, x, rfl, hx⟩, hle⟩

theorem completesRun_of_all (h : ∀ x ∈ xs, p x) :
    CompletesRun p n xs ↔ xs ≠ [] ∧ n ≤ xs.length := by
  rw [CompletesRun, endsIn_iff, trailing_of_all h]
  refine and_congr_left' ⟨?_, fun hne => ?_⟩
  · rintro ⟨earlier, x, rfl, -⟩
    simp
  · refine ⟨xs.dropLast, xs.getLast hne, (List.dropLast_concat_getLast hne).symm, ?_⟩
    exact h _ (List.getLast_mem hne)

end

section
variable {α : Type} (P : List α → Prop)

/-- No prefix has the property. -/
def Never (xs : List α) : Prop := ∀ earlier, earlier <+: xs → ¬ P earlier

/-- The list has the property, and no shorter prefix has. -/
def First (xs : List α) : Prop := P xs ∧ ∀ earlier, earlier <+: xs → earlier ≠ xs → ¬ P earlier

variable {P} {xs : List α} {x : α}

theorem never_nil : Never P [] ↔ ¬ P [] := by
  constructor
  · intro h
    exact h [] List.prefix_rfl
  · intro h earlier hearlier
    rw [List.prefix_nil.mp hearlier]
    exact h

theorem never_cons : Never P (x :: xs) ↔ ¬ P [] ∧ Never (fun ys => P (x :: ys)) xs := by
  constructor
  · intro h
    refine ⟨h [] List.nil_prefix, fun earlier hearlier => ?_⟩
    exact h (x :: earlier) (List.cons_prefix_cons.mpr ⟨rfl, hearlier⟩)
  · rintro ⟨hnil, hcons⟩ earlier hearlier
    rcases List.prefix_cons_iff.mp hearlier with rfl | ⟨earlier, rfl, hrest⟩
    · exact hnil
    · exact hcons earlier hrest

theorem first_nil : First P [] ↔ P [] := by
  refine and_iff_left fun earlier hearlier hne => ?_
  exact absurd (List.prefix_nil.mp hearlier) hne

theorem first_cons : First P (x :: xs) ↔ ¬ P [] ∧ First (fun ys => P (x :: ys)) xs := by
  constructor
  · rintro ⟨hlast, hfirst⟩
    refine ⟨hfirst [] List.nil_prefix (by simp), hlast, fun earlier hearlier hne => ?_⟩
    refine hfirst (x :: earlier) (List.cons_prefix_cons.mpr ⟨rfl, hearlier⟩) fun heq => ?_
    exact hne (List.cons.inj heq).2
  · rintro ⟨hnil, hlast, hfirst⟩
    refine ⟨hlast, fun earlier hearlier hne => ?_⟩
    rcases List.prefix_cons_iff.mp hearlier with rfl | ⟨earlier, rfl, hrest⟩
    · exact hnil
    · exact hfirst earlier hrest fun heq => hne (heq ▸ rfl)

/-- Nothing follows the first prefix with the property. -/
theorem First.eq_nil (h : First P xs) (hnil : P []) : xs = [] := by
  by_contra hne
  exact h.2 [] List.nil_prefix (Ne.symm hne) hnil

end

end DogeOperator.TrailingRun
