import Mathlib.Data.List.Basic
import Mathlib.Tactic

/-! Consecutive half-open intervals of indices and the slices of a list they cut out. -/
namespace DogeOperator.Intervals

variable {α : Type*} {xs ys : List α} {a b c first last : ℕ} {ranges : List (ℕ × ℕ)}

/-- The elements at the indices from `start` up to `stop`. -/
def slice (xs : List α) (start stop : ℕ) : List α := (xs.drop start).take (stop - start)

@[simp] theorem slice_self (xs : List α) (a : ℕ) : slice xs a a = [] := by
  simp [slice]

theorem slice_append (hab : a ≤ b) (hbc : b ≤ c) : slice xs a b ++ slice xs b c = slice xs a c := by
  have hsplit : c - a = (b - a) + (c - b) := by omega
  have hdrop : xs.drop b = (xs.drop a).drop (b - a) := by
    rw [List.drop_drop, Nat.add_sub_cancel' hab]
  rw [slice, slice, slice, hsplit, List.take_add, hdrop]

/-- Appending behind a slice does not change it. -/
theorem slice_extend (h : b ≤ xs.length) : slice (xs ++ ys) a b = slice xs a b := by
  unfold slice
  rcases Nat.lt_or_ge b a with hba | hab
  · rw [Nat.sub_eq_zero_of_le hba.le, List.take_zero, List.take_zero]
  · rw [List.drop_append_of_le_length (hab.trans h), List.take_append_of_le_length]
    rw [List.length_drop]
    omega

/-- Non-empty intervals, each starting where the one before stops. -/
def Consecutive : ℕ → List (ℕ × ℕ) → ℕ → Prop
  | first, [], last => first = last
  | first, range :: rest, last =>
    range.1 = first ∧ range.1 < range.2 ∧ Consecutive range.2 rest last

theorem Consecutive.snoc {range : ℕ × ℕ} (h : Consecutive first ranges range.1)
    (hrange : range.1 < range.2) : Consecutive first (ranges ++ [range]) range.2 := by
  induction ranges generalizing first with
  | nil => exact ⟨h.symm, hrange, rfl⟩
  | cons head rest ih =>
    obtain ⟨hstart, hlt, hrest⟩ := h
    exact ⟨hstart, hlt, ih hrest⟩

theorem Consecutive.le (h : Consecutive first ranges last) : first ≤ last := by
  induction ranges generalizing first with
  | nil => exact le_of_eq h
  | cons head rest ih =>
    obtain ⟨rfl, hlt, hrest⟩ := h
    exact hlt.le.trans (ih hrest)

/-- Consecutive intervals are pairwise disjoint, in order. -/
theorem Consecutive.disjoint (h : Consecutive first ranges last) :
    ranges.Pairwise fun r s => r.2 ≤ s.1 := by
  have hle : ∀ {first : ℕ} {ranges : List (ℕ × ℕ)}, Consecutive first ranges last →
      ∀ range ∈ ranges, first ≤ range.1 := by
    intro first ranges h
    induction ranges generalizing first with
    | nil => simp
    | cons head rest ih =>
      obtain ⟨rfl, hlt, hrest⟩ := h
      intro range hr
      rcases List.mem_cons.mp hr with rfl | hr
      · exact le_rfl
      · exact hlt.le.trans (ih hrest range hr)
  induction ranges generalizing first with
  | nil => exact .nil
  | cons head rest ih =>
    obtain ⟨-, -, hrest⟩ := h
    exact .cons (hle hrest) (ih hrest)

/-- The slices of consecutive intervals concatenate to one slice. -/
theorem Consecutive.flatMap_slice (h : Consecutive first ranges last) :
    (ranges.flatMap fun range => slice xs range.1 range.2) = slice xs first last := by
  induction ranges generalizing first with
  | nil =>
    obtain rfl : first = last := h
    rw [slice_self]
    rfl
  | cons head rest ih =>
    obtain ⟨rfl, hlt, hrest⟩ := h
    rw [List.flatMap_cons, ih hrest, slice_append hlt.le hrest.le]

end DogeOperator.Intervals
