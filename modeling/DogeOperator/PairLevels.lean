import DogeOperator.MerkleTree
import Mathlib.Data.Nat.Log

/-! Level by level Merkle trees over lists of any length: an odd level hashes its last element with
itself. The branch of a position climbs to the root. -/
namespace DogeOperator.PairLevels
open MerkleTree

variable {α : Type*} (H : α → α → α)

/-- One level up. -/
def pairs : List α → List α
  | [] => []
  | [a] => [H a a]
  | a :: b :: rest => H a b :: pairs rest

theorem length_pairs (level : List α) : (pairs H level).length = (level.length + 1) / 2 := by
  induction level using pairs.induct with
  | case1 => simp [pairs]
  | case2 a => simp [pairs]
  | case3 a b rest ih =>
    simp only [pairs, List.length_cons, ih]
    omega

theorem getElem?_pairs (level : List α) (i : ℕ) :
    (pairs H level)[i]? = level[2 * i]?.map fun a => H a (level[2 * i + 1]?.getD a) := by
  induction level using pairs.induct generalizing i with
  | case1 => simp [pairs]
  | case2 a =>
    cases i with
    | zero => simp [pairs]
    | succ i =>
      have htwice : 2 * (i + 1) = 2 * i + 1 + 1 := by omega
      simp [pairs, htwice]
  | case3 a b rest ih =>
    cases i with
    | zero => simp [pairs]
    | succ i =>
      have htwice : 2 * (i + 1) = 2 * i + 1 + 1 := by omega
      simp only [pairs, htwice, List.getElem?_cons_succ, ih]

/-- The root: pair up until one element is left. -/
def root : List α → Option α
  | [] => none
  | [a] => some a
  | a :: b :: rest => root (H a b :: pairs H rest)
termination_by level => level.length
decreasing_by
  simp only [List.length_cons, length_pairs]
  omega

theorem root_pairs {level : List α} (h : 1 < level.length) :
    root H level = root H (pairs H level) := by
  match level, h with
  | a :: b :: rest, _ => rw [root, pairs]

theorem root_of_length_le {level : List α} (h : level.length ≤ 1) : root H level = level[0]? := by
  match level, h with
  | [], _ => rw [root, List.getElem?_nil]
  | [a], _ => rw [root, List.getElem?_cons_zero]

/-- The neighbour of a position, or the position itself at an odd end. -/
def partner (n i : ℕ) : ℕ := if sibling i < n then sibling i else i

theorem partner_lt {n i : ℕ} (h : i < n) : partner n i < n := by
  unfold partner
  split_ifs with hs
  · exact hs
  · exact h

/-- The parent of a position is hashed from the position and its partner. -/
theorem getElem?_parent {level : List α} {i : ℕ} {a b : α} (ha : level[i]? = some a)
    (hb : level[partner level.length i]? = some b) :
    (pairs H level)[i / 2]? = some (if i % 2 = 0 then H a b else H b a) := by
  have hi := (List.getElem?_eq_some_iff.mp ha).1
  rw [getElem?_pairs]
  by_cases heven : i % 2 = 0
  · have hleft : 2 * (i / 2) = i := by omega
    rw [hleft, ha, Option.map_some, if_pos heven]
    simp only [partner, sibling, heven, ↓reduceIte] at hb
    by_cases hnext : i + 1 < level.length
    · rw [if_pos hnext] at hb
      rw [hb, Option.getD_some]
    · rw [if_neg hnext, ha] at hb
      cases hb
      rw [List.getElem?_eq_none (by omega), Option.getD_none]
  · have hleft : 2 * (i / 2) = i - 1 := by omega
    have hright : 2 * (i / 2) + 1 = i := by omega
    simp only [partner, sibling, heven, ↓reduceIte] at hb
    rw [if_pos (by omega)] at hb
    rw [hright, ha, hleft, hb, Option.map_some, Option.getD_some, if_neg heven]

/-- The partners met on the way to the root. -/
def branch (level : List α) (i : ℕ) : List α :=
  if 1 < level.length then
    level[partner level.length i]?.toList ++ branch (pairs H level) (i / 2)
  else []
termination_by level.length
decreasing_by
  rw [length_pairs]
  omega

theorem branch_of_lt {level : List α} {i : ℕ} {b : α} (h : 1 < level.length)
    (hb : level[partner level.length i]? = some b) :
    branch H level i = b :: branch H (pairs H level) (i / 2) := by
  rw [branch, if_pos h, hb]
  rfl

theorem branch_of_le {level : List α} {i : ℕ} (h : ¬ 1 < level.length) : branch H level i = [] := by
  rw [branch, if_neg h]

/-- An element climbs through its branch to the root. -/
theorem climb_branch {level : List α} {i : ℕ} {a : α} (ha : level[i]? = some a) :
    root H level = some (climb H a i (branch H level i)) := by
  induction level, i using branch.induct H generalizing a with
  | case1 level i hlevel ih =>
    have hi := (List.getElem?_eq_some_iff.mp ha).1
    have hb := List.getElem?_eq_getElem (partner_lt hi)
    rw [root_pairs H hlevel, branch_of_lt H hlevel hb, climb]
    exact ih (getElem?_parent H ha hb)
  | case2 level i hlevel =>
    have hi := (List.getElem?_eq_some_iff.mp ha).1
    have hzero : i = 0 := by omega
    subst hzero
    rw [root_of_length_le H (by omega), branch_of_le H hlevel, climb, ha]

theorem length_branch {level : List α} {i : ℕ} (hi : i < level.length) :
    (branch H level i).length = Nat.clog 2 level.length := by
  induction level, i using branch.induct H with
  | case1 level i hlevel ih =>
    have hparent : i / 2 < (pairs H level).length := by
      rw [length_pairs]
      omega
    have hround : level.length + 2 - 1 = level.length + 1 := by omega
    have hb := List.getElem?_eq_getElem (partner_lt hi)
    rw [branch_of_lt H hlevel hb, List.length_cons, ih hparent, length_pairs,
      Nat.clog_of_two_le (n := level.length) (by omega) (by omega), hround]
  | case2 level i hlevel =>
    rw [branch_of_le H hlevel, Nat.clog_of_right_le_one (by omega)]
    rfl

end DogeOperator.PairLevels
