import Mathlib.Data.List.Basic
import Mathlib.Tactic

/-! Binary Merkle trees over an arbitrary pair hash: nodes by level and position, the climb from a
leaf through its siblings, and what a change of one leaf leaves alone. -/
namespace DogeOperator.MerkleTree

variable {α : Type*} (H : α → α → α)

/-- Root of the dense tree of height `h` over the leaves `0 .. 2^h - 1`. -/
def denseRoot : ℕ → (ℕ → α) → α
  | 0, leaf => leaf 0
  | h + 1, leaf => H (denseRoot h leaf) (denseRoot h fun j => leaf (2 ^ h + j))

/-- Root of the dense subtree over the leaves `i * 2^l .. (i + 1) * 2^l - 1`. -/
def denseNode (leaf : ℕ → α) (l i : ℕ) : α := denseRoot H l fun j => leaf (i * 2 ^ l + j)

/-- The other child of the parent of position `i`. -/
def sibling (i : ℕ) : ℕ := if i % 2 = 0 then i + 1 else i - 1

/-- Hash a value upwards: the parity of the position says on which side it stands. -/
def climb : α → ℕ → List α → α
  | value, _, [] => value
  | value, i, s :: siblings => climb (if i % 2 = 0 then H value s else H s value) (i / 2) siblings

/-- Siblings met between level `base` and level `base + count`. -/
def pathFrom (node : ℕ → ℕ → α) (base i count : ℕ) : List α :=
  (List.range count).map fun l => node (base + l) (sibling (i / 2 ^ l))

/-- Every node above the leaves is the hash of its two children. -/
def Hashed (node : ℕ → ℕ → α) : Prop :=
  ∀ l i, node (l + 1) i = H (node l (2 * i)) (node l (2 * i + 1))

variable {H} {node node' : ℕ → ℕ → α}

theorem hashed_denseNode (leaf : ℕ → α) : Hashed H (denseNode H leaf) := by
  intro l i
  have hleft : ∀ j, i * 2 ^ (l + 1) + j = 2 * i * 2 ^ l + j := by
    intro j
    rw [pow_succ]
    ring
  have hright : ∀ j, i * 2 ^ (l + 1) + (2 ^ l + j) = (2 * i + 1) * 2 ^ l + j := by
    intro j
    rw [pow_succ]
    ring
  simp only [denseNode, denseRoot, hright]
  simp only [hleft]

/-- Hashed nodes over the same leaves are the same nodes. -/
theorem Hashed.eq_of_leaves (h : Hashed H node) (h' : Hashed H node')
    (hleaf : ∀ i, node 0 i = node' 0 i) (l i : ℕ) : node l i = node' l i := by
  induction l generalizing i with
  | zero => exact hleaf i
  | succ l ih => rw [h l i, h' l i, ih, ih]

theorem Hashed.eq_denseNode (h : Hashed H node) (l i : ℕ) :
    node l i = denseNode H (node 0) l i := by
  apply h.eq_of_leaves (hashed_denseNode (node 0))
  intro j
  simp [denseNode, denseRoot]

/-- A parent hashed from a child and the sibling of that child. -/
theorem Hashed.parent (h : Hashed H node) (l i : ℕ) :
    (if i % 2 = 0 then H (node l i) (node l (sibling i)) else H (node l (sibling i)) (node l i)) =
      node (l + 1) (i / 2) := by
  rw [h l (i / 2)]
  by_cases heven : i % 2 = 0
  · have hi : 2 * (i / 2) = i := by omega
    simp only [sibling, heven, ↓reduceIte, hi]
  · have hi : 2 * (i / 2) = i - 1 := by omega
    have hi' : 2 * (i / 2) + 1 = i := by omega
    simp only [sibling, heven, ↓reduceIte, hi']
    rw [hi]

@[simp] theorem pathFrom_zero (base i : ℕ) : pathFrom node base i 0 = [] := rfl

theorem pathFrom_succ (base i count : ℕ) :
    pathFrom node base i (count + 1) =
      node base (sibling i) :: pathFrom node (base + 1) (i / 2) count := by
  rw [pathFrom, List.range_succ_eq_map, List.map_cons, List.map_map, pow_zero, Nat.div_one,
    Nat.add_zero, pathFrom]
  congr 1
  apply List.map_congr_left
  intro l _
  have hlevel : base + (l + 1) = base + 1 + l := by omega
  rw [Function.comp_apply, Nat.succ_eq_add_one, hlevel, pow_succ', Nat.div_div_eq_div_mul]

/-- A node and its siblings climb to the node above them. -/
theorem Hashed.climb_path (h : Hashed H node) (base i count : ℕ) :
    climb H (node base i) i (pathFrom node base i count) = node (base + count) (i / 2 ^ count) := by
  induction count generalizing base i with
  | zero => simp [climb]
  | succ count ih =>
    have hlevel : base + 1 + count = base + (count + 1) := by omega
    rw [pathFrom_succ, climb, h.parent, ih, hlevel, Nat.div_div_eq_div_mul, ← pow_succ']

theorem sibling_ne (i : ℕ) : sibling i ≠ i := by
  unfold sibling
  split_ifs <;> omega

/-- A change of one leaf changes no node off the path of that leaf. -/
theorem Hashed.eq_off_path (h : Hashed H node) (h' : Hashed H node') {k : ℕ}
    (hleaf : ∀ i, i ≠ k → node 0 i = node' 0 i) {l i : ℕ} (hi : i ≠ k / 2 ^ l) :
    node l i = node' l i := by
  induction l generalizing i with
  | zero => exact hleaf i (by simpa using hi)
  | succ l ih =>
    have hdiv : k / 2 ^ (l + 1) = k / 2 ^ l / 2 := by rw [pow_succ, Nat.div_div_eq_div_mul]
    rw [h l i, h' l i, ih (by omega), ih (by omega)]

/-- The siblings of a leaf do not depend on the leaf. -/
theorem Hashed.path_eq (h : Hashed H node) (h' : Hashed H node') {k : ℕ}
    (hleaf : ∀ i, i ≠ k → node 0 i = node' 0 i) (count : ℕ) :
    pathFrom node 0 k count = pathFrom node' 0 k count := by
  apply List.map_congr_left
  intro l _
  rw [Nat.zero_add]
  exact h.eq_off_path h' hleaf (sibling_ne _)

/-- The old siblings of a leaf carry its new value to the new root. -/
theorem Hashed.climb_update (h : Hashed H node) (h' : Hashed H node') {k : ℕ}
    (hleaf : ∀ i, i ≠ k → node 0 i = node' 0 i) (count : ℕ) :
    climb H (node' 0 k) k (pathFrom node 0 k count) = node' count (k / 2 ^ count) := by
  have hclimb := h'.climb_path 0 k count
  rw [Nat.zero_add] at hclimb
  rw [h.path_eq h' hleaf, hclimb]

end DogeOperator.MerkleTree
