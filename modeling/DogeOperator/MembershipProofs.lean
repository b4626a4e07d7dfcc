import DogeOperator.SparseTree

/-! Membership proofs of the requested-withdrawal tree: every leaf in range has one, against the
dense tree of the leaves padded with zeros. -/
namespace DogeOperator.CustodyOps
open Bytes Outcome MerkleTree

/-- The leaf of a position counted from `n`, unless it is zero. -/
def nonZeroAt (leaves : List (FixedBytes 32)) (n i : ℕ) : Option (FixedBytes 32) :=
  if n ≤ i then (leaves[i - n]?).filter fun value => value ≠ zeroLeaf else none

theorem nonZeroAt_of_lt {leaf : FixedBytes 32} {leaves : List (FixedBytes 32)} {n i : ℕ}
    (h : n ≠ i) : nonZeroAt (leaf :: leaves) n i = nonZeroAt leaves (n + 1) i := by
  unfold nonZeroAt
  by_cases hlt : n < i
  · have hsucc : i - n = i - (n + 1) + 1 := by omega
    have hle : n + 1 ≤ i := hlt
    rw [if_pos hlt.le, if_pos hle, hsucc, List.getElem?_cons_succ]
  · rw [if_neg (by omega), if_neg (by omega)]

/-- Filling a table from positions `n`, `n + 1`, .. -/
theorem lookup_zipIdx (leaves : List (FixedBytes 32)) (n : ℕ) (m : LeafMap) {i : ℕ}
    (hi : i < 2 ^ 64) (hn : n + leaves.length ≤ 2 ^ 64) :
    (((leaves.zipIdx n).filter fun entry => entry.1 ≠ zeroLeaf).foldl
      (fun leafMap entry => leafMap.insert (UInt64.ofNat entry.2) entry.1) m).lookup
        (UInt64.ofNat i) =
      (nonZeroAt leaves n i).or (m.lookup (UInt64.ofNat i)) := by
  induction leaves generalizing n m with
  | nil => simp [nonZeroAt]
  | cons leaf leaves ih =>
    rw [List.length_cons] at hn
    have hkey : UInt64.ofNat i = UInt64.ofNat n ↔ n = i := by
      rw [← UInt64.toNat_inj, UInt64.toNat_ofNat', UInt64.toNat_ofNat']
      omega
    have hpast : nonZeroAt leaves (n + 1) n = none := if_neg (by omega)
    rw [List.zipIdx_cons]
    by_cases hzero : leaf = zeroLeaf
    · rw [List.filter_cons_of_neg (by simpa using hzero), ih (n + 1) m (by omega)]
      by_cases hni : n = i
      · subst hni
        rw [hpast]
        simp [nonZeroAt, Option.filter_some, hzero]
      · rw [nonZeroAt_of_lt hni]
    · rw [List.filter_cons_of_pos (by simpa using hzero), List.foldl_cons, ih (n + 1) _ (by omega)]
      by_cases hni : n = i
      · subst hni
        rw [hpast, Finmap.lookup_insert]
        simp [nonZeroAt, Option.filter_some, hzero]
      · rw [nonZeroAt_of_lt hni, Finmap.lookup_insert_of_ne _ (fun h => hni (hkey.mp h))]

/-- The table of the non-zero leaves reads back every leaf. -/
theorem leafAt_leafMapOf {leaves : List (FixedBytes 32)} (h : leaves.length ≤ 2 ^ 64) (i : ℕ) :
    leafAt (leafMapOf leaves) i = leaves.getD i zeroLeaf := by
  rw [leafAt, entryAt]
  split_ifs with hi
  · rw [leafMapOf, lookup_zipIdx leaves 0 ∅ hi (by omega), nonZeroAt, if_pos (Nat.zero_le i),
      Nat.sub_zero, Finmap.lookup_empty, Option.or_none, List.getD_eq_getElem?_getD, getD_filter_ne]
  · rw [List.getD_eq_default _ _ (by omega), Option.getD_none]

variable [TxoTree]

/-- The dense append tree of 32 levels with zero padding. -/
def appendTreeRoot (leaves : List (FixedBytes 32)) : FixedBytes 32 :=
  denseRoot TxoTree.sha256TwoToOne 32 fun i => leaves.getD i zeroLeaf

section
variable {leaves : List (FixedBytes 32)} (zero : ZeroHashes) (order : ℕ → IterationOrder)
include zero

theorem fixedRoot_eq (hlen : leaves.length ≤ 2 ^ 32 - 1) :
    valueAt (buildSparseLevels order (leafMapOf leaves) 32)[32] (TxoTree.sha256ZeroHashes 32) 0 =
      appendTreeRoot leaves := by
  have hleaf : leafAt (leafMapOf leaves) = fun i => leaves.getD i zeroLeaf :=
    funext fun i => leafAt_leafMapOf (by omega) i
  have hnode := sparseNode_eq_denseNode zero order (leafMapOf leaves) 32 0
  rw [sparseNode_of_lt (by omega), hleaf] at hnode
  rw [buildSparseLevels_getElem, appendTreeRoot]
  simpa [denseNode] using hnode

/-- A leaf in range climbs to the root. -/
theorem fixedPath_eq (hlen : leaves.length ≤ 2 ^ 32 - 1) {index : UInt64}
    (h : index.toNat < leaves.length) :
    merkleRootFromProof (leaves.get ⟨index.toNat, h⟩) index
        (pathSiblings (buildSparseLevels order (leafMapOf leaves) 32) index).toList =
      appendTreeRoot leaves := by
  have hleaf : sparseNode order (leafMapOf leaves) 0 index.toNat = leaves.get ⟨index.toNat, h⟩ := by
    rw [sparseNode_zero zero, leafAt_leafMapOf (by omega), List.getD_eq_getElem _ _ h]
    rfl
  have hclimb := (hashed_sparseNode zero order (leafMapOf leaves)).climb_path 0 index.toNat 32
  rw [hleaf, Nat.div_eq_of_lt (by omega), Nat.zero_add, sparseNode_of_lt (by omega)] at hclimb
  rw [merkleRootFromProof_eq, pathSiblings_toList order _ index (by omega), hclimb,
    ← fixedRoot_eq zero order hlen, buildSparseLevels_getElem]
  rfl

end

omit [TxoTree] in
/-- `collect` over checks that pass exactly where `p` holds: all values, or the first refusal. -/
theorem mapM_or_bail {α β : Type} {f : α → Result β} {p : α → Prop} {g : α → β}
    {message : α → String}
    (h : ∀ a, (p a ∧ f a = .ok (g a)) ∨ (¬ p a ∧ f a = bail (message a))) (xs : List α) :
    ((∀ a ∈ xs, p a) ∧ xs.mapM f = .ok (xs.map g)) ∨
      ((¬ ∀ a ∈ xs, p a) ∧ ∃ a ∈ xs, xs.mapM f = bail (message a)) := by
  induction xs with
  | nil => exact .inl ⟨by simp, rfl⟩
  | cons x xs ih =>
    rw [List.mapM_cons, List.forall_mem_cons]
    rcases h x with ⟨hx, hf⟩ | ⟨hx, hf⟩
    · rcases ih with ⟨hxs, hrun⟩ | ⟨hxs, a, ha, hrun⟩
      · left
        rw [hf, hrun]
        exact ⟨⟨hx, hxs⟩, rfl⟩
      · right
        rw [hf, hrun]
        exact ⟨fun hall => hxs hall.2, a, List.mem_cons_of_mem x ha, rfl⟩
    · right
      rw [hf]
      exact ⟨fun hall => hx hall.1, x, List.mem_cons_self, rfl⟩

theorem fixedMerkleProof_cases (zero : ZeroHashes) (order : ℕ → IterationOrder)
    {leaves : List (FixedBytes 32)} (hlen : leaves.length ≤ 2 ^ 32 - 1) (index : UInt64) :
    (index.toNat < leaves.length ∧
      fixedMerkleProof (buildSparseLevels order (leafMapOf leaves) 32) (appendTreeRoot leaves) leaves
        index = .ok ⟨index, pathSiblings (buildSparseLevels order (leafMapOf leaves) 32) index⟩) ∨
    (¬ index.toNat < leaves.length ∧
      fixedMerkleProof (buildSparseLevels order (leafMapOf leaves) 32) (appendTreeRoot leaves) leaves
        index = bail (outsideTree index)) := by
  unfold fixedMerkleProof
  by_cases h : index.toNat < leaves.length
  · left
    rw [dif_pos h]
    exact ⟨h, if_neg (not_not.mpr (fixedPath_eq zero order hlen h))⟩
  · right
    rw [dif_neg h]
    exact ⟨h, rfl⟩

/-- All proofs, or the refusal of an index out of range. -/
theorem buildFixedMerkleProofs_cases (zero : ZeroHashes) (order : ℕ → IterationOrder)
    {leaves : List (FixedBytes 32)} (hlen : leaves.length ≤ 2 ^ 32 - 1) (indices : List UInt64) :
    ((∀ index ∈ indices, index.toNat < leaves.length) ∧
      buildFixedMerkleProofs order leaves indices = .ok (appendTreeRoot leaves,
        indices.map fun index =>
          ⟨index, pathSiblings (buildSparseLevels order (leafMapOf leaves) 32) index⟩)) ∨
    ((¬ ∀ index ∈ indices, index.toNat < leaves.length) ∧
      ∃ index ∈ indices, buildFixedMerkleProofs order leaves indices = bail (outsideTree index)) := by
  have hcapacity : ¬ leaves.length > 2 ^ 32 - 1 := by omega
  have hcases := mapM_or_bail (fixedMerkleProof_cases zero order hlen) indices
  rw [buildFixedMerkleProofs, guard_bind_of_neg hcapacity]
  dsimp only
  rw [fixedRoot_eq zero order hlen]
  rcases hcases with ⟨hall, hrun⟩ | ⟨hall, index, hindex, hrun⟩
  · left
    rw [hrun]
    exact ⟨hall, rfl⟩
  · right
    rw [hrun]
    exact ⟨hall, index, hindex, rfl⟩

/-- Proofs exist exactly for indices in range. The root is that of the padded append tree, whatever
is asked, every proof climbs to it, and the final comparison cannot fail. -/
theorem buildFixedMerkleProofs_spec (zero : ZeroHashes) (order : ℕ → IterationOrder)
    (leaves : List (FixedBytes 32)) (hlen : leaves.length ≤ 2 ^ 32 - 1) (indices : List UInt64) :
    (isOk (buildFixedMerkleProofs order leaves indices) = true ↔
      ∀ index ∈ indices, index.toNat < leaves.length) ∧
    (∀ root proofs, buildFixedMerkleProofs order leaves indices = .ok (root, proofs) →
      root = denseRoot TxoTree.sha256TwoToOne 32 (fun i => leaves.getD i zeroLeaf) ∧
      List.Forall₂ (fun index proof => proof.index = index ∧
        merkleRootFromProof (leaves.getD index.toNat zeroLeaf) index proof.siblings.toList = root)
        indices proofs) ∧
    buildFixedMerkleProofs order leaves indices ≠ bail treeRootMismatch := by
  rcases buildFixedMerkleProofs_cases zero order hlen indices with
    ⟨hall, hrun⟩ | ⟨hall, index, hindex, hrun⟩
  · rw [hrun]
    refine ⟨iff_of_true rfl hall, ?_, ?_⟩
    · intro root proofs hok
      cases hok
      refine ⟨rfl, ?_⟩
      rw [List.forall₂_map_right_iff, List.forall₂_same]
      intro index hindex
      have hlt := hall index hindex
      rw [List.getD_eq_getElem _ _ hlt]
      exact ⟨rfl, fixedPath_eq zero order hlen hlt⟩
    · intro h
      cases h
  · rw [hrun]
    refine ⟨iff_of_false Bool.false_ne_true hall, ?_, ?_⟩
    · intro root proofs hok
      cases hok
    · intro h
      exact outsideTree_ne index (List.head_eq_of_cons_eq (Except.error.inj h))

omit [TxoTree] in
/-- A zero leaf has a proof like any other; asking for it twice is no error. -/
theorem buildFixedMerkleProofs_zero_leaf :
    isOk (@buildFixedMerkleProofs mixTree (fun _ => ascending)
      [List.Vector.replicate 32 7, zeroLeaf] [1, 1]) = true := by
  let _ := mixTree
  exact (buildFixedMerkleProofs_spec mixTree_zeroHashes _ _ (by decide) _).1.mpr (by simp)

end DogeOperator.CustodyOps
