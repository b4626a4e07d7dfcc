import DogeOperator.SparseTree

/-! Sequential spent-output proofs: one proof for each input, each from the tree the previous one
left behind, refused exactly when an input is spent already. -/
namespace DogeOperator.CustodyOps
open Bytes Outcome MerkleTree

variable [TxoTree] {leaves : LeafMap} {ci : UInt64}

/-- A proof of input `ci` against the tree over `leaves`. -/
structure Proves (leaves : LeafMap) (ci : UInt64) (proof : SpentTxoProof) : Prop where
  position : (proof.merkleIndex, proof.bitIndex) = decodeCombinedIndex ci
  oldLeaf : proof.oldLeaf = valueAt leaves zeroLeaf proof.merkleIndex
  oldPath : merkleRootFromProof proof.oldLeaf proof.merkleIndex proof.siblings.toList =
    proof.oldRoot
  newPath : merkleRootFromProof (setBit proof.oldLeaf proof.bitIndex) proof.merkleIndex
    proof.siblings.toList = proof.newRoot
  oldRoot : ∀ order, proof.oldRoot = computeSparseMerkleRoot order leaves
  newRoot : ∀ order, proof.newRoot = computeSparseMerkleRoot order (mark (fun _ => zeroLeaf) leaves ci)

/-- Each proof is against the tree left behind by the one before. -/
def Chained : LeafMap → List UInt64 → List SpentTxoProof → Prop
  | _, [], [] => True
  | leaves, ci :: cis, proof :: proofs =>
    Proves leaves ci proof ∧ Chained (mark (fun _ => zeroLeaf) leaves ci) cis proofs
  | _, _, _ => False

/-- The bit of `ci` in the leaves. -/
def Spent (leaves : LeafMap) (ci : UInt64) : Prop :=
  bitSet (valueAt leaves zeroLeaf (decodeCombinedIndex ci).1) (decodeCombinedIndex ci).2

theorem spent_mark {ci' : UInt64} :
    Spent (mark (fun _ => zeroLeaf) leaves ci) ci' ↔
      decodeCombinedIndex ci = decodeCombinedIndex ci' ∨ Spent leaves ci' := by
  rw [Spent, Spent, bitSet_mark (fun _ => zeroLeaf)]

/-- The path of a leaf carries any value of that leaf to the root of the tree with this value. -/
theorem merkleRootFromProof_path (zero : ZeroHashes) (order order' : ℕ → IterationOrder)
    (leaves leaves' : LeafMap) {k : UInt64} (hk : k.toNat < 2 ^ txoMerkleIndexTotalBits)
    (hother : ∀ k', k' ≠ k → leaves'.lookup k' = leaves.lookup k') :
    merkleRootFromProof (valueAt leaves' zeroLeaf k) k
        (pathSiblings (buildSparseLevels order leaves txoMerkleIndexTotalBits) k).toList =
      computeSparseMerkleRoot order' leaves' := by
  have hnode := hashed_sparseNode zero order leaves
  have hnode' := hashed_sparseNode zero order' leaves'
  have hleaf : ∀ i, i ≠ k.toNat →
      sparseNode order leaves 0 i = sparseNode order' leaves' 0 i := by
    intro i hi
    rw [sparseNode_zero zero, sparseNode_zero zero, leafAt, leafAt, entryAt, entryAt]
    split_ifs with hlt
    · rw [hother]
      intro h
      apply hi
      rw [← h, UInt64.toNat_ofNat', Nat.mod_eq_of_lt hlt]
    · rfl
  have hclimb := hnode.climb_update hnode' hleaf txoMerkleIndexTotalBits
  rw [Nat.div_eq_of_lt hk, sparseNode_zero zero, leafAt_toNat] at hclimb
  rw [merkleRootFromProof_eq, pathSiblings_toList order leaves k (by decide), hclimb,
    computeSparseMerkleRoot_eq_node]

/-- The proof that is pushed for an unspent input. -/
def proofOf (order : ℕ → IterationOrder) (leaves : LeafMap) (ci : UInt64) : SpentTxoProof :=
  let merkleIndex := (decodeCombinedIndex ci).1
  let bitIndex := (decodeCombinedIndex ci).2
  let oldLeaf := valueAt leaves zeroLeaf merkleIndex
  let siblings := pathSiblings (buildSparseLevels order leaves txoMerkleIndexTotalBits) merkleIndex
  ⟨oldLeaf, bitIndex, merkleIndex, siblings,
    merkleRootFromProof oldLeaf merkleIndex siblings.toList,
    merkleRootFromProof (setBit oldLeaf bitIndex) merkleIndex siblings.toList⟩

variable (leaves) in
/-- One input: an error exactly for a bit that is set, otherwise a proof and the marked leaves. -/
theorem spendTxo_spec (zero : ZeroHashes) (order order' : ℕ → IterationOrder)
    (hindex : (decodeCombinedIndex ci).1.toNat < 2 ^ txoMerkleIndexTotalBits) :
    (Spent leaves ci ∧ spendTxo order order' leaves ci = bail (alreadySpent ci)) ∨
      (¬ Spent leaves ci ∧ ∃ proof, Proves leaves ci proof ∧
        spendTxo order order' leaves ci = .ok (proof, mark (fun _ => zeroLeaf) leaves ci)) := by
  by_cases hspent : Spent leaves ci
  · left
    rw [Spent] at hspent
    exact ⟨hspent, by simp only [spendTxo, if_pos hspent]; rfl⟩
  · right
    have hold := fun order'' => merkleRootFromProof_path zero order order'' leaves leaves hindex
      (fun _ _ => rfl)
    have hnew := fun order'' => merkleRootFromProof_path zero order order'' leaves
      (mark (fun _ => zeroLeaf) leaves ci) hindex (fun k' hk' => Finmap.lookup_insert_of_ne _ hk')
    simp only [mark, valueAt_insert] at hnew
    have hcurrent := hold order
    rw [computeSparseMerkleRoot] at hcurrent
    refine ⟨hspent, proofOf order leaves ci, ⟨rfl, rfl, rfl, rfl, hold, hnew⟩, ?_⟩
    rw [Spent] at hspent
    simp only [spendTxo]
    rw [guard_bind_of_neg hspent, guard_bind_of_neg (not_not.mpr hcurrent),
      guard_bind_of_neg (not_not.mpr (hnew order').symm)]
    rfl

/-! The run over all inputs. -/

theorem spendNext_of_spent (zero : ZeroHashes) (order : ℕ → ℕ → IterationOrder)
    (proofs : List SpentTxoProof)
    (hindex : (decodeCombinedIndex ci).1.toNat < 2 ^ txoMerkleIndexTotalBits)
    (hspent : Spent leaves ci) :
    spendNext order (proofs, leaves) ci = bail (alreadySpent ci) := by
  rcases spendTxo_spec leaves zero (order (2 * proofs.length))
    (order (2 * proofs.length + 1)) hindex with ⟨_, hrun⟩ | ⟨hfresh, _⟩
  · simp only [spendNext, hrun]
    rfl
  · exact absurd hspent hfresh

theorem spendNext_of_fresh (zero : ZeroHashes) (order : ℕ → ℕ → IterationOrder)
    (proofs : List SpentTxoProof)
    (hindex : (decodeCombinedIndex ci).1.toNat < 2 ^ txoMerkleIndexTotalBits)
    (hfresh : ¬ Spent leaves ci) :
    ∃ proof, Proves leaves ci proof ∧ spendNext order (proofs, leaves) ci =
      .ok (proofs ++ [proof], mark (fun _ => zeroLeaf) leaves ci) := by
  rcases spendTxo_spec leaves zero (order (2 * proofs.length))
    (order (2 * proofs.length + 1)) hindex with ⟨hspent, _⟩ | ⟨_, proof, hproof, hrun⟩
  · exact absurd hspent hfresh
  · exact ⟨proof, hproof, by simp only [spendNext, hrun]; rfl⟩

/-- The listed inputs are unspent and pairwise different, read in one pass. -/
theorem fresh_cons {indices : List UInt64} :
    ((∀ c ∈ ci :: indices, ¬ Spent leaves c) ∧ ((ci :: indices).map decodeCombinedIndex).Nodup) ↔
      ¬ Spent leaves ci ∧
        (∀ c ∈ indices, ¬ Spent (mark (fun _ => zeroLeaf) leaves ci) c) ∧
        (indices.map decodeCombinedIndex).Nodup := by
  simp only [List.forall_mem_cons, List.map_cons, List.nodup_cons, List.mem_map, spent_mark,
    not_or, not_exists, not_and]
  constructor
  · rintro ⟨⟨hci, hrest⟩, hnotMem, hnodup⟩
    exact ⟨hci, fun c hc => ⟨fun h => hnotMem c hc h.symm, hrest c hc⟩, hnodup⟩
  · rintro ⟨hci, hrest, hnodup⟩
    exact ⟨⟨hci, fun c hc => (hrest c hc).2⟩, fun c hc h => (hrest c hc).1 h.symm, hnodup⟩

/-- From any accumulated proofs: either some listed input is refused, or every input is proved. -/
theorem run_spec (zero : ZeroHashes)
    (hindex : ∀ ci, (decodeCombinedIndex ci).1.toNat < 2 ^ txoMerkleIndexTotalBits)
    (order : ℕ → ℕ → IterationOrder) (indices : List UInt64) (proofs : List SpentTxoProof)
    (leaves : LeafMap) :
    (((∀ c ∈ indices, ¬ Spent leaves c) ∧ (indices.map decodeCombinedIndex).Nodup) ∧
      ∃ added, Chained leaves indices added ∧ indices.foldlM (spendNext order) (proofs, leaves) =
        .ok (proofs ++ added, markAll (fun _ => zeroLeaf) leaves indices)) ∨
    (¬ ((∀ c ∈ indices, ¬ Spent leaves c) ∧ (indices.map decodeCombinedIndex).Nodup) ∧
      ∃ c ∈ indices, indices.foldlM (spendNext order) (proofs, leaves) = bail (alreadySpent c)) := by
  induction indices generalizing proofs leaves with
  | nil =>
    left
    refine ⟨by simp, [], trivial, ?_⟩
    rw [List.foldlM_nil, List.append_nil]
    rfl
  | cons ci indices ih =>
    rw [fresh_cons, List.foldlM_cons]
    by_cases hspent : Spent leaves ci
    · right
      refine ⟨fun h => h.1 hspent, ci, List.mem_cons_self, ?_⟩
      rw [spendNext_of_spent zero order proofs (hindex ci) hspent]
      rfl
    · obtain ⟨proof, hproof, hstep⟩ := spendNext_of_fresh zero order proofs (hindex ci) hspent
      rw [hstep, ok_bind]
      rcases ih (proofs ++ [proof]) (mark (fun _ => zeroLeaf) leaves ci) with
        ⟨hfresh, added, hadded, hrun⟩ | ⟨hfresh, c, hc, hrun⟩
      · left
        refine ⟨⟨hspent, hfresh⟩, proof :: added, ⟨hproof, hadded⟩, ?_⟩
        rw [hrun, List.append_assoc]
        rfl
      · right
        exact ⟨fun h => hfresh h.2, c, List.mem_cons_of_mem ci hc, hrun⟩

/-- Each root is the one before the next input; the last is that of the final leaves. -/
theorem Chained.roots {indices : List UInt64} {proofs : List SpentTxoProof}
    (h : Chained leaves indices proofs) (order : ℕ → IterationOrder) :
    proofs.map SpentTxoProof.oldRoot ++
        [computeSparseMerkleRoot order (markAll (fun _ => zeroLeaf) leaves indices)] =
      computeSparseMerkleRoot order leaves :: proofs.map SpentTxoProof.newRoot := by
  induction indices generalizing leaves proofs with
  | nil =>
    cases proofs with
    | nil => rfl
    | cons proof proofs => exact h.elim
  | cons ci indices ih =>
    cases proofs with
    | nil => exact h.elim
    | cons proof proofs =>
      have htail := ih h.2
      rw [markAll, List.foldl_cons, ← markAll, List.map_cons, List.map_cons, List.cons_append, htail,
        h.1.oldRoot order, h.1.newRoot order]

theorem Chained.length_eq {indices : List UInt64} {proofs : List SpentTxoProof}
    (h : Chained leaves indices proofs) : proofs.length = indices.length := by
  induction indices generalizing leaves proofs with
  | nil =>
    cases proofs with
    | nil => rfl
    | cons proof proofs => exact h.elim
  | cons ci indices ih =>
    cases proofs with
    | nil => exact h.elim
    | cons proof proofs => simp [ih h.2]

/-- Sequential proofs exist exactly for unspent, pairwise different inputs. They are valid, chained
from the root of the given leaves to that of the returned ones, and neither consistency check
can fail. -/
theorem buildSequentialSpentTxoProofs_spec (zero : ZeroHashes)
    (hindex : ∀ ci, (decodeCombinedIndex ci).1.toNat < 2 ^ txoMerkleIndexTotalBits)
    (order : ℕ → ℕ → IterationOrder) (existing : LeafMap) (indices : List UInt64) :
    (isOk (buildSequentialSpentTxoProofs order existing indices) = true ↔
      (∀ ci ∈ indices, ¬ bitSet (valueAt existing zeroLeaf (decodeCombinedIndex ci).1)
        (decodeCombinedIndex ci).2) ∧ (indices.map decodeCombinedIndex).Nodup) ∧
    (∀ proofs final, buildSequentialSpentTxoProofs order existing indices = .ok (proofs, final) →
      Chained existing indices proofs ∧ proofs.length = indices.length ∧
      (∀ order', proofs.map SpentTxoProof.oldRoot ++ [computeSparseMerkleRoot order' final] =
        computeSparseMerkleRoot order' existing :: proofs.map SpentTxoProof.newRoot) ∧
      (∀ k, k ∈ final ↔ (∃ ci ∈ indices, (decodeCombinedIndex ci).1 = k) ∨ k ∈ existing) ∧
      ∀ k bit, bitSet (valueAt final zeroLeaf k) bit ↔
        (∃ ci ∈ indices, decodeCombinedIndex ci = (k, bit)) ∨
          bitSet (valueAt existing zeroLeaf k) bit) ∧
    buildSequentialSpentTxoProofs order existing indices ≠ bail currentRootMismatch ∧
    buildSequentialSpentTxoProofs order existing indices ≠ bail inconsistentRoot := by
  rw [buildSequentialSpentTxoProofs]
  rcases run_spec zero hindex order indices [] existing with
    ⟨hfresh, added, hadded, hrun⟩ | ⟨hfresh, ci, hci, hrun⟩
  · rw [hrun]
    refine ⟨iff_of_true rfl hfresh, ?_, ?_, ?_⟩
    · intro proofs final hok
      cases hok
      exact ⟨hadded, hadded.length_eq, fun order' => hadded.roots order', fun k => mem_markAll,
        fun k bit => bitSet_markAll (fun _ => zeroLeaf)⟩
    · intro h
      cases h
    · intro h
      cases h
  · rw [hrun]
    refine ⟨iff_of_false Bool.false_ne_true hfresh, ?_, ?_, ?_⟩
    · intro proofs final hok
      cases hok
    · intro h
      exact (alreadySpent_ne ci).1 (List.head_eq_of_cons_eq (Except.error.inj h))
    · intro h
      exact (alreadySpent_ne ci).2 (List.head_eq_of_cons_eq (Except.error.inj h))

omit [TxoTree] in
/-- Two outputs of one leaf: the second proof starts where the first one ended. -/
theorem buildSequentialSpentTxoProofs_two :
    isOk (@buildSequentialSpentTxoProofs mixTree (fun _ _ => ascending) ∅ [4, 5]) = true := by
  let _ := mixTree
  apply (buildSequentialSpentTxoProofs_spec mixTree_zeroHashes _ _ _ _).1.mpr
  · constructor
    · intro ci _
      rw [valueAt_of_notMem _ Finmap.notMem_empty]
      exact not_bitSet_zeroLeaf _
    · have hbits : decodeCombinedIndex 4 ≠ decodeCombinedIndex 5 := by decide
      simpa using hbits
  · intro ci
    have hlt := ci.toNat_lt
    have hshift : (ci >>> 19).toNat = ci.toNat / 2 ^ 19 := shiftRight_ofNat_toNat ci (l := 19) (by omega)
    rw [decodeCombinedIndex]
    show (ci >>> 19).toNat < 2 ^ 45
    omega

/-! The returned leaves, whatever the hashes are. -/

theorem spendTxo_leaves {order order' : ℕ → IterationOrder} {proof : SpentTxoProof}
    {after : LeafMap} (h : spendTxo order order' leaves ci = .ok (proof, after)) :
    after = mark (fun _ => zeroLeaf) leaves ci := by
  simp only [spendTxo] at h
  obtain ⟨_, h⟩ := guard_bind_eq_ok.mp h
  obtain ⟨_, h⟩ := guard_bind_eq_ok.mp h
  obtain ⟨_, h⟩ := guard_bind_eq_ok.mp h
  cases h
  rfl

theorem run_leaves {order : ℕ → ℕ → IterationOrder} {indices : List UInt64}
    {proofs proofs' : List SpentTxoProof} {final : LeafMap}
    (h : indices.foldlM (spendNext order) (proofs, leaves) = .ok (proofs', final)) :
    final = markAll (fun _ => zeroLeaf) leaves indices := by
  induction indices generalizing proofs leaves with
  | nil =>
    cases h
    rfl
  | cons ci indices ih =>
    rw [List.foldlM_cons] at h
    obtain ⟨state, hstep, hrun⟩ := bind_eq_ok.mp h
    obtain ⟨result, hspend, hpush⟩ := bind_eq_ok.mp hstep
    cases hpush
    rw [ih hrun, spendTxo_leaves hspend, markAll, markAll, List.foldl_cons]

/-- Full rebuild, batch update and step-by-step update reach one state, for every split, order and
repetition of the spent outputs. -/
theorem spent_leaf_states_agree :
    (∀ first second, rebuildMerkleLeaves (first ++ second) =
      computeUpdatedLeafValues second (rebuildMerkleLeaves first) ∪ rebuildMerkleLeaves first) ∧
    (∀ indices indices', (∀ ci, ci ∈ indices ↔ ci ∈ indices') →
      rebuildMerkleLeaves indices = rebuildMerkleLeaves indices' ∧
      ∀ existing, computeUpdatedLeafValues indices existing =
        computeUpdatedLeafValues indices' existing) ∧
    (∀ indices k, k ∈ rebuildMerkleLeaves indices ↔
      ∃ ci ∈ indices, (decodeCombinedIndex ci).1 = k) ∧
    (∀ indices k bit, bitSet (valueAt (rebuildMerkleLeaves indices) zeroLeaf k) bit ↔
      ∃ ci ∈ indices, decodeCombinedIndex ci = (k, bit)) ∧
    (∀ first second k bit, k ∈ computeUpdatedLeafValues second (rebuildMerkleLeaves first) →
      (bitSet (valueAt (computeUpdatedLeafValues second (rebuildMerkleLeaves first)) zeroLeaf k) bit ↔
        ∃ ci ∈ first ++ second, decodeCombinedIndex ci = (k, bit))) ∧
    ∀ (order : ℕ → ℕ → IterationOrder) first second proofs final,
      buildSequentialSpentTxoProofs order (rebuildMerkleLeaves first) second = .ok (proofs, final) →
      final = rebuildMerkleLeaves (first ++ second) := by
  refine ⟨rebuildMerkleLeaves_append, ?_, fun indices k => mem_rebuildMerkleLeaves,
    fun indices k bit => bitSet_rebuildMerkleLeaves, ?_, ?_⟩
  · intro indices indices' h
    refine ⟨?_, fun existing => ?_⟩
    · rw [rebuildMerkleLeaves_eq, rebuildMerkleLeaves_eq, markAll_congr h]
    · rw [computeUpdatedLeafValues_eq, computeUpdatedLeafValues_eq, markAll_congr h]
  · intro first second k bit hk
    rw [bitSet_computeUpdatedLeafValues hk, bitSet_rebuildMerkleLeaves]
    simp only [List.mem_append, or_and_right, exists_or]
    exact or_comm
  · intro order first second proofs final hok
    rw [run_leaves hok, rebuildMerkleLeaves_eq, rebuildMerkleLeaves_eq, markAll, markAll, markAll,
      List.foldl_append]

end DogeOperator.CustodyOps
