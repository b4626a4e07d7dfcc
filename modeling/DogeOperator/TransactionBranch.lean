import DogeOperator.PairLevels
import DogeOperator.SparseTree

/-! Transaction branches of a block: the loop computes the branch and the root of the level by level
tree, and it ends for every block. -/
namespace DogeOperator.CustodyOps
open Bytes Outcome Crypto MerkleTree PairLevels

section
variable [TxoTree]

theorem parentsOf_eq_pairs (level : List (FixedBytes 32)) :
    parentsOf level = pairs TxoTree.btcHash256TwoToOne level := by
  apply List.ext_getElem?
  intro i
  rw [getElem?_pairs, parentsOf, List.getElem?_ofFn]
  split_ifs with hi
  · have hleft : 2 * i < level.length := by omega
    rw [List.getElem?_eq_getElem hleft]
    rfl
  · have hnone : level[2 * i]? = none := List.getElem?_eq_none (by omega)
    rw [hnone, Option.map_none]

omit [TxoTree] in
theorem siblingIndex_val {n : ℕ} (index : Fin n) : (siblingIndex index).val = partner n index := by
  unfold siblingIndex partner
  rw [← xor_one_eq_sibling]
  split_ifs <;> rfl

/-- The loop returns the root and the branch that remains from here. -/
theorem branchLoop_eq (level : List (FixedBytes 32)) (index : Fin level.length)
    (acc : List (FixedBytes 32)) :
    some (branchLoop level index acc).1 = root TxoTree.btcHash256TwoToOne level ∧
      (branchLoop level index acc).2 =
        acc ++ branch TxoTree.btcHash256TwoToOne level index := by
  induction level, index, acc using branchLoop.induct with
  | case1 level index acc h ih =>
    have hpartner : level[partner level.length index]? = some (level.get (siblingIndex index)) := by
      rw [← siblingIndex_val, List.getElem?_eq_getElem (siblingIndex index).isLt]
      rfl
    rw [branchLoop, dif_pos h, root_pairs _ h, branch_of_lt _ h hpartner, ← parentsOf_eq_pairs]
    refine ⟨ih.1, ?_⟩
    rw [ih.2, List.append_assoc, List.singleton_append]
    rfl
  | case2 level index acc h =>
    rw [branchLoop, dif_neg h, root_of_length_le _ (by omega), branch_of_le _ h, List.append_nil,
      List.getElem?_eq_getElem index.pos]
    exact ⟨rfl, rfl⟩

end

/-- The Bitcoin Merkle root: pairs are double-hashed, an odd level repeats its last element. -/
def bitcoinMerkleRoot [Hashes] (txids : List (FixedBytes 32)) : Option (FixedBytes 32) :=
  root (fun left right => doubleSha256 (left.toList ++ right.toList)) txids

/-- A branch exists exactly for an index in range. Its root is the Bitcoin Merkle root of the
block for every target, it has one element for each level, and it climbs to the root. -/
theorem buildTransactionMerkleBranch_spec [Hashes] [TxoTree]
    (hpair : ∀ left right, TxoTree.btcHash256TwoToOne left right =
      doubleSha256 (left.toList ++ right.toList))
    (txids : List (FixedBytes 32)) (targetIndex : ℕ) :
    (isOk (buildTransactionMerkleBranch txids targetIndex) = true ↔
      txids ≠ [] ∧ targetIndex < txids.length) ∧
    ∀ root branch, buildTransactionMerkleBranch txids targetIndex = .ok (root, branch) →
      bitcoinMerkleRoot txids = some root ∧
      branch.length = Nat.clog 2 txids.length ∧
      climb (fun left right => doubleSha256 (left.toList ++ right.toList))
        (txids.getD targetIndex zeroLeaf) targetIndex branch = root := by
  have hhash : TxoTree.btcHash256TwoToOne =
      fun left right => doubleSha256 (left.toList ++ right.toList) :=
    funext fun left => funext fun right => hpair left right
  rw [bitcoinMerkleRoot, ← hhash]
  by_cases hempty : txids = []
  · subst hempty
    exact ⟨iff_of_false Bool.false_ne_true (fun h => h.1 rfl), fun root branch hok => by cases hok⟩
  · by_cases htarget : targetIndex < txids.length
    · have hrun : buildTransactionMerkleBranch txids targetIndex =
          .ok (branchLoop txids ⟨targetIndex, htarget⟩ []) := by
        rw [buildTransactionMerkleBranch, if_neg (by simpa using hempty), dif_pos htarget]
      obtain ⟨hroot, hbranch⟩ := branchLoop_eq txids ⟨targetIndex, htarget⟩ []
      rw [List.nil_append] at hbranch
      rw [hrun]
      refine ⟨iff_of_true rfl ⟨hempty, htarget⟩, ?_⟩
      intro root branch hok
      rw [Except.ok.inj hok] at hroot hbranch
      dsimp only at hroot hbranch
      have hclimb := climb_branch TxoTree.btcHash256TwoToOne (List.getElem?_eq_getElem htarget)
      rw [← hroot, Option.some.injEq] at hclimb
      rw [List.getD_eq_getElem _ _ htarget, hbranch]
      exact ⟨hroot.symm, length_branch _ htarget, hclimb.symm⟩
    · have hrun : buildTransactionMerkleBranch txids targetIndex =
          bail s!"transaction index {targetIndex} is outside block transaction list" := by
        rw [buildTransactionMerkleBranch, if_neg (by simpa using hempty), dif_neg htarget]
      rw [hrun]
      exact ⟨iff_of_false Bool.false_ne_true (fun h => htarget h.2),
        fun root branch hok => by cases hok⟩

/-- Hashes for a block of three: the digest is the first 32 bytes of the text. -/
@[reducible] def headHashes : Hashes where
  sha256 bytes := ⟨(bytes ++ List.replicate 32 0).take 32, by simp⟩
  ripemd160 _ := List.Vector.replicate 20 0
  keccak256 _ := List.Vector.replicate 32 0

@[reducible] def doublePairTree : TxoTree :=
  { mixTree with
    btcHash256TwoToOne := fun left right =>
      @doubleSha256 headHashes (left.toList ++ right.toList) }

/-- The odd tail of a block of three has a branch. -/
theorem buildTransactionMerkleBranch_three :
    isOk (@buildTransactionMerkleBranch doublePairTree
      [List.Vector.replicate 32 1, List.Vector.replicate 32 2, List.Vector.replicate 32 3] 2) =
        true := by
  let _ := headHashes
  let _ := doublePairTree
  exact (buildTransactionMerkleBranch_spec (fun _ _ => rfl) _ _).1.mpr ⟨by decide, by decide⟩

end DogeOperator.CustodyOps
