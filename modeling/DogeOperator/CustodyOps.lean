import DogeOperator.Crypto
import Mathlib.Data.Finmap
import Mathlib.Data.Finset.Sort

/-! The spent-output tree and the Merkle proofs of a withdrawal: leaf bit vectors, the sparse level
tables, sequential update proofs, membership proofs and block branches. -/
namespace DogeOperator.CustodyOps
open Bytes Outcome

/-- Output positions, zero hashes and pair hashes of `psy_bridge_core`. -/
class TxoTree where
  merkleIndexAndLeafBit : UInt64 → UInt64 × UInt8
  sha256ZeroHashes : ℕ → FixedBytes 32
  sha256TwoToOne : FixedBytes 32 → FixedBytes 32 → FixedBytes 32
  btcHash256TwoToOne : FixedBytes 32 → FixedBytes 32 → FixedBytes 32

def txoMerkleIndexTotalBits : ℕ := 45

def zeroLeaf : FixedBytes 32 := List.Vector.replicate 32 0

/-- `HashMap<u64, [u8; 32]>`: the content without an order. -/
abbrev LeafMap := Finmap fun _ : UInt64 => FixedBytes 32

/-- The order in which one hash table happens to yield its keys. -/
structure IterationOrder where
  keys : Finset UInt64 → List UInt64
  nodup : ∀ s, (keys s).Nodup
  mem_keys : ∀ s k, k ∈ keys s ↔ k ∈ s

/-- `leaves.get(&index).copied().unwrap_or(default)` -/
def valueAt (leaves : LeafMap) (default : FixedBytes 32) (index : UInt64) : FixedBytes 32 :=
  (leaves.lookup index).getD default

/-! One bit of a leaf. -/

theorem shiftRight_three_lt (bit : UInt8) : (bit >>> 3).toNat < 32 := by
  have hbit : bit.toNat < 256 := bit.toNat_lt
  have h : (bit >>> 3).toNat = bit.toNat / 8 := by
    rw [UInt8.toNat_shiftRight, Nat.shiftRight_eq_div_pow]
    rfl
  omega

def byteIndex (bit : UInt8) : Fin 32 := ⟨(bit >>> 3).toNat, shiftRight_three_lt bit⟩

def bitMask (bit : UInt8) : UInt8 := 1 <<< (bit &&& 7)

/-- `leaf[byte_index] |= bit_mask` -/
def setBit (leaf : FixedBytes 32) (bit : UInt8) : FixedBytes 32 :=
  leaf.set (byteIndex bit) (leaf.get (byteIndex bit) ||| bitMask bit)

/-- `leaf[byte_index] & bit_mask != 0` -/
def bitSet (leaf : FixedBytes 32) (bit : UInt8) : Prop :=
  leaf.get (byteIndex bit) &&& bitMask bit ≠ 0

instance (leaf : FixedBytes 32) (bit : UInt8) : Decidable (bitSet leaf bit) :=
  inferInstanceAs (Decidable (_ ≠ _))

section
variable [TxoTree]

/-- Derive the Merkle index and the bit index from a combined index. -/
def decodeCombinedIndex (combinedIndex : UInt64) : UInt64 × UInt8 :=
  TxoTree.merkleIndexAndLeafBit combinedIndex

/-- Rebuild the leaf state from the spent outputs: each one sets a bit of its leaf. -/
def rebuildMerkleLeaves (spentCombinedIndices : List UInt64) : LeafMap :=
  spentCombinedIndices.foldl (fun leaves combinedIndex =>
    let (merkleIndex, bitIndex) := decodeCombinedIndex combinedIndex
    leaves.insert merkleIndex (setBit (valueAt leaves zeroLeaf merkleIndex) bitIndex)) ∅

/-- Set bits starting from the existing leaves; only touched leaves are returned. -/
def computeUpdatedLeafValues (combinedIndices : List UInt64) (existingLeaves : LeafMap) : LeafMap :=
  combinedIndices.foldl (fun result combinedIndex =>
    let (merkleIndex, bitIndex) := decodeCombinedIndex combinedIndex
    let existing := valueAt existingLeaves zeroLeaf merkleIndex
    result.insert merkleIndex (setBit (valueAt result existing merkleIndex) bitIndex)) ∅

/-! Sparse level tables. A tree is built from one table for each level, each with its own order. -/

/-- Leaves that differ from the zero hash. -/
def baseLevel (order : IterationOrder) (leaves : LeafMap) : LeafMap :=
  (order.keys leaves.keys).foldl (fun level index =>
    match leaves.lookup index with
    | some value => if value ≠ TxoTree.sha256ZeroHashes 0 then level.insert index value else level
    | none => level) ∅

def parentLevel (order : IterationOrder) (level : ℕ) (current : LeafMap) : LeafMap :=
  let parentIndices := current.keys.image fun index : UInt64 => index >>> 1
  (order.keys parentIndices).foldl (fun parents (parentIndex : UInt64) =>
    let left := valueAt current (TxoTree.sha256ZeroHashes level) (parentIndex <<< 1)
    let right := valueAt current (TxoTree.sha256ZeroHashes level) ((parentIndex <<< 1) ||| 1)
    let parent := TxoTree.sha256TwoToOne left right
    if parent ≠ TxoTree.sha256ZeroHashes (level + 1) then parents.insert parentIndex parent
    else parents) ∅

def buildSparseLevels (order : ℕ → IterationOrder) (leaves : LeafMap) :
    (height : ℕ) → Vector LeafMap (height + 1)
  | 0 => #v[baseLevel (order 0) leaves]
  | level + 1 =>
    let levels := buildSparseLevels order leaves level
    levels.push (parentLevel (order (level + 1)) level levels[level])

/-- Root of the sparse tree over the non-zero leaves. -/
def computeSparseMerkleRoot (order : ℕ → IterationOrder) (leaves : LeafMap) : FixedBytes 32 :=
  valueAt (buildSparseLevels order leaves txoMerkleIndexTotalBits)[txoMerkleIndexTotalBits]
    (TxoTree.sha256ZeroHashes txoMerkleIndexTotalBits) 0

/-- The sibling of every node on the path of `index`. -/
def pathSiblings {height : ℕ} (levels : Vector LeafMap (height + 1)) (index : UInt64) :
    List.Vector (FixedBytes 32) height :=
  List.Vector.ofFn fun level =>
    valueAt levels[level.val] (TxoTree.sha256ZeroHashes level)
      ((index >>> UInt64.ofNat level) ^^^ 1)

def merkleRootFromProof : FixedBytes 32 → UInt64 → List (FixedBytes 32) → FixedBytes 32
  | value, _, [] => value
  | value, index, sibling :: siblings =>
    let value := if index &&& 1 = 0 then TxoTree.sha256TwoToOne value sibling
      else TxoTree.sha256TwoToOne sibling value
    merkleRootFromProof value (index >>> 1) siblings

/-! Proofs. -/

/-- One update proof of the spent-output tree. -/
structure SpentTxoProof where
  oldLeaf : FixedBytes 32
  bitIndex : UInt8
  merkleIndex : UInt64
  siblings : List.Vector (FixedBytes 32) txoMerkleIndexTotalBits
  oldRoot : FixedBytes 32
  newRoot : FixedBytes 32
  deriving DecidableEq

def alreadySpent (combinedIndex : UInt64) : String :=
  s!"custody TXO combined index {combinedIndex} is already spent"

def currentRootMismatch : String := "constructed spent-TXO proof does not match the current root"

def inconsistentRoot : String := "sequential spent-TXO update produced an inconsistent root"

/-- The proof of one input and the leaves after it. -/
def spendTxo (order order' : ℕ → IterationOrder) (leaves : LeafMap) (combinedIndex : UInt64) :
    Result (SpentTxoProof × LeafMap) := do
  let (merkleIndex, bitIndex) := decodeCombinedIndex combinedIndex
  let oldLeaf := valueAt leaves zeroLeaf merkleIndex
  if bitSet oldLeaf bitIndex then
    bail (alreadySpent combinedIndex)
  let levels := buildSparseLevels order leaves txoMerkleIndexTotalBits
  let siblings := pathSiblings levels merkleIndex
  let oldRoot := merkleRootFromProof oldLeaf merkleIndex siblings.toList
  let expectedOldRoot := valueAt levels[txoMerkleIndexTotalBits]
    (TxoTree.sha256ZeroHashes txoMerkleIndexTotalBits) 0
  if oldRoot ≠ expectedOldRoot then
    bail currentRootMismatch
  let newLeaf := setBit oldLeaf bitIndex
  let newRoot := merkleRootFromProof newLeaf merkleIndex siblings.toList
  let leaves := leaves.insert merkleIndex newLeaf
  if computeSparseMerkleRoot order' leaves ≠ newRoot then
    bail inconsistentRoot
  .ok (⟨oldLeaf, bitIndex, merkleIndex, siblings, oldRoot, newRoot⟩, leaves)

/-- The loop body: prove the next input and push its proof. The trees of input `n` iterate their
tables in the orders `2 * n` and `2 * n + 1`. -/
def spendNext (order : ℕ → ℕ → IterationOrder) (state : List SpentTxoProof × LeafMap)
    (combinedIndex : UInt64) : Result (List SpentTxoProof × LeafMap) := do
  let n := state.1.length
  let (proof, leaves) ← spendTxo (order (2 * n)) (order (2 * n + 1)) state.2 combinedIndex
  .ok (state.1 ++ [proof], leaves)

/-- Build spent-output witnesses in input order, each from the root of the one before. -/
def buildSequentialSpentTxoProofs (order : ℕ → ℕ → IterationOrder) (existingLeaves : LeafMap)
    (combinedIndices : List UInt64) : Result (List SpentTxoProof × LeafMap) :=
  combinedIndices.foldlM (spendNext order) ([], existingLeaves)

/-- A membership proof for the requested-withdrawal append tree. -/
structure FixedMerkleProof where
  index : UInt64
  siblings : List.Vector (FixedBytes 32) 32
  deriving DecidableEq

def outsideTree (index : UInt64) : String :=
  s!"withdrawal request proof index {index} is outside the reconstructed tree"

def treeRootMismatch : String :=
  "constructed withdrawal request proof does not match the tree root"

/-- Non-zero leaves under their positions. -/
def leafMapOf (leaves : List (FixedBytes 32)) : LeafMap :=
  (leaves.zipIdx.filter fun entry => entry.1 ≠ zeroLeaf).foldl
    (fun leafMap entry => leafMap.insert (UInt64.ofNat entry.2) entry.1) ∅

/-- The loop body: the siblings of one index, checked against the root. -/
def fixedMerkleProof (levels : Vector LeafMap 33) (root : FixedBytes 32)
    (leaves : List (FixedBytes 32)) (index : UInt64) : Result FixedMerkleProof :=
  if h : index.toNat < leaves.length then
    let siblings := pathSiblings levels index
    if merkleRootFromProof (leaves.get ⟨index.toNat, h⟩) index siblings.toList ≠ root then
      bail treeRootMismatch
    else .ok ⟨index, siblings⟩
  else bail (outsideTree index)

/-- Build membership proofs for selected leaves and return the reconstructed root. -/
def buildFixedMerkleProofs (order : ℕ → IterationOrder) (leaves : List (FixedBytes 32))
    (indices : List UInt64) : Result (FixedBytes 32 × List FixedMerkleProof) := do
  if leaves.length > 2 ^ 32 - 1 then
    bail "requested-withdrawal tree exceeds its 32-level capacity"
  let levels := buildSparseLevels order (leafMapOf leaves) 32
  let root := valueAt levels[32] (TxoTree.sha256ZeroHashes 32) 0
  let proofs ← indices.mapM (fixedMerkleProof levels root leaves)
  .ok (root, proofs)

/-! Transaction branches of a block. The index stays in range while the level shrinks. -/

/-- The next level: pairs from the front, the last element with itself when it has no neighbour. -/
def parentsOf (level : List (FixedBytes 32)) : List (FixedBytes 32) :=
  List.ofFn fun i : Fin ((level.length + 1) / 2) =>
    let left := level.get ⟨2 * i, by omega⟩
    let right := level[2 * i.val + 1]?.getD left
    TxoTree.btcHash256TwoToOne left right

theorem parentsOf_length (level : List (FixedBytes 32)) :
    (parentsOf level).length = (level.length + 1) / 2 := List.length_ofFn

/-- `if index ^ 1 < level.len() { index ^ 1 } else { index }` -/
def siblingIndex {n : ℕ} (index : Fin n) : Fin n :=
  if h : index.val ^^^ 1 < n then ⟨index.val ^^^ 1, h⟩ else index

def branchLoop (level : List (FixedBytes 32)) (index : Fin level.length)
    (branch : List (FixedBytes 32)) : FixedBytes 32 × List (FixedBytes 32) :=
  if h : level.length > 1 then
    branchLoop (parentsOf level)
      ⟨index.val >>> 1, by rw [parentsOf_length, Nat.shiftRight_one]; omega⟩
      (branch ++ [level.get (siblingIndex index)])
  else (level.get ⟨0, index.pos⟩, branch)
termination_by level.length
decreasing_by
  rw [parentsOf_length]
  omega

/-- Construct the transaction Merkle branch for `targetIndex`. -/
def buildTransactionMerkleBranch (txids : List (FixedBytes 32)) (targetIndex : ℕ) :
    Result (FixedBytes 32 × List (FixedBytes 32)) :=
  if txids.isEmpty then
    bail "cannot build a transaction Merkle branch for an empty block"
  else if h : targetIndex < txids.length then
    .ok (branchLoop txids ⟨targetIndex, h⟩ [])
  else bail s!"transaction index {targetIndex} is outside block transaction list"

end

/-- A message is not a text that begins otherwise than the first part of the message. -/
theorem append_append_ne {a text : String} (b c : String) (n : ℕ) (h : n ≤ a.toList.length)
    (hne : a.toList.take n ≠ text.toList.take n) : a ++ b ++ c ≠ text := by
  intro heq
  apply hne
  rw [← heq, String.toList_append, String.toList_append, List.append_assoc,
    List.take_append_of_le_length h]

theorem alreadySpent_ne (combinedIndex : UInt64) :
    alreadySpent combinedIndex ≠ currentRootMismatch ∧
      alreadySpent combinedIndex ≠ inconsistentRoot :=
  ⟨append_append_ne (toString combinedIndex) " is already spent" 2 (by decide) (by decide),
    append_append_ne (toString combinedIndex) " is already spent" 1 (by decide) (by decide)⟩

theorem outsideTree_ne (index : UInt64) : outsideTree index ≠ treeRootMismatch :=
  append_append_ne (toString index) " is outside the reconstructed tree" 1 (by decide) (by decide)

end DogeOperator.CustodyOps
