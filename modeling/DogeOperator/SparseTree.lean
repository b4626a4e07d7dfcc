import DogeOperator.MerkleTree
import DogeOperator.SpentLeaves
import Mathlib.Data.Nat.Bitwise

/-! The sparse level tables hold the dense tree: a node that is absent is the zero hash of its
level, and neither the order of a table nor explicit zero leaves can be seen in a node. -/
namespace DogeOperator.CustodyOps
open Bytes Outcome MerkleTree

/-- The entry at a position; no key of a table is `2^64` or more. -/
def entryAt (leaves : LeafMap) (i : ℕ) : Option (FixedBytes 32) :=
  if i < 2 ^ 64 then leaves.lookup (UInt64.ofNat i) else none

/-- The leaf at a position, with missing leaves read as zero. -/
def leafAt (leaves : LeafMap) (i : ℕ) : FixedBytes 32 := (entryAt leaves i).getD zeroLeaf

theorem entryAt_toNat (leaves : LeafMap) (k : UInt64) : entryAt leaves k.toNat = leaves.lookup k := by
  rw [entryAt, if_pos k.toNat_lt, UInt64.ofNat_toNat]

theorem leafAt_toNat (leaves : LeafMap) (k : UInt64) :
    leafAt leaves k.toNat = valueAt leaves zeroLeaf k := by
  rw [leafAt, entryAt_toNat, valueAt]

/-- Maps that read the same, whether or not they hold explicit zero entries, have the same leaves. -/
theorem leafAt_congr {leaves leaves' : LeafMap}
    (h : ∀ k, valueAt leaves zeroLeaf k = valueAt leaves' zeroLeaf k) :
    leafAt leaves = leafAt leaves' := by
  funext i
  rw [leafAt, leafAt, entryAt, entryAt]
  split_ifs
  · exact h (UInt64.ofNat i)
  · rfl

/-- An entry that is dropped because it is zero reads as zero. -/
theorem getD_filter_ne {α : Type*} [DecidableEq α] (entry : Option α) (zero : α) :
    (entry.filter fun value => value ≠ zero).getD zero = entry.getD zero := by
  cases entry with
  | none => rfl
  | some value =>
    by_cases hzero : value = zero
    · simp [Option.filter_some, hzero]
    · simp [Option.filter_some, hzero]

/-- Filling a table from a list of keys: later steps never disagree with earlier ones. -/
theorem lookup_foldl {step : LeafMap → UInt64 → LeafMap} (value : UInt64 → Option (FixedBytes 32))
    (hstep : ∀ leaves k, step leaves k = (value k).elim leaves fun v => leaves.insert k v)
    (keys : List UInt64) (leaves : LeafMap) (k : UInt64) :
    (keys.foldl step leaves).lookup k =
      if k ∈ keys then (value k).or (leaves.lookup k) else leaves.lookup k := by
  induction keys generalizing leaves with
  | nil => simp
  | cons key keys ih =>
    have hlookup : (step leaves key).lookup k =
        if k = key then (value k).or (leaves.lookup k) else leaves.lookup k := by
      rw [hstep]
      by_cases hk : k = key
      · subst hk
        cases value k with
        | none => simp
        | some v => simp
      · rw [if_neg hk]
        cases value key with
        | none => rfl
        | some v => exact Finmap.lookup_insert_of_ne leaves hk
    rw [List.foldl_cons, ih, hlookup]
    by_cases hk : k = key
    · subst hk
      cases value k with
      | none => simp
      | some v => simp
    · simp [hk]

/-! Children and parents by position. -/

theorem shiftRight_one_toNat (k : UInt64) : (k >>> 1).toNat = k.toNat / 2 := by
  rw [UInt64.toNat_shiftRight, Nat.shiftRight_eq_div_pow]
  rfl

theorem shiftLeft_one_ofNat (i : ℕ) :
    UInt64.ofNat i <<< 1 = UInt64.ofNat (2 * i) := by
  apply UInt64.toNat_inj.mp
  rw [UInt64.toNat_shiftLeft, UInt64.toNat_ofNat', UInt64.toNat_ofNat', Nat.shiftLeft_eq]
  have hone : (1 : UInt64).toNat % 64 = 1 := rfl
  rw [hone]
  omega

theorem shiftLeft_one_or_one_ofNat {i : ℕ} (h : i < 2 ^ 63) :
    (UInt64.ofNat i <<< 1) ||| 1 = UInt64.ofNat (2 * i + 1) := by
  rw [shiftLeft_one_ofNat]
  apply UInt64.toNat_inj.mp
  rw [UInt64.toNat_or, UInt64.toNat_ofNat', UInt64.toNat_ofNat', Nat.mod_eq_of_lt (by omega),
    Nat.mod_eq_of_lt (by omega)]
  exact Nat.two_pow_add_eq_or_of_lt (i := 1) (b := 1) (by omega) i |>.symm

theorem mem_parents_iff {current : LeafMap} {i : ℕ} (h : i < 2 ^ 63) :
    UInt64.ofNat i ∈ current.keys.image (fun index : UInt64 => index >>> 1) ↔
      UInt64.ofNat (2 * i) ∈ current ∨ UInt64.ofNat (2 * i + 1) ∈ current := by
  rw [Finset.mem_image]
  simp only [Finmap.mem_keys]
  constructor
  · rintro ⟨k, hk, hparent⟩
    have hdiv := congrArg UInt64.toNat hparent
    rw [shiftRight_one_toNat, UInt64.toNat_ofNat', Nat.mod_eq_of_lt (by omega)] at hdiv
    by_cases heven : k.toNat % 2 = 0
    · left
      have hk' : 2 * i = k.toNat := by omega
      rwa [hk', UInt64.ofNat_toNat]
    · right
      have hk' : 2 * i + 1 = k.toNat := by omega
      rwa [hk', UInt64.ofNat_toNat]
  · have hparent : ∀ j, j < 2 → UInt64.ofNat (2 * i + j) >>> 1 = UInt64.ofNat i := by
      intro j hj
      apply UInt64.toNat_inj.mp
      rw [shiftRight_one_toNat, UInt64.toNat_ofNat', UInt64.toNat_ofNat']
      omega
    rintro (hk | hk)
    · exact ⟨_, hk, hparent 0 (by omega)⟩
    · exact ⟨_, hk, hparent 1 (by omega)⟩

theorem xor_one_eq_sibling (n : ℕ) : n ^^^ 1 = sibling n := by
  by_cases heven : n % 2 = 0
  · rw [Nat.xor_one_of_even (Nat.even_iff.mpr heven), sibling, if_pos heven]
  · rw [Nat.xor_one_of_odd (Nat.odd_iff.mpr (by omega)), sibling, if_neg heven]

theorem and_one_eq_zero_iff (index : UInt64) : index &&& 1 = 0 ↔ index.toNat % 2 = 0 := by
  rw [← UInt64.toNat_inj, UInt64.toNat_and]
  exact iff_of_eq (congrArg (· = 0) (Nat.and_one_is_mod index.toNat))

theorem shiftRight_ofNat_toNat (k : UInt64) {l : ℕ} (hl : l < 64) :
    (k >>> UInt64.ofNat l).toNat = k.toNat / 2 ^ l := by
  rw [UInt64.toNat_shiftRight, Nat.shiftRight_eq_div_pow, UInt64.toNat_ofNat',
    Nat.mod_mod_of_dvd l (by norm_num), Nat.mod_eq_of_lt hl]

section
variable [TxoTree]

/-- The zero hashes: 32 zero bytes, then each level hashed from two of the one below. -/
structure ZeroHashes : Prop where
  zero : TxoTree.sha256ZeroHashes 0 = zeroLeaf
  succ : ∀ k, TxoTree.sha256ZeroHashes (k + 1) =
    TxoTree.sha256TwoToOne (TxoTree.sha256ZeroHashes k) (TxoTree.sha256ZeroHashes k)

/-- One level table after another. -/
def sparseLevel (order : ℕ → IterationOrder) (leaves : LeafMap) : ℕ → LeafMap
  | 0 => baseLevel (order 0) leaves
  | level + 1 => parentLevel (order (level + 1)) level (sparseLevel order leaves level)

theorem buildSparseLevels_getElem (order : ℕ → IterationOrder) (leaves : LeafMap) {height l : ℕ}
    (hl : l < height + 1) :
    (buildSparseLevels order leaves height)[l] = sparseLevel order leaves l := by
  induction height generalizing l with
  | zero =>
    have hzero : l = 0 := by omega
    subst hzero
    rfl
  | succ height ih =>
    rw [buildSparseLevels, Vector.getElem_push]
    split_ifs with hlt
    · exact ih hlt
    · have htop : l = height + 1 := by omega
      subst htop
      rw [ih (Nat.lt_succ_self height), sparseLevel]

/-- The node at a level and a position, read as the level's zero hash when absent. -/
def sparseNode (order : ℕ → IterationOrder) (leaves : LeafMap) (l i : ℕ) : FixedBytes 32 :=
  (entryAt (sparseLevel order leaves l) i).getD (TxoTree.sha256ZeroHashes l)

variable {order : ℕ → IterationOrder} {leaves : LeafMap}

theorem lookup_baseLevel (order : IterationOrder) (leaves : LeafMap) (k : UInt64) :
    (baseLevel order leaves).lookup k =
      (leaves.lookup k).filter fun value => value ≠ TxoTree.sha256ZeroHashes 0 := by
  rw [baseLevel, lookup_foldl (fun k =>
    (leaves.lookup k).filter fun value => value ≠ TxoTree.sha256ZeroHashes 0)]
  · by_cases hk : k ∈ order.keys leaves.keys
    · rw [if_pos hk, Finmap.lookup_empty, Option.or_none]
    · rw [if_neg hk, Finmap.lookup_empty]
      rw [order.mem_keys, Finmap.mem_keys] at hk
      rw [Finmap.lookup_eq_none.mpr hk, Option.filter_none]
  · intro level k
    cases leaves.lookup k with
    | none => rfl
    | some value =>
      by_cases hzero : value = TxoTree.sha256ZeroHashes 0
      · simp [Option.filter_some, hzero]
      · simp [Option.filter_some, hzero]

theorem valueAt_baseLevel (order : IterationOrder) (leaves : LeafMap) (k : UInt64) :
    valueAt (baseLevel order leaves) (TxoTree.sha256ZeroHashes 0) k =
      valueAt leaves (TxoTree.sha256ZeroHashes 0) k := by
  rw [valueAt, valueAt, lookup_baseLevel, getD_filter_ne]

/-- The hash of the two children of a position. -/
def parentHash (level : ℕ) (current : LeafMap) (p : UInt64) : FixedBytes 32 :=
  TxoTree.sha256TwoToOne
    (valueAt current (TxoTree.sha256ZeroHashes level) (p <<< 1))
    (valueAt current (TxoTree.sha256ZeroHashes level) ((p <<< 1) ||| 1))

theorem lookup_parentLevel (order : IterationOrder) (level : ℕ) (current : LeafMap) (p : UInt64) :
    (parentLevel order level current).lookup p =
      if p ∈ current.keys.image (fun index : UInt64 => index >>> 1) ∧
        parentHash level current p ≠ TxoTree.sha256ZeroHashes (level + 1)
      then some (parentHash level current p) else none := by
  rw [parentLevel, lookup_foldl (fun q =>
    if parentHash level current q ≠ TxoTree.sha256ZeroHashes (level + 1)
    then some (parentHash level current q) else none)]
  · simp only [order.mem_keys, Finmap.lookup_empty, Option.or_none, ite_and]
  · intro parents q
    by_cases hparent : parentHash level current q ≠ TxoTree.sha256ZeroHashes (level + 1)
    · rw [if_pos hparent]
      exact if_pos hparent
    · rw [if_neg hparent]
      exact if_neg hparent

theorem sparseNode_zero (zero : ZeroHashes) (i : ℕ) : sparseNode order leaves 0 i = leafAt leaves i := by
  rw [sparseNode, leafAt, entryAt, entryAt, sparseLevel, zero.zero]
  split_ifs with hi
  · have hbase := valueAt_baseLevel (order 0) leaves (UInt64.ofNat i)
    rw [valueAt, valueAt, zero.zero] at hbase
    exact hbase
  · rfl

/-- A position without children below it. -/
theorem sparseNode_of_notMem {l i : ℕ}
    (h : i < 2 ^ 64 → UInt64.ofNat i ∉ sparseLevel order leaves l) :
    sparseNode order leaves l i = TxoTree.sha256ZeroHashes l := by
  rw [sparseNode, entryAt]
  split_ifs with hi
  · rw [Finmap.lookup_eq_none.mpr (h hi), Option.getD_none]
  · rfl

theorem sparseNode_of_lt {l i : ℕ} (h : i < 2 ^ 64) :
    sparseNode order leaves l i =
      valueAt (sparseLevel order leaves l) (TxoTree.sha256ZeroHashes l) (UInt64.ofNat i) := by
  rw [sparseNode, entryAt, if_pos h, valueAt]

/-- Every node of the level tables is the hash of its two children, absent ones included. -/
theorem hashed_sparseNode (zero : ZeroHashes) (order : ℕ → IterationOrder) (leaves : LeafMap) :
    Hashed TxoTree.sha256TwoToOne (sparseNode order leaves) := by
  intro l i
  by_cases hi : i < 2 ^ 63
  · have hparent : parentHash l (sparseLevel order leaves l) (UInt64.ofNat i) =
        TxoTree.sha256TwoToOne (sparseNode order leaves l (2 * i))
          (sparseNode order leaves l (2 * i + 1)) := by
      rw [parentHash, shiftLeft_one_or_one_ofNat hi, shiftLeft_one_ofNat,
        sparseNode_of_lt (by omega), sparseNode_of_lt (by omega)]
    rw [← hparent, sparseNode_of_lt (by omega), valueAt, sparseLevel, lookup_parentLevel]
    by_cases hmem : UInt64.ofNat i ∈
        (sparseLevel order leaves l).keys.image fun index : UInt64 => index >>> 1
    · -- a parent equal to its zero hash is dropped, and read back as that zero hash
      by_cases hzero : parentHash l (sparseLevel order leaves l) (UInt64.ofNat i) =
          TxoTree.sha256ZeroHashes (l + 1)
      · simp [hzero]
      · simp [hmem, hzero]
    · have hchildren := hmem
      rw [mem_parents_iff hi, not_or] at hchildren
      rw [hparent, sparseNode_of_notMem (fun _ => hchildren.1),
        sparseNode_of_notMem (fun _ => hchildren.2), ← zero.succ]
      simp [hmem]
  · have hnone : i < 2 ^ 64 → UInt64.ofNat i ∉ sparseLevel order leaves (l + 1) := by
      intro hlt
      rw [← Finmap.lookup_eq_none, sparseLevel, lookup_parentLevel, if_neg]
      rw [Finset.mem_image]
      rintro ⟨⟨k, _, hk⟩, _⟩
      have hdiv := congrArg UInt64.toNat hk
      have hlt' := k.toNat_lt
      rw [shiftRight_one_toNat, UInt64.toNat_ofNat', Nat.mod_eq_of_lt hlt] at hdiv
      omega
    rw [sparseNode_of_notMem hnone, sparseNode_of_notMem (by omega),
      sparseNode_of_notMem (by omega), zero.succ]

theorem sparseNode_eq_denseNode (zero : ZeroHashes) (order : ℕ → IterationOrder) (leaves : LeafMap)
    (l i : ℕ) :
    sparseNode order leaves l i = denseNode TxoTree.sha256TwoToOne (leafAt leaves) l i := by
  have hleaf : sparseNode order leaves 0 = leafAt leaves := funext fun i => sparseNode_zero zero i
  rw [(hashed_sparseNode zero order leaves).eq_denseNode l i, hleaf]

theorem computeSparseMerkleRoot_eq_node (order : ℕ → IterationOrder) (leaves : LeafMap) :
    computeSparseMerkleRoot order leaves = sparseNode order leaves txoMerkleIndexTotalBits 0 := by
  rw [computeSparseMerkleRoot, buildSparseLevels_getElem, sparseNode_of_lt (by omega)]
  rfl

theorem computeSparseMerkleRoot_eq (zero : ZeroHashes) (order : ℕ → IterationOrder)
    (leaves : LeafMap) :
    computeSparseMerkleRoot order leaves =
      denseRoot TxoTree.sha256TwoToOne txoMerkleIndexTotalBits (leafAt leaves) := by
  rw [computeSparseMerkleRoot_eq_node, sparseNode_eq_denseNode zero, denseNode]
  simp

/-! Paths in the level tables. -/

/-- The siblings that are read are those of the node table. -/
theorem pathSiblings_toList (order : ℕ → IterationOrder) (leaves : LeafMap) (index : UInt64)
    {height : ℕ} (hheight : height ≤ 64) :
    (pathSiblings (buildSparseLevels order leaves height) index).toList =
      pathFrom (sparseNode order leaves) 0 index.toNat height := by
  apply List.ext_getElem
  · simp [pathFrom]
  · intro l hl hl'
    have hlevel : l < height := by simpa using hl
    have hkey : (index >>> UInt64.ofNat l) ^^^ 1 =
        UInt64.ofNat (sibling (index.toNat / 2 ^ l)) := by
      rw [← xor_one_eq_sibling, ← shiftRight_ofNat_toNat index (by omega)]
      apply UInt64.toNat_inj.mp
      rw [UInt64.toNat_xor, UInt64.toNat_ofNat', Nat.mod_eq_of_lt]
      · rfl
      · exact Nat.xor_lt_two_pow (UInt64.toNat_lt _) (by norm_num)
    have hlt : sibling (index.toNat / 2 ^ l) < 2 ^ 64 := by
      rw [← xor_one_eq_sibling, ← shiftRight_ofNat_toNat index (by omega)]
      exact Nat.xor_lt_two_pow (UInt64.toNat_lt _) (by norm_num)
    simp only [pathSiblings, List.Vector.toList_ofFn, List.getElem_ofFn, pathFrom,
      List.getElem_map, List.getElem_range, Nat.zero_add]
    rw [hkey, buildSparseLevels_getElem, sparseNode_of_lt hlt]

theorem merkleRootFromProof_eq (value : FixedBytes 32) (index : UInt64)
    (siblings : List (FixedBytes 32)) :
    merkleRootFromProof value index siblings =
      climb TxoTree.sha256TwoToOne value index.toNat siblings := by
  induction siblings generalizing value index with
  | nil => rfl
  | cons sibling siblings ih =>
    rw [merkleRootFromProof, climb, ih, shiftRight_one_toNat]
    simp only [and_one_eq_zero_iff]

/-- The sparse tree is the dense tree: at every level and position, for every order of the tables
and however zero leaves are stored. -/
theorem sparse_tree_is_dense (zero : ZeroHashes) :
    (∀ (order : ℕ → IterationOrder) (leaves : LeafMap) (height l i : ℕ) (hl : l < height + 1),
      (entryAt (buildSparseLevels order leaves height)[l] i).getD (TxoTree.sha256ZeroHashes l) =
        denseRoot TxoTree.sha256TwoToOne l fun j => leafAt leaves (i * 2 ^ l + j)) ∧
    (∀ (order : ℕ → IterationOrder) (leaves : LeafMap),
      computeSparseMerkleRoot order leaves =
        denseRoot TxoTree.sha256TwoToOne txoMerkleIndexTotalBits (leafAt leaves)) ∧
    ∀ (order order' : ℕ → IterationOrder) (leaves leaves' : LeafMap),
      (∀ k, valueAt leaves zeroLeaf k = valueAt leaves' zeroLeaf k) →
      computeSparseMerkleRoot order leaves = computeSparseMerkleRoot order' leaves' := by
  refine ⟨?_, computeSparseMerkleRoot_eq zero, ?_⟩
  · intro order leaves height l i hl
    rw [buildSparseLevels_getElem order leaves hl]
    exact sparseNode_eq_denseNode zero order leaves l i
  · intro order order' leaves leaves' h
    rw [computeSparseMerkleRoot_eq zero, computeSparseMerkleRoot_eq zero, leafAt_congr h]

end

/-! A small pair hash with its zero hashes. -/

def ascending : IterationOrder where
  keys s := ((s.image UInt64.toNat).sort (· ≤ ·)).map UInt64.ofNat
  nodup s := by
    apply List.Nodup.map_on _ (Finset.sort_nodup _ _)
    intro a ha b hb hab
    rw [Finset.mem_sort, Finset.mem_image] at ha hb
    obtain ⟨k, _, rfl⟩ := ha
    obtain ⟨k', _, rfl⟩ := hb
    rw [UInt64.ofNat_toNat, UInt64.ofNat_toNat] at hab
    rw [hab]
  mem_keys s k := by
    simp only [List.mem_map, Finset.mem_sort, Finset.mem_image]
    constructor
    · rintro ⟨n, ⟨k', hk', rfl⟩, rfl⟩
      rwa [UInt64.ofNat_toNat]
    · intro hk
      exact ⟨k.toNat, ⟨k, hk, rfl⟩, UInt64.ofNat_toNat⟩

def mixPair (left right : FixedBytes 32) : FixedBytes 32 :=
  List.Vector.map₂ (fun a b => 3 * a + 5 * b + 1) left right

def mixZeroHashes : ℕ → FixedBytes 32
  | 0 => zeroLeaf
  | k + 1 => mixPair (mixZeroHashes k) (mixZeroHashes k)

@[reducible] def mixTree : TxoTree where
  merkleIndexAndLeafBit combinedIndex := (combinedIndex >>> 19, combinedIndex.toUInt8)
  sha256ZeroHashes := mixZeroHashes
  sha256TwoToOne := mixPair
  btcHash256TwoToOne := mixPair

theorem mixTree_zeroHashes : @ZeroHashes mixTree := @ZeroHashes.mk mixTree rfl fun _ => rfl

def localLeaf : FixedBytes 32 := List.Vector.replicate 32 9

/-- One leaf, and beside it the entry of a zero leaf. -/
def localLeaves : LeafMap := Finmap.singleton 5 localLeaf
def localLeavesWithZero : LeafMap := localLeaves.insert 3 zeroLeaf

theorem localLeaves_same (k : UInt64) :
    valueAt localLeavesWithZero zeroLeaf k = valueAt localLeaves zeroLeaf k := by
  rw [valueAt, valueAt, localLeavesWithZero]
  by_cases hk : k = 3
  · subst hk
    rw [Finmap.lookup_insert]
    rfl
  · rw [Finmap.lookup_insert_of_ne _ hk]

/-- The node over leaves four and five, and the root, with and without the zero entry. -/
theorem sparse_tree_zero_entry :
    (entryAt (@buildSparseLevels mixTree (fun _ => ascending) localLeavesWithZero 32)[1] 2).getD
        (mixZeroHashes 1) = mixPair zeroLeaf localLeaf ∧
      (entryAt (@buildSparseLevels mixTree (fun _ => ascending) localLeavesWithZero 32)[1] 1).getD
        (mixZeroHashes 1) = mixPair zeroLeaf zeroLeaf ∧
      @computeSparseMerkleRoot mixTree (fun _ => ascending) localLeavesWithZero =
        @computeSparseMerkleRoot mixTree (fun _ => ascending) localLeaves := by
  rcases @sparse_tree_is_dense mixTree mixTree_zeroHashes with ⟨hnodes, -, hroots⟩
  have hlevel : 1 < 32 + 1 := by omega
  refine ⟨?_, ?_, hroots _ _ _ _ localLeaves_same⟩
  · exact hnodes (fun _ => ascending) localLeavesWithZero 32 1 2 hlevel
  · exact hnodes (fun _ => ascending) localLeavesWithZero 32 1 1 hlevel

end DogeOperator.CustodyOps
