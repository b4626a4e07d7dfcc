import DogeOperator.CustodyOps

/-! The spent-leaf state by its bits. Full rebuild, batch update and step-by-step update are one
marking loop with different starting leaves, and a leaf map is determined by keys and bits. -/
namespace DogeOperator.CustodyOps
open Bytes Outcome

/-! Leaves as bit vectors. -/

theorem toBitVec_bitMask (bit : UInt8) :
    (bitMask bit).toBitVec = BitVec.twoPow 8 (bit.toNat % 8) := by
  have hand : bit.toNat &&& 7 = bit.toNat % 8 := Nat.and_two_pow_sub_one_eq_mod bit.toNat 3
  simp only [bitMask, UInt8.toBitVec_shiftLeft, BitVec.twoPow]
  simp [hand]

theorem bitSet_iff (leaf : FixedBytes 32) (bit : UInt8) :
    bitSet leaf bit ↔ (leaf.get (byteIndex bit)).toBitVec.getLsbD (bit.toNat % 8) = true := by
  rw [bitSet, ne_eq, ← UInt8.toBitVec_inj, UInt8.toBitVec_and, toBitVec_bitMask, BitVec.and_twoPow]
  split_ifs with h
  · simp only [h, iff_true]
    intro hzero
    have hbit := congrArg (fun v => v.getLsbD (bit.toNat % 8)) hzero
    simp at hbit
    omega
  · simp [h]

theorem byteIndex_val (bit : UInt8) : (byteIndex bit).val = bit.toNat / 8 := by
  simp only [byteIndex, UInt8.toNat_shiftRight, Nat.shiftRight_eq_div_pow]
  rfl

/-- Two bits at one place of one byte are one bit. -/
theorem bit_eq {bit bit' : UInt8} (hbyte : byteIndex bit = byteIndex bit')
    (hmod : bit.toNat % 8 = bit'.toNat % 8) : bit = bit' := by
  have hdiv := congrArg Fin.val hbyte
  rw [byteIndex_val, byteIndex_val] at hdiv
  exact UInt8.toNat_inj.mp (by omega)

/-- Setting a bit adds that bit and no other. -/
theorem bitSet_setBit (leaf : FixedBytes 32) (bit bit' : UInt8) :
    bitSet (setBit leaf bit) bit' ↔ bit' = bit ∨ bitSet leaf bit' := by
  rw [bitSet_iff, bitSet_iff, setBit]
  by_cases hbyte : byteIndex bit = byteIndex bit'
  · rw [← hbyte, List.Vector.get_set_same, UInt8.toBitVec_or, toBitVec_bitMask,
      BitVec.getLsbD_or, BitVec.getLsbD_twoPow]
    have heq : bit' = bit ↔ bit.toNat % 8 = bit'.toNat % 8 := by
      constructor
      · rintro rfl
        rfl
      · intro h
        exact (bit_eq hbyte h).symm
    simp only [heq, Bool.or_eq_true, Bool.and_eq_true, decide_eq_true_eq]
    have hlt : bit.toNat % 8 < 8 := Nat.mod_lt _ (by omega)
    tauto
  · have hne : bit' ≠ bit := by
      rintro rfl
      exact hbyte rfl
    rw [List.Vector.get_set_of_ne hbyte]
    simp [hne]

theorem not_bitSet_zeroLeaf (bit : UInt8) : ¬ bitSet zeroLeaf bit := by
  rw [bitSet_iff, zeroLeaf, List.Vector.get_replicate]
  simp

theorem leaf_ext {leaf leaf' : FixedBytes 32} (h : ∀ bit, bitSet leaf bit ↔ bitSet leaf' bit) :
    leaf = leaf' := by
  apply List.Vector.ext
  intro i
  apply UInt8.toBitVec_inj.mp
  apply BitVec.eq_of_getLsbD_eq
  intro j hj
  have hlt : 8 * i.val + j < 256 := by omega
  have hbit : (UInt8.ofNat (8 * i.val + j)).toNat = 8 * i.val + j := by
    rw [UInt8.toNat_ofNat', Nat.mod_eq_of_lt hlt]
  have hbyte : byteIndex (UInt8.ofNat (8 * i.val + j)) = i := by
    apply Fin.ext
    rw [byteIndex_val, hbit]
    omega
  have hmod : (8 * i.val + j) % 8 = j := by omega
  have hset := h (UInt8.ofNat (8 * i.val + j))
  rw [bitSet_iff, bitSet_iff, hbyte, hbit, hmod] at hset
  exact Bool.eq_iff_iff.mpr hset

/-! Leaf maps by keys and bits. -/

@[simp] theorem valueAt_insert (leaves : LeafMap) (default value : FixedBytes 32) (k : UInt64) :
    valueAt (leaves.insert k value) default k = value := by
  simp [valueAt]

theorem valueAt_insert_of_ne (leaves : LeafMap) (default value : FixedBytes 32) {k k' : UInt64}
    (h : k' ≠ k) : valueAt (leaves.insert k value) default k' = valueAt leaves default k' := by
  simp only [valueAt]
  rw [Finmap.lookup_insert_of_ne leaves h]

theorem valueAt_of_notMem {leaves : LeafMap} {k : UInt64} (default : FixedBytes 32)
    (h : k ∉ leaves) : valueAt leaves default k = default := by
  rw [valueAt, Finmap.lookup_eq_none.mpr h, Option.getD_none]

/-- A key that is present is read without its default. -/
theorem lookup_of_mem {leaves : LeafMap} {k : UInt64} (default : FixedBytes 32) (h : k ∈ leaves) :
    leaves.lookup k = some (valueAt leaves default k) := by
  obtain ⟨value, hvalue⟩ := Finmap.mem_iff.mp h
  rw [valueAt, hvalue, Option.getD_some]

theorem leafMap_ext {leaves leaves' : LeafMap} (start : UInt64 → FixedBytes 32)
    (hmem : ∀ k, k ∈ leaves ↔ k ∈ leaves')
    (hbits : ∀ k bit, bitSet (valueAt leaves (start k) k) bit ↔
      bitSet (valueAt leaves' (start k) k) bit) : leaves = leaves' := by
  apply Finmap.ext_lookup
  intro k
  by_cases hk : k ∈ leaves
  · rw [lookup_of_mem (start k) hk, lookup_of_mem (start k) ((hmem k).mp hk), leaf_ext (hbits k)]
  · rw [Finmap.lookup_eq_none.mpr hk, Finmap.lookup_eq_none.mpr (fun h => hk ((hmem k).mpr h))]

section
variable [TxoTree] {start : UInt64 → FixedBytes 32} {leaves : LeafMap} {indices : List UInt64}

/-- Set one listed bit; a leaf that is absent starts from `start`. -/
def mark (start : UInt64 → FixedBytes 32) (leaves : LeafMap) (combinedIndex : UInt64) : LeafMap :=
  let (merkleIndex, bitIndex) := decodeCombinedIndex combinedIndex
  leaves.insert merkleIndex (setBit (valueAt leaves (start merkleIndex) merkleIndex) bitIndex)

def markAll (start : UInt64 → FixedBytes 32) (leaves : LeafMap) (indices : List UInt64) : LeafMap :=
  indices.foldl (mark start) leaves

theorem rebuildMerkleLeaves_eq (indices : List UInt64) :
    rebuildMerkleLeaves indices = markAll (fun _ => zeroLeaf) ∅ indices := rfl

theorem computeUpdatedLeafValues_eq (indices : List UInt64) (existing : LeafMap) :
    computeUpdatedLeafValues indices existing = markAll (valueAt existing zeroLeaf) ∅ indices := rfl

theorem mem_mark {k combinedIndex : UInt64} :
    k ∈ mark start leaves combinedIndex ↔ (decodeCombinedIndex combinedIndex).1 = k ∨ k ∈ leaves := by
  simp only [mark, Finmap.mem_insert]
  rw [eq_comm]

variable (start) in
theorem bitSet_mark {k combinedIndex : UInt64} {bit : UInt8} :
    bitSet (valueAt (mark start leaves combinedIndex) (start k) k) bit ↔
      decodeCombinedIndex combinedIndex = (k, bit) ∨ bitSet (valueAt leaves (start k) k) bit := by
  rw [Prod.ext_iff]
  simp only [mark]
  by_cases hk : (decodeCombinedIndex combinedIndex).1 = k
  · subst hk
    rw [valueAt_insert, bitSet_setBit, eq_comm]
    simp
  · rw [valueAt_insert_of_ne _ _ _ (fun h => hk h.symm)]
    simp [hk]

theorem mem_markAll {k : UInt64} :
    k ∈ markAll start leaves indices ↔
      (∃ ci ∈ indices, (decodeCombinedIndex ci).1 = k) ∨ k ∈ leaves := by
  induction indices generalizing leaves with
  | nil => simp [markAll]
  | cons ci indices ih =>
    rw [markAll, List.foldl_cons, ← markAll, ih, mem_mark, List.exists_mem_cons_iff,
      or_left_comm, or_assoc]

variable (start) in
theorem bitSet_markAll {k : UInt64} {bit : UInt8} :
    bitSet (valueAt (markAll start leaves indices) (start k) k) bit ↔
      (∃ ci ∈ indices, decodeCombinedIndex ci = (k, bit)) ∨
        bitSet (valueAt leaves (start k) k) bit := by
  induction indices generalizing leaves with
  | nil => simp [markAll]
  | cons ci indices ih =>
    rw [markAll, List.foldl_cons, ← markAll, ih, bitSet_mark, List.exists_mem_cons_iff,
      or_left_comm, or_assoc]

/-- Order and repetitions do not matter. -/
theorem markAll_congr {indices' : List UInt64} (h : ∀ ci, ci ∈ indices ↔ ci ∈ indices') :
    markAll start leaves indices = markAll start leaves indices' := by
  apply leafMap_ext start
  · intro k
    simp only [mem_markAll, h]
  · intro k bit
    simp only [bitSet_markAll, h]

theorem mem_rebuildMerkleLeaves {k : UInt64} :
    k ∈ rebuildMerkleLeaves indices ↔ ∃ ci ∈ indices, (decodeCombinedIndex ci).1 = k := by
  rw [rebuildMerkleLeaves_eq, mem_markAll]
  simp [Finmap.notMem_empty]

/-- A bit of a rebuilt leaf is set exactly when some spent output is at it. -/
theorem bitSet_rebuildMerkleLeaves {k : UInt64} {bit : UInt8} :
    bitSet (valueAt (rebuildMerkleLeaves indices) zeroLeaf k) bit ↔
      ∃ ci ∈ indices, decodeCombinedIndex ci = (k, bit) := by
  have hempty : ¬ bitSet (valueAt ∅ zeroLeaf k) bit := by
    rw [valueAt_of_notMem _ Finmap.notMem_empty]
    exact not_bitSet_zeroLeaf bit
  rw [rebuildMerkleLeaves_eq, bitSet_markAll (fun _ => zeroLeaf)]
  simp [hempty]

theorem mem_computeUpdatedLeafValues {k : UInt64} :
    k ∈ computeUpdatedLeafValues indices leaves ↔ ∃ ci ∈ indices, (decodeCombinedIndex ci).1 = k := by
  rw [computeUpdatedLeafValues_eq, mem_markAll]
  simp [Finmap.notMem_empty]

/-- Touched leaves keep their bits and gain the listed ones. -/
theorem bitSet_computeUpdatedLeafValues {k : UInt64} {bit : UInt8}
    (h : k ∈ computeUpdatedLeafValues indices leaves) :
    bitSet (valueAt (computeUpdatedLeafValues indices leaves) zeroLeaf k) bit ↔
      (∃ ci ∈ indices, decodeCombinedIndex ci = (k, bit)) ∨
        bitSet (valueAt leaves zeroLeaf k) bit := by
  have hdefault : valueAt (computeUpdatedLeafValues indices leaves) zeroLeaf k =
      valueAt (computeUpdatedLeafValues indices leaves) (valueAt leaves zeroLeaf k) k := by
    simp only [valueAt]
    rw [lookup_of_mem zeroLeaf h, Option.getD_some, Option.getD_some]
  rw [hdefault, computeUpdatedLeafValues_eq, bitSet_markAll (valueAt leaves zeroLeaf),
    valueAt_of_notMem _ Finmap.notMem_empty]

/-- A rebuild in two parts: the batch update of the second part overwrites the first. -/
theorem rebuildMerkleLeaves_append (first second : List UInt64) :
    rebuildMerkleLeaves (first ++ second) =
      computeUpdatedLeafValues second (rebuildMerkleLeaves first) ∪ rebuildMerkleLeaves first := by
  apply leafMap_ext fun _ => zeroLeaf
  · intro k
    rw [Finmap.mem_union, mem_rebuildMerkleLeaves, mem_rebuildMerkleLeaves,
      mem_computeUpdatedLeafValues]
    simp only [List.mem_append, or_and_right, exists_or]
    exact or_comm
  · intro k bit
    rw [bitSet_rebuildMerkleLeaves]
    simp only [List.mem_append, or_and_right, exists_or]
    by_cases hk : k ∈ computeUpdatedLeafValues second (rebuildMerkleLeaves first)
    · have hleft : valueAt (computeUpdatedLeafValues second (rebuildMerkleLeaves first) ∪
          rebuildMerkleLeaves first) zeroLeaf k =
          valueAt (computeUpdatedLeafValues second (rebuildMerkleLeaves first)) zeroLeaf k := by
        rw [valueAt, valueAt, Finmap.lookup_union_left hk]
      rw [hleft, bitSet_computeUpdatedLeafValues hk, bitSet_rebuildMerkleLeaves]
      exact or_comm
    · have hright : valueAt (computeUpdatedLeafValues second (rebuildMerkleLeaves first) ∪
          rebuildMerkleLeaves first) zeroLeaf k = valueAt (rebuildMerkleLeaves first) zeroLeaf k := by
        rw [valueAt, valueAt, Finmap.lookup_union_right hk]
      have hnone : ¬ ∃ ci ∈ second, decodeCombinedIndex ci = (k, bit) := by
        rintro ⟨ci, hci, hdecode⟩
        apply hk
        rw [mem_computeUpdatedLeafValues]
        exact ⟨ci, hci, by rw [hdecode]⟩
      rw [hright, bitSet_rebuildMerkleLeaves]
      exact or_iff_left hnone

end

end DogeOperator.CustodyOps
