import DogeOperator.Crypto
import DogeOperator.Preimage
import DogeOperator.Solana
import DogeOperator.SortByKey

/-! The commitment to the spent outpoints of tracked custody: a digest of the prior root and of
the outpoints in the order of their leaf indices. Its preimage says which outpoints, and not in
which order they came. -/
namespace DogeOperator.TrackedSpent
open Bytes Outcome Crypto Preimage SortByKey

@[ext]
structure TrackedSpentOutpoint where
  txid : FixedBytes 32
  vout : UInt32
  leafIndex : UInt64
  deriving DecidableEq

namespace TrackedSpentOutpoint

/-- `(leaf_index, txid, vout)`, arrays byte by byte -/
def sortKey (outpoint : TrackedSpentOutpoint) : ℕ ×ₗ List ℕ ×ₗ ℕ :=
  toLex (outpoint.leafIndex.toNat,
    toLex (outpoint.txid.toList.map UInt8.toNat, outpoint.vout.toNat))

def serialize (outpoint : TrackedSpentOutpoint) : ByteString :=
  u64Le outpoint.leafIndex ++ outpoint.txid.toList ++ u32Le outpoint.vout

end TrackedSpentOutpoint

open TrackedSpentOutpoint

/-- `for pair in ordered.windows(2)` -/
def rejectDuplicateLeaf (ordered : List TrackedSpentOutpoint) : Result Unit :=
  match (neighbours ordered).find? fun pair => pair.1.leafIndex = pair.2.leafIndex with
  | some pair => bail s!"duplicate tracked custody leaf index {pair.1.leafIndex}"
  | none => .ok ()

def domain : ByteString := Solana.asciiBytes "psy-doge-local-tracked-spent-v1"

/-- What `tracked_utxo_spent_commitment` hashes. -/
def trackedSpentPreimage (oldRoot : FixedBytes 32) (outpoints : List TrackedSpentOutpoint) :
    Result ByteString := do
  if outpoints.isEmpty then
    bail "cannot update tracked-UTXO spent commitment with no spent outpoints"
  let ordered := sortByKey sortKey outpoints
  rejectDuplicateLeaf ordered
  return domain ++ oldRoot.toList ++ u64Le (UInt64.ofNat ordered.length) ++
    ordered.flatMap serialize

def trackedUtxoSpentCommitment [Hashes] (oldRoot : FixedBytes 32)
    (outpoints : List TrackedSpentOutpoint) : Result (FixedBytes 32) := do
  let preimage ← trackedSpentPreimage oldRoot outpoints
  return hashSha256 preimage

variable {oldRoot oldRoot' : FixedBytes 32} {outpoints outpoints' : List TrackedSpentOutpoint}
  {preimage preimage' : ByteString}

theorem sortKey_injective : Function.Injective sortKey := by
  rintro ⟨txid, vout, leafIndex⟩ ⟨txid', vout', leafIndex'⟩ h
  obtain ⟨hleaf, hrest⟩ := Prod.mk.inj (toLex_inj.mp h)
  obtain ⟨htxid, hvout⟩ := Prod.mk.inj (toLex_inj.mp hrest)
  have hbytes := List.map_injective_iff.mpr (fun a b => UInt8.toNat_inj.mp) htxid
  exact TrackedSpentOutpoint.ext (List.Vector.toList_injective hbytes) (UInt32.toNat_inj.mp hvout)
    (UInt64.toNat_inj.mp hleaf)

theorem sortKey_leafIndex {outpoint outpoint' : TrackedSpentOutpoint}
    (h : outpoint.sortKey ≤ outpoint'.sortKey) : outpoint.leafIndex.toNat ≤ outpoint'.leafIndex.toNat :=
  Prod.Lex.monotone_fst_ofLex h

theorem serialize_length (outpoint : TrackedSpentOutpoint) : outpoint.serialize.length = 44 := by
  simp [serialize]

theorem serialize_delimited :
    Delimited (fun _ : TrackedSpentOutpoint => True) TrackedSpentOutpoint.serialize := by
  intro outpoint outpoint' _ _ rest rest' heq
  simp only [serialize, List.append_assoc] at heq
  obtain ⟨hleaf, heq⟩ := u64Le_delimited trivial trivial heq
  obtain ⟨htxid, heq⟩ := Delimited.vector 32 trivial trivial heq
  obtain ⟨hvout, heq⟩ := u32Le_delimited trivial trivial heq
  exact ⟨TrackedSpentOutpoint.ext htxid hvout hleaf, heq⟩

/-! Which lists are accepted. -/

theorem rejectDuplicateLeaf_eq_ok {ordered : List TrackedSpentOutpoint} :
    rejectDuplicateLeaf ordered = .ok () ↔
      ∀ pair ∈ neighbours ordered, pair.1.leafIndex ≠ pair.2.leafIndex := by
  have hnone := List.find?_eq_none (p := fun pair : TrackedSpentOutpoint × TrackedSpentOutpoint =>
    decide (pair.1.leafIndex = pair.2.leafIndex)) (l := neighbours ordered)
  simp only [decide_eq_true_eq] at hnone
  rw [rejectDuplicateLeaf, ← hnone]
  split
  · rename_i pair hfound
    simp [hfound]
  · rename_i hfound
    simp [hfound]

/-- Only neighbours of the sorted list are compared, and that is enough. -/
theorem rejectDuplicateLeaf_sorted : rejectDuplicateLeaf (sortByKey sortKey outpoints) = .ok () ↔
    (outpoints.map leafIndex).Nodup := by
  have hsorted := (pairwise_sortByKey sortKey outpoints).imp sortKey_leafIndex
  have hne : ∀ pair : TrackedSpentOutpoint × TrackedSpentOutpoint,
      pair.1.leafIndex ≠ pair.2.leafIndex ↔ pair.1.leafIndex.toNat ≠ pair.2.leafIndex.toNat :=
    fun pair => UInt64.toNat_inj.not.symm
  have hmap : outpoints.map (fun outpoint => outpoint.leafIndex.toNat) =
      (outpoints.map leafIndex).map UInt64.toNat := by rw [List.map_map]; rfl
  rw [rejectDuplicateLeaf_eq_ok, forall₂_congr fun pair _ => hne pair,
    ← nodup_map_iff_neighbours hsorted,
    ((sortByKey_perm sortKey outpoints).map _).nodup_iff, hmap,
    List.nodup_map_iff fun _ _ => UInt64.toNat_inj.mp]

/-- The bytes for a list that is accepted. -/
def preimageBytes (oldRoot : FixedBytes 32) (outpoints : List TrackedSpentOutpoint) : ByteString :=
  domain ++ oldRoot.toList ++ u64Le (UInt64.ofNat (sortByKey sortKey outpoints).length) ++
    (sortByKey sortKey outpoints).flatMap serialize

theorem trackedSpentPreimage_eq_ok : trackedSpentPreimage oldRoot outpoints = .ok preimage ↔
    (outpoints ≠ [] ∧ (outpoints.map leafIndex).Nodup) ∧
      preimage = preimageBytes oldRoot outpoints := by
  rw [trackedSpentPreimage, guard_bind_eq_ok, List.isEmpty_iff, and_assoc, and_congr_right_iff]
  intro _
  rw [← rejectDuplicateLeaf_sorted, bind_eq_ok]
  constructor
  · rintro ⟨⟨⟩, hunique, h⟩
    cases h
    exact ⟨hunique, rfl⟩
  · rintro ⟨hunique, rfl⟩
    exact ⟨(), hunique, rfl⟩

/-! What the bytes say. -/

theorem preimageBytes_length : (preimageBytes oldRoot outpoints).length =
    domain.length + 40 + outpoints.length * 44 := by
  have hrecords : ((sortByKey sortKey outpoints).flatMap serialize).length =
      outpoints.length * 44 := by
    rw [List.length_flatMap, List.map_congr_left fun outpoint _ => serialize_length outpoint,
      List.map_const', List.sum_replicate, smul_eq_mul, (sortByKey_perm sortKey outpoints).length_eq]
  rw [preimageBytes]
  simp only [List.length_append, List.Vector.toList_length, u64Le_length, hrecords]

theorem preimageBytes_inj : preimageBytes oldRoot outpoints = preimageBytes oldRoot' outpoints' ↔
    oldRoot = oldRoot' ∧ outpoints.Perm outpoints' := by
  constructor
  · intro heq
    have hcount : outpoints.length = outpoints'.length := by
      have htotal := congrArg List.length heq
      rw [preimageBytes_length, preimageBytes_length] at htotal
      omega
    have hlength : (sortByKey sortKey outpoints).length = (sortByKey sortKey outpoints').length := by
      rw [(sortByKey_perm sortKey outpoints).length_eq, (sortByKey_perm sortKey outpoints').length_eq,
        hcount]
    simp only [preimageBytes, List.append_assoc] at heq
    have hbody := List.append_cancel_left heq
    obtain ⟨hroot, hbody⟩ := Delimited.vector 32 trivial trivial hbody
    rw [hlength] at hbody
    have hrecords := List.append_cancel_left hbody
    rw [← List.append_nil (List.flatMap _ (sortByKey sortKey outpoints)),
      ← List.append_nil (List.flatMap _ (sortByKey sortKey outpoints'))] at hrecords
    have hsame := serialize_delimited.flatMap hlength (fun _ _ => trivial) (fun _ _ => trivial) hrecords
    exact ⟨hroot, (sortByKey_eq_iff sortKey_injective).mp hsame.1⟩
  · rintro ⟨rfl, hperm⟩
    rw [preimageBytes, preimageBytes, (sortByKey_eq_iff sortKey_injective).mpr hperm]

theorem commitment_eq_ok [Hashes] {commitment : FixedBytes 32} :
    trackedUtxoSpentCommitment oldRoot outpoints = .ok commitment ↔
      ∃ preimage, trackedSpentPreimage oldRoot outpoints = .ok preimage ∧
        commitment = hashSha256 preimage := by
  rw [trackedUtxoSpentCommitment, bind_eq_ok]
  refine exists_congr fun preimage => and_congr_right fun _ => ?_
  rw [pure_eq_ok, Except.ok.injEq]
  exact eq_comm

/-- The commitment exists exactly for outpoints with different leaf indices, at least one; it is the
SHA-256 hash of its preimage, and the preimages of two calls are the same exactly for the same root and
the same outpoints in any order. -/
theorem trackedUtxoSpentCommitment_identifies [Hashes] :
    (∀ oldRoot outpoints, (∃ commitment, trackedUtxoSpentCommitment oldRoot outpoints = .ok commitment) ↔
      outpoints ≠ [] ∧ (outpoints.map leafIndex).Nodup) ∧
    (∀ oldRoot outpoints commitment, trackedUtxoSpentCommitment oldRoot outpoints = .ok commitment ↔
      ∃ preimage, trackedSpentPreimage oldRoot outpoints = .ok preimage ∧
        commitment = hashSha256 preimage) ∧
    ∀ oldRoot oldRoot' outpoints outpoints' commitment commitment',
      trackedUtxoSpentCommitment oldRoot outpoints = .ok commitment →
      trackedUtxoSpentCommitment oldRoot' outpoints' = .ok commitment' →
      ∃ preimage preimage', trackedSpentPreimage oldRoot outpoints = .ok preimage ∧
        trackedSpentPreimage oldRoot' outpoints' = .ok preimage' ∧
        commitment = hashSha256 preimage ∧ commitment' = hashSha256 preimage' ∧
        (preimage = preimage' ↔ oldRoot = oldRoot' ∧ outpoints.Perm outpoints') := by
  refine ⟨?_, fun oldRoot outpoints commitment => commitment_eq_ok, ?_⟩
  · intro oldRoot outpoints
    constructor
    · rintro ⟨commitment, h⟩
      obtain ⟨preimage, hpreimage, -⟩ := commitment_eq_ok.mp h
      exact (trackedSpentPreimage_eq_ok.mp hpreimage).1
    · intro haccepted
      exact ⟨_, commitment_eq_ok.mpr ⟨_, trackedSpentPreimage_eq_ok.mpr ⟨haccepted, rfl⟩, rfl⟩⟩
  · intro oldRoot oldRoot' outpoints outpoints' commitment commitment' h h'
    obtain ⟨preimage, hpreimage, hhash⟩ := commitment_eq_ok.mp h
    obtain ⟨preimage', hpreimage', hhash'⟩ := commitment_eq_ok.mp h'
    refine ⟨preimage, preimage', hpreimage, hpreimage', hhash, hhash', ?_⟩
    rw [(trackedSpentPreimage_eq_ok.mp hpreimage).2, (trackedSpentPreimage_eq_ok.mp hpreimage').2]
    exact preimageBytes_inj

end DogeOperator.TrackedSpent
