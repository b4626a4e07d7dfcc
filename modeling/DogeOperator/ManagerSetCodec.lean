import DogeOperator.Manager

/-! The manager set on the wire: what is written is read back, and what is read is written back
except for the type byte, which the reader drops and the writer sets to zero. -/
namespace DogeOperator.Manager
open Bytes Outcome

/-! Blocks of one length. -/

/-- Block `i` of `size` bytes. -/
def blockAt (size : ℕ) (bytes : ByteString) (i : ℕ) : ByteString := (bytes.drop (i * size)).take size

theorem blockAt_length {size count i : ℕ} {bytes : ByteString} (h : bytes.length = count * size)
    (hi : i < count) : (blockAt size bytes i).length = size := by
  have hmul : (i + 1) * size ≤ count * size := Nat.mul_le_mul_right size hi
  rw [Nat.add_mul, Nat.one_mul] at hmul
  rw [blockAt, List.length_take, List.length_drop, h]
  omega

/-- The blocks of a byte string, one after the other. -/
theorem flatMap_blockAt (size count : ℕ) (bytes : ByteString) :
    (List.range count).flatMap (blockAt size bytes) = bytes.take (count * size) := by
  induction count with
  | zero => simp
  | succ count ih =>
    rw [List.range_succ, List.flatMap_append, ih, List.flatMap_singleton, blockAt, Nat.add_mul,
      Nat.one_mul, List.take_add]

theorem drop_flatMap {size : ℕ} (blocks : List (FixedBytes size)) (i : ℕ) :
    (blocks.flatMap List.Vector.toList).drop (i * size) =
      (blocks.drop i).flatMap List.Vector.toList := by
  induction blocks generalizing i with
  | nil => simp
  | cons block blocks ih =>
    cases i with
    | zero => simp
    | succ i =>
      have hsize : (i + 1) * size = size + i * size := by ring
      rw [List.flatMap_cons, hsize, ← List.drop_drop, List.drop_left' (List.Vector.toList_length _),
        ih, List.drop_succ_cons]

theorem blockAt_flatMap {size : ℕ} {blocks : List (FixedBytes size)} {i : ℕ}
    (hi : i < blocks.length) :
    blockAt size (blocks.flatMap List.Vector.toList) i = blocks[i].toList := by
  rw [blockAt, drop_flatMap, List.drop_eq_getElem_cons hi, List.flatMap_cons]
  exact List.take_left' (List.Vector.toList_length _)

namespace ManagerSet

/-- The reader behind its length checks: key `i` is block `i` after the three header bytes. -/
theorem parse_layout {kind m n : UInt8} {body : ByteString} (h : body.length = n.toNat * 33) :
    parse (kind :: m :: n :: body) =
      (List.range n.toNat).mapM (fun i => orBail (toFixed? 33 (blockAt 33 body i))
        "source slice length mismatch") >>= fun pubkeys => .ok ⟨m, n, pubkeys⟩ := by
  have hshort : ¬ (kind :: m :: n :: body).length < 3 := by simp
  have htruncated : ¬ (kind :: m :: n :: body).length < 3 + n.toNat * 33 := by
    simp only [List.length_cons, h]
    omega
  have hblock : ∀ i, ((kind :: m :: n :: body).drop (3 + i * 33)).take 33 = blockAt 33 body i := by
    intro i
    rw [blockAt, ← List.drop_drop]
    rfl
  simp only [parse, if_neg hshort, List.getD_cons_succ, List.getD_cons_zero, if_neg htruncated,
    hblock, UInt8.ofNat_toNat]
  rfl

theorem parse_serialize {set : ManagerSet} (h : set.n.toNat = set.pubkeys.length) :
    parse set.serialize = .ok set := by
  have hbody : (set.pubkeys.flatMap List.Vector.toList).length = set.n.toNat * 33 := by
    simp [h]
  have hkeys : (List.range set.n.toNat).mapM (fun i => orBail (toFixed? 33
      (blockAt 33 (set.pubkeys.flatMap List.Vector.toList) i)) "source slice length mismatch") =
        .ok set.pubkeys := by
    rw [mapM_eq_ok, List.forall₂_iff_get]
    refine ⟨List.length_range.trans h, fun i hi hi' => ?_⟩
    rw [List.get_eq_getElem, List.get_eq_getElem, List.getElem_range, blockAt_flatMap hi',
      toFixed?_toList]
    rfl
  rw [serialize, List.cons_append, List.cons_append, List.cons_append, List.nil_append,
    parse_layout hbody, hkeys]
  rfl

/-- A set of the exact length is read, and written with the type byte zero. -/
theorem serialize_parse {kind m n : UInt8} {body : ByteString} (h : body.length = n.toNat * 33) :
    ∃ set, parse (kind :: m :: n :: body) = .ok set ∧ set.serialize = 0 :: m :: n :: body := by
  have hread : ∀ i ∈ List.range n.toNat, ∃ key : FixedBytes 33,
      toFixed? 33 (blockAt 33 body i) = some key := by
    intro i hi
    exact ⟨⟨_, blockAt_length h (List.mem_range.mp hi)⟩, dif_pos (blockAt_length h (List.mem_range.mp hi))⟩
  let keyAt := fun i => (toFixed? 33 (blockAt 33 body i)).getD (List.Vector.replicate 33 0)
  have hkey : ∀ i ∈ List.range n.toNat, toFixed? 33 (blockAt 33 body i) = some (keyAt i) := by
    intro i hi
    rcases hread i hi with ⟨key, hkey⟩
    simp only [keyAt, hkey, Option.getD_some]
  refine ⟨⟨m, n, (List.range n.toNat).map keyAt⟩, ?_, ?_⟩
  · rw [parse_layout h, mapM_ok_map fun i hi => by rw [hkey i hi]; rfl]
    rfl
  · have hbody : (List.range n.toNat).flatMap (fun i => (keyAt i).toList) = body := by
      rw [List.flatMap_congr fun i hi => (toFixed?_eq_some.mp (hkey i hi)).symm, flatMap_blockAt,
        ← h, List.take_length]
    rw [serialize, List.flatMap_map, hbody]
    rfl

/-- Every set is read back from its bytes. Bytes of the exact length are written back exactly when
their type byte is zero. -/
theorem codec_inverse_iff (set : ManagerSet) (bytes : ByteString) :
    (set.n.toNat = set.pubkeys.length → parse set.serialize = .ok set) ∧
    (bytes.length = 3 + 33 * (bytes.getD 2 0).toNat →
      ((∃ set, parse bytes = .ok set ∧ set.serialize = bytes) ↔ bytes.head? = some 0)) := by
  refine ⟨parse_serialize, fun hlen => ?_⟩
  have hthree : 3 ≤ bytes.length := by omega
  match bytes, hthree with
  | kind :: m :: n :: body, _ =>
    have hbody : body.length = n.toNat * 33 := by
      simp only [List.length_cons, List.getD_cons_succ, List.getD_cons_zero] at hlen
      omega
    have hread : ∃ set, parse (kind :: m :: n :: body) = .ok set ∧
      set.serialize = 0 :: m :: n :: body := serialize_parse hbody
    rcases hread with ⟨set, hparse, hserialize⟩
    rw [List.head?_cons, Option.some.injEq]
    constructor
    · rintro ⟨set', hparse', hserialize'⟩
      rw [hparse] at hparse'
      cases hparse'
      rw [hserialize] at hserialize'
      exact (List.cons.inj hserialize').1.symm
    · rintro rfl
      exact ⟨set, hparse, hserialize⟩

/-! The official testnet set, which the program embeds as hexadecimal text. -/

theorem hexPairs_append {front rest : List Char} {bytes more : ByteString}
    (h : hexPairs front = .ok bytes) (hrest : hexPairs rest = .ok more) :
    hexPairs (front ++ rest) = .ok (bytes ++ more) := by
  induction front using hexPairs.induct generalizing bytes with
  | case1 =>
    cases h
    exact hrest
  | case2 c => cases h
  | case3 a b front hi lo hhi hlo ih =>
    rw [hexPairs, hhi, hlo] at h
    cases htail : hexPairs front with
    | error error =>
      rw [htail] at h
      cases h
    | ok tail =>
      rw [htail] at h
      cases h
      rw [List.cons_append, List.cons_append, hexPairs, hhi, hlo]
      dsimp only
      rw [ih htail]
      rfl
  | case4 a b front hinvalid =>
    unfold hexPairs at h
    split at h
    · rename_i hhi hlo
      exact absurd hlo (hinvalid _ _ hhi)
    · cases h

/-- The text of a set of type one, five of seven, with `size` bytes of keys. -/
def OfficialText (text : String) (size : ℕ) : Prop :=
  ∃ body, hexDecode text = .ok (1 :: 5 :: 7 :: body) ∧ body.length = size

theorem OfficialText.append {text key : String} {size : ℕ} (h : OfficialText text size)
    (hkey : (hexDecode key).toOption.map List.length = some 33) :
    OfficialText (text ++ key) (size + 33) := by
  rcases h with ⟨body, htext, hsize⟩
  cases hdecode : hexDecode key with
  | error error =>
    rw [hdecode] at hkey
    cases hkey
  | ok bytes =>
    rw [hdecode] at hkey
    have hlength : bytes.length = 33 := Option.some.inj hkey
    refine ⟨body ++ bytes, ?_, by rw [List.length_append, hsize, hlength]⟩
    rw [hexDecode, String.toList_append]
    exact hexPairs_append htext hdecode

theorem officialText : OfficialText officialTestnetManagerSet1Hex 231 := by
  have hheader : OfficialText "010507" 0 := ⟨[], rfl, rfl⟩
  unfold officialTestnetManagerSet1Hex
  refine ((((((hheader.append ?_).append ?_).append ?_).append ?_).append ?_).append ?_).append ?_
  all_goals decide +kernel

/-- The official set has type byte one, and is not written back. -/
theorem official_set_rewritten :
    ∃ bytes, hexDecode officialTestnetManagerSet1Hex = .ok bytes ∧
      bytes.length = 3 + 33 * (bytes.getD 2 0).toNat ∧
      ¬ ∃ set, parse bytes = .ok set ∧ set.serialize = bytes := by
  rcases officialText with ⟨body, hdecode, hsize⟩
  refine ⟨1 :: 5 :: 7 :: body, hdecode, ?_, ?_⟩
  · simp only [List.length_cons, hsize]
    rfl
  · rintro ⟨set, -, hserialize⟩
    exact absurd (List.cons.inj hserialize).1 (by decide)

end ManagerSet

end DogeOperator.Manager
