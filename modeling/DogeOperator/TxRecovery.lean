import DogeOperator.Tx

/-! Recovery from durable bytes accepts exactly what construction serializes.
A reader positioned in front of an encoded field reads the field back and moves behind it;
the sequence of these steps is the whole parser. -/
namespace DogeOperator.Tx
open Bytes Outcome Utx0

namespace TransactionReader

def advance (r : TransactionReader) (n : ℕ) : TransactionReader := { r with offset := r.offset + n }

/-- The bytes still to be read, on a buffer whose length fits `usize`. -/
structure Sees (r : TransactionReader) (rest : ByteString) : Prop where
  fits : r.bytes.length < 2 ^ 64
  remaining : r.bytes.drop r.offset = rest
  within : r.offset ≤ r.bytes.length

theorem new_sees {bytes : ByteString} (h : bytes.length < 2 ^ 64) : (new bytes).Sees bytes :=
  ⟨h, rfl, Nat.zero_le _⟩

theorem Sees.length {r : TransactionReader} {rest : ByteString} (h : r.Sees rest) :
    r.bytes.length = r.offset + rest.length := by
  have hl := congrArg List.length h.remaining
  have hw := h.within
  rw [List.length_drop] at hl
  omega

theorem Sees.advance {r : TransactionReader} {b rest : ByteString} {n : ℕ}
    (h : r.Sees (b ++ rest)) (hl : b.length = n) : (r.advance n).Sees rest := by
  refine ⟨h.fits, ?_, ?_⟩
  · change r.bytes.drop (r.offset + n) = rest
    rw [← List.drop_drop, h.remaining, List.drop_left' hl]
  · have := h.length
    rw [List.length_append] at this
    change r.offset + n ≤ r.bytes.length
    omega

theorem Sees.readExact {r : TransactionReader} {b rest : ByteString} {n : ℕ}
    (h : r.Sees (b ++ rest)) (hl : b.length = n) (field : String) :
    r.readExact n field = .ok (b, r.advance n) := by
  have hlen := h.length
  have hfits := h.fits
  rw [List.length_append, hl] at hlen
  have htake : (r.bytes.drop r.offset).take n = b := by
    rw [h.remaining, List.take_left' hl]
  have hstop : r.offset + n < 2 ^ 64 := by omega
  have hend : r.offset + n ≤ r.bytes.length := by omega
  simp only [TransactionReader.readExact, if_pos hstop, orBail_some, ok_bind, if_pos hend, htake]
  rfl

theorem Sees.readU32 {r : TransactionReader} {v : UInt32} {rest : ByteString}
    (h : r.Sees (u32Le v ++ rest)) (field : String) :
    r.readU32 field = .ok (v, r.advance 4) := by
  simp only [TransactionReader.readU32, h.readExact (u32Le_length v), ok_bind, u32OfLe_u32Le]
  rfl

theorem Sees.readU64 {r : TransactionReader} {v : UInt64} {rest : ByteString}
    (h : r.Sees (u64Le v ++ rest)) (field : String) :
    r.readU64 field = .ok (v, r.advance 8) := by
  simp only [TransactionReader.readU64, h.readExact (u64Le_length v), ok_bind, u64OfLe_u64Le]
  rfl

theorem advance_advance (r : TransactionReader) (a b : ℕ) :
    (r.advance a).advance b = r.advance (a + b) := by
  simp [advance, Nat.add_assoc]

theorem Sees.readCount {r : TransactionReader} {v : UInt64} {rest : ByteString}
    (h : r.Sees (writeVarint v ++ rest)) (field : String) :
    r.readCount field = .ok (v.toNat, r.advance (writeVarint v).length) := by
  unfold writeVarint at h ⊢
  unfold TransactionReader.readCount
  split_ifs at h ⊢ with h1 h2 h3
  · have hv : v.toNat < 253 := by simpa using UInt64.lt_iff_toNat_lt.mp h1
    have hn : v.toUInt8.toNat = v.toNat := by
      rw [UInt64.toNat_toUInt8]
      omega
    have hle : v.toUInt8 ≤ 0xfc := by
      rw [UInt8.le_iff_toNat_le, hn]
      exact Nat.lt_succ_iff.mp hv
    rw [Sees.readExact (b := [v.toUInt8]) (n := 1) h rfl]
    simp only [ok_bind, List.headD_cons, if_pos hle, hn]
    rfl
  · have hv : ¬ v.toNat < 253 := by simpa using (not_congr UInt64.lt_iff_toNat_lt).mp h1
    have hv2 : v.toNat ≤ 65535 := by simpa using UInt64.le_iff_toNat_le.mp h2
    have hn : v.toUInt16.toNat = v.toNat := by
      rw [UInt64.toNat_toUInt16]
      omega
    have hlt : ¬ v.toUInt16 < 0xfd := by
      rw [UInt16.lt_iff_toNat_lt, hn]
      exact hv
    rw [Sees.readExact (b := [0xfd]) (n := 1) h rfl]
    have hr := Sees.advance (b := [0xfd]) (n := 1) h rfl
    simp only [ok_bind, List.headD_cons, show ¬ (0xfd : UInt8) ≤ 0xfc by decide, if_false,
      if_true, hr.readExact (u16Le_length _), u16OfLe_u16Le, hlt, hn]
    simp [advance_advance, Nat.add_comm]
  · have hv : ¬ v.toNat ≤ 65535 := by simpa using (not_congr UInt64.le_iff_toNat_le).mp h2
    have hv2 : v.toNat ≤ 4294967295 := by simpa using UInt64.le_iff_toNat_le.mp h3
    have hn : v.toUInt32.toNat = v.toNat := by
      rw [UInt64.toNat_toUInt32]
      omega
    have hle : ¬ v.toUInt32 ≤ 0xffff := by
      rw [UInt32.le_iff_toNat_le, hn]
      exact hv
    rw [Sees.readExact (b := [0xfe]) (n := 1) h rfl]
    have hr := Sees.advance (b := [0xfe]) (n := 1) h rfl
    simp only [ok_bind, List.headD_cons, show ¬ (0xfe : UInt8) ≤ 0xfc by decide,
      show (0xfe : UInt8) ≠ 0xfd by decide, if_false, if_true, hr.readU32, hle, hn]
    simp [advance_advance, Nat.add_comm]
  · have hle : ¬ v ≤ 0xffffffff := h3
    rw [Sees.readExact (b := [0xff]) (n := 1) h rfl]
    have hr := Sees.advance (b := [0xff]) (n := 1) h rfl
    simp only [ok_bind, List.headD_cons, show ¬ (0xff : UInt8) ≤ 0xfc by decide,
      show (0xff : UInt8) ≠ 0xfd by decide, show (0xff : UInt8) ≠ 0xfe by decide, if_false,
      hr.readU64, hle]
    simp [advance_advance, Nat.add_comm]

end TransactionReader

theorem parseStandardOutput_eq_ok {script : ByteString} {t : UtxoAddressType} {a : FixedBytes 20} :
    parseStandardOutput script = .ok (t, a) ↔ script = scriptPubKeyFor t a := by
  constructor
  · intro h
    unfold parseStandardOutput at h
    split_ifs at h with h25 h23
    · obtain ⟨hl, hpre, hpost⟩ := h25
      obtain ⟨address, ha, h⟩ := bind_eq_ok.mp h
      cases h
      have hmid := toFixed?_eq_some.mp (orBail_eq_ok.mp ha)
      have hsplit : script = script.take 3 ++ ((script.drop 3).take 20 ++ script.drop 23) := by
        rw [← List.drop_drop (i := 20) (j := 3), List.take_append_drop, List.take_append_drop]
      rw [hsplit, hpre, hmid, hpost, scriptPubKeyFor, p2pkhScriptPubkey, List.append_assoc]
    · obtain ⟨hl, hpre, hpost⟩ := h23
      obtain ⟨address, ha, h⟩ := bind_eq_ok.mp h
      cases h
      have hmid := toFixed?_eq_some.mp (orBail_eq_ok.mp ha)
      have hsplit : script = script.take 2 ++ ((script.drop 2).take 20 ++ script.drop 22) := by
        rw [← List.drop_drop (i := 20) (j := 2), List.take_append_drop, List.take_append_drop]
      rw [hsplit, hpre, hmid, hpost, scriptPubKeyFor, p2shScriptPubkey, List.append_assoc]
    · exact absurd h bail_ne_ok
  · rintro rfl
    have ha : a.toList.length = 20 := List.Vector.toList_length a
    cases t with
    | p2pkh =>
      have hmid : ((p2pkhScriptPubkey a).drop 3).take 20 = a.toList := by
        simp [p2pkhScriptPubkey, List.take_left' ha]
      have hpost : (p2pkhScriptPubkey a).drop 23 = [0x88, 0xac] := by
        simp [p2pkhScriptPubkey, List.drop_left' ha]
      unfold parseStandardOutput scriptPubKeyFor
      rw [if_pos ⟨by simp [p2pkhScriptPubkey], by simp [p2pkhScriptPubkey], hpost⟩, hmid,
        toFixed?_toList]
      rfl
    | p2sh =>
      have hmid : ((p2shScriptPubkey a).drop 2).take 20 = a.toList := by
        simp [p2shScriptPubkey, List.take_left' ha]
      have hpost : (p2shScriptPubkey a).drop 22 = [0x87] := by
        simp [p2shScriptPubkey, List.drop_left' ha]
      unfold parseStandardOutput scriptPubKeyFor
      rw [if_neg (by simp [p2shScriptPubkey]),
        if_pos ⟨by simp [p2shScriptPubkey], by simp [p2shScriptPubkey], hpost⟩, hmid,
        toFixed?_toList]
      rfl

/-! What the readers return when they accept. -/

theorem readInput_sound {r r' : TransactionReader} {index : ℕ} {selected : SelectedUtxo}
    {input : TxIn} (h : readInput r index selected = .ok (input, r')) :
    input = selected.toTxIn := by
  unfold readInput at h
  obtain ⟨⟨txid, r1⟩, -, h⟩ := bind_eq_ok.mp h
  obtain ⟨prevTxidLe, -, h⟩ := bind_eq_ok.mp h
  obtain ⟨⟨vout, r2⟩, -, h⟩ := bind_eq_ok.mp h
  obtain ⟨⟨scriptLen, r3⟩, -, h⟩ := bind_eq_ok.mp h
  obtain ⟨-, h⟩ := guard_bind_eq_ok.mp h
  obtain ⟨⟨sequence, r4⟩, -, h⟩ := bind_eq_ok.mp h
  obtain ⟨hseq, h⟩ := guard_bind_eq_ok.mp h
  obtain ⟨hout, h⟩ := guard_bind_eq_ok.mp h
  obtain ⟨htx, hvout⟩ := not_or.mp hout
  cases h
  rw [SelectedUtxo.toTxIn, not_not.mp htx, not_not.mp hvout, not_not.mp hseq]

theorem readInputs_sound {inputs : List SelectedUtxo} {r r' : TransactionReader} {index : ℕ}
    {txInputs : List TxIn} (h : readInputs r index inputs = .ok (txInputs, r')) :
    txInputs = inputs.map SelectedUtxo.toTxIn := by
  induction inputs generalizing r index txInputs with
  | nil =>
    cases h
    rfl
  | cons selected rest ih =>
    obtain ⟨⟨input, r1⟩, hi, h⟩ := bind_eq_ok.mp h
    obtain ⟨⟨others, r2⟩, ho, h⟩ := bind_eq_ok.mp h
    cases h
    rw [List.map_cons, readInput_sound hi, ih ho]

theorem readOutput_sound {r r' : TransactionReader} {index : ℕ} {wire : TxOut}
    {logical : TransactionOutput} (h : readOutput r index = .ok ((wire, logical), r')) :
    wire = logical.toTxOut := by
  unfold readOutput at h
  obtain ⟨⟨value, r1⟩, -, h⟩ := bind_eq_ok.mp h
  obtain ⟨⟨scriptLen, r2⟩, -, h⟩ := bind_eq_ok.mp h
  obtain ⟨-, h⟩ := guard_bind_eq_ok.mp h
  obtain ⟨⟨script, r3⟩, -, h⟩ := bind_eq_ok.mp h
  obtain ⟨⟨addressType, address⟩, hp, h⟩ := bind_eq_ok.mp h
  cases h
  rw [TransactionOutput.toTxOut, parseStandardOutput_eq_ok.mp (context_eq_ok.mp hp)]

theorem readOutputs_sound {count : ℕ} {r r' : TransactionReader} {index : ℕ}
    {outputs : List (TxOut × TransactionOutput)}
    (h : readOutputs r index count = .ok (outputs, r')) :
    outputs.length = count ∧
      outputs.map Prod.fst = (outputs.map Prod.snd).map TransactionOutput.toTxOut := by
  induction count generalizing r index outputs with
  | zero =>
    cases h
    exact ⟨rfl, rfl⟩
  | succ count ih =>
    obtain ⟨⟨⟨wire, logical⟩, r1⟩, hi, h⟩ := bind_eq_ok.mp h
    obtain ⟨⟨others, r2⟩, ho, h⟩ := bind_eq_ok.mp h
    cases h
    obtain ⟨hl, hm⟩ := ih ho
    exact ⟨congrArg (· + 1) hl, by simp [readOutput_sound hi, hm]⟩

/-! What the readers accept: the encoding of a canonical field. -/

theorem writeVarint_length_le (v : UInt64) : (writeVarint v).length ≤ 9 := by
  unfold writeVarint
  split_ifs <;> simp

theorem SelectedUtxo.toTxIn_serialize (selected : SelectedUtxo) :
    selected.toTxIn.serialize = selected.transactionId.reverse.toList ++ u32Le selected.vout ++
      writeVarint 0 ++ u32Le sequenceFinal := by
  simp [TxIn.serialize, SelectedUtxo.toTxIn]

theorem SelectedUtxo.toTxIn_serialize_length (selected : SelectedUtxo) :
    selected.toTxIn.serialize.length = 41 := by
  rw [toTxIn_serialize]
  simp [writeVarint]

theorem scriptPubKeyFor_length (t : UtxoAddressType) (a : FixedBytes 20) :
    (scriptPubKeyFor t a).length ≤ maxStandardOutputScriptLen := by
  cases t <;> simp [scriptPubKeyFor, p2pkhScriptPubkey, p2shScriptPubkey, maxStandardOutputScriptLen]

theorem TransactionOutput.toTxOut_serialize_length (output : TransactionOutput) :
    output.toTxOut.serialize.length ≤ 42 := by
  have hs := scriptPubKeyFor_length output.addressType output.address
  have hv := writeVarint_length_le
    (UInt64.ofNat (scriptPubKeyFor output.addressType output.address).length)
  simp only [TxOut.serialize, TransactionOutput.toTxOut, List.length_append, u64Le_length]
  unfold maxStandardOutputScriptLen at hs
  omega

theorem readInput_complete {r : TransactionReader} {selected : SelectedUtxo} {rest : ByteString}
    (h : r.Sees (selected.toTxIn.serialize ++ rest)) (index : ℕ) :
    readInput r index selected = .ok (selected.toTxIn, r.advance 41) := by
  rw [selected.toTxIn_serialize] at h
  simp only [List.append_assoc] at h
  have htx : selected.transactionId.reverse.toList.length = 32 := List.Vector.toList_length _
  have h1 := h.advance htx
  have h2 := h1.advance (u32Le_length _)
  have h3 := h2.advance (b := writeVarint 0) (n := 1) rfl
  have hone : (writeVarint 0).length = 1 := rfl
  simp only [readInput, h.readExact htx, ok_bind, toFixed?_toList, orBail_some, h1.readU32,
    h2.readCount, hone, h3.readU32]
  simp [TransactionReader.advance_advance, SelectedUtxo.toTxIn]

theorem readInputs_complete {inputs : List SelectedUtxo} {r : TransactionReader}
    {rest : ByteString} (index : ℕ)
    (h : r.Sees ((inputs.map SelectedUtxo.toTxIn).flatMap TxIn.serialize ++ rest)) :
    ∃ r', readInputs r index inputs = .ok (inputs.map SelectedUtxo.toTxIn, r') ∧ r'.Sees rest := by
  induction inputs generalizing r index with
  | nil => exact ⟨r, rfl, h⟩
  | cons selected others ih =>
    rw [List.map_cons, List.flatMap_cons, List.append_assoc] at h
    obtain ⟨r', hr, hs⟩ := ih (index + 1) (h.advance selected.toTxIn_serialize_length)
    refine ⟨r', ?_, hs⟩
    simp only [readInputs, readInput_complete h, ok_bind, hr]
    rfl

theorem readOutput_complete {r : TransactionReader} {output : TransactionOutput}
    {rest : ByteString} (h : r.Sees (output.toTxOut.serialize ++ rest)) (index : ℕ) :
    ∃ r', readOutput r index = .ok ((output.toTxOut, output), r') ∧ r'.Sees rest := by
  have hs := scriptPubKeyFor_length output.addressType output.address
  have hn : (UInt64.ofNat (scriptPubKeyFor output.addressType output.address).length).toNat =
      (scriptPubKeyFor output.addressType output.address).length := by
    rw [UInt64.toNat_ofNat', Nat.mod_eq_of_lt]
    unfold maxStandardOutputScriptLen at hs
    omega
  simp only [TxOut.serialize, TransactionOutput.toTxOut, List.append_assoc] at h
  have h1 := h.advance (u64Le_length _)
  have h2 := h1.advance rfl
  have h3 := h2.advance rfl
  have hp := parseStandardOutput_eq_ok.mpr
    (rfl : scriptPubKeyFor output.addressType output.address = _)
  refine ⟨_, ?_, h3⟩
  simp only [readOutput, h.readU64, ok_bind, h1.readCount, hn, gt_iff_lt, not_lt.mpr hs,
    if_false, pure_eq_ok, h2.readExact rfl, hp, context_ok]
  rfl

theorem readOutputs_complete {outputs : List TransactionOutput} {r : TransactionReader}
    {rest : ByteString} (index : ℕ)
    (h : r.Sees ((outputs.map TransactionOutput.toTxOut).flatMap TxOut.serialize ++ rest)) :
    ∃ r', readOutputs r index outputs.length =
      .ok (outputs.map (fun o => (o.toTxOut, o)), r') ∧ r'.Sees rest := by
  induction outputs generalizing r index with
  | nil => exact ⟨r, rfl, h⟩
  | cons output others ih =>
    rw [List.map_cons, List.flatMap_cons, List.append_assoc] at h
    obtain ⟨r1, hr1, hs1⟩ := readOutput_complete h index
    obtain ⟨r2, hr2, hs2⟩ := ih (index + 1) hs1
    refine ⟨r2, ?_, hs2⟩
    simp only [List.length_cons, readOutputs, hr1, ok_bind, hr2]
    rfl

namespace UnsignedTransaction

/-- The transaction `new` builds once both lists are non-empty. -/
def built (inputs : List SelectedUtxo) (outputs : List TransactionOutput) : UnsignedTransaction where
  version := txVersion
  inputs := inputs.map SelectedUtxo.toTxIn
  outputs := outputs.map TransactionOutput.toTxOut
  logicalOutputs := outputs
  locktime := 0
  redeemScripts := inputs.map SelectedUtxo.redeemScript

theorem new_eq_ok {inputs : List SelectedUtxo} {outputs : List TransactionOutput}
    {t : UnsignedTransaction} :
    new inputs outputs = .ok t ↔ inputs ≠ [] ∧ outputs ≠ [] ∧ t = built inputs outputs := by
  unfold new
  rw [guard_bind_eq_ok, guard_bind_eq_ok, List.isEmpty_iff, List.isEmpty_iff, pure_eq_ok,
    Except.ok.injEq]
  exact and_congr_right' (and_congr_right' eq_comm)

theorem built_serialize (inputs : List SelectedUtxo) (outputs : List TransactionOutput) :
    (built inputs outputs).serialize =
      u32Le txVersion ++ (writeVarint (UInt64.ofNat inputs.length) ++
        ((inputs.map SelectedUtxo.toTxIn).flatMap TxIn.serialize ++
          (writeVarint (UInt64.ofNat outputs.length) ++
            ((outputs.map TransactionOutput.toTxOut).flatMap TxOut.serialize ++ (u32Le 0 ++ []))))) := by
  simp [serialize, serializeTransaction, built]

theorem flatMap_length_le {α : Type} {f : α → ByteString} {bound : ℕ} {xs : List α}
    (h : ∀ x ∈ xs, (f x).length ≤ bound) : (xs.flatMap f).length ≤ xs.length * bound := by
  rw [List.length_flatMap]
  calc (xs.map fun x => (f x).length).sum
      ≤ (xs.map fun x => (f x).length).length • bound := by
        apply List.sum_le_card_nsmul _ _
        intro n hn
        obtain ⟨x, hx, rfl⟩ := List.mem_map.mp hn
        exact h x hx
    _ = xs.length * bound := by rw [List.length_map, smul_eq_mul]

/-- Within the recovery limits the whole encoding is addressable. -/
theorem built_serialize_length_lt {inputs : List SelectedUtxo} {outputs : List TransactionOutput}
    (hi : inputs.length ≤ maxPersistedInputs) (ho : outputs.length ≤ maxPersistedOutputs) :
    (built inputs outputs).serialize.length < 2 ^ 64 := by
  have hin : ((inputs.map SelectedUtxo.toTxIn).flatMap TxIn.serialize).length ≤
      (inputs.map SelectedUtxo.toTxIn).length * 41 := flatMap_length_le fun x hx => by
    obtain ⟨selected, -, rfl⟩ := List.mem_map.mp hx
    exact selected.toTxIn_serialize_length.le
  have hout : ((outputs.map TransactionOutput.toTxOut).flatMap TxOut.serialize).length ≤
      (outputs.map TransactionOutput.toTxOut).length * 42 := flatMap_length_le fun x hx => by
    obtain ⟨output, -, rfl⟩ := List.mem_map.mp hx
    exact output.toTxOut_serialize_length
  have hvi := writeVarint_length_le (UInt64.ofNat inputs.length)
  have hvo := writeVarint_length_le (UInt64.ofNat outputs.length)
  rw [List.length_map] at hin hout
  rw [built_serialize]
  simp only [List.length_append, u32Le_length, List.length_nil]
  unfold maxPersistedInputs at hi
  unfold maxPersistedOutputs at ho
  omega

theorem toTxIn_flatMap_length (inputs : List SelectedUtxo) :
    ((inputs.map SelectedUtxo.toTxIn).flatMap TxIn.serialize).length = inputs.length * 41 := by
  induction inputs with
  | nil => rfl
  | cons selected rest ih =>
    rw [List.map_cons, List.flatMap_cons, List.length_append, ih,
      SelectedUtxo.toTxIn_serialize_length, List.length_cons]
    omega

theorem toTxOut_flatMap_length (outputs : List TransactionOutput) :
    outputs.length ≤ ((outputs.map TransactionOutput.toTxOut).flatMap TxOut.serialize).length := by
  induction outputs with
  | nil => simp
  | cons output rest ih =>
    rw [List.map_cons, List.flatMap_cons, List.length_append, List.length_cons, TxOut.serialize,
      List.length_append, List.length_append, u64Le_length]
    omega

/-- Counts that fit are equal when a reader sees both in front of it. -/
theorem count_inj {r : TransactionReader} {a b : ℕ} {rest rest' : ByteString}
    (ha : r.Sees (writeVarint (UInt64.ofNat a) ++ rest))
    (hb : r.Sees (writeVarint (UInt64.ofNat b) ++ rest')) (hal : a < 2 ^ 64) (hbl : b < 2 ^ 64) :
    a = b := by
  have h := (ha.readCount "count").symm.trans (hb.readCount "count")
  have hn := congrArg Prod.fst (Except.ok.inj h)
  simpa only [UInt64.toNat_ofNat', Nat.mod_eq_of_lt hal, Nat.mod_eq_of_lt hbl] using hn

/-- The bytes determine the outputs. -/
theorem built_serialize_outputs_inj {inputs inputs' : List SelectedUtxo}
    {outputs outputs' : List TransactionOutput}
    (hfits : (built inputs outputs).serialize.length < 2 ^ 64)
    (h : (built inputs outputs).serialize = (built inputs' outputs').serialize) :
    outputs = outputs' := by
  obtain ⟨r, hs⟩ : ∃ r : TransactionReader, r.Sees (built inputs outputs).serialize :=
    ⟨_, TransactionReader.new_sees hfits⟩
  have hseen : r.Sees (built inputs' outputs').serialize := h ▸ hs
  have hlen := hs.length
  have hlen' := hseen.length
  have hbytes := hs.fits
  rw [built_serialize] at hs hseen
  simp only [built_serialize, List.length_append, toTxIn_flatMap_length] at hlen hlen'
  have ho := toTxOut_flatMap_length outputs
  have ho' := toTxOut_flatMap_length outputs'
  have hcount : inputs.length = inputs'.length :=
    count_inj (hs.advance (u32Le_length _)) (hseen.advance (u32Le_length _)) (by omega) (by omega)
  have h1 := ((hs.advance (u32Le_length _)).advance rfl).advance (toTxIn_flatMap_length inputs)
  have h1' := ((hseen.advance (u32Le_length _)).advance rfl).advance (toTxIn_flatMap_length inputs')
  rw [← hcount] at h1'
  have hcountOut : outputs.length = outputs'.length :=
    count_inj h1 h1' (by omega) (by omega)
  have h2 := h1.advance rfl
  have h2' := h1'.advance rfl
  rw [← hcountOut] at h2'
  obtain ⟨r, hr, -⟩ := readOutputs_complete 0 h2
  obtain ⟨r', hr', -⟩ := readOutputs_complete 0 h2'
  rw [← hcountOut, hr] at hr'
  have hpairs := congrArg (fun x => x.1.map Prod.snd) (Except.ok.inj hr')
  simpa [Function.comp_def] using hpairs

/-- Recovery accepts the serialization of every construction within the limits. -/
theorem fromPersistedBytes_serialize {inputs : List SelectedUtxo} {outputs : List TransactionOutput}
    (hi : inputs ≠ []) (ho : outputs ≠ []) (hil : inputs.length ≤ maxPersistedInputs)
    (hol : outputs.length ≤ maxPersistedOutputs) :
    fromPersistedBytes (built inputs outputs).serialize inputs = .ok (built inputs outputs) := by
  have hsees := TransactionReader.new_sees (built_serialize_length_lt hil hol)
  rw [built_serialize] at hsees
  have h1 := hsees.advance (u32Le_length _)
  have h2 := h1.advance rfl
  obtain ⟨r3, hr3, h3⟩ := readInputs_complete 0 h2
  have h4 := h3.advance rfl
  obtain ⟨r5, hr5, h5⟩ := readOutputs_complete 0 h4
  have h6 := h5.advance (u32Le_length _)
  have hin : (UInt64.ofNat inputs.length).toNat = inputs.length := by
    rw [UInt64.toNat_ofNat', Nat.mod_eq_of_lt]
    unfold maxPersistedInputs at hil
    omega
  have hout : (UInt64.ofNat outputs.length).toNat = outputs.length := by
    rw [UInt64.toNat_ofNat', Nat.mod_eq_of_lt]
    unfold maxPersistedOutputs at hol
    omega
  have hzero : outputs.length ≠ 0 := by rwa [ne_eq, List.length_eq_zero_iff]
  have hfinish : (r5.advance 4).finish = .ok () := by
    have := h6.length
    rw [List.length_nil, Nat.add_zero] at this
    exact guard_eq_ok.mpr (not_not.mpr this.symm)
  unfold fromPersistedBytes
  rw [guard_bind_of_neg (by rwa [List.isEmpty_iff]), built_serialize, hsees.readU32, ok_bind]
  dsimp only
  rw [guard_bind_of_neg (not_not.mpr rfl), h1.readCount, ok_bind, hin]
  dsimp only
  rw [guard_bind_of_neg (not_lt.mpr hil), guard_bind_of_neg (not_not.mpr rfl), hr3, ok_bind]
  dsimp only
  rw [h3.readCount, ok_bind, hout]
  dsimp only
  rw [guard_bind_of_neg (not_lt.mpr hol), guard_bind_of_neg hzero, hr5, ok_bind]
  dsimp only
  rw [h5.readU32, ok_bind]
  dsimp only
  rw [guard_bind_of_neg (not_not.mpr rfl), hfinish, ok_bind, ← built_serialize]
  have hbuilt : ({ version := txVersion
                   inputs := inputs.map SelectedUtxo.toTxIn
                   outputs := (outputs.map fun o => (o.toTxOut, o)).map Prod.fst
                   logicalOutputs := (outputs.map fun o => (o.toTxOut, o)).map Prod.snd
                   locktime := 0
                   redeemScripts := inputs.map SelectedUtxo.redeemScript } : UnsignedTransaction) =
      built inputs outputs := by
    simp [built, Function.comp_def]
  rw [hbuilt, guard_bind_of_neg (not_not.mpr rfl)]
  rfl

/-- What recovery returns is the construction from the same inputs and the parsed outputs. -/
theorem fromPersistedBytes_sound {bytes : ByteString} {inputs : List SelectedUtxo}
    {t : UnsignedTransaction} (h : fromPersistedBytes bytes inputs = .ok t) :
    inputs ≠ [] ∧ inputs.length ≤ maxPersistedInputs ∧ ∃ outputs, outputs ≠ [] ∧
      outputs.length ≤ maxPersistedOutputs ∧ t = built inputs outputs ∧ bytes = t.serialize := by
  unfold fromPersistedBytes at h
  obtain ⟨hempty, h⟩ := guard_bind_eq_ok.mp h
  obtain ⟨⟨version, r1⟩, -, h⟩ := bind_eq_ok.mp h
  obtain ⟨hversion, h⟩ := guard_bind_eq_ok.mp h
  obtain ⟨⟨inputCount, r2⟩, -, h⟩ := bind_eq_ok.mp h
  obtain ⟨hmax, h⟩ := guard_bind_eq_ok.mp h
  obtain ⟨hcount, h⟩ := guard_bind_eq_ok.mp h
  obtain ⟨⟨txInputs, r3⟩, hinputs, h⟩ := bind_eq_ok.mp h
  obtain ⟨⟨outputCount, r4⟩, -, h⟩ := bind_eq_ok.mp h
  obtain ⟨hmaxOut, h⟩ := guard_bind_eq_ok.mp h
  obtain ⟨hzero, h⟩ := guard_bind_eq_ok.mp h
  obtain ⟨⟨outputs, r5⟩, houtputs, h⟩ := bind_eq_ok.mp h
  obtain ⟨⟨locktime, r6⟩, -, h⟩ := bind_eq_ok.mp h
  obtain ⟨hlocktime, h⟩ := guard_bind_eq_ok.mp h
  obtain ⟨_, -, h⟩ := bind_eq_ok.mp h
  obtain ⟨hcanonical, h⟩ := guard_bind_eq_ok.mp h
  obtain ⟨hlen, hwire⟩ := readOutputs_sound houtputs
  dsimp only at hversion hmax hcount hmaxOut hzero hlocktime hcanonical h
  have ht : t = built inputs (outputs.map Prod.snd) := by
    cases h
    rw [readInputs_sound hinputs, hwire, not_not.mp hversion, not_not.mp hlocktime]
    rfl
  refine ⟨by rwa [List.isEmpty_iff] at hempty, ?_, outputs.map Prod.snd, ?_, ?_, ht, ?_⟩
  · rw [← not_not.mp hcount]
    exact not_lt.mp hmax
  · rw [ne_eq, ← List.length_eq_zero_iff, List.length_map, hlen]
    exact hzero
  · rw [List.length_map, hlen]
    exact not_lt.mp hmaxOut
  · cases h
    exact (not_not.mp hcanonical).symm

/-- Recovery accepts exactly the serializations of constructions within the limits. -/
theorem fromPersistedBytes_eq_ok {bytes : ByteString} {inputs : List SelectedUtxo}
    {t : UnsignedTransaction} :
    fromPersistedBytes bytes inputs = .ok t ↔
      inputs.length ≤ maxPersistedInputs ∧ ∃ outputs, outputs.length ≤ maxPersistedOutputs ∧
        new inputs outputs = .ok t ∧ bytes = t.serialize := by
  constructor
  · intro h
    obtain ⟨hi, hil, outputs, ho, hol, ht, hb⟩ := fromPersistedBytes_sound h
    exact ⟨hil, outputs, hol, new_eq_ok.mpr ⟨hi, ho, ht⟩, hb⟩
  · rintro ⟨hil, outputs, hol, hnew, rfl⟩
    obtain ⟨hi, ho, rfl⟩ := new_eq_ok.mp hnew
    exact fromPersistedBytes_serialize hi ho hil hol

end UnsignedTransaction

end DogeOperator.Tx
