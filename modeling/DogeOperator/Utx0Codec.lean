import DogeOperator.Panics
import DogeOperator.Utx0

/-! The `UTX0` payload is written and read one to one: what is parsed is exactly what is
serialized, and nothing that is read can be out of bounds. -/
namespace DogeOperator.Utx0
open Bytes Outcome Panics

/-- A record of the right length is read exactly when it is written so. -/
theorem Utx0Output.parse_eq_ok {bytes : ByteString} {o : Utx0Output} (h : bytes.length = size) :
    Utx0Output.parse bytes = .ok o ↔ bytes = o.serialize := by
  constructor
  · intro hparse
    unfold parse at hparse
    have hparse := (guard_bind_eq_ok.mp hparse).2
    rcases bind_eq_ok.mp hparse with ⟨addressType, htype, hparse⟩
    rcases bind_eq_ok.mp hparse with ⟨address, haddress, hparse⟩
    cases hparse
    have hlen : bytes.length = 32 := h
    have hword := UtxoAddressType.fromU32_eq_ok.mp htype
    have hlast := toFixed?_eq_some.mp (orBail_eq_ok.mp haddress)
    have hdrop : (bytes.drop 12).take 20 = bytes.drop 12 :=
      List.take_of_length_le (by rw [List.length_drop, hlen])
    have hamount : u64Be (u64OfBe (bytes.take 8)) = bytes.take 8 :=
      u64Be_u64OfBe (by rw [List.length_take, hlen]; rfl)
    have htypeWord : u32Be (u32OfBe ((bytes.drop 8).take 4)) = (bytes.drop 8).take 4 :=
      u32Be_u32OfBe (by rw [List.length_take, List.length_drop, hlen]; rfl)
    have hrest : bytes.drop 8 = (bytes.drop 8).take 4 ++ bytes.drop 12 := by
      rw [← List.drop_drop (i := 4) (j := 8), List.take_append_drop]
    rw [serialize, hamount, ← hword, htypeWord, ← hlast, hdrop, List.append_assoc, ← hrest,
      List.take_append_drop]
  · intro hbytes
    have hread := parse_serialize o []
    rwa [List.append_nil, ← hbytes] at hread

theorem parseOutputs_eq_ok {index : ℕ} {chunks : List ByteString} {outputs : List Utx0Output} :
    parseOutputs index chunks = .ok outputs ↔
      List.Forall₂ (fun chunk output => Utx0Output.parse chunk = .ok output) chunks outputs := by
  induction chunks generalizing index outputs with
  | nil =>
    rw [List.forall₂_nil_left_iff]
    exact ⟨fun h => (Except.ok.inj h).symm, fun h => congrArg _ h.symm⟩
  | cons chunk chunks ih =>
    rw [parseOutputs, bind_eq_ok]
    constructor
    · intro h
      rcases h with ⟨output, hfirst, h⟩
      rcases bind_eq_ok.mp h with ⟨rest, hrest, h⟩
      cases h
      exact .cons (mapError_eq_ok.mp hfirst) (ih.mp hrest)
    · intro h
      cases h with
      | cons hfirst hrest =>
        exact ⟨_, mapError_eq_ok.mpr hfirst, bind_eq_ok.mpr ⟨_, ih.mpr hrest, rfl⟩⟩

/-- Records are read exactly from their own bytes. -/
theorem records_serialized {chunks : List ByteString} {outputs : List Utx0Output}
    (hsizes : ∀ chunk ∈ chunks, chunk.length = Utx0Output.size)
    (h : List.Forall₂ (fun chunk output => Utx0Output.parse chunk = .ok output) chunks outputs) :
    chunks = outputs.map Utx0Output.serialize := by
  induction h with
  | nil => rfl
  | cons hfirst _ ih =>
    rw [List.forall_mem_cons] at hsizes
    rw [List.map_cons, ← (Utx0Output.parse_eq_ok hsizes.1).mp hfirst, ← ih hsizes.2]

/-- Whole blocks are all of the bytes. -/
theorem chunksExact_blocks {count : ℕ} {bytes : ByteString}
    (h : bytes.length = count * Utx0Output.size) :
    (∀ chunk ∈ chunksExact Utx0Output.size count bytes, chunk.length = Utx0Output.size) ∧
      (chunksExact Utx0Output.size count bytes).length = count ∧
      (chunksExact Utx0Output.size count bytes).flatten = bytes := by
  induction count generalizing bytes with
  | zero =>
    have hnil : bytes = [] := List.length_eq_zero_iff.mp (h.trans (Nat.zero_mul _))
    simp [chunksExact, hnil]
  | succ count ih =>
    have hlen : bytes.length = count * Utx0Output.size + Utx0Output.size := by
      rw [h, Nat.succ_mul]
    have hrest : (bytes.drop Utx0Output.size).length = count * Utx0Output.size := by
      rw [List.length_drop, hlen, Nat.add_sub_cancel]
    have henough : ¬ bytes.length < Utx0Output.size := by omega
    rcases ih hrest with ⟨hsizes, hcount, hbytes⟩
    rw [chunksExact, if_neg henough]
    refine ⟨?_, by rw [List.length_cons, hcount], by rw [List.flatten_cons, hbytes,
      List.take_append_drop]⟩
    rw [List.forall_mem_cons]
    refine ⟨?_, hsizes⟩
    rw [List.length_take]
    omega

/-- Blocks of one length are found again in their concatenation. -/
theorem chunksExact_flatten {chunks : List ByteString}
    (h : ∀ chunk ∈ chunks, chunk.length = Utx0Output.size) :
    chunksExact Utx0Output.size chunks.length chunks.flatten = chunks := by
  induction chunks with
  | nil => rfl
  | cons chunk chunks ih =>
    rw [List.forall_mem_cons] at h
    have hsplit := take_drop_block chunks.flatten h.1
    have henough : ¬ (chunk ++ chunks.flatten).length < Utx0Output.size := by
      rw [List.length_append, h.1]
      omega
    rw [List.length_cons, List.flatten_cons, chunksExact, if_neg henough, hsplit.1, hsplit.2,
      ih h.2]

/-- The bytes of a payload: header, output count, outputs. -/
def Utx0UnlockPayload.encoded (p : Utx0UnlockPayload) : ByteString :=
  utx0Prefix ++ u16Be p.destinationChain ++ u32Be p.delegatedManagerSetIndex ++
    u32Be (UInt32.ofNat p.outputs.length) ++ p.outputs.flatMap Utx0Output.serialize

theorem flatMap_serialize_length (outputs : List Utx0Output) :
    (outputs.flatMap Utx0Output.serialize).length = outputs.length * Utx0Output.size := by
  induction outputs with
  | nil => rfl
  | cons output outputs ih =>
    rw [List.flatMap_cons, List.length_append, ih, Utx0Output.serialize_length, List.length_cons,
      Nat.succ_mul, Nat.add_comm]
    rfl

theorem Utx0UnlockPayload.encoded_length (p : Utx0UnlockPayload) :
    p.encoded.length = headerSize + p.outputs.length * Utx0Output.size := by
  simp only [encoded, List.length_append, flatMap_serialize_length, u16Be_length, u32Be_length]
  rfl

/-- The capacity of a 32-bit output count never overflows. -/
theorem sizeWithOutputs_ok {count : ℕ} (h : count < 2 ^ 32) (m m' : String) :
    sizeWithOutputs count m m' = .ok (headerSize + count * Utx0Output.size) := by
  have hbody : count * Utx0Output.size < 2 ^ 64 := by
    simp only [Utx0Output.size]
    omega
  have htotal : headerSize + count * Utx0Output.size < 2 ^ 64 := by
    simp only [Utx0Output.size, headerSize]
    omega
  rw [sizeWithOutputs, if_pos hbody, orBail_some, ok_bind, if_pos htotal, orBail_some]

theorem Utx0UnlockPayload.serialize_eq_ok {p : Utx0UnlockPayload} {bytes : ByteString} :
    p.serialize = .ok bytes ↔ p.outputs.length < 2 ^ 32 ∧ bytes = p.encoded := by
  unfold serialize
  by_cases hcount : p.outputs.length < 2 ^ 32
  · rw [if_pos hcount, orBail_some, ok_bind, sizeWithOutputs_ok hcount, ok_bind, pure_eq_ok]
    constructor
    · intro h
      exact ⟨hcount, (Except.ok.inj h).symm⟩
    · intro h
      rw [h.2]
      rfl
  · rw [if_neg hcount]
    constructor
    · intro h
      exact absurd h bail_ne_ok
    · intro h
      exact absurd h.1 hcount

/-- The header fields and the outputs that follow them. -/
theorem header_split (bytes : ByteString) :
    bytes = bytes.take 4 ++ (bytes.drop 4).take 2 ++ (bytes.drop 6).take 4 ++
      (bytes.drop 10).take 4 ++ bytes.drop headerSize := by
  have h10 : (bytes.drop 10).take 4 ++ bytes.drop headerSize = bytes.drop 10 := by
    rw [show headerSize = 10 + 4 from rfl, ← List.drop_drop, List.take_append_drop]
  have h6 : (bytes.drop 6).take 4 ++ bytes.drop 10 = bytes.drop 6 := by
    rw [← List.drop_drop (i := 4) (j := 6), List.take_append_drop]
  have h4 : (bytes.drop 4).take 2 ++ bytes.drop 6 = bytes.drop 4 := by
    rw [← List.drop_drop (i := 2) (j := 4), List.take_append_drop]
  rw [List.append_assoc, h10, List.append_assoc, h6, List.append_assoc, h4, List.take_append_drop]

/-- What the header of an encoded payload is read as. -/
theorem Utx0UnlockPayload.encoded_fields (p : Utx0UnlockPayload) :
    p.encoded.take 4 = utx0Prefix ∧ (p.encoded.drop 4).take 2 = u16Be p.destinationChain ∧
      (p.encoded.drop 6).take 4 = u32Be p.delegatedManagerSetIndex ∧
      (p.encoded.drop 10).take 4 = u32Be (UInt32.ofNat p.outputs.length) ∧
      p.encoded.drop headerSize = p.outputs.flatMap Utx0Output.serialize := by
  have hencoded : p.encoded = utx0Prefix ++ (u16Be p.destinationChain ++
      (u32Be p.delegatedManagerSetIndex ++ (u32Be (UInt32.ofNat p.outputs.length) ++
        p.outputs.flatMap Utx0Output.serialize))) := by
    simp only [encoded, List.append_assoc]
  have hmagic := take_drop_block (n := 4) (u16Be p.destinationChain ++
      (u32Be p.delegatedManagerSetIndex ++ (u32Be (UInt32.ofNat p.outputs.length) ++
        p.outputs.flatMap Utx0Output.serialize))) (show utx0Prefix.length = 4 from rfl)
  rw [← hencoded] at hmagic
  have hchain := take_drop_block (u32Be p.delegatedManagerSetIndex ++
    (u32Be (UInt32.ofNat p.outputs.length) ++ p.outputs.flatMap Utx0Output.serialize))
      (u16Be_length p.destinationChain)
  rw [← hmagic.2, List.drop_drop] at hchain
  have hindex := take_drop_block (u32Be (UInt32.ofNat p.outputs.length) ++
    p.outputs.flatMap Utx0Output.serialize) (u32Be_length p.delegatedManagerSetIndex)
  rw [← hchain.2, List.drop_drop] at hindex
  have hcount := take_drop_block (p.outputs.flatMap Utx0Output.serialize)
    (u32Be_length (UInt32.ofNat p.outputs.length))
  rw [← hindex.2, List.drop_drop] at hcount
  exact ⟨hmagic.1, hchain.1, hindex.1, hcount⟩

/-- The output count that the header states. -/
def statedCount (bytes : ByteString) : ℕ := (u32OfBe ((bytes.drop 10).take 4)).toNat

/-- The steps of a successful parse. -/
theorem Utx0UnlockPayload.parse_steps {bytes : ByteString} {p : Utx0UnlockPayload} :
    Utx0UnlockPayload.parse bytes = .ok p ↔
      bytes.length = headerSize + statedCount bytes * Utx0Output.size ∧
      bytes.take 4 = utx0Prefix ∧ p.destinationChain = u16OfBe ((bytes.drop 4).take 2) ∧
      p.delegatedManagerSetIndex = u32OfBe ((bytes.drop 6).take 4) ∧
      parseOutputs 0 (chunksExact Utx0Output.size (statedCount bytes) (bytes.drop headerSize)) =
        .ok p.outputs := by
  have hcount : (u32OfBe ((bytes.drop 10).take 4)).toNat < 2 ^ 32 := UInt32.toNat_lt _
  unfold parse statedCount
  simp only [sizeWithOutputs_ok hcount, ok_bind, guard_bind_eq_ok]
  constructor
  · intro h
    rcases h with ⟨_, hmagic, hlen, h⟩
    rcases bind_eq_ok.mp h with ⟨outputs, houtputs, h⟩
    cases h
    exact ⟨not_not.mp hlen, not_not.mp hmagic, rfl, rfl, houtputs⟩
  · intro h
    rcases h with ⟨hlen, hmagic, hchain, hindex, houtputs⟩
    have hheader : ¬ bytes.length < headerSize := by omega
    refine ⟨hheader, not_not.mpr hmagic, not_not.mpr hlen, ?_⟩
    rw [houtputs, ok_bind, ← hchain, ← hindex]
    rfl

/-- Exactly the encodings are accepted. -/
theorem Utx0UnlockPayload.parse_eq_ok {bytes : ByteString} {p : Utx0UnlockPayload} :
    Utx0UnlockPayload.parse bytes = .ok p ↔ p.outputs.length < 2 ^ 32 ∧ bytes = p.encoded := by
  rw [parse_steps]
  constructor
  · intro h
    rcases h with ⟨hlen, hmagic, hchain, hindex, houtputs⟩
    have hbody : (bytes.drop headerSize).length = statedCount bytes * Utx0Output.size := by
      rw [List.length_drop, hlen, Nat.add_sub_cancel_left]
    rcases chunksExact_blocks hbody with ⟨hsizes, hcount, hflat⟩
    have hread := parseOutputs_eq_ok.mp houtputs
    have hchunks : chunksExact Utx0Output.size (statedCount bytes) (bytes.drop headerSize) =
        p.outputs.map Utx0Output.serialize := records_serialized hsizes hread
    have houtputCount : p.outputs.length = statedCount bytes := hread.length_eq.symm.trans hcount
    have hstated : statedCount bytes < 2 ^ 32 := UInt32.toNat_lt _
    rw [hchunks, ← List.flatMap_def] at hflat
    have hlong : headerSize ≤ bytes.length := by omega
    have hwidth : ∀ start n, start + n ≤ headerSize → ((bytes.drop start).take n).length = n := by
      intro start n hn
      rw [List.length_take, List.length_drop]
      omega
    refine ⟨by rw [houtputCount]; exact hstated, ?_⟩
    rw [encoded, hchain, hindex, ← hmagic, hflat, houtputCount, statedCount, UInt32.ofNat_toNat,
      u16Be_u16OfBe (hwidth 4 2 (by decide)), u32Be_u32OfBe (hwidth 6 4 (by decide)),
      u32Be_u32OfBe (hwidth 10 4 (by decide))]
    exact header_split bytes
  · intro h
    rcases h with ⟨hcount, hbytes⟩
    rcases p.encoded_fields with ⟨hmagic, hchain, hindex, hstated, hbody⟩
    have hread : statedCount bytes = p.outputs.length := by
      rw [statedCount, hbytes, hstated, u32OfBe_u32Be]
      exact UInt32.toNat_ofNat_of_lt' hcount
    refine ⟨by rw [hread, hbytes, encoded_length], by rw [hbytes, hmagic],
      by rw [hbytes, hchain, u16OfBe_u16Be], by rw [hbytes, hindex, u32OfBe_u32Be], ?_⟩
    have hrecords : ∀ chunk ∈ p.outputs.map Utx0Output.serialize, chunk.length = Utx0Output.size := by
      intro chunk hchunk
      rcases List.mem_map.mp hchunk with ⟨output, _, houtput⟩
      rw [← houtput]
      exact output.serialize_length
    have hchunks := chunksExact_flatten hrecords
    rw [List.length_map, ← List.flatMap_def] at hchunks
    rw [hread, hbytes, hbody, hchunks, parseOutputs_eq_ok, List.forall₂_map_left_iff]
    exact List.forall₂_same.mpr fun output _ =>
      (Utx0Output.parse_eq_ok output.serialize_length).mpr rfl

theorem mem_chunksExact {count : ℕ} {bytes : ByteString}
    (h : bytes.length = count * Utx0Output.size) {chunk : ByteString} :
    chunk ∈ chunksExact Utx0Output.size count bytes ↔
      ∃ i < count, chunk = (bytes.drop (i * Utx0Output.size)).take Utx0Output.size := by
  induction count generalizing bytes with
  | zero => simp [chunksExact]
  | succ count ih =>
    have hlen : bytes.length = count * Utx0Output.size + Utx0Output.size := by
      rw [h, Nat.succ_mul]
    have hrest : (bytes.drop Utx0Output.size).length = count * Utx0Output.size := by
      rw [List.length_drop, hlen, Nat.add_sub_cancel]
    have henough : ¬ bytes.length < Utx0Output.size := by omega
    have hshift : ∀ i, (bytes.drop Utx0Output.size).drop (i * Utx0Output.size) =
        bytes.drop ((i + 1) * Utx0Output.size) := by
      intro i
      rw [List.drop_drop, Nat.succ_mul, Nat.add_comm]
    rw [chunksExact, if_neg henough, List.mem_cons, ih hrest]
    constructor
    · intro hmem
      rcases hmem with hfirst | ⟨i, hi, hchunk⟩
      · exact ⟨0, by omega, by rw [hfirst, Nat.zero_mul, List.drop_zero]⟩
      · exact ⟨i + 1, by omega, by rw [hchunk, hshift]⟩
    · intro hmem
      rcases hmem with ⟨i, hi, hchunk⟩
      cases i with
      | zero =>
        rw [Nat.zero_mul, List.drop_zero] at hchunk
        exact .inl hchunk
      | succ i => exact .inr ⟨i, by omega, by rw [hchunk, hshift]⟩

/-- The address type field of output `i`. -/
def addressTypeAt (bytes : ByteString) (i : ℕ) : UInt32 :=
  u32OfBe ((bytes.drop (headerSize + i * Utx0Output.size + 8)).take 4)

/-- The format: the prefix, as many whole outputs as the header states, and known address types. -/
structure WellFormed (bytes : ByteString) : Prop where
  length : bytes.length = headerSize + statedCount bytes * Utx0Output.size
  start : bytes.take 4 = utx0Prefix
  types : ∀ i < statedCount bytes, addressTypeAt bytes i = 0 ∨ addressTypeAt bytes i = 1

/-- Only the address type of a record of the right length can be wrong. -/
theorem Utx0Output.parse_isOk {bytes : ByteString} (h : bytes.length = size) :
    (∃ o, Utx0Output.parse bytes = .ok o) ↔
      u32OfBe ((bytes.drop 8).take 4) = 0 ∨ u32OfBe ((bytes.drop 8).take 4) = 1 := by
  have hlong : ¬ bytes.length < size := by omega
  have haddress : ((bytes.drop 12).take 20).length = 20 := by
    rw [List.length_take, List.length_drop, h]
    rfl
  have hread : toFixed? 20 ((bytes.drop 12).take 20) = some ⟨_, haddress⟩ := dif_pos haddress
  unfold parse
  rw [if_neg hlong, hread]
  constructor
  · intro hok
    rcases hok with ⟨o, hok⟩
    rcases bind_eq_ok.mp hok with ⟨addressType, htype, _⟩
    rw [UtxoAddressType.fromU32_eq_ok] at htype
    cases addressType with
    | p2pkh => exact .inl htype
    | p2sh => exact .inr htype
  · intro htype
    rcases htype with hzero | hone
    · exact ⟨_, bind_eq_ok.mpr ⟨.p2pkh, UtxoAddressType.fromU32_eq_ok.mpr hzero, rfl⟩⟩
    · exact ⟨_, bind_eq_ok.mpr ⟨.p2sh, UtxoAddressType.fromU32_eq_ok.mpr hone, rfl⟩⟩

theorem parseOutputs_isOk {index : ℕ} {chunks : List ByteString} :
    (∃ outputs, parseOutputs index chunks = .ok outputs) ↔
      ∀ chunk ∈ chunks, ∃ o, Utx0Output.parse chunk = .ok o := by
  induction chunks generalizing index with
  | nil => simp [parseOutputs]
  | cons chunk chunks ih =>
    have ih := @ih (index + 1)
    rw [List.forall_mem_cons, ← ih]
    constructor
    · intro h
      rcases h with ⟨outputs, h⟩
      rcases bind_eq_ok.mp h with ⟨output, hfirst, h⟩
      rcases bind_eq_ok.mp h with ⟨rest, hrest, _⟩
      exact ⟨⟨output, mapError_eq_ok.mp hfirst⟩, rest, hrest⟩
    · intro h
      rcases h with ⟨⟨output, hfirst⟩, rest, hrest⟩
      exact ⟨output :: rest,
        bind_eq_ok.mpr ⟨output, mapError_eq_ok.mpr hfirst, bind_eq_ok.mpr ⟨rest, hrest, rfl⟩⟩⟩

/-- The parser accepts exactly the format. -/
theorem Utx0UnlockPayload.parse_isOk {bytes : ByteString} :
    (∃ p, Utx0UnlockPayload.parse bytes = .ok p) ↔ WellFormed bytes := by
  have hrecords : bytes.length = headerSize + statedCount bytes * Utx0Output.size →
      ((∃ outputs, parseOutputs 0 (chunksExact Utx0Output.size (statedCount bytes)
        (bytes.drop headerSize)) = .ok outputs) ↔
      ∀ i < statedCount bytes, addressTypeAt bytes i = 0 ∨ addressTypeAt bytes i = 1) := by
    intro hlen
    have hbody : (bytes.drop headerSize).length = statedCount bytes * Utx0Output.size := by
      rw [List.length_drop, hlen, Nat.add_sub_cancel_left]
    rw [parseOutputs_isOk]
    have htype : ∀ i, u32OfBe (((((bytes.drop headerSize).drop (i * Utx0Output.size)).take
        Utx0Output.size).drop 8).take 4) = addressTypeAt bytes i := by
      intro i
      rw [addressTypeAt, List.drop_take, List.take_take, List.drop_drop, List.drop_drop]
      rfl
    constructor
    · intro h i hi
      have hmem := (mem_chunksExact hbody).mpr ⟨i, hi, rfl⟩
      rw [← htype i]
      exact (Utx0Output.parse_isOk ((chunksExact_blocks hbody).1 _ hmem)).mp (h _ hmem)
    · intro h chunk hmem
      rw [Utx0Output.parse_isOk ((chunksExact_blocks hbody).1 _ hmem)]
      rcases (mem_chunksExact hbody).mp hmem with ⟨i, hi, hchunk⟩
      rw [hchunk, htype]
      exact h i hi
  constructor
  · intro h
    rcases h with ⟨p, h⟩
    rcases parse_steps.mp h with ⟨hlen, hmagic, _, _, houtputs⟩
    exact ⟨hlen, hmagic, (hrecords hlen).mp ⟨_, houtputs⟩⟩
  · intro h
    rcases (hrecords h.length).mpr h.types with ⟨outputs, houtputs⟩
    exact ⟨⟨u16OfBe ((bytes.drop 4).take 2), u32OfBe ((bytes.drop 6).take 4), outputs⟩,
      parse_steps.mpr ⟨h.length, h.start, rfl, rfl, houtputs⟩⟩

/-! The same parser with its slices and array conversions as they stand in the code. -/

def Utx0Output.parseChecked (bytes : ByteString) : Checked Utx0Output := do
  if bytes.length < size then
    lift (bail s!"UTX0 output too short: expected {size} bytes, got {bytes.length}")
  let amount ← arrayRange 8 bytes 0 8
  let word ← arrayRange 4 bytes 8 12
  let addressType ← lift (UtxoAddressType.fromU32 (u32OfBe word.toList))
  let address ← arrayRange 20 bytes 12 32
  return { amount := u64OfBe amount.toList, addressType, address }

def parseOutputsChecked (index : ℕ) : List ByteString → Checked (List Utx0Output)
  | [] => .ok []
  | chunk :: chunks => do
    let output ← (Utx0Output.parseChecked chunk).mapError fun fault =>
      match fault with
      | .error error => .error [s!"failed to parse output {index}: {error.headD default}"]
      | .panic => .panic
    let rest ← parseOutputsChecked (index + 1) chunks
    return output :: rest

def Utx0UnlockPayload.parseChecked (bytes : ByteString) : Checked Utx0UnlockPayload := do
  if bytes.length < headerSize then
    lift (bail
      s!"UTX0 unlock payload too short: expected at least {headerSize} bytes, got {bytes.length}")
  let start ← sliceRange bytes 0 4
  if start ≠ utx0Prefix then
    lift (bail "invalid UTX0 payload prefix")
  let destinationChain ← arrayRange 2 bytes 4 6
  let delegatedManagerSetIndex ← arrayRange 4 bytes 6 10
  let count ← arrayRange 4 bytes 10 14
  let outputCount := (u32OfBe count.toList).toNat
  let expectedSize ← lift (sizeWithOutputs outputCount "UTX0 output count overflow"
    "UTX0 payload size overflow")
  if bytes.length ≠ expectedSize then
    lift (bail
      s!"UTX0 unlock payload length mismatch: expected {expectedSize} bytes, got {bytes.length}")
  let body ← sliceRange bytes headerSize bytes.length
  let outputs ← parseOutputsChecked 0 (chunksExact Utx0Output.size outputCount body)
  return {
    destinationChain := u16OfBe destinationChain.toList
    delegatedManagerSetIndex := u32OfBe delegatedManagerSetIndex.toList
    outputs }

theorem Utx0Output.parseChecked_eq (bytes : ByteString) :
    Utx0Output.parseChecked bytes = lift (Utx0Output.parse bytes) := by
  unfold parseChecked parse
  by_cases hlen : bytes.length < size
  · rw [if_pos hlen, if_pos hlen]
    rfl
  · rw [if_neg hlen, if_neg hlen]
    have hlong : 32 ≤ bytes.length := Nat.not_lt.mp hlen
    rcases arrayRange_eq 8 0 rfl (by omega : 8 ≤ bytes.length)
      with ⟨amount, hamount, hamountBytes⟩
    rcases arrayRange_eq 4 8 rfl (by omega : 12 ≤ bytes.length)
      with ⟨word, hword, hwordBytes⟩
    rcases arrayRange_eq 20 12 rfl hlong with ⟨address, haddress, haddressBytes⟩
    have hread : toFixed? 20 ((bytes.drop 12).take 20) = some address :=
      toFixed?_eq_some.mpr haddressBytes.symm
    rw [hamount, hword, haddress, ok_bind, ok_bind, hread, hamountBytes, hwordBytes, lift_bind]
    rfl

theorem parseOutputsChecked_eq (index : ℕ) (chunks : List ByteString) :
    parseOutputsChecked index chunks = lift (parseOutputs index chunks) := by
  induction chunks generalizing index with
  | nil => rfl
  | cons chunk chunks ih =>
    rw [parseOutputsChecked, parseOutputs, Utx0Output.parseChecked_eq, ih]
    cases Utx0Output.parse chunk with
    | error chain => rfl
    | ok output =>
      cases parseOutputs (index + 1) chunks with
      | error chain => rfl
      | ok rest => rfl

/-- No slice, conversion or sum of the parser is out of bounds, whatever the bytes are. -/
theorem Utx0UnlockPayload.parseChecked_eq (bytes : ByteString) :
    Utx0UnlockPayload.parseChecked bytes = lift (Utx0UnlockPayload.parse bytes) := by
  unfold parseChecked parse
  by_cases hlen : bytes.length < headerSize
  · rw [if_pos hlen, if_pos hlen]
    rfl
  · rw [if_neg hlen, if_neg hlen]
    have hlong : 14 ≤ bytes.length := Nat.not_lt.mp hlen
    have hstart := sliceRange_ok (Nat.zero_le 4) (by omega : 4 ≤ bytes.length)
    rcases arrayRange_eq 2 4 rfl (by omega : 6 ≤ bytes.length)
      with ⟨chain, hchain, hchainBytes⟩
    rcases arrayRange_eq 4 6 rfl (by omega : 10 ≤ bytes.length)
      with ⟨index, hindex, hindexBytes⟩
    rcases arrayRange_eq 4 10 rfl hlong with ⟨count, hcount, hcountBytes⟩
    have hbody := sliceRange_ok hlong le_rfl
    have hall : (bytes.drop 14).take (bytes.length - 14) = bytes.drop 14 :=
      List.take_of_length_le (by rw [List.length_drop])
    rw [hall] at hbody
    have hsize := sizeWithOutputs_ok (UInt32.toNat_lt (u32OfBe ((bytes.drop 10).take 4)))
      "UTX0 output count overflow" "UTX0 payload size overflow"
    rw [hstart, hchain, hindex, hcount]
    simp only [ok_bind, List.drop_zero, Nat.sub_zero]
    by_cases hmagic : bytes.take 4 ≠ utx0Prefix
    · rw [if_pos hmagic, if_pos hmagic]
      rfl
    · rw [if_neg hmagic, if_neg hmagic]
      rw [hchainBytes, hindexBytes, hcountBytes]
      simp only [hsize, ok_bind, lift_ok]
      rw [show sliceRange bytes headerSize bytes.length = _ from hbody, ok_bind,
        parseOutputsChecked_eq]
      split_ifs
      · rfl
      · rw [lift_bind]
        rfl

/-- Decoding and encoding are inverse to one another: every payload whose count fits the header
comes back, bytes are read as a payload exactly when it is written as these bytes, and the bytes
that are read are those of the format. Anything else is an error, never a panic. -/
theorem Utx0UnlockPayload.codec_exact :
    (∀ p : Utx0UnlockPayload, p.outputs.length < 2 ^ 32 →
      ∃ bytes, p.serialize = .ok bytes ∧ Utx0UnlockPayload.parse bytes = .ok p) ∧
    (∀ (bytes : ByteString) (p : Utx0UnlockPayload),
      Utx0UnlockPayload.parse bytes = .ok p ↔ p.serialize = .ok bytes) ∧
    (∀ (bytes bytes' : ByteString) (p : Utx0UnlockPayload),
      Utx0UnlockPayload.parse bytes = .ok p → Utx0UnlockPayload.parse bytes' = .ok p →
        bytes = bytes') ∧
    (∀ bytes : ByteString, Utx0UnlockPayload.parseChecked bytes ≠ .error .panic ∧
      ∀ p, Utx0UnlockPayload.parseChecked bytes = .ok p ↔ Utx0UnlockPayload.parse bytes = .ok p) ∧
    ∀ bytes : ByteString, ¬ WellFormed bytes →
      ∃ chain, Utx0UnlockPayload.parseChecked bytes = .error (.error chain) ∧
        Utx0UnlockPayload.parse bytes = .error chain := by
  refine ⟨?_, ?_, ?_, ?_, ?_⟩
  · intro p hcount
    exact ⟨p.encoded, serialize_eq_ok.mpr ⟨hcount, rfl⟩, parse_eq_ok.mpr ⟨hcount, rfl⟩⟩
  · intro bytes p
    rw [parse_eq_ok, serialize_eq_ok]
  · intro bytes bytes' p h h'
    rw [(parse_eq_ok.mp h).2, (parse_eq_ok.mp h').2]
  · intro bytes
    rw [parseChecked_eq]
    exact ⟨lift_ne_panic, fun p => mapError_eq_ok⟩
  · intro bytes hwrong
    rw [parseChecked_eq]
    cases hparse : Utx0UnlockPayload.parse bytes with
    | error chain => exact ⟨chain, rfl, rfl⟩
    | ok p => exact absurd (parse_isOk.mp ⟨p, hparse⟩) hwrong

/-- A payload of one output, as it is written and read. -/
theorem Utx0UnlockPayload.codec_exact_single :
    ∃ bytes, Utx0UnlockPayload.serialize ⟨65, 7, [⟨1000000, .p2pkh, .replicate 20 0x11⟩]⟩ =
        .ok bytes ∧
      Utx0UnlockPayload.parse bytes = .ok ⟨65, 7, [⟨1000000, .p2pkh, .replicate 20 0x11⟩]⟩ :=
  Utx0UnlockPayload.codec_exact.1 _ (by decide)

end DogeOperator.Utx0
