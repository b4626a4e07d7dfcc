import DogeOperator.Panics
import DogeOperator.Vaa

/-! The manager's hash covers exactly what is read from a VAA: both readers find the same body, stay
in bounds, and the emitter, sequence and payload are read from the body alone. -/
namespace DogeOperator.Vaa
open Bytes Outcome Crypto Panics

/-! The two readers with every slice and index of the source. -/

def parseVaaChecked (bytes : ByteString) : Checked VaaHeader := do
  if bytes.length < 6 then lift (bail s!"VAA too short: {bytes.length} bytes")
  let version ← byteAt bytes 0
  let guardianSetIndex ← arrayRange 4 bytes 1 5
  let sigCount ← byteAt bytes 5
  let off := 6 + sigCount.toNat * (1 + 65)
  if bytes.length < off + 4 + 4 + 2 + 32 + 8 + 1 then
    lift (bail "VAA body too short for header fields")
  let _timestamp ← arrayRange 4 bytes off (off + 4)
  let off := off + 4
  let _nonce ← arrayRange 4 bytes off (off + 4)
  let off := off + 4
  let emitterChain ← arrayRange 2 bytes off (off + 2)
  let off := off + 2
  let emitterAddress ← arrayRange 32 bytes off (off + 32)
  let off := off + 32
  let sequence ← arrayRange 8 bytes off (off + 8)
  let off := off + 8
  let _consistencyLevel ← byteAt bytes off
  let off := off + 1
  let payload ← sliceRange bytes off bytes.length
  return {
    version
    guardianSetIndex := u32OfBe guardianSetIndex.toList
    emitterChain := u16OfBe emitterChain.toList
    emitterAddress
    sequence := u64OfBe sequence.toList
    payload }

def vaaBodyChecked (signedVaa : ByteString) : Checked ByteString := do
  if signedVaa.length < 6 then lift (bail s!"VAA too short: {signedVaa.length} bytes")
  let sigCount ← byteAt signedVaa 5
  let bodyOff := 6 + sigCount.toNat * (1 + 65)
  if signedVaa.length < bodyOff then lift (bail "VAA truncated before body")
  sliceRange signedVaa bodyOff signedVaa.length

theorem byteAt_getD {bytes : ByteString} {i : ℕ} (h : i < bytes.length) :
    byteAt bytes i = .ok (bytes.getD i 0) := by
  rw [byteAt, List.getD_eq_getElem?_getD, List.getElem?_eq_getElem h]
  rfl

theorem sliceRange_to_end {bytes : ByteString} {start : ℕ} (h : start ≤ bytes.length) :
    sliceRange bytes start bytes.length = .ok (bytes.drop start) := by
  rw [sliceRange_ok h le_rfl, List.take_of_length_le (by rw [List.length_drop])]

/-- The body is never sliced out of range. -/
theorem vaaBodyChecked_eq (signedVaa : ByteString) :
    vaaBodyChecked signedVaa = lift (vaaBody signedVaa) := by
  unfold vaaBodyChecked vaaBody
  apply guard_eq_lift
  intro hshort
  rw [byteAt_getD (by omega), ok_bind]
  apply guard_eq_lift
  intro hbody
  exact sliceRange_to_end (by omega)

/-- No header field is read out of range, for any signature count. -/
theorem parseVaaChecked_eq (bytes : ByteString) :
    parseVaaChecked bytes = lift (parseVaa bytes) := by
  unfold parseVaaChecked parseVaa
  apply guard_eq_lift
  intro hshort
  rcases arrayRange_eq 4 1 (rfl : 1 + 4 = 5) (by omega : 5 ≤ bytes.length) with
    ⟨guardian, hguardian, hguardianBytes⟩
  have hoff : 6 + (bytes.getD 5 0).toNat * (1 + 65) = bodyOffset bytes := rfl
  rw [byteAt_getD (by omega), ok_bind, hguardian, ok_bind, byteAt_getD (by omega), ok_bind]
  simp only [hoff]
  apply guard_eq_lift
  intro hbody
  generalize bodyOffset bytes = off at hbody ⊢
  rcases arrayRange_eq 4 off rfl (by omega : off + 4 ≤ bytes.length) with
    ⟨timestamp, htimestamp, _⟩
  rcases arrayRange_eq 4 (off + 4) rfl (by omega : off + 8 ≤ bytes.length) with
    ⟨nonce, hnonce, _⟩
  rcases arrayRange_eq 2 (off + 8) rfl (by omega : off + 10 ≤ bytes.length) with
    ⟨chain, hchain, hchainBytes⟩
  rcases arrayRange_eq 32 (off + 10) rfl (by omega : off + 42 ≤ bytes.length) with
    ⟨address, haddress, haddressBytes⟩
  rcases arrayRange_eq 8 (off + 42) rfl (by omega : off + 50 ≤ bytes.length) with
    ⟨sequence, hsequence, hsequenceBytes⟩
  simp only [Nat.add_assoc, Nat.reduceAdd]
  rw [htimestamp, ok_bind, hnonce, ok_bind, hchain, ok_bind, haddress, ok_bind, hsequence, ok_bind,
    byteAt_getD (by omega), ok_bind, sliceRange_to_end (by omega), ok_bind, hguardianBytes,
    hchainBytes, hsequenceBytes, ← haddressBytes, toFixed?_toList, orBail_some, ok_bind]
  rfl

/-! What a body determines. -/

/-- The fields of a body at their fixed places. -/
structure BodyFields where
  timestamp : UInt32
  nonce : UInt32
  emitterChain : UInt16
  emitterAddress : ByteString
  sequence : UInt64
  consistencyLevel : UInt8
  payload : ByteString
  deriving DecidableEq

def bodyFields (body : ByteString) : BodyFields where
  timestamp := u32OfBe (body.take 4)
  nonce := u32OfBe ((body.drop 4).take 4)
  emitterChain := u16OfBe ((body.drop 8).take 2)
  emitterAddress := (body.drop 10).take 32
  sequence := u64OfBe ((body.drop 42).take 8)
  consistencyLevel := body.getD 50 0
  payload := body.drop 51

def BodyFields.encoded (fields : BodyFields) : ByteString :=
  u32Be fields.timestamp ++ u32Be fields.nonce ++ u16Be fields.emitterChain ++
    fields.emitterAddress ++ u64Be fields.sequence ++ [fields.consistencyLevel] ++ fields.payload

/-- The seven fields are all of the body. -/
theorem encoded_bodyFields {body : ByteString} (h : 51 ≤ body.length) :
    (bodyFields body).encoded = body := by
  have hwidth : ∀ start n, start + n ≤ 51 → ((body.drop start).take n).length = n := by
    intro start n hn
    rw [List.length_take, List.length_drop]
    omega
  have hstep : ∀ start n, (body.drop start).take n ++ body.drop (start + n) = body.drop start := by
    intro start n
    rw [← List.drop_drop, List.take_append_drop]
  have hlevel : [body.getD 50 0] ++ body.drop 51 = body.drop 50 := by
    rw [List.getD_eq_getElem?_getD, List.getElem?_eq_getElem (by omega), Option.getD_some]
    exact (List.drop_eq_getElem_cons (by omega)).symm
  have hstart : body.take 4 = (body.drop 0).take 4 := by rw [List.drop_zero]
  simp only [bodyFields, BodyFields.encoded, hstart]
  rw [u32Be_u32OfBe (hwidth 0 4 (by omega)), u32Be_u32OfBe (hwidth 4 4 (by omega)),
    u16Be_u16OfBe (hwidth 8 2 (by omega)), u64Be_u64OfBe (hwidth 42 8 (by omega))]
  simp only [List.append_assoc]
  rw [hlevel, hstep 42 8, hstep 10 32, hstep 8 2, hstep 4 4, hstep 0 4, List.drop_zero]

/-- What an accepted VAA states about its body, next to the header that is returned. -/
structure Reads (header : VaaHeader) (body : ByteString) : Prop where
  length : 51 ≤ body.length
  emitterChain : header.emitterChain = (bodyFields body).emitterChain
  emitterAddress : header.emitterAddress.toList = (bodyFields body).emitterAddress
  sequence : header.sequence = (bodyFields body).sequence
  payload : header.payload = (bodyFields body).payload

/-- An accepted VAA has a body, and the header is read from it. -/
theorem parseVaa_reads {bytes : ByteString} {header : VaaHeader} (h : parseVaa bytes = .ok header) :
    ∃ body, vaaBody bytes = .ok body ∧ Reads header body := by
  unfold parseVaa at h
  obtain ⟨hshort, h⟩ := guard_bind_eq_ok.mp h
  obtain ⟨hbody, h⟩ := guard_bind_eq_ok.mp h
  obtain ⟨address, haddress, h⟩ := bind_eq_ok.mp h
  cases h
  refine ⟨bytes.drop (bodyOffset bytes), ?_, ?_⟩
  · rw [vaaBody, guard_bind_of_neg hshort, guard_bind_of_neg (by omega)]
    rfl
  · have hlength : 51 ≤ (bytes.drop (bodyOffset bytes)).length := by
      rw [List.length_drop]
      omega
    have hbytes := (toFixed?_eq_some.mp (orBail_eq_ok.mp haddress)).symm
    refine ⟨hlength, ?_, ?_, ?_, ?_⟩
    · simp only [bodyFields, List.drop_drop]
    · simpa only [bodyFields, List.drop_drop] using hbytes
    · simp only [bodyFields, List.drop_drop]
    · simp only [bodyFields, List.drop_drop]

/-- The four values of a header that are read from the body. -/
structure BodyValues where
  emitterChain : UInt16
  emitterAddress : FixedBytes 32
  sequence : UInt64
  payload : ByteString

def VaaHeader.bodyValues (header : VaaHeader) : BodyValues :=
  ⟨header.emitterChain, header.emitterAddress, header.sequence, header.payload⟩

/-- The same values as a function of the body. -/
def BodyFields.values (fields : BodyFields) : BodyValues where
  emitterChain := fields.emitterChain
  emitterAddress := (toFixed? 32 fields.emitterAddress).getD (List.Vector.replicate 32 0)
  sequence := fields.sequence
  payload := fields.payload

theorem Reads.bodyValues_eq {header : VaaHeader} {body : ByteString} (h : Reads header body) :
    header.bodyValues = (bodyFields body).values := by
  rw [VaaHeader.bodyValues, BodyFields.values, ← h.emitterAddress, toFixed?_toList,
    Option.getD_some, h.emitterChain, h.sequence, h.payload]

/-! The fields that the parser reads and drops. -/

def vaaTimestamp (bytes : ByteString) : UInt32 := u32OfBe ((bytes.drop (bodyOffset bytes)).take 4)

def vaaNonce (bytes : ByteString) : UInt32 := u32OfBe ((bytes.drop (bodyOffset bytes + 4)).take 4)

def vaaConsistencyLevel (bytes : ByteString) : UInt8 := bytes.getD (bodyOffset bytes + 50) 0

theorem vaaBody_eq_ok {bytes body : ByteString} (h : vaaBody bytes = .ok body) :
    body = bytes.drop (bodyOffset bytes) := by
  unfold vaaBody at h
  obtain ⟨_, h⟩ := guard_bind_eq_ok.mp h
  obtain ⟨_, h⟩ := guard_bind_eq_ok.mp h
  exact (Except.ok.inj h).symm

/-- The body fields of an accepted VAA are the header's values and the three dropped ones. -/
theorem bodyFields_of_reads {bytes body : ByteString} {header : VaaHeader}
    (hbody : vaaBody bytes = .ok body) (h : Reads header body) :
    bodyFields body = ⟨vaaTimestamp bytes, vaaNonce bytes, header.emitterChain,
      header.emitterAddress.toList, header.sequence, vaaConsistencyLevel bytes, header.payload⟩ := by
  rw [h.emitterChain, h.emitterAddress, h.sequence, h.payload]
  rw [vaaBody_eq_ok hbody]
  simp only [bodyFields, vaaTimestamp, vaaNonce, vaaConsistencyLevel, List.drop_drop,
    List.getD_eq_getElem?_getD, List.getElem?_drop]

section
variable [Hashes]

/-- The digest of an accepted VAA is the double Keccak hash of its body, and only that hash matches. -/
theorem vaaHashMatches_iff {bytes body : ByteString} {vaaHash : FixedBytes 32}
    (hbody : vaaBody bytes = .ok body) : vaaHashMatches bytes vaaHash = .ok true ↔
      vaaHash = Hashes.keccak256 (Hashes.keccak256 body).toList := by
  rw [vaaHashMatches, vaaSigningDigest, hbody, ok_bind, pure_eq_ok, ok_bind, pure_eq_ok,
    Except.ok.injEq, decide_eq_true_eq]
  exact eq_comm

/-- Two different messages with one hash. -/
def KeccakCollision (message message' : ByteString) : Prop :=
  message ≠ message' ∧ Hashes.keccak256 message = Hashes.keccak256 message'

/-- One digest for two bodies: they are the same, or one of the two rounds has collided on them. -/
theorem body_of_digest {body body' : ByteString}
    (h : Hashes.keccak256 (Hashes.keccak256 body).toList =
      Hashes.keccak256 (Hashes.keccak256 body').toList) :
    body = body' ∨ KeccakCollision body body' ∨
      KeccakCollision (Hashes.keccak256 body).toList (Hashes.keccak256 body').toList := by
  by_cases hinner : (Hashes.keccak256 body).toList = (Hashes.keccak256 body').toList
  · by_cases hsame : body = body'
    · exact .inl hsame
    · exact .inr (.inl ⟨hsame, List.Vector.toList_injective hinner⟩)
  · exact .inr (.inr ⟨hinner, h⟩)

/-- The hash of a VAA binds what is read from it: the readers stay in bounds, the emitter, sequence
and payload are those of the body, with the three dropped fields they are the body, and the hash that
matches is the double Keccak hash of that body, so that two VAAs that match one hash give the same
values, or their bodies are a collision. -/
theorem vaa_hash_binds_header :
    (∀ bytes, parseVaaChecked bytes = lift (parseVaa bytes) ∧
      parseVaaChecked bytes ≠ .error .panic ∧
      vaaBodyChecked bytes = lift (vaaBody bytes) ∧ vaaBodyChecked bytes ≠ .error .panic) ∧
    (∀ bytes header, parseVaa bytes = .ok header →
      ∃ body, vaaBody bytes = .ok body ∧ header.bodyValues = (bodyFields body).values ∧
        vaaSigningDigest bytes = .ok (Hashes.keccak256 (Hashes.keccak256 body).toList) ∧
        ∀ vaaHash, vaaHashMatches bytes vaaHash = .ok true ↔
          vaaHash = Hashes.keccak256 (Hashes.keccak256 body).toList) ∧
    (∀ bytes bytes' header header', parseVaa bytes = .ok header → parseVaa bytes' = .ok header' →
      vaaBody bytes = vaaBody bytes' → header.bodyValues = header'.bodyValues) ∧
    (∀ bytes bytes' header header' vaaHash, parseVaa bytes = .ok header →
      parseVaa bytes' = .ok header' → vaaHashMatches bytes vaaHash = .ok true →
      vaaHashMatches bytes' vaaHash = .ok true → ∃ body body', vaaBody bytes = .ok body ∧
        vaaBody bytes' = .ok body' ∧ (body = body' ∧ header.bodyValues = header'.bodyValues ∨
          KeccakCollision body body' ∨
          KeccakCollision (Hashes.keccak256 body).toList (Hashes.keccak256 body').toList)) ∧
    (∀ bytes bytes' header header', parseVaa bytes = .ok header → parseVaa bytes' = .ok header' →
      header.bodyValues = header'.bodyValues → vaaTimestamp bytes = vaaTimestamp bytes' →
      vaaNonce bytes = vaaNonce bytes' → vaaConsistencyLevel bytes = vaaConsistencyLevel bytes' →
      vaaBody bytes = vaaBody bytes') ∧
    ∀ key payload, ∃ header, parseVaa (synthesizeLocalVaa key payload) = .ok header ∧
      header.bodyValues = ⟨key.emitterChain, key.emitterAddress, key.sequence, payload⟩ ∧
      ∃ digest, vaaSigningDigest (synthesizeLocalVaa key payload) = .ok digest ∧
        vaaHashMatches (synthesizeLocalVaa key payload) digest = .ok true := by
  have hdigest : ∀ {bytes body}, vaaBody bytes = .ok body →
      vaaSigningDigest bytes = .ok (Hashes.keccak256 (Hashes.keccak256 body).toList) := by
    intro bytes body hbody
    rw [vaaSigningDigest, hbody, ok_bind]
    rfl
  refine ⟨?_, ?_, ?_, ?_, ?_, ?_⟩
  · intro bytes
    rw [parseVaaChecked_eq, vaaBodyChecked_eq]
    exact ⟨rfl, lift_ne_panic, rfl, lift_ne_panic⟩
  · intro bytes header h
    obtain ⟨body, hbody, hreads⟩ := parseVaa_reads h
    exact ⟨body, hbody, hreads.bodyValues_eq, hdigest hbody, fun _ => vaaHashMatches_iff hbody⟩
  · intro bytes bytes' header header' h h' heq
    obtain ⟨body, hbody, hreads⟩ := parseVaa_reads h
    obtain ⟨body', hbody', hreads'⟩ := parseVaa_reads h'
    rw [hbody, hbody', Except.ok.injEq] at heq
    rw [hreads.bodyValues_eq, hreads'.bodyValues_eq, heq]
  · intro bytes bytes' header header' vaaHash h h' hmatches hmatches'
    obtain ⟨body, hbody, hreads⟩ := parseVaa_reads h
    obtain ⟨body', hbody', hreads'⟩ := parseVaa_reads h'
    have hone := (vaaHashMatches_iff hbody).mp hmatches
    have htwo := (vaaHashMatches_iff hbody').mp hmatches'
    refine ⟨body, body', hbody, hbody', (body_of_digest (hone.symm.trans htwo)).imp_left ?_⟩
    rintro rfl
    exact ⟨rfl, hreads.bodyValues_eq.trans hreads'.bodyValues_eq.symm⟩
  · intro bytes bytes' header header' h h' hvalues htimestamp hnonce hlevel
    obtain ⟨body, hbody, hreads⟩ := parseVaa_reads h
    obtain ⟨body', hbody', hreads'⟩ := parseVaa_reads h'
    simp only [VaaHeader.bodyValues, BodyValues.mk.injEq] at hvalues
    obtain ⟨hchain, haddress, hsequence, hpayload⟩ := hvalues
    have hfields : bodyFields body = bodyFields body' := by
      rw [bodyFields_of_reads hbody hreads, bodyFields_of_reads hbody' hreads', htimestamp, hnonce,
        hlevel, hchain, haddress, hsequence, hpayload]
    rw [hbody, hbody', ← encoded_bodyFields hreads.length, ← encoded_bodyFields hreads'.length,
      hfields]
  · intro key payload
    obtain ⟨body, hbody⟩ := vaaBody_synthesizeLocalVaa key payload
    exact ⟨_, parseVaa_synthesizeLocalVaa key payload, rfl, _, hdigest hbody,
      (vaaHashMatches_iff hbody).mpr rfl⟩

end

end DogeOperator.Vaa
