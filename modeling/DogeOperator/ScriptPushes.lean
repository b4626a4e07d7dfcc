import DogeOperator.Bytes

/-! Data pushes of Script: a direct opcode for up to 75 bytes, or one of three opcodes with a
little-endian length of one, two or four bytes. A script that only pushes is a list of elements. -/
namespace DogeOperator.ScriptPushes
open Bytes

/-- The first `count` bytes and the rest, when there are as many. -/
def splitExact (count : ℕ) (bytes : ByteString) : Option (ByteString × ByteString) :=
  if count ≤ bytes.length then some (bytes.take count, bytes.drop count) else none

/-- Data behind a length of `width` bytes. -/
def readSized (width : ℕ) (bytes : ByteString) : Option (ByteString × ByteString) :=
  (splitExact width bytes).bind fun size => splitExact (ofLe size.1) size.2

/-- The data that the first operation pushes, and the operations after it. -/
def readPush : ByteString → Option (ByteString × ByteString)
  | [] => none
  | opcode :: rest =>
    if opcode ≤ 0x4b then splitExact opcode.toNat rest
    else if opcode = 0x4c then readSized 1 rest
    else if opcode = 0x4d then readSized 2 rest
    else if opcode = 0x4e then readSized 4 rest
    else none

theorem splitExact_eq_some {count : ℕ} {bytes front rest : ByteString} :
    splitExact count bytes = some (front, rest) ↔ bytes = front ++ rest ∧ front.length = count := by
  unfold splitExact
  constructor
  · intro h
    split_ifs at h with hcount
    cases h
    exact ⟨(List.take_append_drop count bytes).symm, by simpa using hcount⟩
  · rintro ⟨rfl, hlen⟩
    rw [if_pos (by simp [← hlen]), List.take_left' hlen, List.drop_left' hlen]

theorem readSized_eq_some {width : ℕ} {bytes data rest : ByteString} :
    readSized width bytes = some (data, rest) ↔
      ∃ size, bytes = size ++ data ++ rest ∧ size.length = width ∧ ofLe size = data.length := by
  unfold readSized
  rw [Option.bind_eq_some_iff]
  constructor
  · rintro ⟨⟨size, after⟩, hsize, hdata⟩
    obtain ⟨rfl, hwidth⟩ := splitExact_eq_some.mp hsize
    obtain ⟨rfl, hlen⟩ := splitExact_eq_some.mp hdata
    exact ⟨size, by rw [List.append_assoc], hwidth, hlen.symm⟩
  · rintro ⟨size, rfl, hwidth, hlen⟩
    exact ⟨(size, data ++ rest), splitExact_eq_some.mpr ⟨by rw [List.append_assoc], hwidth⟩,
      splitExact_eq_some.mpr ⟨rfl, hlen.symm⟩⟩

/-- What follows a push is shorter than the script. -/
theorem readPush_length {script data rest : ByteString} (h : readPush script = some (data, rest)) :
    data.length + rest.length < script.length := by
  cases script with
  | nil => cases h
  | cons opcode script =>
    have hsized : ∀ width, readSized width script = some (data, rest) →
        data.length + rest.length < (opcode :: script).length := by
      intro width hread
      obtain ⟨size, rfl, -, -⟩ := readSized_eq_some.mp hread
      simp
    rw [readPush] at h
    split_ifs at h
    · obtain ⟨rfl, -⟩ := splitExact_eq_some.mp h
      simp
    · exact hsized 1 h
    · exact hsized 2 h
    · exact hsized 4 h

/-- The elements that a script of pushes leaves on the stack, the first one first. -/
def elements : ByteString → Option (List ByteString)
  | [] => some []
  | opcode :: script =>
    match _hread : readPush (opcode :: script) with
    | none => none
    | some (data, rest) => (elements rest).map (data :: ·)
termination_by script => script.length
decreasing_by
  have hlength := readPush_length _hread
  omega

theorem elements_nil : elements [] = some [] := by rw [elements]

theorem elements_of_readPush {script data rest : ByteString}
    (h : readPush script = some (data, rest)) :
    elements script = (elements rest).map (data :: ·) := by
  cases script with
  | nil => cases h
  | cons opcode script =>
    rw [elements]
    split
    · rename_i hnone
      rw [h] at hnone
      cases hnone
    · rename_i hsome
      rw [h] at hsome
      cases hsome
      rfl

/-! The shortest way to push data. -/

/-- The smallest opcode that can state the length, the length, and the data. -/
def shortestPush (data : ByteString) : ByteString :=
  let len := data.length
  (if len ≤ 0x4b then [UInt8.ofNat len]
  else if len ≤ 0xff then [0x4c, UInt8.ofNat len]
  else if len ≤ 0xffff then 0x4d :: u16Le (UInt16.ofNat len)
  else 0x4e :: u32Le (UInt32.ofNat len)) ++ data

theorem readPush_shortestPush {data : ByteString} (h : data.length < 2 ^ 32) (rest : ByteString) :
    readPush (shortestPush data ++ rest) = some (data, rest) := by
  unfold shortestPush
  dsimp only
  split_ifs with hdirect hone htwo
  · have hlen : (UInt8.ofNat data.length).toNat = data.length := by
      rw [UInt8.toNat_ofNat', Nat.mod_eq_of_lt (by omega)]
    have hopcode : UInt8.ofNat data.length ≤ 0x4b := by
      rw [UInt8.le_iff_toNat_le, hlen]
      exact hdirect
    rw [List.append_assoc, List.singleton_append, readPush, if_pos hopcode, hlen,
      splitExact_eq_some]
    exact ⟨rfl, rfl⟩
  · have hlen : ofLe [UInt8.ofNat data.length] = data.length := by
      rw [ofLe, ofLe, UInt8.toNat_ofNat', Nat.mod_eq_of_lt (by omega), Nat.mul_zero, Nat.add_zero]
    exact readSized_eq_some.mpr ⟨[UInt8.ofNat data.length], rfl, rfl, hlen⟩
  · have hlen : ofLe (u16Le (UInt16.ofNat data.length)) = data.length := by
      rw [u16Le, ofLe_leBytes, UInt16.toNat_ofNat', Nat.mod_eq_of_lt (by omega), Nat.mod_eq_of_lt (by omega)]
    exact readSized_eq_some.mpr ⟨_, rfl, u16Le_length _, hlen⟩
  · have hlen : ofLe (u32Le (UInt32.ofNat data.length)) = data.length := by
      rw [u32Le, ofLe_leBytes, UInt32.toNat_ofNat', Nat.mod_eq_of_lt h, Nat.mod_eq_of_lt (by omega)]
    exact readSized_eq_some.mpr ⟨_, rfl, u32Le_length _, hlen⟩

theorem length_shortestPush_le (data : ByteString) :
    (shortestPush data).length ≤ data.length + 5 ∧
      (data.length ≤ 0xffff → (shortestPush data).length ≤ data.length + 3) ∧
      (data.length ≤ 0xff → (shortestPush data).length ≤ data.length + 2) ∧
      (data.length ≤ 0x4b → (shortestPush data).length = data.length + 1) := by
  unfold shortestPush
  dsimp only
  split_ifs <;> simp <;> omega

/-- No other way to push the data takes fewer bytes. -/
theorem shortestPush_minimal {script data : ByteString} (h : readPush script = some (data, [])) :
    (shortestPush data).length ≤ script.length := by
  have hbounds := length_shortestPush_le data
  cases script with
  | nil => cases h
  | cons opcode script =>
    have hsized : ∀ width, readSized width script = some (data, []) →
        data.length < 256 ^ width ∧ script.length = width + data.length := by
      intro width hread
      obtain ⟨size, rfl, hwidth, hlen⟩ := readSized_eq_some.mp hread
      have hlt := ofLe_lt size
      rw [hlen, hwidth] at hlt
      exact ⟨hlt, by simp [hwidth]⟩
    rw [List.length_cons]
    rw [readPush] at h
    split_ifs at h with hdirect
    · obtain ⟨rfl, hlen⟩ := splitExact_eq_some.mp h
      have hopcode := UInt8.le_iff_toNat_le.mp hdirect
      have hshort : data.length ≤ 0x4b := hlen.le.trans hopcode
      rw [hbounds.2.2.2 hshort, List.append_nil]
    · obtain ⟨hlt, hlen⟩ := hsized 1 h
      have hshort := hbounds.2.2.1 (by omega)
      omega
    · obtain ⟨hlt, hlen⟩ := hsized 2 h
      have hshort := hbounds.2.1 (by omega)
      omega
    · obtain ⟨hlt, hlen⟩ := hsized 4 h
      have hshort := hbounds.1
      omega

/-- Pushes one after the other are read back in order. -/
theorem elements_flatMap {items : List ByteString} (h : ∀ item ∈ items, item.length < 2 ^ 32) :
    elements (items.flatMap shortestPush) = some items := by
  induction items with
  | nil => exact elements_nil
  | cons item items ih =>
    rw [List.forall_mem_cons] at h
    rw [List.flatMap_cons, elements_of_readPush (readPush_shortestPush h.1 _), ih h.2, Option.map_some]

end DogeOperator.ScriptPushes
