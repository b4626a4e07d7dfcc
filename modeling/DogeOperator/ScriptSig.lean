import DogeOperator.Redeem
import DogeOperator.ScriptPushes
import DogeOperator.TxRecovery

/-! The scriptSig of a signed input is a list of pushes that reads back, and the serialized
transaction states its length. -/
namespace DogeOperator.Tx
open Bytes Outcome ScriptPushes

variable {t t' : UnsignedTransaction} {index : ℕ} {signatures : List ByteString}
  {redeemScript : ByteString}

/-- Both push encoders are the shortest push. -/
theorem pushDataInline_eq (data : ByteString) : pushDataInline data = shortestPush data := rfl

theorem pushData_eq (data : ByteString) : Redeem.pushData data = shortestPush data := rfl

theorem scriptSigBytes_eq (signatures : List ByteString) (redeemScript : ByteString) :
    scriptSigBytes signatures redeemScript =
      ([] :: signatures ++ [redeemScript]).flatMap shortestPush := by
  have hempty : shortestPush [] = [0x00] := rfl
  have hpush : (pushDataInline : ByteString → ByteString) = shortestPush := funext pushDataInline_eq
  rw [List.cons_append, List.flatMap_cons, List.flatMap_append, List.flatMap_singleton, hempty,
    scriptSigBytes, hpush, List.append_assoc]

theorem elements_scriptSigBytes (hsignatures : ∀ signature ∈ signatures, signature.length < 2 ^ 32)
    (hredeem : redeemScript.length < 2 ^ 32) :
    elements (scriptSigBytes signatures redeemScript) = some ([] :: signatures ++ [redeemScript]) := by
  rw [scriptSigBytes_eq]
  apply elements_flatMap
  simp only [List.cons_append, List.forall_mem_cons, List.forall_mem_append, List.length_nil]
  exact ⟨by norm_num, hsignatures, hredeem, by simp⟩

/-- What is written is the scriptSig of one input. -/
theorem applyScriptSig_eq_ok : t.applyScriptSig index signatures = .ok t' ↔
    ∃ input script, t.inputs[index]? = some input ∧ t.redeemScripts[index]? = some script ∧
      t' = { t with inputs :=
        t.inputs.set index { input with scriptSig := scriptSigBytes signatures script } } := by
  unfold UnsignedTransaction.applyScriptSig
  constructor
  · intro h
    obtain ⟨input, hinput, h⟩ := bind_eq_ok.mp h
    obtain ⟨script, hscript, h⟩ := bind_eq_ok.mp h
    cases h
    exact ⟨input, script, orBail_eq_ok.mp hinput, orBail_eq_ok.mp hscript, rfl⟩
  · rintro ⟨input, script, hinput, hscript, rfl⟩
    rw [hinput, hscript]
    rfl

/-- The bytes in front of the scriptSig length of an input. -/
def beforeScriptSig (t : UnsignedTransaction) (index : ℕ) (input : TxIn) : ByteString :=
  u32Le t.version ++ writeVarint (UInt64.ofNat t.inputs.length) ++
    (t.inputs.take index).flatMap TxIn.serialize ++ input.prevTxidLe.toList ++ u32Le input.vout

/-- A transaction around one of its scriptSigs. -/
theorem serialize_around {input : TxIn} (h : t.inputs[index]? = some input) :
    ∃ after, t.serialize = beforeScriptSig t index input ++
      (writeVarint (UInt64.ofNat input.scriptSig.length) ++ (input.scriptSig ++ after)) := by
  obtain ⟨hindex, hinput⟩ := List.getElem?_eq_some_iff.mp h
  have hsplit : t.inputs = t.inputs.take index ++ input :: t.inputs.drop (index + 1) := by
    rw [← hinput, ← List.drop_eq_getElem_cons hindex, List.take_append_drop]
  have hinputs : t.inputs.flatMap TxIn.serialize =
      (t.inputs.take index).flatMap TxIn.serialize ++ (input.serialize ++
        (t.inputs.drop (index + 1)).flatMap TxIn.serialize) := by
    nth_rewrite 1 [hsplit]
    rw [List.flatMap_append, List.flatMap_cons]
  refine ⟨u32Le input.sequence ++ (t.inputs.drop (index + 1)).flatMap TxIn.serialize ++
    writeVarint (UInt64.ofNat t.outputs.length) ++ t.outputs.flatMap TxOut.serialize ++
    u32Le t.locktime, ?_⟩
  rw [UnsignedTransaction.serialize, serializeTransaction, hinputs, beforeScriptSig, TxIn.serialize]
  simp only [List.append_assoc]

/-- A written scriptSig reads back as the empty element, the signatures in order and the redeem
script, and the serialized transaction announces its length. -/
theorem applyScriptSig_decodable (h : t.applyScriptSig index signatures = .ok t')
    (hscript : t.redeemScripts[index]? = some redeemScript)
    (hsignatures : ∀ signature ∈ signatures, signature.length < 2 ^ 32)
    (hredeem : redeemScript.length < 2 ^ 32) (hfits : t'.serialize.length < 2 ^ 64)
    (field : String) :
    ∃ input reader after, t'.inputs[index]? = some input ∧
      elements input.scriptSig = some ([] :: signatures ++ [redeemScript]) ∧
      TransactionReader.readCount ⟨t'.serialize, (beforeScriptSig t' index input).length⟩ field =
        .ok (input.scriptSig.length, reader) ∧
      reader.readExact input.scriptSig.length field = .ok (input.scriptSig, after) := by
  obtain ⟨input, script, hinput, hstored, rfl⟩ := applyScriptSig_eq_ok.mp h
  rw [hscript] at hstored
  cases hstored
  have hindex : index < t.inputs.length := (List.getElem?_eq_some_iff.mp hinput).1
  generalize hwritten : ({ input with scriptSig := scriptSigBytes signatures redeemScript } : TxIn) =
    written at hfits ⊢
  have hset : (t.inputs.set index written)[index]? = some written := by simp [hindex]
  have hscriptSig : written.scriptSig = scriptSigBytes signatures redeemScript := by rw [← hwritten]
  obtain ⟨after, hserialize⟩ :=
    serialize_around (t := { t with inputs := t.inputs.set index written }) hset
  generalize hbytes : UnsignedTransaction.serialize { t with inputs := t.inputs.set index written } =
    bytes at hfits hserialize ⊢
  have hsees : TransactionReader.Sees ⟨bytes, (beforeScriptSig _ index written).length⟩ _ :=
    ⟨hfits, by rw [hserialize, List.drop_left' rfl], by rw [hserialize]; simp⟩
  have hlength : (UInt64.ofNat written.scriptSig.length).toNat = written.scriptSig.length := by
    have hbound := congrArg List.length hserialize
    simp only [List.length_append] at hbound
    rw [UInt64.toNat_ofNat', Nat.mod_eq_of_lt (by omega)]
  have hcount := hsees.readCount field
  rw [hlength] at hcount
  refine ⟨written, _, _, hset, ?_, hcount, (hsees.advance rfl).readExact rfl field⟩
  rw [hscriptSig]
  exact elements_scriptSigBytes hsignatures hredeem

/-- One input under a script of one opcode. -/
def oneInput : UnsignedTransaction where
  version := 1
  inputs := [⟨List.Vector.replicate 32 7, 0, [], 0xffffffff⟩]
  outputs := [⟨100, [0x51]⟩]
  logicalOutputs := []
  locktime := 0
  redeemScripts := [[0x51]]

/-- A signature of two bytes, and one too long for a direct push. -/
def mixedSignatures : List ByteString := [[1, 2], List.replicate 80 7]

theorem oneInput_decodable :
    ∃ t' input reader after, oneInput.applyScriptSig 0 mixedSignatures = .ok t' ∧
      t'.inputs[0]? = some input ∧
      input.scriptSig = [0x00, 0x02, 1, 2, 0x4c, 80] ++ List.replicate 80 7 ++ [0x01, 0x51] ∧
      elements input.scriptSig = some [[], [1, 2], List.replicate 80 7, [0x51]] ∧
      TransactionReader.readCount ⟨t'.serialize, (beforeScriptSig t' 0 input).length⟩ "scriptSig" =
        .ok (input.scriptSig.length, reader) ∧
      reader.readExact input.scriptSig.length "scriptSig" = .ok (input.scriptSig, after) := by
  have happly : oneInput.applyScriptSig 0 mixedSignatures = .ok
      { oneInput with inputs := [⟨List.Vector.replicate 32 7, 0, [0x00, 0x02, 1, 2, 0x4c, 80] ++
        List.replicate 80 7 ++ [0x01, 0x51], 0xffffffff⟩] } := by rfl
  obtain ⟨input, reader, after, hinput, helements, hcount, hread⟩ :=
    applyScriptSig_decodable happly rfl (by decide) (by decide) (by decide +kernel) "scriptSig"
  have hwritten := hinput
  cases hinput
  exact ⟨_, _, reader, after, happly, hwritten, rfl, helements, hcount, hread⟩

end DogeOperator.Tx
