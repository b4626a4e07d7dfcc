import DogeOperator.Delimited
import DogeOperator.Digests
import DogeOperator.TxRecovery

/-! What a Manager signature commits to: the bytes hashed for one input determine the whole
unsigned transaction, the input, and its redeem script. -/
namespace DogeOperator.Preimage
open Bytes Outcome Crypto Tx Relation

theorem u32Le_delimited : Delimited (fun _ : UInt32 => True) u32Le :=
  .of_length u32Le_length fun a b _ _ h => by
    rw [← u32OfLe_u32Le a, h, u32OfLe_u32Le]

theorem u64Le_delimited : Delimited (fun _ : UInt64 => True) u64Le :=
  .of_length u64Le_length fun a b _ _ h => by
    rw [← u64OfLe_u64Le a, h, u64OfLe_u64Le]

/-- A count is read back from its first nine bytes. -/
theorem writeVarint_delimited : Delimited (· < 2 ^ 64) fun n => writeVarint (UInt64.ofNat n) := by
  intro a b ha hb rest rest' heq
  have hsees : ∀ n (tail : ByteString), (TransactionReader.new
      ((writeVarint (UInt64.ofNat n) ++ tail).take 9)).Sees
        (writeVarint (UInt64.ofNat n) ++ tail.take (9 - (writeVarint (UInt64.ofNat n)).length)) := by
    intro n tail
    have hlen := writeVarint_length_le (UInt64.ofNat n)
    rw [List.take_append, List.take_of_length_le hlen]
    apply TransactionReader.new_sees
    simp only [List.length_append, List.length_take]
    omega
  have hb' := hsees b rest'
  rw [← heq] at hb'
  have hab : a = b := UnsignedTransaction.count_inj (hsees a rest) hb' ha hb
  subst hab
  exact ⟨rfl, List.append_cancel_left heq⟩

theorem TxIn.delimited :
    Delimited (fun input : TxIn => input.scriptSig.length < 2 ^ 64) TxIn.serialize := by
  have hfields := ((Delimited.vector 32).prod u32Le_delimited).prod
    ((Delimited.framed writeVarint_delimited).prod u32Le_delimited)
  intro a b ha hb rest rest' heq
  have hread := @hfields ((a.prevTxidLe, a.vout), a.scriptSig, a.sequence)
    ((b.prevTxidLe, b.vout), b.scriptSig, b.sequence) ⟨⟨trivial, trivial⟩, ha, trivial⟩
    ⟨⟨trivial, trivial⟩, hb, trivial⟩ rest rest' (by simpa [TxIn.serialize] using heq)
  refine ⟨?_, hread.2⟩
  cases a
  cases b
  simp only [Prod.mk.injEq] at hread
  simp [hread]

theorem TxOut.delimited :
    Delimited (fun output : TxOut => output.scriptPubkey.length < 2 ^ 64) TxOut.serialize := by
  have hfields := u64Le_delimited.prod (Delimited.framed writeVarint_delimited)
  intro a b ha hb rest rest' heq
  have hread := @hfields (a.value, a.scriptPubkey) (b.value, b.scriptPubkey) ⟨trivial, ha⟩
    ⟨trivial, hb⟩ rest rest' (by simpa [TxOut.serialize] using heq)
  refine ⟨?_, hread.2⟩
  cases a
  cases b
  simp only [Prod.mk.injEq] at hread
  simp [hread]

/-- Every length in the encoding is one that a count can say. -/
structure Encodable (inputs : List TxIn) (outputs : List TxOut) : Prop where
  inputCount : inputs.length < 2 ^ 64
  scriptSigs : ∀ input ∈ inputs, input.scriptSig.length < 2 ^ 64
  outputCount : outputs.length < 2 ^ 64
  scriptPubkeys : ∀ output ∈ outputs, output.scriptPubkey.length < 2 ^ 64

/-- The encoding of a transaction determines it, whatever follows. -/
theorem serializeTransaction_inj {version version' locktime locktime' : UInt32}
    {inputs inputs' : List TxIn} {outputs outputs' : List TxOut} {rest rest' : ByteString}
    (h : Encodable inputs outputs) (h' : Encodable inputs' outputs')
    (heq : serializeTransaction version inputs outputs locktime ++ rest =
      serializeTransaction version' inputs' outputs' locktime' ++ rest') :
    version = version' ∧ inputs = inputs' ∧ outputs = outputs' ∧ locktime = locktime' ∧
      rest = rest' := by
  simp only [serializeTransaction, List.append_assoc] at heq
  have hversion := u32Le_delimited trivial trivial heq
  have hinputs := (Delimited.counted writeVarint_delimited TxIn.delimited)
    ⟨h.inputCount, h.scriptSigs⟩ ⟨h'.inputCount, h'.scriptSigs⟩ (by simpa using hversion.2)
  have houtputs := (Delimited.counted writeVarint_delimited TxOut.delimited)
    ⟨h.outputCount, h.scriptPubkeys⟩ ⟨h'.outputCount, h'.scriptPubkeys⟩ (by simpa using hinputs.2)
  have hlocktime := u32Le_delimited trivial trivial houtputs.2
  exact ⟨hversion.1, hinputs.1, houtputs.1, hlocktime.1, hlocktime.2⟩

/-! The signed transaction of one input: every scriptSig is empty but the input's, which is its
redeem script. -/

/-- What identifies an input apart from its scriptSig. -/
def outpoint (input : TxIn) : FixedBytes 32 × UInt32 × UInt32 :=
  (input.prevTxidLe, input.vout, input.sequence)

def signedInputs (inputs : List TxIn) (index : ℕ) (redeemScript : ByteString) : List TxIn :=
  (inputs.map ({ · with scriptSig := [] })).modify index ({ · with scriptSig := redeemScript })

theorem signedInputs_length (inputs : List TxIn) (index : ℕ) (script : ByteString) :
    (signedInputs inputs index script).length = inputs.length := by
  simp [signedInputs]

theorem signedInputs_getElem? (inputs : List TxIn) (index other : ℕ) (script : ByteString) :
    (signedInputs inputs index script)[other]? =
      inputs[other]?.map fun input =>
        { input with scriptSig := if index = other then script else [] } := by
  rw [signedInputs, List.getElem?_modify, List.getElem?_map]
  cases inputs[other]? with
  | none => rfl
  | some input => by_cases h : index = other <;> simp [h]

theorem signedInputs_outpoint (inputs : List TxIn) (index : ℕ) (script : ByteString) :
    (signedInputs inputs index script).map outpoint = inputs.map outpoint := by
  apply List.ext_getElem?
  intro other
  rw [List.getElem?_map, signedInputs_getElem?, List.getElem?_map]
  cases inputs[other]? <;> rfl

/-- The outpoints decide everything else of the signed inputs. -/
theorem signedInputs_congr {inputs inputs' : List TxIn} (index : ℕ) (script : ByteString)
    (h : inputs.map outpoint = inputs'.map outpoint) :
    signedInputs inputs index script = signedInputs inputs' index script := by
  apply List.ext_getElem?
  intro other
  have hother := congrArg (·[other]?) h
  simp only [List.getElem?_map] at hother
  rw [signedInputs_getElem?, signedInputs_getElem?]
  cases hleft : inputs[other]? with
  | none =>
    cases hright : inputs'[other]? with
    | none => rfl
    | some input' => simp [hleft, hright] at hother
  | some input =>
    cases hright : inputs'[other]? with
    | none => simp [hleft, hright] at hother
    | some input' =>
      simp only [hleft, hright, Option.map_some, Option.some.injEq, outpoint, Prod.mk.injEq] at hother
      simp [hother]

/-- The one scriptSig that is not empty names the signed input. -/
theorem signedInputs_index {inputs inputs' : List TxIn} {index index' : ℕ}
    {script script' : ByteString} (hindex : index < inputs.length) (hscript : script ≠ [])
    (h : signedInputs inputs index script = signedInputs inputs' index' script') :
    index = index' ∧ script = script' := by
  have hat := congrArg (·[index]?) h
  simp only [signedInputs_getElem?, List.getElem?_eq_getElem hindex, Option.map_some] at hat
  cases hright : inputs'[index]? with
  | none => simp [hright] at hat
  | some input' =>
    simp only [hright, Option.map_some, Option.some.injEq, TxIn.mk.injEq, if_true] at hat
    by_cases heq : index' = index
    · exact ⟨heq.symm, by simpa [heq] using hat.2.2.1⟩
    · exact absurd hat.2.2.1 (by simp [heq, hscript])

/-- An input that can be signed, in a transaction whose lengths a count can say. -/
structure Signable (t : UnsignedTransaction) (index : ℕ) : Prop where
  valid : index < t.inputs.length
  redeemScript : ∃ script, t.redeemScripts[index]? = some script ∧ script ≠ [] ∧
    script.length < 2 ^ 64
  inputCount : t.inputs.length < 2 ^ 64
  outputCount : t.outputs.length < 2 ^ 64
  scriptPubkeys : ∀ output ∈ t.outputs, output.scriptPubkey.length < 2 ^ 64

/-- All that a signature for an input commits to. -/
structure SameCommitment (t t' : UnsignedTransaction) (index index' : ℕ) : Prop where
  version : t.version = t'.version
  inputs : t.inputs.map outpoint = t'.inputs.map outpoint
  outputs : t.outputs = t'.outputs
  locktime : t.locktime = t'.locktime
  sameIndex : index = index'
  redeemScript : t.redeemScripts[index]? = t'.redeemScripts[index']?

variable {t t' : UnsignedTransaction} {index index' : ℕ} {script : ByteString}

theorem sighashPreimage_all (hindex : index < t.inputs.length)
    (hscript : t.redeemScripts[index]? = some script) :
    t.sighashPreimage index sighashAllType =
      .ok (serializeTransaction t.version (signedInputs t.inputs index script) t.outputs t.locktime ++
        u32Le sighashAllType) := by
  have hbase : sighashAllType &&& 0x1f = 1 := by decide
  have hone : sighashAllType &&& 0x80 = 0 := by decide
  have hnotSingle : ¬ ((1 : UInt32) = 0x03 ∧ index ≥ t.outputs.length) := fun h =>
    absurd h.1 (by decide)
  simp [UnsignedTransaction.sighashPreimage, List.getElem?_eq_getElem hindex, hscript, hbase, hone,
    signedInputs]

theorem Signable.encodable (h : Signable t index) (hscript : t.redeemScripts[index]? = some script) :
    Encodable (signedInputs t.inputs index script) t.outputs where
  inputCount := by
    rw [signedInputs_length]
    exact h.inputCount
  scriptSigs := by
    intro input hinput
    rcases List.mem_iff_getElem?.mp hinput with ⟨other, hother⟩
    rw [signedInputs_getElem?] at hother
    rcases Option.map_eq_some_iff.mp hother with ⟨own, -, rfl⟩
    rcases h.redeemScript with ⟨script', hscript', -, hlen⟩
    cases hscript.symm.trans hscript'
    by_cases heq : index = other
    · simpa [heq] using hlen
    · simp [heq]
  outputCount := h.outputCount
  scriptPubkeys := h.scriptPubkeys

theorem preimage_eq_iff (h : Signable t index) (h' : Signable t' index') :
    t.sighashPreimage index sighashAllType = t'.sighashPreimage index' sighashAllType ↔
      SameCommitment t t' index index' := by
  rcases h.redeemScript with ⟨script, hscript, hne, -⟩
  rcases h'.redeemScript with ⟨script', hscript', -⟩
  rw [sighashPreimage_all h.valid hscript, sighashPreimage_all h'.valid hscript', Except.ok.injEq]
  constructor
  · intro heq
    rcases serializeTransaction_inj (h.encodable hscript) (h'.encodable hscript') heq with
      ⟨hversion, hinputs, houtputs, hlocktime, -⟩
    rcases signedInputs_index h.valid hne hinputs with ⟨rfl, rfl⟩
    have houtpoints := congrArg (List.map outpoint) hinputs
    rw [signedInputs_outpoint, signedInputs_outpoint] at houtpoints
    exact ⟨hversion, houtpoints, houtputs, hlocktime, rfl, hscript.trans hscript'.symm⟩
  · intro hsame
    have hindex := hsame.sameIndex
    subst hindex
    have hscripts := hsame.redeemScript
    rw [hscript, hscript'] at hscripts
    cases hscripts
    rw [hsame.version, hsame.outputs, hsame.locktime, signedInputs_congr index script hsame.inputs]

/-- ScriptSigs are not part of what is hashed, on the error paths either. -/
theorem sighashPreimage_congr (hversion : t'.version = t.version) (houtputs : t'.outputs = t.outputs)
    (hlocktime : t'.locktime = t.locktime) (hscripts : t'.redeemScripts = t.redeemScripts)
    (hinputs : t'.inputs.map outpoint = t.inputs.map outpoint) (index : ℕ) :
    t'.sighashPreimage index sighashAllType = t.sighashPreimage index sighashAllType := by
  have hlen : t'.inputs.length = t.inputs.length := by simpa using congrArg List.length hinputs
  by_cases hindex : index < t.inputs.length
  · have hindex' : index < t'.inputs.length := hlen ▸ hindex
    cases hscript : t.redeemScripts[index]? with
    | none =>
      have hscript' : t'.redeemScripts[index]? = none := by rw [hscripts, hscript]
      simp [UnsignedTransaction.sighashPreimage, hindex, hindex', hscript, hscript', orBail, bail]
    | some script =>
      have hscript' : t'.redeemScripts[index]? = some script := by rw [hscripts, hscript]
      rw [sighashPreimage_all hindex hscript, sighashPreimage_all hindex' hscript', hversion,
        houtputs, hlocktime, signedInputs_congr index script hinputs]
  · simp [UnsignedTransaction.sighashPreimage, hindex, orBail, bail, hlen]

/-- A scriptSig has been put into some input. -/
def Scripted (t t' : UnsignedTransaction) : Prop :=
  ∃ index signatures, t.applyScriptSig index signatures = .ok t'

theorem Scripted.sighashPreimage (h : Scripted t t') (index : ℕ) :
    t'.sighashPreimage index sighashAllType = t.sighashPreimage index sighashAllType := by
  rcases h with ⟨scripted, signatures, happly⟩
  rcases bind_eq_ok.mp happly with ⟨input, hinput, happly⟩
  rcases bind_eq_ok.mp happly with ⟨script, -, happly⟩
  cases happly
  apply sighashPreimage_congr (by rfl) (by rfl) (by rfl) (by rfl)
  apply List.ext_getElem?
  intro other
  have hinput := orBail_eq_ok.mp hinput
  rw [List.getElem?_map, List.getElem?_map, List.getElem?_set]
  by_cases heq : scripted = other
  · subst heq
    have hlt : scripted < t.inputs.length := (List.getElem?_eq_some_iff.mp hinput).1
    rw [if_pos rfl, if_pos hlt, hinput]
    rfl
  · simp [heq]

section
variable [Hashes]

theorem scripted_sighashAll (h : ReflTransGen Scripted t t') (index : ℕ) :
    t'.sighashAll index = t.sighashAll index := by
  induction h with
  | refl => rfl
  | tail _ hstep ih =>
    rw [← ih, UnsignedTransaction.sighashAll, UnsignedTransaction.sighash, hstep.sighashPreimage]
    rfl

/-- Two inputs of one transaction hash different bytes. -/
theorem preimages_distinct (h : Signable t index) (h' : Signable t index') (hne : index ≠ index') :
    ∃ bytes bytes', t.sighashPreimage index sighashAllType = .ok bytes ∧
      t.sighashPreimage index' sighashAllType = .ok bytes' ∧ bytes ≠ bytes' ∧
      (t.sighashAll index = t.sighashAll index' ↔ doubleSha256 bytes = doubleSha256 bytes') := by
  rcases h.redeemScript with ⟨script, hscript, -⟩
  rcases h'.redeemScript with ⟨script', hscript', -⟩
  have hbytes := sighashPreimage_all h.valid hscript
  have hbytes' := sighashPreimage_all h'.valid hscript'
  refine ⟨_, _, hbytes, hbytes', fun heq => ?_, ?_⟩
  · have hsame := (preimage_eq_iff h h').mp (by rw [hbytes, hbytes', heq])
    exact hne hsame.sameIndex
  · simp [UnsignedTransaction.sighashAll, UnsignedTransaction.sighash, hbytes, hbytes']

end

section
open Digests

/-- Two inputs of one deposit under one redeem script, and one output. -/
def localPair : UnsignedTransaction :=
  .built [⟨List.Vector.replicate 32 9, 0, [0x51]⟩, ⟨List.Vector.replicate 32 9, 1, [0x51]⟩]
    [⟨10000, .p2pkh, List.Vector.replicate 20 0x33⟩]

theorem localPair_signable {index : ℕ} (h : index < 2) : Signable localPair index where
  valid := h
  redeemScript := by
    refine ⟨[0x51], ?_, by decide, by decide⟩
    interval_cases index <;> rfl
  inputCount := by decide
  outputCount := by decide
  scriptPubkeys := by decide

end

end DogeOperator.Preimage
