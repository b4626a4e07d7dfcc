import Mathlib.Data.List.GetD
import DogeOperator.Digests
import DogeOperator.Manager
import DogeOperator.TxRecovery

/-! What applying a manager response does: which responses are accepted, which signatures each
input gets, and that a refused response leaves the transaction untouched. -/
namespace DogeOperator.Manager
open Bytes Outcome Crypto Tx

/-- A transaction as the program obtains one, fresh or recovered. -/
def Constructed (t : UnsignedTransaction) : Prop :=
  (∃ inputs outputs, UnsignedTransaction.new inputs outputs = .ok t) ∨
    ∃ bytes inputs, UnsignedTransaction.fromPersistedBytes bytes inputs = .ok t

/-- There is an input, and every input has a redeem script. -/
structure WellFormed (t : UnsignedTransaction) : Prop where
  inputs : t.inputs ≠ []
  redeemScripts : t.redeemScripts.length = t.inputs.length

theorem built_wellFormed {inputs : List SelectedUtxo} (outputs : List TransactionOutput)
    (h : inputs ≠ []) : WellFormed (UnsignedTransaction.built inputs outputs) := by
  constructor
  · simpa [UnsignedTransaction.built] using h
  · simp [UnsignedTransaction.built]

theorem Constructed.wellFormed {t : UnsignedTransaction} (h : Constructed t) : WellFormed t := by
  rcases h with ⟨inputs, outputs, h⟩ | ⟨bytes, inputs, h⟩
  · obtain ⟨hi, -, rfl⟩ := UnsignedTransaction.new_eq_ok.mp h
    exact built_wellFormed outputs hi
  · obtain ⟨hi, -, outputs, -, -, rfl, -⟩ := UnsignedTransaction.fromPersistedBytes_sound h
    exact built_wellFormed outputs hi

/-! The collecting loops. -/

/-- The signatures of the signers met so far, by input. -/
def columns (count : ℕ) (signers : List SignerSignatures) : PerInput :=
  (List.range count).map fun index =>
    signers.map fun signer => (signer.signerIndex, signer.inputSignatures.getD index [])

@[simp] theorem columns_length (count : ℕ) (signers : List SignerSignatures) :
    (columns count signers).length = count := by
  simp [columns]

theorem columns_nil (count : ℕ) : columns count [] = List.replicate count [] := by
  simp [columns, List.map_const']

/-- Pushing one signer's signatures adds a row to the columns. -/
theorem columns_snoc {count : ℕ} (signers : List SignerSignatures) {signer : SignerSignatures}
    (h : signer.inputSignatures.length = count) :
    (columns count signers).zipWith
        (fun column signature => column ++ [(signer.signerIndex, signature)])
        signer.inputSignatures = columns count (signers ++ [signer]) := by
  apply List.ext_getElem (by simp [h])
  intro index h1 h2
  have hi : index < signer.inputSignatures.length := by
    rw [columns_length] at h2
    omega
  simp [columns, List.getD_eq_getElem?_getD, List.getElem?_eq_getElem hi]

theorem modify_append {α : Type} (f : α → α) (front : List α) (x : α) (back : List α) :
    (front ++ x :: back).modify front.length f = front ++ f x :: back := by
  induction front with
  | nil => rfl
  | cons y front ih => simp [ih]

section
variable [Secp256k1]

/-- A DER signature of the digest under the key, with the `SIGHASH_ALL` byte behind it. -/
def ValidSignature (pubkey : FixedBytes 33) (digest : FixedBytes 32) (signature : ByteString) : Prop :=
  ∃ der pk sig, signature = der ++ [0x01] ∧ Secp256k1.publicKeyFromSlice pubkey = .ok pk ∧
    Secp256k1.signatureFromDer der = .ok sig ∧ Secp256k1.verifyEcdsa digest sig pk = true

theorem verifyManagerSignature_eq_true {pubkey : FixedBytes 33} {digest : FixedBytes 32}
    {signature : ByteString} :
    verifyManagerSignature pubkey digest signature = .ok true ↔
      ValidSignature pubkey digest signature := by
  unfold verifyManagerSignature ValidSignature
  rcases List.eq_nil_or_concat' signature with rfl | ⟨der, hashType, rfl⟩
  · simp [bail]
  · rw [List.getLast?_concat, List.dropLast_concat]
    dsimp only
    constructor
    · intro h
      obtain ⟨htype, h⟩ := guard_bind_eq_ok.mp h
      obtain ⟨pk, hpk, h⟩ := bind_eq_ok.mp h
      obtain ⟨sig, hsig, h⟩ := bind_eq_ok.mp h
      rw [pure_eq_ok, Except.ok.injEq] at h
      exact ⟨der, pk, sig, by rw [not_not.mp htype]; rfl, mapError_eq_ok.mp hpk,
        mapError_eq_ok.mp hsig, h⟩
    · rintro ⟨der', pk, sig, heq, hpk, hsig, hverify⟩
      obtain ⟨rfl, hbyte⟩ := List.append_inj' heq rfl
      obtain rfl := List.singleton_inj.mp hbyte
      refine guard_bind_eq_ok.mpr ⟨not_not.mpr rfl, ?_⟩
      rw [mapError_eq_ok.mpr hpk, ok_bind, mapError_eq_ok.mpr hsig, ok_bind, hverify]
      rfl

/-- The inner loop succeeds exactly when every signature verifies against its digest. -/
theorem pushSignatures_eq_ok {pubkey : FixedBytes 33} {signerIndex : UInt8}
    {digestsFront digests : List (FixedBytes 32)} {signatures : List ByteString}
    {front back result : PerInput} (hfront : digestsFront.length = front.length)
    (hdigests : digests.length = signatures.length) (hback : back.length = signatures.length) :
    pushSignatures pubkey signerIndex (digestsFront ++ digests) front.length signatures
        (front ++ back) = .ok result ↔
      List.Forall₂ (ValidSignature pubkey) digests signatures ∧
        result = front ++ back.zipWith (fun column signature => column ++ [(signerIndex, signature)])
          signatures := by
  induction signatures generalizing digestsFront digests front back with
  | nil =>
    rw [List.length_nil, List.length_eq_zero_iff] at hdigests hback
    subst hdigests hback
    simp [pushSignatures, eq_comm]
  | cons signature rest ih =>
    obtain ⟨digest, digests, rfl⟩ := List.exists_cons_of_length_eq_add_one hdigests
    obtain ⟨column, back, rfl⟩ := List.exists_cons_of_length_eq_add_one hback
    have hat : (digestsFront ++ digest :: digests)[front.length]? = some digest := by
      rw [← hfront, List.getElem?_append_right le_rfl, Nat.sub_self]
      rfl
    have hnext : pushSignatures pubkey signerIndex ((digestsFront ++ [digest]) ++ digests)
        (front ++ [column ++ [(signerIndex, signature)]]).length rest
        ((front ++ [column ++ [(signerIndex, signature)]]) ++ back) = .ok result ↔ _ :=
      ih (by simp [hfront]) (by simpa using hdigests) (by simpa using hback)
    simp only [List.length_append, List.length_singleton, List.append_assoc,
      List.singleton_append] at hnext
    rw [pushSignatures, hat, orBail_some, ok_bind, bind_eq_ok]
    constructor
    · rintro ⟨valid, hvalid, h⟩
      obtain ⟨hpass, h⟩ := guard_bind_eq_ok.mp h
      rw [modify_append, hnext] at h
      rw [not_not.mp hpass, verifyManagerSignature_eq_true] at hvalid
      exact ⟨.cons hvalid h.1, by simpa using h.2⟩
    · rintro ⟨hvalid, rfl⟩
      cases hvalid with
      | cons hhead htail =>
        refine ⟨true, verifyManagerSignature_eq_true.mpr hhead,
          guard_bind_eq_ok.mpr ⟨not_not.mpr rfl, ?_⟩⟩
        rw [modify_append, hnext]
        exact ⟨htail, by simp⟩

/-- The signer is known, signs every input once, and every signature is valid. -/
def SignerValid (digests : List (FixedBytes 32)) (pubkeys : List (FixedBytes 33))
    (signer : SignerSignatures) : Prop :=
  ∃ pubkey, pubkeys[signer.signerIndex.toNat]? = some pubkey ∧
    List.Forall₂ (ValidSignature pubkey) digests signer.inputSignatures

/-- The outer loop succeeds exactly when no signer repeats and every signer is valid. -/
theorem collectSignatures_eq_ok {managerSet : ManagerSet} {digests : List (FixedBytes 32)}
    {met rest : List SignerSignatures} {seen : List UInt8} {result : PerInput} :
    collectSignatures managerSet digests digests.length rest seen (columns digests.length met) =
        .ok result ↔
      (rest.map SignerSignatures.signerIndex).Nodup ∧ (∀ signer ∈ rest, signer.signerIndex ∉ seen) ∧
        (∀ signer ∈ rest, SignerValid digests managerSet.pubkeys signer) ∧
        result = columns digests.length (met ++ rest) := by
  induction rest generalizing met seen with
  | nil => simp [collectSignatures, eq_comm]
  | cons signer rest ih =>
    have hpush (pubkey : FixedBytes 33) (hlen : signer.inputSignatures.length = digests.length)
        (pushed : PerInput) :
        pushSignatures pubkey signer.signerIndex digests 0 signer.inputSignatures
            (columns digests.length met) = .ok pushed ↔
          List.Forall₂ (ValidSignature pubkey) digests signer.inputSignatures ∧
            pushed = columns digests.length (met ++ [signer]) := by
      have h : pushSignatures pubkey signer.signerIndex ([] ++ digests) [].length
          signer.inputSignatures ([] ++ columns digests.length met) = .ok pushed ↔ _ :=
        pushSignatures_eq_ok rfl hlen.symm (by rw [columns_length, hlen])
      rw [columns_snoc met hlen] at h
      exact h
    simp only [List.map_cons, List.nodup_cons, List.forall_mem_cons]
    constructor
    · intro h
      rw [collectSignatures] at h
      obtain ⟨hseen, h⟩ := guard_bind_eq_ok.mp h
      obtain ⟨pubkey, hkey, h⟩ := bind_eq_ok.mp h
      obtain ⟨hlen, h⟩ := guard_bind_eq_ok.mp h
      obtain ⟨pushed, hpushed, h⟩ := bind_eq_ok.mp h
      obtain ⟨hvalid, rfl⟩ := (hpush pubkey (not_not.mp hlen) pushed).mp hpushed
      obtain ⟨hnodup, hfresh, hrest, rfl⟩ := ih.mp h
      refine ⟨⟨?_, hnodup⟩, ⟨hseen, ?_⟩, ⟨⟨pubkey, orBail_eq_ok.mp hkey, hvalid⟩, hrest⟩, by simp⟩
      · intro hmem
        obtain ⟨other, hother, heq⟩ := List.mem_map.mp hmem
        exact hfresh other hother (heq ▸ List.mem_cons_self)
      · exact fun other hother hmem => hfresh other hother (List.mem_cons_of_mem _ hmem)
    · rintro ⟨⟨hnew, hnodup⟩, ⟨hseen, hfresh⟩, ⟨⟨pubkey, hkey, hvalid⟩, hrest⟩, rfl⟩
      rw [collectSignatures]
      refine guard_bind_eq_ok.mpr ⟨hseen, ?_⟩
      rw [hkey, orBail_some, ok_bind]
      refine guard_bind_eq_ok.mpr ⟨not_not.mpr hvalid.length_eq.symm, ?_⟩
      rw [(hpush pubkey hvalid.length_eq.symm _).mpr ⟨hvalid, rfl⟩, ok_bind, ih]
      refine ⟨hnodup, ?_, hrest, by simp⟩
      intro other hother hmem
      rcases List.mem_cons.mp hmem with heq | hmem
      · exact hnew (heq ▸ List.mem_map_of_mem hother)
      · exact hfresh other hother hmem

end

/-! The writing loop. -/

def withScriptSig (script : ByteString) (input : TxIn) : TxIn := { input with scriptSig := script }

/-- The inputs with scriptSigs from the given place on. -/
def signFrom (m : UInt8) (redeemScripts : List ByteString) (start : ℕ) (perInput : PerInput)
    (inputs : List TxIn) : List TxIn :=
  inputs.mapIdx fun index input =>
    if start ≤ index then
      withScriptSig (scriptSigBytes (selectSignatures m (perInput.getD (index - start) []))
        (redeemScripts.getD index [])) input
    else input

theorem modify_eq_set_getElem {α : Type} (f : α → α) {xs : List α} {index : ℕ}
    (h : index < xs.length) : xs.modify index f = xs.set index (f xs[index]) := by
  apply List.ext_getElem (by simp)
  intro i h1 h2
  rw [List.getElem_modify, List.getElem_set]
  split_ifs with hi
  · subst hi
    rfl
  · rfl

theorem applyScriptSig_eq {t : UnsignedTransaction} {index : ℕ} (signatures : List ByteString)
    (hindex : index < t.inputs.length) (hscripts : t.redeemScripts.length = t.inputs.length) :
    t.applyScriptSig index signatures = .ok { t with
      inputs := t.inputs.modify index
        (withScriptSig (scriptSigBytes signatures (t.redeemScripts.getD index []))) } := by
  have hscript : index < t.redeemScripts.length := hscripts ▸ hindex
  unfold UnsignedTransaction.applyScriptSig
  rw [List.getElem?_eq_getElem hindex, List.getElem?_eq_getElem hscript, orBail_some, ok_bind,
    orBail_some, ok_bind, List.getD_eq_getElem?_getD, List.getElem?_eq_getElem hscript,
    modify_eq_set_getElem _ hindex]
  rfl

theorem signFrom_succ {m : UInt8} {redeemScripts : List ByteString} {start : ℕ}
    {column : List (UInt8 × ByteString)} {rest : PerInput} {inputs : List TxIn} :
    signFrom m redeemScripts (start + 1) rest (inputs.modify start
        (withScriptSig (scriptSigBytes (selectSignatures m column) (redeemScripts.getD start [])))) =
      signFrom m redeemScripts start (column :: rest) inputs := by
  apply List.ext_getElem (by simp [signFrom])
  intro index h1 h2
  simp only [signFrom, List.getElem_mapIdx, List.getElem_modify]
  rcases Nat.lt_trichotomy index start with hlt | rfl | hgt
  · rw [if_neg (by omega), if_neg (by omega), if_neg (by omega)]
  · simp
  · obtain ⟨offset, rfl⟩ := Nat.exists_eq_add_of_lt hgt
    rw [if_pos (by omega), if_neg (by omega), if_pos (by omega)]
    have h1 : start + offset + 1 - (start + 1) = offset := by omega
    have h2 : start + offset + 1 - start = offset + 1 := by omega
    rw [h1, h2, List.getD_cons_succ]

/-- With enough signatures for every input, every scriptSig is written. -/
theorem writeScriptSigs_enough {m : UInt8} {start : ℕ} {perInput : PerInput}
    {t : UnsignedTransaction} (hlen : start + perInput.length = t.inputs.length)
    (hscripts : t.redeemScripts.length = t.inputs.length)
    (henough : ∀ column ∈ perInput, m.toNat ≤ column.length) :
    writeScriptSigs m start perInput t =
      (.ok (), { t with inputs := signFrom m t.redeemScripts start perInput t.inputs }) := by
  induction perInput generalizing start t with
  | nil =>
    have hid : signFrom m t.redeemScripts start [] t.inputs = t.inputs := by
      apply List.ext_getElem (by simp [signFrom])
      intro index h1 h2
      rw [List.length_nil, Nat.add_zero] at hlen
      simp only [signFrom, List.getElem_mapIdx]
      rw [if_neg (by omega)]
    rw [writeScriptSigs, hid]
  | cons column rest ih =>
    rw [List.length_cons] at hlen
    rw [List.forall_mem_cons] at henough
    rw [writeScriptSigs, if_neg (not_lt.mpr henough.1),
      applyScriptSig_eq _ (by omega) hscripts]
    dsimp only
    rw [ih (by rw [List.length_modify]; omega) (by rw [List.length_modify, hscripts]) henough.2,
      signFrom_succ]

/-- Too few signers are refused at the first input, before anything is written. -/
theorem writeScriptSigs_few {m : UInt8} {column : List (UInt8 × ByteString)} {rest : PerInput}
    {t : UnsignedTransaction} (h : column.length < m.toNat) :
    ∃ error, writeScriptSigs m 0 (column :: rest) t = (.error error, t) := by
  rw [writeScriptSigs, if_pos h]
  exact ⟨_, rfl⟩

/-! The lowest signers. -/

def byIndex (a b : SignerSignatures) : Prop := a.signerIndex ≤ b.signerIndex

instance : DecidableRel byIndex := fun a b => inferInstanceAs (Decidable (a.signerIndex ≤ b.signerIndex))

instance : Std.Total byIndex := ⟨fun a b => UInt8.le_total a.signerIndex b.signerIndex⟩

instance : IsTrans SignerSignatures byIndex := ⟨fun _ _ _ => UInt8.le_trans⟩

/-- The first `m` signers in the order of their indices. -/
def lowestSigners (m : UInt8) (signers : List SignerSignatures) : List SignerSignatures :=
  (signers.insertionSort byIndex).take m.toNat

/-- These are `m` of the signers, in strictly increasing order, and all others come later. -/
structure LowestSigners (m : UInt8) (signers chosen : List SignerSignatures) : Prop where
  length : chosen.length = m.toNat
  subset : chosen ⊆ signers
  increasing : chosen.Pairwise fun a b => a.signerIndex < b.signerIndex
  lowest : ∀ signer ∈ signers, signer ∉ chosen → ∀ c ∈ chosen, c.signerIndex < signer.signerIndex

theorem selectSignatures_column {m : UInt8} (signers : List SignerSignatures)
    (signature : SignerSignatures → ByteString) :
    selectSignatures m (signers.map fun signer => (signer.signerIndex, signature signer)) =
      (lowestSigners m signers).map signature := by
  unfold selectSignatures lowestSigners
  rw [← List.map_insertionSort byIndex (fun a b : UInt8 × ByteString => a.1 ≤ b.1) _ signers
    (fun _ _ _ _ => Iff.rfl), ← List.map_take, List.map_map]
  rfl

/-- Distinct indices sort into strictly increasing order. -/
theorem sortedSigners_increasing {signers : List SignerSignatures}
    (h : (signers.map SignerSignatures.signerIndex).Nodup) :
    (signers.insertionSort byIndex).Pairwise fun a b => a.signerIndex < b.signerIndex := by
  have hperm := List.perm_insertionSort byIndex signers
  have hnodup : (signers.insertionSort byIndex).Pairwise fun a b => a.signerIndex ≠ b.signerIndex :=
    List.pairwise_map.mp ((hperm.map SignerSignatures.signerIndex).nodup_iff.mpr h)
  exact ((List.pairwise_insertionSort byIndex signers).and hnodup).imp
    fun hab => UInt8.lt_of_le_of_ne hab.1 hab.2

theorem lowestSigners_spec {m : UInt8} {signers : List SignerSignatures}
    (h : (signers.map SignerSignatures.signerIndex).Nodup) (hm : m.toNat ≤ signers.length) :
    LowestSigners m signers (lowestSigners m signers) := by
  have hperm := List.perm_insertionSort byIndex signers
  have hsorted := sortedSigners_increasing h
  refine ⟨?_, ?_, hsorted.sublist (List.take_sublist _ _), ?_⟩
  · rw [lowestSigners, List.length_take, hperm.length_eq]
    omega
  · exact fun signer hs => hperm.mem_iff.mp (List.mem_of_mem_take hs)
  · intro signer hs hnot c hc
    have hsplit := List.take_append_drop m.toNat (signers.insertionSort byIndex)
    have hmem : signer ∈ (signers.insertionSort byIndex).drop m.toNat := by
      have := hperm.mem_iff.mpr hs
      rw [← hsplit, List.mem_append] at this
      exact this.resolve_left hnot
    rw [← hsplit, List.pairwise_append] at hsorted
    exact hsorted.2.2 c hc signer hmem

theorem LowestSigners.nodup {m : UInt8} {signers chosen : List SignerSignatures}
    (h : LowestSigners m signers chosen) : chosen.Nodup := by
  refine List.Pairwise.imp ?_ h.increasing
  rintro a b hlt rfl
  exact UInt8.lt_irrefl _ hlt

/-- Neither of two choices has a signer that the other one lacks. -/
theorem LowestSigners.subset_of {m : UInt8} {signers chosen chosen' : List SignerSignatures}
    (h : LowestSigners m signers chosen) (h' : LowestSigners m signers chosen') :
    chosen ⊆ chosen' := by
  intro c hc
  by_contra hnot
  have hback : ¬ chosen' ⊆ chosen := fun hsub =>
    hnot (((h'.nodup.subperm hsub).perm_of_length_le (h.length.trans h'.length.symm).le).mem_iff.mpr
      hc)
  rcases not_forall₂.mp hback with ⟨c', hc', hnot'⟩
  exact UInt8.lt_asymm (h.lowest c' (h'.subset hc') hnot' c hc)
    (h'.lowest c (h.subset hc) hnot c' hc')

/-- There is only one such choice. -/
theorem LowestSigners.unique {m : UInt8} {signers chosen chosen' : List SignerSignatures}
    (h : LowestSigners m signers chosen) (h' : LowestSigners m signers chosen') :
    chosen = chosen' := by
  have hperm : chosen.Perm chosen' := (h.nodup.subperm (h.subset_of h')).perm_of_length_le
    (h'.length.trans h.length.symm).le
  exact hperm.eq_of_pairwise (fun a b _ _ hab hba => absurd hab (UInt8.lt_asymm hba))
    h.increasing h'.increasing

/-- With distinct indices the listing order does not matter. -/
theorem lowestSigners_perm {m : UInt8} {signers signers' : List SignerSignatures}
    (hperm : signers.Perm signers') (h : (signers.map SignerSignatures.signerIndex).Nodup) :
    lowestSigners m signers = lowestSigners m signers' := by
  have h' : (signers'.map SignerSignatures.signerIndex).Nodup := (hperm.map _).nodup_iff.mp h
  unfold lowestSigners
  congr 1
  refine List.Perm.eq_of_pairwise ?_ (sortedSigners_increasing h) (sortedSigners_increasing h') ?_
  · intro a b _ _ hab hba
    exact absurd hab (UInt8.lt_asymm hba)
  · exact (List.perm_insertionSort byIndex signers).trans
      (hperm.trans (List.perm_insertionSort byIndex signers').symm)

/-! The whole function. -/

section
variable [Secp256k1] [Hashes] {t : UnsignedTransaction} {managerSet : ManagerSet}
  {signers : List SignerSignatures}

/-- What makes a list of signers acceptable for a transaction. -/
structure Accepts (t : UnsignedTransaction) (managerSet : ManagerSet)
    (signers : List SignerSignatures) : Prop where
  distinct : (signers.map SignerSignatures.signerIndex).Nodup
  inRange : ∀ signer ∈ signers, signer.signerIndex.toNat < managerSet.pubkeys.length
  complete : ∀ signer ∈ signers, signer.inputSignatures.length = t.inputCount
  valid : ∀ signer ∈ signers, ∀ index < t.inputCount, ∃ pubkey digest,
    managerSet.pubkeys[signer.signerIndex.toNat]? = some pubkey ∧
    t.sighashAll index = .ok digest ∧
    ValidSignature pubkey digest (signer.inputSignatures.getD index [])
  quorum : managerSet.m.toNat ≤ signers.length

/-- Every input unlocked by the chosen signers, with its own redeem script. -/
def signedBy (t : UnsignedTransaction) (chosen : List SignerSignatures) : UnsignedTransaction :=
  { t with inputs := t.inputs.mapIdx fun index input =>
      withScriptSig (scriptSigBytes (chosen.map fun signer => signer.inputSignatures.getD index [])
        (t.redeemScripts.getD index [])) input }

omit [Secp256k1] in
/-- Every input of a well-formed transaction has a digest. -/
theorem sighashAll_isOk (h : WellFormed t) {index : ℕ} (hindex : index < t.inputCount) :
    ∃ digest, t.sighashAll index = .ok digest := by
  have hinput : t.inputs[index]? = some t.inputs[index] := List.getElem?_eq_getElem hindex
  have hscript : index < t.redeemScripts.length := h.redeemScripts ▸ hindex
  have hredeem : t.redeemScripts[index]? = some t.redeemScripts[index] :=
    List.getElem?_eq_getElem hscript
  unfold UnsignedTransaction.sighashAll UnsignedTransaction.sighash
    UnsignedTransaction.sighashPreimage
  rw [hinput, hredeem]
  exact ⟨_, rfl⟩

omit [Secp256k1] in
theorem sighashes_eq_ok (h : WellFormed t) :
    ∃ digests, (List.range t.inputCount).mapM t.sighashAll = .ok digests ∧
      digests.length = t.inputCount ∧
      ∀ index digest, digests[index]? = some digest → t.sighashAll index = .ok digest := by
  choose! digest hdigest using fun index (hindex : index < t.inputCount) => sighashAll_isOk h hindex
  refine ⟨(List.range t.inputCount).map digest, ?_, by simp, ?_⟩
  · exact mapM_ok_map fun index hi => hdigest index (List.mem_range.mp hi)
  · intro index d hd
    obtain ⟨i, hi, rfl⟩ := Option.map_eq_some_iff.mp (List.getElem?_map .. ▸ hd)
    obtain ⟨hlt, rfl⟩ := List.getElem?_eq_some_iff.mp hi
    rw [List.length_range] at hlt
    rw [List.getElem_range]
    exact hdigest index hlt

/-- Acceptance without the quorum is what the collecting loops check. -/
theorem accepts_iff {digests : List (FixedBytes 32)} (hlen : digests.length = t.inputCount)
    (hdigests : ∀ index digest, digests[index]? = some digest → t.sighashAll index = .ok digest) :
    Accepts t managerSet signers ↔ (signers.map SignerSignatures.signerIndex).Nodup ∧
      (∀ signer ∈ signers, SignerValid digests managerSet.pubkeys signer) ∧
      managerSet.m.toNat ≤ signers.length := by
  have hat : ∀ index < t.inputCount, ∃ digest, digests[index]? = some digest ∧
      t.sighashAll index = .ok digest := by
    intro index hindex
    have hd := List.getElem?_eq_getElem (hlen ▸ hindex : index < digests.length)
    exact ⟨_, hd, hdigests index _ hd⟩
  constructor
  · rintro ⟨hdistinct, hrange, hcomplete, hvalid, hquorum⟩
    refine ⟨hdistinct, fun signer hs => ?_, hquorum⟩
    refine ⟨_, List.getElem?_eq_getElem (hrange signer hs), ?_⟩
    rw [List.forall₂_iff_get]
    refine ⟨by rw [hlen, hcomplete signer hs], fun index h1 h2 => ?_⟩
    obtain ⟨pubkey, digest, hkey, hdigest, hsig⟩ := hvalid signer hs index (hlen ▸ h1)
    obtain ⟨digest', hget, hdigest'⟩ := hat index (hlen ▸ h1)
    rw [List.getElem?_eq_getElem (hrange signer hs)] at hkey
    rw [List.getElem?_eq_getElem h1] at hget
    rw [List.getD_eq_getElem _ _ h2] at hsig
    rw [List.get_eq_getElem, List.get_eq_getElem, Option.some.inj hget, Option.some.inj hkey,
      ← Except.ok.inj (hdigest.symm.trans hdigest')]
    exact hsig
  · rintro ⟨hdistinct, hvalid, hquorum⟩
    refine ⟨hdistinct, fun signer hs => ?_, fun signer hs => ?_, fun signer hs index hindex => ?_,
      hquorum⟩
    · obtain ⟨pubkey, hkey, -⟩ := hvalid signer hs
      exact (List.getElem?_eq_some_iff.mp hkey).1
    · obtain ⟨pubkey, -, hforall⟩ := hvalid signer hs
      rw [← hforall.length_eq, hlen]
    · obtain ⟨pubkey, hkey, hforall⟩ := hvalid signer hs
      obtain ⟨digest, hget, hdigest⟩ := hat index hindex
      obtain ⟨h1, hget⟩ := List.getElem?_eq_some_iff.mp hget
      have h2 : index < signer.inputSignatures.length := hforall.length_eq ▸ h1
      refine ⟨pubkey, digest, hkey, hdigest, ?_⟩
      rw [List.getD_eq_getElem _ _ h2, ← hget]
      exact (List.forall₂_iff_get.mp hforall).2 index h1 h2

omit [Secp256k1] [Hashes] in
/-- Writing the columns of enough signers signs every input with the lowest of them. -/
theorem writeScriptSigs_columns (h : WellFormed t)
    (hquorum : managerSet.m.toNat ≤ signers.length) :
    writeScriptSigs managerSet.m 0 (columns t.inputCount signers) t =
      (.ok (), signedBy t (lowestSigners managerSet.m signers)) := by
  have henough : ∀ column ∈ columns t.inputCount signers, managerSet.m.toNat ≤ column.length := by
    intro column hc
    obtain ⟨index, -, rfl⟩ := List.mem_map.mp hc
    rwa [List.length_map]
  have hlen : 0 + (columns t.inputCount signers).length = t.inputs.length := by
    rw [columns_length, Nat.zero_add]
    rfl
  rw [writeScriptSigs_enough hlen h.redeemScripts henough, signedBy]
  congr 2
  apply List.ext_getElem (by simp [signFrom])
  intro index h1 h2
  rw [List.length_mapIdx] at h2
  simp only [signFrom, List.getElem_mapIdx, if_pos (Nat.zero_le index), Nat.sub_zero]
  have hcolumn : (columns t.inputCount signers).getD index [] = signers.map fun signer =>
      (signer.signerIndex, signer.inputSignatures.getD index []) := by
    rw [columns, List.getD_eq_getElem?_getD, List.getElem?_map,
      List.getElem?_range (show index < t.inputCount from h2)]
    rfl
  rw [hcolumn, selectSignatures_column]

/-- An accepted response signs every input with the lowest signers. -/
theorem applyManagerSignatures_accepted {signatures : ManagerSignatures} (h : WellFormed t)
    (haccepts : Accepts t managerSet signatures.signatures) :
    applyManagerSignatures t signatures managerSet =
      (.ok (), signedBy t (lowestSigners managerSet.m signatures.signatures)) := by
  obtain ⟨digests, hmap, hlen, hdigests⟩ := sighashes_eq_ok h
  obtain ⟨hdistinct, hvalid, hquorum⟩ := (accepts_iff hlen hdigests).mp haccepts
  have hcollect : collectSignatures managerSet digests t.inputCount signatures.signatures []
      (List.replicate t.inputCount []) = .ok (columns t.inputCount signatures.signatures) := by
    rw [← hlen, ← columns_nil]
    exact collectSignatures_eq_ok.mpr ⟨hdistinct, by simp, hvalid, rfl⟩
  unfold applyManagerSignatures
  rw [hmap, ok_bind, hcollect]
  exact writeScriptSigs_columns h hquorum

/-- Any other response is refused, and the transaction is as before. -/
theorem applyManagerSignatures_refused {signatures : ManagerSignatures} (h : WellFormed t)
    (hrefused : ¬ Accepts t managerSet signatures.signatures) :
    ∃ error, applyManagerSignatures t signatures managerSet = (.error error, t) := by
  obtain ⟨digests, hmap, hlen, hdigests⟩ := sighashes_eq_ok h
  unfold applyManagerSignatures
  rw [hmap, ok_bind]
  cases hcollect : collectSignatures managerSet digests t.inputCount signatures.signatures []
      (List.replicate t.inputCount []) with
  | error error => exact ⟨error, rfl⟩
  | ok result =>
    rw [← hlen, ← columns_nil] at hcollect
    obtain ⟨hdistinct, -, hvalid, rfl⟩ := collectSignatures_eq_ok.mp hcollect
    rw [List.nil_append, hlen]
    have hfew : signatures.signatures.length < managerSet.m.toNat := by
      by_contra hquorum
      exact hrefused ((accepts_iff hlen hdigests).mpr ⟨hdistinct, hvalid, not_lt.mp hquorum⟩)
    obtain ⟨count, hcount⟩ : ∃ count, t.inputCount = count + 1 :=
      Nat.exists_eq_succ_of_ne_zero (by
        rw [UnsignedTransaction.inputCount, ne_eq, List.length_eq_zero_iff]
        exact h.inputs)
    rw [columns, hcount, List.range_succ_eq_map, List.map_cons]
    exact writeScriptSigs_few (by rwa [List.length_map])

/-- Listing the signers in another order neither helps nor hurts. -/
theorem Accepts.perm {signers' : List SignerSignatures} (hperm : signers.Perm signers')
    (h : Accepts t managerSet signers) : Accepts t managerSet signers' where
  distinct := (hperm.map _).nodup_iff.mp h.distinct
  inRange signer hs := h.inRange signer (hperm.mem_iff.mpr hs)
  complete signer hs := h.complete signer (hperm.mem_iff.mpr hs)
  valid signer hs := h.valid signer (hperm.mem_iff.mpr hs)
  quorum := hperm.length_eq ▸ h.quorum

/-- The exact behaviour: what is accepted, what is written, that a refusal writes nothing, and
that the listing order of the signers does not matter. -/
theorem applyManagerSignatures_exact (ht : Constructed t) (signatures : ManagerSignatures) :
    ((applyManagerSignatures t signatures managerSet).1 = .ok () ↔
        Accepts t managerSet signatures.signatures) ∧
      ((applyManagerSignatures t signatures managerSet).1 = .ok () →
        ∃ chosen, LowestSigners managerSet.m signatures.signatures chosen ∧
          (applyManagerSignatures t signatures managerSet).2 = signedBy t chosen) ∧
      (∀ error, (applyManagerSignatures t signatures managerSet).1 = .error error →
        (applyManagerSignatures t signatures managerSet).2 = t) ∧
      ∀ other : ManagerSignatures, signatures.signatures.Perm other.signatures →
        ((applyManagerSignatures t other managerSet).1 = .ok () ↔
          (applyManagerSignatures t signatures managerSet).1 = .ok ()) ∧
        (applyManagerSignatures t other managerSet).2 =
          (applyManagerSignatures t signatures managerSet).2 := by
  have h := ht.wellFormed
  by_cases haccepts : Accepts t managerSet signatures.signatures
  · have happly := applyManagerSignatures_accepted h haccepts
    have hchosen := lowestSigners_spec haccepts.distinct haccepts.quorum
    rw [happly]
    refine ⟨iff_of_true rfl haccepts, fun _ => ⟨_, hchosen, rfl⟩, fun error he => ?_, ?_⟩
    · cases he
    · intro other hperm
      rw [applyManagerSignatures_accepted h (haccepts.perm hperm),
        lowestSigners_perm hperm haccepts.distinct]
      exact ⟨Iff.rfl, rfl⟩
  · obtain ⟨error, happly⟩ := applyManagerSignatures_refused h haccepts
    rw [happly]
    refine ⟨iff_of_false (by simp) haccepts, fun hok => ?_, fun _ _ => rfl, ?_⟩
    · cases hok
    · intro other hperm
      obtain ⟨error', hother⟩ := applyManagerSignatures_refused h
        (fun hacc => haccepts (hacc.perm hperm.symm))
      rw [hother]
      exact ⟨iff_of_false (by simp) (by simp), rfl⟩

end

end DogeOperator.Manager

namespace DogeOperator.Digests
open Bytes Crypto Manager

/-- A stand-in for ECDSA over the fixture keys: a signature names its digest and its secret. -/
scoped instance : Secp256k1 where
  PublicKey := FixedBytes 33
  SecretKey := FixedBytes 32
  Signature := FixedBytes 32 × FixedBytes 32
  publicKeyFromSlice pubkey := .ok pubkey
  secretKeyFromByteArray secret := .ok secret
  signatureFromDer der :=
    match toFixed? 32 (der.take 32), toFixed? 32 (der.drop 32) with
    | some digest, some secret => .ok (digest, secret)
    | _, _ => .error "malformed signature"
  serializeDer signature := signature.1.toList ++ signature.2.toList
  signEcdsa digest secret := (digest, secret)
  verifyEcdsa digest signature pubkey := signature.1 = digest &&
    (localRegtestManagerPrivateKeys.zip localRegtestManagerSetPubkeys).contains (signature.2, pubkey)

end DogeOperator.Digests

namespace DogeOperator.Manager
open Bytes Crypto Tx Digests

/-- Two inputs, under scripts of one opcode. -/
def localTransaction : UnsignedTransaction :=
  UnsignedTransaction.built
    [{ transactionId := List.Vector.replicate 32 9, vout := 0, redeemScript := [0x51] },
      { transactionId := List.Vector.replicate 32 9, vout := 1, redeemScript := [0x52] }]
    [{ amount := 10000, addressType := .p2pkh, address := List.Vector.replicate 20 0x44 }]

def emptyResponse : ManagerSignatures where
  isComplete := true
  vaaHash := List.Vector.replicate 32 0
  vaaId := ""
  destinationChain := 65
  managerSetIndex := 0
  required := 5
  total := 7
  signatures := []

def fixtureSecret (index : ℕ) : FixedBytes 32 :=
  ⟨List.replicate 31 0 ++ [UInt8.ofNat (index + 1)], rfl⟩

/-- What a fixture key signs, with the hash type behind it. -/
def fixtureSignature (digest : FixedBytes 32) (index : ℕ) : ByteString :=
  digest.toList ++ (fixtureSecret index).toList ++ [0x01]

theorem fixtureSignature_valid {digest : FixedBytes 32} {pubkey : FixedBytes 33} {index : ℕ}
    (h : (localRegtestManagerPrivateKeys.zip localRegtestManagerSetPubkeys).contains
      (fixtureSecret index, pubkey) = true) :
    ValidSignature pubkey digest (fixtureSignature digest index) := by
  refine ⟨_, pubkey, (digest, fixtureSecret index), rfl, rfl, ?_, ?_⟩
  · have hdigest : (digest.toList ++ (fixtureSecret index).toList).take 32 = digest.toList :=
      List.take_left' digest.toList_length
    have hsecret : (digest.toList ++ (fixtureSecret index).toList).drop 32 =
        (fixtureSecret index).toList := List.drop_left' digest.toList_length
    simp only [Secp256k1.signatureFromDer, hdigest, hsecret, toFixed?_toList]
  · simp only [Secp256k1.verifyEcdsa, h, decide_true, Bool.and_true]

def fixtureSigner (first second : FixedBytes 32) (index : ℕ) : SignerSignatures where
  signerIndex := UInt8.ofNat index
  inputSignatures := [fixtureSignature first index, fixtureSignature second index]

/-- Five of the seven signers, in no order. -/
def quorumResponse (first second : FixedBytes 32) : ManagerSignatures :=
  { emptyResponse with signatures := [6, 3, 0, 4, 1].map (fixtureSigner first second) }

theorem quorumResponse_accepted {first second : FixedBytes 32}
    (hfirst : localTransaction.sighashAll 0 = .ok first)
    (hsecond : localTransaction.sighashAll 1 = .ok second) :
    Accepts localTransaction localRegtestManagerSet (quorumResponse first second).signatures where
  distinct := (by decide : ([6, 3, 0, 4, 1] : List UInt8).Nodup)
  inRange signer hs := by
    rcases List.mem_map.mp hs with ⟨index, hindex, rfl⟩
    exact (by decide : ∀ index ∈ [6, 3, 0, 4, 1], (UInt8.ofNat index).toNat <
      localRegtestManagerSet.pubkeys.length) index hindex
  complete signer hs := by
    rcases List.mem_map.mp hs with ⟨index, -, rfl⟩
    rfl
  valid signer hs input hinput := by
    rcases List.mem_map.mp hs with ⟨index, hindex, rfl⟩
    have hkeys : ∀ index ∈ [6, 3, 0, 4, 1], ∃ pubkey,
        localRegtestManagerSet.pubkeys[(UInt8.ofNat index).toNat]? = some pubkey ∧
        (localRegtestManagerPrivateKeys.zip localRegtestManagerSetPubkeys).contains
          (fixtureSecret index, pubkey) = true := by
      simp only [List.forall_mem_cons]
      exact ⟨⟨_, rfl, by decide⟩, ⟨_, rfl, by decide⟩, ⟨_, rfl, by decide⟩, ⟨_, rfl, by decide⟩,
        ⟨_, rfl, by decide⟩, by simp⟩
    rcases hkeys index hindex with ⟨pubkey, hpubkey, hkey⟩
    rcases Nat.le_one_iff_eq_zero_or_eq_one.mp (Nat.lt_succ_iff.mp hinput) with rfl | rfl
    · exact ⟨pubkey, first, hpubkey, hfirst, fixtureSignature_valid hkey⟩
    · exact ⟨pubkey, second, hpubkey, hsecond, fixtureSignature_valid hkey⟩
  quorum := (by decide : 5 ≤ 5)

/-- Both inputs get the signatures of their own digest, in the order of the signers. -/
theorem applyManagerSignatures_exact_local :
    ∃ first second t', localTransaction.sighashAll 0 = .ok first ∧
      localTransaction.sighashAll 1 = .ok second ∧
      applyManagerSignatures localTransaction (quorumResponse first second) localRegtestManagerSet =
        (.ok (), t') ∧
      t'.inputs.map TxIn.scriptSig =
        [scriptSigBytes ([0, 1, 3, 4, 6].map (fixtureSignature first)) [0x51],
          scriptSigBytes ([0, 1, 3, 4, 6].map (fixtureSignature second)) [0x52]] := by
  have hnew : Constructed localTransaction := .inl ⟨_, _, UnsignedTransaction.new_eq_ok.mpr
    ⟨List.cons_ne_nil _ _, List.cons_ne_nil _ _, rfl⟩⟩
  rcases sighashAll_isOk hnew.wellFormed (by decide : 0 < localTransaction.inputCount) with
    ⟨first, hfirst⟩
  rcases sighashAll_isOk hnew.wellFormed (by decide : 1 < localTransaction.inputCount) with
    ⟨second, hsecond⟩
  have haccepts := quorumResponse_accepted hfirst hsecond
  rcases @applyManagerSignatures_exact _ _ _ localRegtestManagerSet hnew
    (quorumResponse first second) with ⟨hok, hwritten, -⟩
  rcases hwritten (hok.mpr haccepts) with ⟨chosen, hchosen, hafter⟩
  have hsame := hchosen.unique (lowestSigners_spec haccepts.distinct haccepts.quorum)
  refine ⟨first, second, _, hfirst, hsecond, Prod.ext (hok.mpr haccepts) hafter, ?_⟩
  rw [hsame]
  rfl

end DogeOperator.Manager
