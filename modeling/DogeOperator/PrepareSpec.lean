import DogeOperator.Prepare
import DogeOperator.TxRecovery

/-! What a successful preparation has checked and built. Fresh construction and recovery
share every check; they differ only in where the transaction comes from. -/
namespace DogeOperator.Prepare
open Bytes Outcome Crypto Utx0 Redeem Tx Network Manager Records

section
variable [Hashes]

/-- The redeem script that locks custody for a recipient. -/
def custodyScript (bridgeState : Pubkey) (managerSet : ManagerSet) (recipient : FixedBytes 32) :
    ByteString :=
  scriptBytes solanaEmitterChain bridgeState recipient managerSet.m managerSet.pubkeys

def custodyHash (bridgeState : Pubkey) (managerSet : ManagerSet) (recipient : FixedBytes 32) :
    FixedBytes 20 :=
  hash160 (custodyScript bridgeState managerSet recipient)

/-- The input a recorded UTXO becomes. -/
def selectedUtxo (bridgeState : Pubkey) (managerSet : ManagerSet) (utxo : CustodyUtxo) :
    SelectedUtxo where
  transactionId := utxo.txid.reverse
  vout := utxo.vout
  redeemScript := custodyScript bridgeState managerSet utxo.originalRecipientAddress

/-- The recorded address and script are the ones the redeem script determines. -/
structure Matches [Base58Check] (bridgeState : Pubkey) (managerSet : ManagerSet)
    (utxo : CustodyUtxo) : Prop where
  quorum : QuorumValid managerSet.m managerSet.pubkeys
  address : utxo.custodyAddress =
    DogeNetwork.p2shAddress (custodyHash bridgeState managerSet utxo.originalRecipientAddress)
  script : utxo.scriptPubkeyHex = "" ∨ eqIgnoreAsciiCase utxo.scriptPubkeyHex
    (hexEncode (p2shScriptPubkey
      (custodyHash bridgeState managerSet utxo.originalRecipientAddress))) = true

/-- Change pays the custody script of the zero recipient. -/
def changeOutput (bridgeState : Pubkey) (managerSet : ManagerSet) (changeSats : UInt64) :
    TransactionOutput where
  amount := changeSats
  addressType := .p2sh
  address := custodyHash bridgeState managerSet zeroRecipient

def changeOutputs (bridgeState : Pubkey) (managerSet : ManagerSet) (changeSats : UInt64) :
    List TransactionOutput :=
  if changeSats = 0 then [] else [changeOutput bridgeState managerSet changeSats]

def changeHash (bridgeState : Pubkey) (managerSet : ManagerSet) (changeSats : UInt64) :
    Option (FixedBytes 20) :=
  if changeSats = 0 then none else some (custodyHash bridgeState managerSet zeroRecipient)

/-- The authorized outputs in payload order, then the change. -/
def plannedOutputs (bridgeState : Pubkey) (payload : Utx0UnlockPayload) (managerSet : ManagerSet)
    (changeSats : UInt64) : List TransactionOutput :=
  payload.outputs.map toTransactionOutput ++ changeOutputs bridgeState managerSet changeSats

variable [Base58Check]

theorem selectUtxo_eq_ok {args : Args} {bridgeState : Pubkey} {managerSet : ManagerSet}
    {utxo : CustodyUtxo} {selected : SelectedUtxo} :
    selectUtxo args bridgeState managerSet utxo = .ok selected ↔
      Matches bridgeState managerSet utxo ∧ selected = selectedUtxo bridgeState managerSet utxo := by
  unfold selectUtxo
  constructor
  · intro h
    obtain ⟨redeemScript, hr, h⟩ := bind_eq_ok.mp h
    obtain ⟨hq, rfl⟩ := buildRedeemScript_eq_ok.mp hr
    dsimp only at h
    rw [DogeNetwork.encodeAddress_p2sh, ok_bind] at h
    obtain ⟨haddr, h⟩ := guard_bind_eq_ok.mp h
    obtain ⟨hscript, h⟩ := guard_bind_eq_ok.mp h
    refine ⟨⟨hq, (not_not.mp haddr).symm, ?_⟩, (Except.ok.inj h).symm⟩
    rw [not_and_or, not_not, not_not] at hscript
    exact hscript
  · rintro ⟨⟨hq, haddr, hscript⟩, rfl⟩
    rw [buildRedeemScript_eq_ok.mpr ⟨hq, rfl⟩, ok_bind]
    dsimp only
    rw [DogeNetwork.encodeAddress_p2sh, ok_bind]
    refine guard_bind_eq_ok.mpr ⟨not_not.mpr haddr.symm, guard_bind_eq_ok.mpr ⟨?_, rfl⟩⟩
    rw [not_and_or, not_not, not_not]
    exact hscript

theorem mapM_selectUtxo_eq_ok {args : Args} {bridgeState : Pubkey} {managerSet : ManagerSet}
    {utxos : List CustodyUtxo} {inputs : List SelectedUtxo} :
    utxos.mapM (selectUtxo args bridgeState managerSet) = .ok inputs ↔
      (∀ utxo ∈ utxos, Matches bridgeState managerSet utxo) ∧
        inputs = utxos.map (selectedUtxo bridgeState managerSet) := by
  rw [mapM_eq_ok]
  simp only [selectUtxo_eq_ok]
  constructor
  · intro h
    induction h with
    | nil => exact ⟨by simp, rfl⟩
    | cons hx _ ih =>
      obtain ⟨hall, rfl⟩ := ih
      refine ⟨?_, by rw [List.map_cons, hx.2]⟩
      intro utxo hu
      rcases List.mem_cons.mp hu with rfl | hu
      · exact hx.1
      · exact hall utxo hu
  · rintro ⟨hall, rfl⟩
    rw [List.forall₂_map_right_iff, List.forall₂_same]
    exact fun utxo hu => ⟨hall utxo hu, rfl⟩

omit [Hashes] [Base58Check] in
theorem planCustodyTransaction_eq_ok {selected recipient fee dust : UInt64}
    {plan : CustodyTransactionPlan} :
    planCustodyTransaction selected recipient fee dust = .ok plan ↔
      recipient ≠ 0 ∧ plan.recipientSats = recipient ∧ plan.feeSats = fee ∧
        selected.toNat = recipient.toNat + fee.toNat + plan.changeSats.toNat ∧
        (plan.changeSats = 0 ∨ dust ≤ plan.changeSats) := by
  unfold planCustodyTransaction
  constructor
  · intro h
    obtain ⟨hr, h⟩ := guard_bind_eq_ok.mp h
    obtain ⟨required, hreq, h⟩ := bind_eq_ok.mp h
    obtain ⟨change, hchange, h⟩ := bind_eq_ok.mp h
    obtain ⟨hdust, h⟩ := guard_bind_eq_ok.mp h
    cases h
    have hadd := checkedAdd_eq_some.mp (orBail_eq_ok.mp hreq)
    have hsub := checkedSub_eq_some.mp (orBail_eq_ok.mp hchange)
    rw [not_and_or, not_not, UInt64.not_lt] at hdust
    exact ⟨hr, rfl, rfl, by rw [hsub, hadd], hdust⟩
  · rintro ⟨hr, rfl, rfl, hsum, hdust⟩
    have hsel := selected.toNat_lt
    have hadd : checkedAdd plan.recipientSats plan.feeSats =
        some (plan.recipientSats + plan.feeSats) := by
      unfold checkedAdd
      rw [if_pos (by omega)]
    have hsub : checkedSub selected (plan.recipientSats + plan.feeSats) = some plan.changeSats := by
      rw [checkedSub_eq_some, checkedAdd_eq_some.mp hadd, hsum]
    refine guard_bind_eq_ok.mpr ⟨hr, ?_⟩
    rw [hadd, orBail_some, ok_bind, hsub, orBail_some, ok_bind]
    refine guard_bind_eq_ok.mpr ⟨?_, rfl⟩
    rw [not_and_or, not_not, UInt64.not_lt]
    exact hdust

/-- The checks that fresh construction and recovery share. -/
structure PreparationChecks (args : Args) (bridgeState : Pubkey) (payload : Utx0UnlockPayload)
    (managerSet : ManagerSet) (reservation : CustodyReservation) (withdrawalSats : UInt64)
    (plan : CustodyTransactionPlan) : Prop where
  sum : sumAmounts payload.outputs = .ok withdrawalSats
  required : checkedAdd withdrawalSats args.feeSats = some reservation.requiredAmountSats
  planned : planCustodyTransaction reservation.selectedAmountSats withdrawalSats args.feeSats
    args.dustThresholdSats = .ok plan
  inputs : ∀ utxo ∈ reservation.utxos, Matches bridgeState managerSet utxo
  change : plan.changeSats = 0 ∨ QuorumValid managerSet.m managerSet.pubkeys
  nonempty : reservation.utxos ≠ []

/-- The transaction every accepted preparation ends in. -/
def preparedUnsigned (bridgeState : Pubkey) (payload : Utx0UnlockPayload) (managerSet : ManagerSet)
    (reservation : CustodyReservation) (changeSats : UInt64) : UnsignedTransaction :=
  UnsignedTransaction.built (reservation.utxos.map (selectedUtxo bridgeState managerSet))
    (plannedOutputs bridgeState payload managerSet changeSats)

/-- The record returned around that transaction. -/
def preparedRecord (bridgeState : Pubkey) (payload : Utx0UnlockPayload) (managerSet : ManagerSet)
    (reservation : CustodyReservation) (plan : CustodyTransactionPlan) : PreparedTransaction where
  transaction := preparedUnsigned bridgeState payload managerSet reservation plan.changeSats
  unsignedBytes :=
    (preparedUnsigned bridgeState payload managerSet reservation plan.changeSats).serialize
  selectedUtxos := reservation.utxos
  selectedSats := reservation.selectedAmountSats
  plan := plan
  changeScriptHash := changeHash bridgeState managerSet plan.changeSats
  reservationId := reservation.reservationId

/-- Durable bytes are accepted when they are the transaction's and within the recovery limits. -/
def Admissible (transaction : UnsignedTransaction) : Option ByteString → Prop
  | none => True
  | some bytes => bytes = transaction.serialize ∧
      transaction.inputs.length ≤ maxPersistedInputs ∧
      transaction.outputs.length ≤ maxPersistedOutputs

omit [Base58Check] in
theorem appendChange_eq_ok {bridgeState : Pubkey} {managerSet : ManagerSet} {changeSats : UInt64}
    {outputs extended : List TransactionOutput} {scriptHash : Option (FixedBytes 20)} :
    appendChange bridgeState managerSet changeSats outputs = .ok (extended, scriptHash) ↔
      (changeSats = 0 ∨ QuorumValid managerSet.m managerSet.pubkeys) ∧
        extended = outputs ++ changeOutputs bridgeState managerSet changeSats ∧
        scriptHash = changeHash bridgeState managerSet changeSats := by
  unfold appendChange changeOutputs changeHash
  by_cases hz : changeSats = 0
  · simp [hz, eq_comm]
  · rw [if_neg hz, if_neg hz, if_neg hz]
    constructor
    · intro h
      obtain ⟨redeemScript, hr, h⟩ := bind_eq_ok.mp h
      obtain ⟨hq, rfl⟩ := buildRedeemScript_eq_ok.mp hr
      cases h
      exact ⟨.inr hq, rfl, rfl⟩
    · rintro ⟨hq, rfl, rfl⟩
      rw [buildRedeemScript_eq_ok.mpr ⟨hq.resolve_left hz, rfl⟩]
      rfl

omit [Hashes] [Base58Check] in
theorem payload_outputs_ne_nil {outputs : List Utx0Output} {sum : UInt64}
    (h : sumAmounts outputs = .ok sum) (hsum : sum ≠ 0) : outputs ≠ [] := by
  rintro rfl
  cases h
  exact hsum rfl

omit [Hashes] [Base58Check] in
/-- Either source of the transaction yields the construction from the same inputs and outputs. -/
theorem recoverOrBuild_eq_ok {inputs : List SelectedUtxo} {outputs : List TransactionOutput}
    {persisted : Option ByteString} {t : UnsignedTransaction} :
    recoverOrBuild persisted inputs outputs = .ok t ↔
      inputs ≠ [] ∧ outputs ≠ [] ∧ t = UnsignedTransaction.built inputs outputs ∧
        Admissible t persisted := by
  unfold recoverOrBuild
  cases persisted with
  | none => simp [UnsignedTransaction.new_eq_ok, Admissible]
  | some bytes =>
    constructor
    · intro h
      obtain ⟨recovered, hrec, h⟩ := bind_eq_ok.mp h
      obtain ⟨hout, h⟩ := guard_bind_eq_ok.mp h
      cases h
      obtain ⟨hi, hil, outs, ho, hol, ht, hb⟩ := UnsignedTransaction.fromPersistedBytes_sound hrec
      have houts : outs = outputs := by
        rw [ht] at hout
        exact not_not.mp hout
      subst houts
      refine ⟨hi, ho, ht, hb, ?_, ?_⟩
      · simpa [ht, UnsignedTransaction.built] using hil
      · simpa [ht, UnsignedTransaction.built] using hol
    · rintro ⟨hi, ho, rfl, rfl, hil, hol⟩
      simp only [UnsignedTransaction.built, List.length_map] at hil hol
      dsimp only
      rw [UnsignedTransaction.fromPersistedBytes_serialize hi ho hil hol, ok_bind]
      exact guard_bind_eq_ok.mpr ⟨not_not.mpr rfl, rfl⟩

/-- Preparation succeeds exactly when the shared checks do and the durable bytes, if any, are
admissible; its value is then determined. -/
theorem preparedFromReservation_eq_ok {args : Args} {bridgeState : Pubkey}
    {payload : Utx0UnlockPayload} {managerSet : ManagerSet} {reservation : CustodyReservation}
    {persisted : Option ByteString} {p : PreparedTransaction} :
    preparedFromReservation args bridgeState payload managerSet reservation persisted = .ok p ↔
      ∃ withdrawalSats plan,
        PreparationChecks args bridgeState payload managerSet reservation withdrawalSats plan ∧
        Admissible (preparedUnsigned bridgeState payload managerSet reservation plan.changeSats)
          persisted ∧
        p = preparedRecord bridgeState payload managerSet reservation plan := by
  unfold preparedFromReservation
  constructor
  · intro h
    obtain ⟨withdrawalSats, hsum, h⟩ := bind_eq_ok.mp h
    obtain ⟨required, hreq, h⟩ := bind_eq_ok.mp h
    obtain ⟨hres, h⟩ := guard_bind_eq_ok.mp h
    obtain ⟨plan, hplan, h⟩ := bind_eq_ok.mp h
    obtain ⟨inputs, hinputs, h⟩ := bind_eq_ok.mp h
    obtain ⟨⟨outputs, changeScriptHash⟩, hchange, h⟩ := bind_eq_ok.mp h
    obtain ⟨t, ht, h⟩ := bind_eq_ok.mp h
    obtain ⟨-, h⟩ := guard_bind_eq_ok.mp h
    obtain ⟨hmatch, rfl⟩ := mapM_selectUtxo_eq_ok.mp hinputs
    obtain ⟨hq, rfl, rfl⟩ := appendChange_eq_ok.mp hchange
    obtain ⟨hi, -, rfl, hadm⟩ := recoverOrBuild_eq_ok.mp ht
    refine ⟨withdrawalSats, plan, ⟨hsum, ?_, hplan, hmatch, hq, ?_⟩, hadm, ?_⟩
    · rw [not_not.mp hres]
      exact orBail_eq_ok.mp hreq
    · rintro hnil
      exact hi (by rw [hnil]; rfl)
    · cases h
      rfl
  · rintro ⟨withdrawalSats, plan, ⟨hsum, hreq, hplan, hmatch, hq, hne⟩, hadm, rfl⟩
    have hw : withdrawalSats ≠ 0 := (planCustodyTransaction_eq_ok.mp hplan).1
    have hout : plannedOutputs bridgeState payload managerSet plan.changeSats ≠ [] := by
      intro hnil
      have := (List.append_eq_nil_iff.mp hnil).1
      exact payload_outputs_ne_nil hsum hw (List.map_eq_nil_iff.mp this)
    have hin : reservation.utxos.map (selectedUtxo bridgeState managerSet) ≠ [] := by
      simpa using hne
    have ht : recoverOrBuild persisted _ _ = .ok _ := recoverOrBuild_eq_ok.mpr ⟨hin, hout, rfl, hadm⟩
    rw [hsum, ok_bind, hreq, orBail_some, ok_bind]
    refine guard_bind_eq_ok.mpr ⟨not_not.mpr rfl, ?_⟩
    dsimp only
    rw [hplan, ok_bind, mapM_selectUtxo_eq_ok.mpr ⟨hmatch, rfl⟩, ok_bind]
    rw [appendChange_eq_ok.mpr ⟨hq, rfl, rfl⟩, ok_bind]
    refine bind_eq_ok.mpr ⟨_, ht, guard_bind_eq_ok.mpr ⟨?_, rfl⟩⟩
    cases persisted with
    | none => simp
    | some bytes =>
      have := hadm.1
      simpa [preparedUnsigned] using this

end

end DogeOperator.Prepare
