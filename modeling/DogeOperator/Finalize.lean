import DogeOperator.Confirm
import DogeOperator.PersistedParser
import DogeOperator.PrepareRecovery

/-! Finalizing what was prepared and broadcast. The only check of the confirmation step that
preparation does not imply is that all selected inputs carry one key reference. -/
namespace DogeOperator.Confirm
open Bytes Outcome Panics Crypto Utx0 Tx Network Manager Records Prepare

/-- What the confirmation step reads of a selected input. -/
def custodyIdentity (utxo : CustodyUtxo) : FixedBytes 32 × UInt32 × String :=
  (utxo.txid, utxo.vout, utxo.keyReference)

/-- The graph persisted from a preparation; statuses and spend links may have moved on. -/
structure PersistedFrom (p : PreparedTransaction) (outputCount : ℕ) (batch : SnapshotBatch)
    (graph : PersistedWithdrawalGraph) : Prop where
  returnOutputIndex : graph.process.returnOutputIndex = UInt64.ofNat outputCount
  returnOutputAmountSats : graph.process.returnOutputAmountSats = p.plan.changeSats
  unsignedTransaction : batch.unsignedTransaction = some p.unsignedBytes
  utxos : graph.reservation.utxos.map custodyIdentity = p.selectedUtxos.map custodyIdentity
  txid : graph.transaction.txid.isSome

/-- The outputs of a confirmed transaction are these, in order: amounts and scripts. -/
def PaysExactly (vout : List ElectrsWithdrawalOutput) (outputs : List TransactionOutput) : Prop :=
  List.Forall₂ (fun paid output => paid.value = output.amount ∧
    hexDecode paid.scriptpubkey = .ok (scriptPubKeyFor output.addressType output.address)) vout outputs

def SameKeyReference (utxos : List CustodyUtxo) : Prop :=
  ∀ a ∈ utxos, ∀ b ∈ utxos, a.keyReference = b.keyReference

/-- The prepared change comes back: none when there is none, else its amount at its vout. -/
def ReturnsChange (changeSats : UInt64) (outputCount : ℕ) : Option CustodyUtxo → Prop
  | none => changeSats = 0
  | some utxo => changeSats ≠ 0 ∧ utxo.amountSats = changeSats ∧ utxo.vout.toNat = outputCount

theorem commonKeyReference_eq_ok {utxos : List CustodyUtxo} {keyReference : String} :
    commonKeyReference utxos = .ok keyReference ↔
      utxos ≠ [] ∧ ∀ utxo ∈ utxos, utxo.keyReference = keyReference := by
  cases utxos with
  | nil => simp [commonKeyReference, orBail, bail]
  | cons first rest =>
    unfold commonKeyReference
    rw [List.head?_cons, Option.map_some, orBail_some, ok_bind, guard_bind_eq_ok]
    simp only [Bool.not_eq_true, List.any_eq_false, decide_eq_true_eq, not_not, pure_eq_ok,
      Except.ok.injEq]
    constructor
    · rintro ⟨h, rfl⟩
      exact ⟨by simp, h⟩
    · rintro ⟨-, h⟩
      have hfirst := h first List.mem_cons_self
      exact ⟨fun utxo hu => (h utxo hu).trans hfirst.symm, hfirst⟩

/-- Agreement on the key reference survives the bookkeeping of the broadcast. -/
theorem sameKeyReference_congr {xs ys : List CustodyUtxo}
    (h : xs.map custodyIdentity = ys.map custodyIdentity) (hy : SameKeyReference ys) :
    SameKeyReference xs := by
  have lift : ∀ a ∈ xs, ∃ b ∈ ys, b.keyReference = a.keyReference := by
    intro a ha
    have hmem : custodyIdentity a ∈ ys.map custodyIdentity := h ▸ List.mem_map_of_mem ha
    obtain ⟨b, hb, heq⟩ := List.mem_map.mp hmem
    exact ⟨b, hb, congrArg (·.2.2) heq⟩
  intro a ha a' ha'
  obtain ⟨b, hb, hab⟩ := lift a ha
  obtain ⟨b', hb', hab'⟩ := lift a' ha'
  rw [← hab, ← hab', hy b hb b' hb']

/-- The common key reference exists exactly when the inputs agree on it. -/
theorem commonKeyReference_isOk {utxos : List CustodyUtxo} (hne : utxos ≠ []) :
    (∃ keyReference, commonKeyReference utxos = .ok keyReference) ↔ SameKeyReference utxos := by
  constructor
  · rintro ⟨keyReference, h⟩ a ha b hb
    obtain ⟨-, hall⟩ := commonKeyReference_eq_ok.mp h
    rw [hall a ha, hall b hb]
  · intro h
    obtain ⟨first, hfirst⟩ := List.exists_mem_of_ne_nil utxos hne
    exact ⟨first.keyReference, commonKeyReference_eq_ok.mpr ⟨hne, fun u hu => h u hu first hfirst⟩⟩

theorem p2shScriptPubkey_checks (scriptHash : FixedBytes 20) :
    (p2shScriptPubkey scriptHash).length = 23 ∧ (p2shScriptPubkey scriptHash).take 2 = [0xa9, 0x14] ∧
      (p2shScriptPubkey scriptHash).drop 22 = [0x87] ∧
      ((p2shScriptPubkey scriptHash).drop 2).take 20 = scriptHash.toList := by
  have hl : scriptHash.toList.length = 20 := List.Vector.toList_length scriptHash
  refine ⟨by simp [p2shScriptPubkey], by simp [p2shScriptPubkey], ?_, ?_⟩
  · simp [p2shScriptPubkey, List.drop_left' hl]
  · simp [p2shScriptPubkey, List.take_left' hl]

/-- Serialization does not see redeem scripts. -/
theorem built_serialize_congr {xs ys : List SelectedUtxo} (outputs : List TransactionOutput)
    (h : xs.map SelectedUtxo.toTxIn = ys.map SelectedUtxo.toTxIn) :
    (UnsignedTransaction.built xs outputs).serialize =
      (UnsignedTransaction.built ys outputs).serialize := by
  simp only [UnsignedTransaction.serialize, UnsignedTransaction.built, h]

theorem forall₂_last {α β : Type} {r : α → β → Prop} {xs : List α} {ys : List β} {y : β}
    (h : List.Forall₂ r xs (ys ++ [y])) :
    xs.length = ys.length + 1 ∧ ∃ x, xs.getLast? = some x ∧ r x y := by
  have hlen : xs.length = ys.length + 1 := by
    rw [h.length_eq, List.length_append, List.length_singleton]
  refine ⟨hlen, ?_⟩
  have hdrop := List.forall₂_drop_append xs ys [y] h
  obtain ⟨x, tail, hxy, htail, hx⟩ := List.forall₂_cons_right_iff.mp hdrop
  rw [List.forall₂_nil_right_iff.mp htail] at hx
  refine ⟨x, ?_, hxy⟩
  rw [← List.take_append_drop ys.length xs, hx, List.getLast?_concat]

section
variable [Hashes] [Base58Check] {args : Args} {bridgeState : Pubkey} {payload : Utx0UnlockPayload}
  {managerSet : ManagerSet} {reservation : CustodyReservation} {p : PreparedTransaction}
  {batch : SnapshotBatch} {graph : PersistedWithdrawalGraph}

omit [Hashes] [Base58Check] in
theorem recoveryInputs_toTxIn {recovered reserved : List CustodyUtxo}
    (h : recovered.map custodyIdentity = reserved.map custodyIdentity) :
    (recovered.map recoveryInput).map SelectedUtxo.toTxIn =
      (reserved.map (selectedUtxo bridgeState managerSet)).map SelectedUtxo.toTxIn := by
  have hcongr := congrArg (List.map fun identity : FixedBytes 32 × UInt32 × String =>
    ({ prevTxidLe := identity.1, vout := identity.2.1, scriptSig := [], sequence := sequenceFinal } :
      TxIn)) h
  simp only [List.map_map] at hcongr ⊢
  have hreverse : ∀ txid : FixedBytes 32, txid.reverse.reverse = txid := fun txid =>
    List.Vector.eq _ _ (by simp)
  calc recovered.map (SelectedUtxo.toTxIn ∘ recoveryInput)
      = recovered.map _ := List.map_congr_left fun utxo _ => by
        simp [SelectedUtxo.toTxIn, recoveryInput, hreverse, custodyIdentity]
    _ = reserved.map _ := hcongr
    _ = reserved.map (SelectedUtxo.toTxIn ∘ selectedUtxo bridgeState managerSet) :=
      List.map_congr_left fun utxo _ => by
        simp [SelectedUtxo.toTxIn, selectedUtxo, hreverse, custodyIdentity]

omit [Base58Check] in
/-- The confirmed change output passes every check against the prepared transaction. -/
theorem confirmedChangeScript_paid {changeSats : UInt64} {output : ElectrsWithdrawalOutput}
    (hunsigned : batch.unsignedTransaction =
      some (preparedUnsigned bridgeState payload managerSet reservation changeSats).serialize)
    (hutxos : graph.reservation.utxos.map custodyIdentity = reservation.utxos.map custodyIdentity)
    (hne : reservation.utxos ≠ []) (hchange : changeSats ≠ 0)
    (hpayload : payload.outputs.length ≤ snapshotProofMaxBatch)
    (hinputs : reservation.utxos.length ≤ maxPersistedInputs)
    (hvalue : output.value = changeSats)
    (hscript : hexDecode output.scriptpubkey =
      .ok (p2shScriptPubkey (custodyHash bridgeState managerSet zeroRecipient))) :
    confirmedChangeScript batch graph output =
      .ok (p2shScriptPubkey (custodyHash bridgeState managerSet zeroRecipient),
        custodyHash bridgeState managerSet zeroRecipient) := by
  obtain ⟨hl, hpre, hpost, hmid⟩ :=
    p2shScriptPubkey_checks (custodyHash bridgeState managerSet zeroRecipient)
  have hlen : graph.reservation.utxos.length = reservation.utxos.length := by
    simpa using congrArg List.length hutxos
  have hnil : graph.reservation.utxos.map recoveryInput ≠ [] := by
    rw [ne_eq, List.map_eq_nil_iff, ← List.length_eq_zero_iff, hlen, List.length_eq_zero_iff]
    exact hne
  have houtputs := preparedUnsigned_outputs_length_le bridgeState managerSet reservation changeSats
    hpayload
  simp only [preparedUnsigned, UnsignedTransaction.built, List.length_map] at houtputs
  have hlast : plannedOutputs bridgeState payload managerSet changeSats =
      payload.outputs.map toTransactionOutput ++ [changeOutput bridgeState managerSet changeSats] := by
    rw [plannedOutputs, changeOutputs, if_neg hchange]
  have hrecover := UnsignedTransaction.fromPersistedBytes_serialize hnil
    (by rw [hlast]; simp : plannedOutputs bridgeState payload managerSet changeSats ≠ [])
    (by rwa [List.length_map, hlen]) houtputs
  rw [built_serialize_congr _ (recoveryInputs_toTxIn hutxos)] at hrecover
  unfold confirmedChangeScript
  rw [hscript]
  change (Except.ok _ >>= _) = _
  rw [ok_bind]
  refine guard_bind_eq_ok.mpr ⟨by simp [hl, hpre, hpost], ?_⟩
  rw [hmid, toFixed?_toList, orBail_some, ok_bind, hunsigned, orBail_some, ok_bind,
    preparedUnsigned, hrecover, ok_bind]
  rw [UnsignedTransaction.built, hlast, List.getLast?_concat, orBail_some, ok_bind]
  exact guard_bind_eq_ok.mpr ⟨by simp [hvalue, changeOutput], rfl⟩

/-- There is change exactly when more was selected than required. -/
theorem changeSats_eq_zero_iff {withdrawalSats : UInt64} {plan : CustodyTransactionPlan}
    (h : PreparationChecks args bridgeState payload managerSet reservation withdrawalSats plan) :
    plan.changeSats = 0 ↔ reservation.selectedAmountSats = reservation.requiredAmountSats := by
  obtain ⟨-, -, -, hsum, -⟩ := planCustodyTransaction_eq_ok.mp h.planned
  have hreq := checkedAdd_eq_some.mp h.required
  rw [← UInt64.toNat_inj, ← UInt64.toNat_inj, hsum, hreq, UInt64.toNat_zero]
  omega

variable [TxoConstants] {network : DogeNetwork} {confirmed : ConfirmedWithdrawal}

omit [Hashes] in
/-- Without change only the number of outputs is checked. -/
theorem deriveConfirmedChange_zero {count : ℕ} (hzero : graph.process.returnOutputAmountSats = 0)
    (hlen : confirmed.transaction.vout.length = count) :
    deriveConfirmedChange network batch graph count confirmed = .ok none := by
  unfold deriveConfirmedChange
  rw [if_pos hzero, guard_bind_of_neg (not_not.mpr hlen)]
  rfl

omit [Hashes] in
/-- With change, once the output checks pass only the key reference can still be refused. -/
theorem deriveConfirmedChange_paid {count : ℕ} {output : ElectrsWithdrawalOutput}
    {script : ByteString} {scriptHash : FixedBytes 20} {txid : FixedBytes 32}
    (hpos : graph.process.returnOutputAmountSats ≠ 0) (hcount : count ≤ snapshotProofMaxBatch)
    (hindex : graph.process.returnOutputIndex = UInt64.ofNat count)
    (hlen : confirmed.transaction.vout.length = count + 1)
    (hlast : confirmed.transaction.vout.getLast? = some output)
    (hvalue : output.value = graph.process.returnOutputAmountSats)
    (hscript : confirmedChangeScript batch graph output = .ok (script, scriptHash))
    (htxid : graph.transaction.txid = some txid) :
    deriveConfirmedChange network batch graph count confirmed =
      (commonKeyReference graph.reservation.utxos >>= fun keyReference =>
        .ok (some (changeUtxo batch confirmed txid (UInt32.ofNat count) (UInt16.ofNat count) output
          script (DogeNetwork.p2shAddress scriptHash) keyReference))) := by
  unfold snapshotProofMaxBatch at hcount
  have h32 : count < 2 ^ 32 := by omega
  have hnat : (UInt32.ofNat count).toNat = count := by
    rw [UInt32.toNat_ofNat', Nat.mod_eq_of_lt h32]
  have h64 : (UInt32.ofNat count).toUInt64 = UInt64.ofNat count := by
    rw [← UInt64.toNat_inj, UInt32.toNat_toUInt64, hnat, UInt64.toNat_ofNat', Nat.mod_eq_of_lt]
    omega
  have hvout32 : toU32 "withdrawal output count exceeds u32" count = .ok (UInt32.ofNat count) :=
    if_pos h32
  have hvout16 : toU16 "withdrawal change vout exceeds u16" count = .ok (UInt16.ofNat count) :=
    if_pos (by omega)
  unfold deriveConfirmedChange
  rw [if_neg hpos, hvout32, ok_bind, guard_bind_of_neg (by rw [hindex, h64]; simp),
    guard_bind_of_neg (not_not.mpr hlen), hlast, orBail_some, ok_bind,
    guard_bind_of_neg (not_not.mpr hvalue), hscript, ok_bind]
  dsimp only
  rw [hnat, hvout16, htxid]
  rfl

/-- For a prepared and confirmed withdrawal with change, finalizing is agreeing on the key
reference. -/
theorem deriveConfirmedChange_prepared
    (hpayload : payload.outputs.length ≤ snapshotProofMaxBatch)
    (hinputs : reservation.utxos.length ≤ maxPersistedInputs)
    (hp : preparedFromReservation args bridgeState payload managerSet reservation none = .ok p)
    (hgraph : PersistedFrom p payload.outputs.length batch graph)
    (hpaid : PaysExactly confirmed.transaction.vout p.transaction.logicalOutputs)
    (hchange : p.plan.changeSats ≠ 0) :
    ∃ change : String → CustodyUtxo,
      deriveConfirmedChange network batch graph payload.outputs.length confirmed =
        (commonKeyReference graph.reservation.utxos >>= fun keyReference =>
          .ok (some (change keyReference))) ∧
      ∀ keyReference, ReturnsChange p.plan.changeSats payload.outputs.length
        (some (change keyReference)) := by
  obtain ⟨withdrawalSats, plan, hchecks, -, rfl⟩ := preparedFromReservation_eq_ok.mp hp
  obtain ⟨hindex, hamount, hunsigned, hutxos, htxid⟩ := hgraph
  dsimp only [preparedRecord] at hamount hunsigned hutxos hpaid hchange ⊢
  dsimp only [preparedUnsigned, UnsignedTransaction.built] at hpaid
  rw [plannedOutputs, changeOutputs, if_neg hchange] at hpaid
  obtain ⟨hlen, output, hlast, hvalue, hscript⟩ := forall₂_last hpaid
  rw [List.length_map] at hlen
  obtain ⟨txid, htxid⟩ := Option.isSome_iff_exists.mp htxid
  have hscript := confirmedChangeScript_paid hunsigned hutxos hchecks.nonempty hchange hpayload
    hinputs hvalue hscript
  refine ⟨_, deriveConfirmedChange_paid (hamount ▸ hchange) hpayload hindex hlen hlast
    (hvalue.trans hamount.symm) hscript htxid, fun keyReference => ⟨hchange, hvalue, ?_⟩⟩
  change (UInt32.ofNat payload.outputs.length).toNat = payload.outputs.length
  rw [UInt32.toNat_ofNat', Nat.mod_eq_of_lt]
  unfold snapshotProofMaxBatch at hpayload
  omega

/-- A prepared and confirmed withdrawal is finalized, with its change, exactly when there is no
change or the reserved inputs agree on their key reference. -/
theorem deriveConfirmedChange_finalizes_iff
    (hpayload : payload.outputs.length ≤ snapshotProofMaxBatch)
    (hinputs : reservation.utxos.length ≤ maxPersistedInputs)
    (hp : preparedFromReservation args bridgeState payload managerSet reservation none = .ok p)
    (hgraph : PersistedFrom p payload.outputs.length batch graph)
    (hpaid : PaysExactly confirmed.transaction.vout p.transaction.logicalOutputs) :
    (∃ change, deriveConfirmedChange network batch graph payload.outputs.length confirmed =
        .ok change ∧ ReturnsChange p.plan.changeSats payload.outputs.length change) ↔
      reservation.selectedAmountSats = reservation.requiredAmountSats ∨
        SameKeyReference reservation.utxos := by
  obtain ⟨withdrawalSats, plan, hchecks, -, hrecord⟩ := preparedFromReservation_eq_ok.mp hp
  have hplan : p.plan = plan := by rw [hrecord]; rfl
  have hutxos := hgraph.utxos
  rw [hrecord] at hutxos
  rw [← changeSats_eq_zero_iff hchecks, ← hplan]
  by_cases hzero : p.plan.changeSats = 0
  · have hlen : confirmed.transaction.vout.length = payload.outputs.length := by
      rw [hpaid.length_eq, hrecord]
      dsimp only [preparedRecord, preparedUnsigned, UnsignedTransaction.built]
      rw [plannedOutputs, changeOutputs, if_pos (hplan ▸ hzero), List.append_nil, List.length_map]
    have hamount := hgraph.returnOutputAmountSats.trans hzero
    exact iff_of_true ⟨none, deriveConfirmedChange_zero hamount hlen, hzero⟩ (.inl hzero)
  · have hne : graph.reservation.utxos ≠ [] := by
      intro hnil
      rw [hnil, List.map_nil, eq_comm, List.map_eq_nil_iff] at hutxos
      exact hchecks.nonempty hutxos
    have hagree : SameKeyReference graph.reservation.utxos ↔ SameKeyReference reservation.utxos :=
      ⟨sameKeyReference_congr hutxos.symm, sameKeyReference_congr hutxos⟩
    obtain ⟨change, hderive, hreturns⟩ :=
      deriveConfirmedChange_prepared hpayload hinputs hp hgraph hpaid hzero
    rw [hderive, or_iff_right hzero, ← hagree, ← commonKeyReference_isOk hne]
    constructor
    · rintro ⟨change, h, -⟩
      obtain ⟨keyReference, hkey, -⟩ := bind_eq_ok.mp h
      exact ⟨keyReference, hkey⟩
    · rintro ⟨keyReference, hkey⟩
      exact ⟨_, bind_eq_ok.mpr ⟨keyReference, hkey, rfl⟩, hreturns keyReference⟩

end

/-! The derivation once more, with its slices, the copied script hash and the expected txid. -/

def confirmedChangeScriptChecked (batch : SnapshotBatch) (graph : PersistedWithdrawalGraph)
    (output : ElectrsWithdrawalOutput) : Checked (ByteString × FixedBytes 20) := do
  let script ← lift (context "decode confirmed change script"
    ((hexDecode output.scriptpubkey).mapError ([·])))
  let isP2sh ← isP2shChecked script
  if ¬ isP2sh then lift (bail "confirmed change output is not P2SH")
  let scriptHash ← arrayRange 20 script 2 22
  let unsignedBytes ← lift (orBail batch.unsignedTransaction
    "broadcast snapshot batch has no unsigned transaction")
  let recovered ← lift (UnsignedTransaction.fromPersistedBytes unsignedBytes
    (graph.reservation.utxos.map recoveryInput))
  let preparedChange ← lift (orBail recovered.logicalOutputs.getLast?
    "prepared transaction has no change output")
  if preparedChange.amount ≠ output.value ∨ preparedChange.addressType ≠ .p2sh ∨
      preparedChange.address ≠ scriptHash then
    lift (bail "confirmed change output differs from prepared transaction")
  return (script, scriptHash)

def deriveConfirmedChangeChecked [Base58Check] [TxoConstants] (network : DogeNetwork)
    (batch : SnapshotBatch) (graph : PersistedWithdrawalGraph) (withdrawalOutputCount : ℕ)
    (confirmed : ConfirmedWithdrawal) : Checked (Option CustodyUtxo) := do
  if graph.process.returnOutputAmountSats = 0 then
    if confirmed.transaction.vout.length ≠ withdrawalOutputCount then
      lift (bail "zero-change confirmed transaction has an unexpected output count")
    return none
  let expectedVout ← lift (toU32 "withdrawal output count exceeds u32" withdrawalOutputCount)
  if graph.process.returnOutputIndex ≠ expectedVout.toUInt64 then
    lift (bail "persisted change output index is not the last prepared output")
  if confirmed.transaction.vout.length ≠ withdrawalOutputCount + 1 then
    lift (bail "confirmed transaction does not end with exactly one change output")
  let output ← lift (orBail confirmed.transaction.vout.getLast?
    "confirmed transaction has no change output")
  if output.value ≠ graph.process.returnOutputAmountSats then
    lift (bail "confirmed change value differs from prepared plan")
  let (script, scriptHash) ← confirmedChangeScriptChecked batch graph output
  let keyReference ← lift (commonKeyReference graph.reservation.utxos)
  let vout ← lift (toU16 "withdrawal change vout exceeds u16" expectedVout.toNat)
  let internalTxid ← expectSome graph.transaction.txid
  let custodyAddress ← lift (network.encodeAddress 1 scriptHash)
  return some (changeUtxo batch confirmed internalTxid expectedVout vout output script custodyAddress
    keyReference)

theorem confirmedChangeScriptChecked_eq (batch : SnapshotBatch) (graph : PersistedWithdrawalGraph)
    (output : ElectrsWithdrawalOutput) :
    confirmedChangeScriptChecked batch graph output =
      lift (confirmedChangeScript batch graph output) := by
  unfold confirmedChangeScriptChecked confirmedChangeScript
  apply bind_eq_lift
  intro script _
  rw [isP2shChecked_eq, ok_bind]
  by_cases hscript : script.length = 23 ∧ script.take 2 = [0xa9, 0x14] ∧ script.drop 22 = [0x87]
  · have hplain : ¬ (script.length ≠ 23 ∨ script.take 2 ≠ [0xa9, 0x14] ∨ script.drop 22 ≠ [0x87]) := by
      simp [hscript]
    rcases arrayRange_eq 20 2 rfl (by omega : 22 ≤ script.length) with ⟨scriptHash, hhash, hbytes⟩
    rw [if_neg (by simp [hscript]), guard_bind_of_neg hplain, hhash, ok_bind,
      toFixed?_eq_some.mpr hbytes.symm, orBail_some, ok_bind]
    apply bind_eq_lift
    intro unsignedBytes _
    apply bind_eq_lift
    intro recovered _
    apply bind_eq_lift
    intro preparedChange _
    exact guard_eq_lift fun _ => rfl
  · have hplain : script.length ≠ 23 ∨ script.take 2 ≠ [0xa9, 0x14] ∨ script.drop 22 ≠ [0x87] := by
      simpa only [not_and_or] using hscript
    rw [if_pos (by simpa using hscript), if_pos hplain]
    rfl

/-- The derivation does not panic for a transaction that has its txid. -/
theorem deriveConfirmedChangeChecked_eq [Base58Check] [TxoConstants] (network : DogeNetwork)
    (batch : SnapshotBatch) {graph : PersistedWithdrawalGraph} (withdrawalOutputCount : ℕ)
    (confirmed : ConfirmedWithdrawal) (htxid : graph.transaction.txid.isSome) :
    deriveConfirmedChangeChecked network batch graph withdrawalOutputCount confirmed =
      lift (deriveConfirmedChange network batch graph withdrawalOutputCount confirmed) := by
  rcases Option.isSome_iff_exists.mp htxid with ⟨txid, htxid⟩
  unfold deriveConfirmedChangeChecked deriveConfirmedChange
  by_cases hzero : graph.process.returnOutputAmountSats = 0
  · rw [if_pos hzero, if_pos hzero]
    exact guard_eq_lift fun _ => rfl
  · rw [if_neg hzero, if_neg hzero]
    apply bind_eq_lift
    intro expectedVout _
    refine guard_eq_lift fun _ => guard_eq_lift fun _ => ?_
    apply bind_eq_lift
    intro output _
    refine guard_eq_lift fun _ => ?_
    rw [confirmedChangeScriptChecked_eq]
    apply bind_pair_eq_lift
    intro script scriptHash _
    apply bind_eq_lift
    intro keyReference _
    apply bind_eq_lift
    intro vout _
    rw [htxid, expectSome_some, orBail_some, ok_bind, ok_bind]
    exact bind_eq_lift fun custodyAddress _ => rfl

end DogeOperator.Confirm

namespace DogeOperator.Digests
open Confirm

/-- Height, transaction index and vout side by side. -/
scoped instance : TxoConstants where
  combinedIndex height txIndex vout :=
    (height.toUInt64 <<< 32) ||| (txIndex.toUInt64 <<< 16) ||| vout.toUInt64

end DogeOperator.Digests

namespace DogeOperator.Confirm
open Bytes Outcome Crypto Utx0 Redeem Tx Network Manager Records Prepare Digests

/-! The local custody after its broadcast. -/

def electrsOutput (output : TransactionOutput) : ElectrsWithdrawalOutput where
  scriptpubkey := hexEncode (scriptPubKeyFor output.addressType output.address)
  value := output.amount

theorem paysExactly_electrsOutput (outputs : List TransactionOutput) :
    PaysExactly (outputs.map electrsOutput) outputs := by
  rw [PaysExactly, List.forall₂_map_left_iff, List.forall₂_same]
  exact fun output _ => ⟨rfl, hexDecode_hexEncode _⟩

/-- Outputs of two deposits with the given key references. -/
def localMixture (first second : String) : List CustodyUtxo :=
  [localUtxo first 0x11 0 5000000, localUtxo second 0x22 1 5010000]

def localTxid : FixedBytes 32 := List.Vector.replicate 32 0x55

def localBatch (utxos : List CustodyUtxo) : SnapshotBatch where
  solanaSignature := "snapshot-0"
  solanaSlot := 1
  blockTime := none
  requestStartIndex := 0
  requestEndIndex := 1
  snapshotRoot := List.Vector.replicate 32 7
  payload := []
  payloadHash := hashSha256 []
  wormholeSequence := 0
  solanaTransaction := none
  unsignedTransaction := some (localPrepared utxos).unsignedBytes
  reservationId := some (localReservation utxos).reservationId
  status := .broadcast

def localGraph (utxos : List CustodyUtxo) : PersistedWithdrawalGraph where
  transaction := {
    rawHash := List.Vector.replicate 32 3
    txid := some localTxid
    rawTransaction := none
    status := .broadcast
    blockHash := none
    blockHeight := none
    confirmations := 0 }
  process := {
    solanaSignature := "snapshot-0"
    solanaSlot := 1
    blockTime := none
    requestStartIndex := 0
    requestEndIndex := 1
    snapshotRoot := List.Vector.replicate 32 7
    dogecoinRawHash := List.Vector.replicate 32 3
    returnOutputIndex := 1
    returnOutputAmountSats := 10000
    oldSpentTxoRoot := List.Vector.replicate 32 0
    newSpentTxoRoot := List.Vector.replicate 32 0
    status := .broadcast }
  reservation := { localReservation utxos with
    status := .broadcast
    spendTxid := some localTxid }

def localConfirmed (utxos : List CustodyUtxo) : ConfirmedWithdrawal where
  transaction := {
    txid := hexEncode localTxid.toList
    vout := (localPrepared utxos).transaction.logicalOutputs.map electrsOutput
    status := { confirmed := true, blockHeight := some 90, blockHash := some "22" } }
  blockHeight := 90
  blockHash := List.Vector.replicate 32 0x22
  confirmations := 11
  txIndex := 1

theorem localMixture_prepared (first second : String) :
    preparedFromReservation localArgs localBridgeState localPayload localRegtestManagerSet
      (localReservation (localMixture first second)) none =
        .ok (localPrepared (localMixture first second)) := by
  refine preparedFromReservation_eq_ok.mpr ⟨9000000, localPlan,
    localReservation_checks (List.cons_ne_nil _ _) ?_, trivial, rfl⟩
  intro utxo hu
  rcases List.mem_pair.mp hu with rfl | rfl
  · exact custodyUtxo_matches localRegtestManagerSet_quorum
  · exact custodyUtxo_matches localRegtestManagerSet_quorum

theorem localGraph_persisted (utxos : List CustodyUtxo) :
    PersistedFrom (localPrepared utxos) localPayload.outputs.length (localBatch utxos)
      (localGraph utxos) :=
  ⟨rfl, rfl, rfl, rfl, rfl⟩

theorem deriveConfirmedChange_finalizes_local :
    (∃ change, deriveConfirmedChange .regtest (localBatch (localMixture "key-1" "key-1"))
        (localGraph (localMixture "key-1" "key-1")) localPayload.outputs.length
        (localConfirmed (localMixture "key-1" "key-1")) = .ok change ∧
      ReturnsChange (localPrepared (localMixture "key-1" "key-1")).plan.changeSats
        localPayload.outputs.length change) ↔
      (localReservation (localMixture "key-1" "key-1")).selectedAmountSats =
        (localReservation (localMixture "key-1" "key-1")).requiredAmountSats ∨
        SameKeyReference (localReservation (localMixture "key-1" "key-1")).utxos :=
  deriveConfirmedChange_finalizes_iff (by decide) (by decide) (localMixture_prepared _ _)
    (localGraph_persisted _) (paysExactly_electrsOutput _)

/-- Deposits under two key references: prepared, broadcast and confirmed, never finalized. -/
theorem localMixture_not_finalized :
    localPayload.outputs.length ≤ snapshotProofMaxBatch ∧
      (localReservation (localMixture "key-1" "key-2")).utxos.length ≤ maxPersistedInputs ∧
      (∃ p, preparedFromReservation localArgs localBridgeState localPayload localRegtestManagerSet
        (localReservation (localMixture "key-1" "key-2")) none = .ok p ∧
        PersistedFrom p localPayload.outputs.length (localBatch (localMixture "key-1" "key-2"))
          (localGraph (localMixture "key-1" "key-2")) ∧
        PaysExactly (localConfirmed (localMixture "key-1" "key-2")).transaction.vout
          p.transaction.logicalOutputs) ∧
      ¬ ∃ change, deriveConfirmedChange .regtest (localBatch (localMixture "key-1" "key-2"))
        (localGraph (localMixture "key-1" "key-2")) localPayload.outputs.length
        (localConfirmed (localMixture "key-1" "key-2")) = .ok change := by
  have hrefused : commonKeyReference (localMixture "key-1" "key-2") =
      bail "selected custody inputs have inconsistent key references" := rfl
  refine ⟨by decide, by decide, ⟨_, localMixture_prepared _ _, localGraph_persisted _,
    paysExactly_electrsOutput _⟩, ?_⟩
  have hpaid : PaysExactly (localConfirmed (localMixture "key-1" "key-2")).transaction.vout
      (localPrepared (localMixture "key-1" "key-2")).transaction.logicalOutputs :=
    paysExactly_electrsOutput _
  obtain ⟨change, hderive, -⟩ := deriveConfirmedChange_prepared (by decide) (by decide)
    (localMixture_prepared "key-1" "key-2") (localGraph_persisted _) hpaid (by decide)
  rw [hderive]
  change ¬ ∃ change, (commonKeyReference (localMixture "key-1" "key-2") >>= _) = .ok change
  rw [hrefused]
  rintro ⟨change, h⟩
  exact absurd h (by simp [bail])

end DogeOperator.Confirm
