import DogeOperator.PrepareRecovery

/-! Value through a withdrawal: what the reserved custody holds is paid to the authorized
recipients, returned to custody, or is the fee. -/
namespace DogeOperator.Prepare
open Bytes Outcome Crypto Utx0 Redeem Tx Network Manager Records

/-- A checked sum is the sum, whenever there is one. -/
theorem checkedSum_eq_ok {α : Type} {amount : α → UInt64} {message : String} {xs : List α}
    {start total : UInt64} :
    xs.foldlM (fun sum x => orBail (checkedAdd sum (amount x)) message) start = .ok total ↔
      total.toNat = start.toNat + (xs.map fun x => (amount x).toNat).sum := by
  induction xs generalizing start with
  | nil =>
    rw [List.foldlM_nil, pure_eq_ok, List.map_nil, List.sum_nil, Nat.add_zero, UInt64.toNat_inj]
    exact ⟨fun h => (Except.ok.inj h).symm, fun h => congrArg _ h.symm⟩
  | cons x xs ih =>
    rw [List.foldlM_cons, bind_eq_ok, List.map_cons, List.sum_cons, ← Nat.add_assoc]
    constructor
    · intro h
      rcases h with ⟨next, hnext, hrest⟩
      rw [orBail_eq_ok, checkedAdd_eq_some] at hnext
      rw [← hnext]
      exact ih.mp hrest
    · intro h
      have hfits : start.toNat + (amount x).toNat < 2 ^ 64 := by
        have htotal := total.toNat_lt
        omega
      have hadd : checkedAdd start (amount x) = some (start + amount x) := if_pos hfits
      refine ⟨start + amount x, by rw [hadd, orBail_some], ih.mpr ?_⟩
      rw [checkedAdd_eq_some.mp hadd]
      exact h

/-- The satoshis of a list of outputs. -/
def recipientTotal (outputs : List Utx0Output) : ℕ := (outputs.map fun o => o.amount.toNat).sum

def paidTotal (outputs : List TxOut) : ℕ := (outputs.map fun o => o.value.toNat).sum

theorem sumAmounts_eq_ok {outputs : List Utx0Output} {sum : UInt64} :
    sumAmounts outputs = .ok sum ↔ sum.toNat = recipientTotal outputs := by
  unfold sumAmounts recipientTotal
  rw [checkedSum_eq_ok, UInt64.toNat_zero, Nat.zero_add]

/-- The sums on the way are at most the last one. -/
theorem recipientTotal_take_le (outputs : List Utx0Output) (n : ℕ) :
    recipientTotal (outputs.take n) ≤ recipientTotal outputs := by
  have hsplit := congrArg recipientTotal (List.take_append_drop n outputs)
  simp only [recipientTotal, List.map_append, List.sum_append] at hsplit ⊢
  omega

section
variable [Hashes] {bridgeState : Pubkey} {payload : Utx0UnlockPayload} {managerSet : ManagerSet}
  {changeSats : UInt64}

/-- The planned outputs pay the recipients and the change. -/
theorem paidTotal_planned :
    paidTotal ((plannedOutputs bridgeState payload managerSet changeSats).map
      TransactionOutput.toTxOut) = recipientTotal payload.outputs + changeSats.toNat := by
  have hrecipients : paidTotal ((payload.outputs.map toTransactionOutput).map
      TransactionOutput.toTxOut) = recipientTotal payload.outputs := by
    simp [paidTotal, recipientTotal, toTransactionOutput, TransactionOutput.toTxOut,
      Function.comp_def]
  have hchange : paidTotal ((changeOutputs bridgeState managerSet changeSats).map
      TransactionOutput.toTxOut) = changeSats.toNat := by
    unfold changeOutputs
    by_cases hzero : changeSats = 0
    · simp [hzero, paidTotal]
    · simp [hzero, paidTotal, changeOutput, TransactionOutput.toTxOut]
  rw [plannedOutputs, List.map_append, ← hrecipients, ← hchange]
  simp [paidTotal]

/-- The outputs of a transaction that returns `changeSats` to custody of the bridge itself. -/
structure PaysWithChange (bridgeState : Pubkey) (payload : Utx0UnlockPayload)
    (managerSet : ManagerSet) (changeSats : UInt64) (t : UnsignedTransaction) : Prop where
  exact : changeSats = 0 → t.logicalOutputs = payload.outputs.map toTransactionOutput
  change : changeSats ≠ 0 → ∃ redeemScript,
    buildRedeemScript solanaEmitterChain bridgeState zeroRecipient managerSet.m managerSet.pubkeys =
      .ok redeemScript ∧
    t.logicalOutputs = payload.outputs.map toTransactionOutput ++
      [{ amount := changeSats, addressType := .p2sh, address := hash160 redeemScript }]
  wire : t.outputs = t.logicalOutputs.map TransactionOutput.toTxOut

theorem preparedUnsigned_pays {reservation : CustodyReservation}
    (hquorum : changeSats = 0 ∨ QuorumValid managerSet.m managerSet.pubkeys) :
    PaysWithChange bridgeState payload managerSet changeSats
      (preparedUnsigned bridgeState payload managerSet reservation changeSats) where
  exact := by
    intro hzero
    simp [preparedUnsigned, UnsignedTransaction.built, plannedOutputs, changeOutputs, hzero]
  change := by
    intro hchange
    refine ⟨_, buildRedeemScript_eq_ok.mpr ⟨hquorum.resolve_left hchange, rfl⟩, ?_⟩
    simp only [preparedUnsigned, UnsignedTransaction.built, plannedOutputs, changeOutputs,
      if_neg hchange]
    rfl
  wire := rfl

variable [Base58Check]

/-- No value is created, lost or donated. A prepared withdrawal, fresh or recovered, pays the
payload's outputs in order and at most one more, to custody of the bridge itself, worth at least
the dust threshold; its outputs and the fee are together what the reservation selected, and no
sum on the way leaves 64 bits. -/
theorem prepared_conserves (args : Args) (bridgeState : Pubkey) (payload : Utx0UnlockPayload)
    (managerSet : ManagerSet) (reservation : CustodyReservation) (persisted : Option ByteString)
    (p : PreparedTransaction)
    (h : preparedFromReservation args bridgeState payload managerSet reservation persisted =
      .ok p) :
    PaysWithChange bridgeState payload managerSet p.plan.changeSats p.transaction ∧
    p.unsignedBytes = p.transaction.serialize ∧
    (p.plan.changeSats = 0 ∨ args.dustThresholdSats ≤ p.plan.changeSats) ∧
    paidTotal p.transaction.outputs + args.feeSats.toNat =
      reservation.selectedAmountSats.toNat ∧
    reservation.requiredAmountSats.toNat =
      recipientTotal payload.outputs + args.feeSats.toNat ∧
    (∀ n, recipientTotal (payload.outputs.take n) < 2 ^ 64) ∧
    recipientTotal payload.outputs + args.feeSats.toNat + p.plan.changeSats.toNat < 2 ^ 64 := by
  rcases preparedFromReservation_eq_ok.mp h with ⟨withdrawalSats, plan, hchecks, -, rfl⟩
  rcases planCustodyTransaction_eq_ok.mp hchecks.planned with ⟨-, -, -, hselected, hdust⟩
  have hsum := sumAmounts_eq_ok.mp hchecks.sum
  have hrequired := checkedAdd_eq_some.mp hchecks.required
  have hpaid : paidTotal (preparedUnsigned bridgeState payload managerSet reservation
      plan.changeSats).outputs = recipientTotal payload.outputs + plan.changeSats.toNat :=
    paidTotal_planned
  have hfits := reservation.selectedAmountSats.toNat_lt
  refine ⟨preparedUnsigned_pays hchecks.change, rfl, hdust, ?_, ?_, ?_, ?_⟩
  · show paidTotal (preparedUnsigned bridgeState payload managerSet reservation
      plan.changeSats).outputs + _ = _
    omega
  · omega
  · intro n
    have hle := recipientTotal_take_le payload.outputs n
    omega
  · show _ + plan.changeSats.toNat < _
    omega

end

section
open Digests

/-- Ten million satoshis and one change of the rest. -/
theorem prepared_conserves_local :
    paidTotal (localPrepared (localDeposit 1001)).transaction.outputs + 1000000 = 10010000 :=
  (prepared_conserves localArgs localBridgeState localPayload localRegtestManagerSet
    (localReservation (localDeposit 1001)) none _ (localDeposit_prepared (by decide))).2.2.2.1

end

end DogeOperator.Prepare
