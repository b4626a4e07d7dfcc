import DogeOperator.Deposit
import DogeOperator.Finalize

/-! Every recorded custody UTXO can be spent: what a deposit registers, and what the change of
a withdrawal becomes, however many withdrawals it has been through. -/
namespace DogeOperator.Spendable
open Bytes Outcome Crypto Redeem Tx Network Manager Records Prepare Confirm Deposit

/-- The fields preparation reads; reserving, releasing and spending change none of them. -/
structure SameCustody (a b : CustodyUtxo) : Prop where
  txid : b.txid = a.txid
  vout : b.vout = a.vout
  scriptPubkeyHex : b.scriptPubkeyHex = a.scriptPubkeyHex
  custodyAddress : b.custodyAddress = a.custodyAddress
  originalRecipientAddress : b.originalRecipientAddress = a.originalRecipientAddress

section
variable [Hashes] [Base58Check]

/-- The recorded address and script are those of the custody script of the recorded recipient. -/
structure LockedByCustody (bridgeState : Pubkey) (managerSet : ManagerSet) (utxo : CustodyUtxo) :
    Prop where
  quorum : QuorumValid managerSet.m managerSet.pubkeys
  address : utxo.custodyAddress =
    DogeNetwork.p2shAddress (custodyHash bridgeState managerSet utxo.originalRecipientAddress)
  script : eqIgnoreAsciiCase utxo.scriptPubkeyHex (hexEncode (p2shScriptPubkey
    (custodyHash bridgeState managerSet utxo.originalRecipientAddress))) = true

theorem LockedByCustody.matches {bridgeState : Pubkey} {managerSet : ManagerSet}
    {utxo : CustodyUtxo} (h : LockedByCustody bridgeState managerSet utxo) :
    Matches bridgeState managerSet utxo :=
  ⟨h.quorum, h.address, .inr h.script⟩

theorem LockedByCustody.congr {bridgeState : Pubkey} {managerSet : ManagerSet} {a b : CustodyUtxo}
    (h : LockedByCustody bridgeState managerSet a) (hab : SameCustody a b) :
    LockedByCustody bridgeState managerSet b where
  quorum := h.quorum
  address := by rw [hab.custodyAddress, hab.originalRecipientAddress, h.address]
  script := by rw [hab.scriptPubkeyHex, hab.originalRecipientAddress, h.script]

variable [TxoConstants]

/-- The change returned for a withdrawal that was prepared from the reservation. -/
def IsChangeOf (network : DogeNetwork) (bridgeState : Pubkey) (managerSet : ManagerSet)
    (reservation : CustodyReservation) (change : CustodyUtxo) : Prop :=
  ∃ args payload persisted p batch graph count confirmed, args.dogeNetwork = network ∧
    preparedFromReservation args bridgeState payload managerSet reservation persisted = .ok p ∧
    batch.unsignedTransaction = some p.unsignedBytes ∧
    graph.process.returnOutputAmountSats = p.plan.changeSats ∧
    deriveConfirmedChange network batch graph count confirmed = .ok (some change)

/-- A withdrawal that spends the first UTXO returns the second as its change. -/
def Respends (network : DogeNetwork) (bridgeState : Pubkey) (managerSet : ManagerSet)
    (spent change : CustodyUtxo) : Prop :=
  ∃ reservation, spent ∈ reservation.utxos ∧
    IsChangeOf network bridgeState managerSet reservation change

/-- The UTXOs the program records, kept through the bookkeeping of reservations. -/
inductive Recorded [BlockHashText] [CustodyProfiles] (network : DogeNetwork) (bridgeState : Pubkey)
    (managerSetIndex : UInt32) (managerSet : ManagerSet) : CustodyUtxo → Prop
  | deposit {args localTxid confirmed blockTxids tipHeight utxo}
      (hnetwork : args.dogeNetwork = network) (hindex : args.managerSetIndex = managerSetIndex)
      (h : registerDeposit args bridgeState localTxid confirmed blockTxids tipHeight = .ok utxo) :
      Recorded network bridgeState managerSetIndex managerSet utxo
  | change {reservation utxo} (h : IsChangeOf network bridgeState managerSet reservation utxo) :
      Recorded network bridgeState managerSetIndex managerSet utxo
  | kept {utxo utxo'} (h : Recorded network bridgeState managerSetIndex managerSet utxo)
      (hkept : SameCustody utxo utxo') :
      Recorded network bridgeState managerSetIndex managerSet utxo'

/-- The bytes in front of the inputs of a serialized transaction. -/
def inputsOffset (reservation : CustodyReservation) : ℕ :=
  4 + (writeVarint (UInt64.ofNat reservation.utxos.length)).length

/-- The input that spends a UTXO: its stored txid and vout, unchanged. -/
def spendingInput (utxo : CustodyUtxo) : TxIn where
  prevTxidLe := utxo.txid
  vout := utxo.vout
  scriptSig := []
  sequence := sequenceFinal

/-- The per-input checks of preparation pass, and a prepared transaction carries the stored
outpoint at the place of the UTXO in its reservation. -/
structure SpendableBy (network : DogeNetwork) (bridgeState : Pubkey) (managerSet : ManagerSet)
    (utxo : CustodyUtxo) : Prop where
  locked : LockedByCustody bridgeState managerSet utxo
  passes : ∀ args : Args, args.dogeNetwork = network →
    selectUtxo args bridgeState managerSet utxo = .ok (selectedUtxo bridgeState managerSet utxo)
  spent : ∀ (args : Args) payload (reservation : CustodyReservation) persisted p index,
    preparedFromReservation args bridgeState payload managerSet reservation persisted = .ok p →
    reservation.utxos[index]? = some utxo →
    p.transaction.inputs[index]? = some (spendingInput utxo) ∧
      (p.unsignedBytes.drop (inputsOffset reservation + 41 * index)).take 41 =
        utxo.txid.toList ++ u32Le utxo.vout ++ writeVarint 0 ++ u32Le sequenceFinal

end

/-! Deposits. -/

/-- The output that is found is one of those that were searched. -/
theorem findDeposit_output {amountSats : UInt64} {expected : String} {outputs : List DepositOutput}
    {vout : UInt32} {sats : UInt64} {script : String}
    (h : findDeposit amountSats expected outputs = .ok (vout, sats, script)) :
    sats = amountSats ∧ eqIgnoreAsciiCase script expected = true ∧
      outputs[vout.toNat]? = some { scriptpubkey := script, value := sats } := by
  obtain ⟨found, hfold, hfound⟩ := bind_eq_ok.mp h
  rw [orBail_eq_ok] at hfound
  subst hfound
  refine foldlM_invariant (P := fun found => ∀ entry, found = some entry →
    entry.2.1 = amountSats ∧ eqIgnoreAsciiCase entry.2.2 expected = true ∧
      outputs[entry.1.toNat]? = some { scriptpubkey := entry.2.2, value := entry.2.1 })
    ?_ (by simp) hfold _ rfl
  intro found found' entry hentry _ hstep
  unfold keepDeposit at hstep
  obtain ⟨-, hstep⟩ := guard_bind_eq_ok.mp hstep
  obtain ⟨vout, hvout, hstep⟩ := bind_eq_ok.mp hstep
  cases hstep
  rintro _ ⟨⟩
  obtain ⟨hmem, hmatch⟩ := List.mem_filter.mp hentry
  rw [Bool.and_eq_true, decide_eq_true_iff] at hmatch
  refine ⟨hmatch.1, hmatch.2, ?_⟩
  rw [toU32_toNat hvout]
  exact List.mem_zipIdx_iff_getElem?.mp hmem

section
variable [Hashes] [Base58Check] {bridgeState : Pubkey}

theorem p2shCustodyAddress_eq_ok {network : DogeNetwork} {recipient : Pubkey} {index : UInt32}
    {managerSet : ManagerSet} {address : String} {scriptHash : FixedBytes 20}
    (hset : managerSetForIndex index = .ok managerSet)
    (h : p2shCustodyAddress network bridgeState recipient index = .ok (address, scriptHash)) :
    QuorumValid managerSet.m managerSet.pubkeys ∧
      scriptHash = custodyHash bridgeState managerSet recipient ∧
      address = DogeNetwork.p2shAddress scriptHash := by
  unfold p2shCustodyAddress at h
  rw [hset, ok_bind] at h
  obtain ⟨redeemScript, hr, h⟩ := bind_eq_ok.mp h
  obtain ⟨hq, rfl⟩ := buildRedeemScript_eq_ok.mp hr
  cases h
  exact ⟨hq, rfl, rfl⟩

variable [BlockHashText] [TxoConstants] [CustodyProfiles]

theorem registerDeposit_locked {args : DepositArgs} {managerSet : ManagerSet}
    {localTxid : FixedBytes 32} {confirmed : DepositTransaction}
    {blockTxids : List (FixedBytes 32)} {tipHeight : UInt32} {utxo : CustodyUtxo}
    (hset : managerSetForIndex args.managerSetIndex = .ok managerSet)
    (h : registerDeposit args bridgeState localTxid confirmed blockTxids tipHeight = .ok utxo) :
    LockedByCustody bridgeState managerSet utxo := by
  unfold registerDeposit at h
  obtain ⟨⟨depositAddress, scriptHash⟩, haddress, h⟩ := bind_eq_ok.mp h
  obtain ⟨_, -, h⟩ := bind_eq_ok.mp h
  obtain ⟨_, -, h⟩ := bind_eq_ok.mp h
  obtain ⟨_, -, h⟩ := bind_eq_ok.mp h
  obtain ⟨_, -, h⟩ := bind_eq_ok.mp h
  obtain ⟨-, h⟩ := guard_bind_eq_ok.mp h
  obtain ⟨-, h⟩ := guard_bind_eq_ok.mp h
  obtain ⟨⟨vout, sats, script⟩, hfind, h⟩ := bind_eq_ok.mp h
  obtain ⟨_, -, h⟩ := bind_eq_ok.mp h
  obtain ⟨_, -, h⟩ := bind_eq_ok.mp h
  obtain ⟨_, -, h⟩ := bind_eq_ok.mp h
  obtain ⟨_, -, h⟩ := bind_eq_ok.mp h
  obtain ⟨_, -, h⟩ := bind_eq_ok.mp h
  obtain ⟨_, -, h⟩ := bind_eq_ok.mp h
  obtain ⟨_, -, h⟩ := bind_eq_ok.mp h
  obtain ⟨hq, hhash, haddress⟩ := p2shCustodyAddress_eq_ok hset haddress
  rw [hhash] at hfind haddress
  cases h
  exact ⟨hq, haddress, (findDeposit_output hfind).2.1⟩

end

/-! Change. -/

theorem confirmedChangeScript_sound {batch : SnapshotBatch} {graph : PersistedWithdrawalGraph}
    {output : ElectrsWithdrawalOutput} {script : ByteString} {scriptHash : FixedBytes 20}
    (h : confirmedChangeScript batch graph output = .ok (script, scriptHash)) :
    script = p2shScriptPubkey scriptHash ∧ ∃ bytes recovered change,
      batch.unsignedTransaction = some bytes ∧
      UnsignedTransaction.fromPersistedBytes bytes (graph.reservation.utxos.map recoveryInput) =
        .ok recovered ∧
      recovered.logicalOutputs.getLast? = some change ∧ change.address = scriptHash := by
  unfold confirmedChangeScript at h
  obtain ⟨decoded, -, h⟩ := bind_eq_ok.mp h
  obtain ⟨hform, h⟩ := guard_bind_eq_ok.mp h
  obtain ⟨hash, hhash, h⟩ := bind_eq_ok.mp h
  obtain ⟨bytes, hbytes, h⟩ := bind_eq_ok.mp h
  obtain ⟨recovered, hrecovered, h⟩ := bind_eq_ok.mp h
  obtain ⟨change, hchange, h⟩ := bind_eq_ok.mp h
  obtain ⟨hsame, h⟩ := guard_bind_eq_ok.mp h
  simp only [not_or, not_not] at hform hsame
  obtain ⟨hlen, hpre, hpost⟩ := hform
  have hmid := toFixed?_eq_some.mp (orBail_eq_ok.mp hhash)
  have hsplit : decoded = decoded.take 2 ++ ((decoded.drop 2).take 20 ++ decoded.drop 22) := by
    rw [← List.drop_drop (i := 20) (j := 2), List.take_append_drop, List.take_append_drop]
  cases h
  refine ⟨?_, bytes, recovered, change, orBail_eq_ok.mp hbytes, hrecovered, orBail_eq_ok.mp hchange,
    hsame.2.2⟩
  rw [hsplit, hpre, hmid, hpost, p2shScriptPubkey, List.append_assoc]

section
variable [Base58Check] [TxoConstants]

/-- A returned change is the last output, found by the checks on the confirmed script. -/
theorem deriveConfirmedChange_some {network : DogeNetwork} {batch : SnapshotBatch}
    {graph : PersistedWithdrawalGraph} {count : ℕ} {confirmed : ConfirmedWithdrawal}
    {change : CustodyUtxo}
    (h : deriveConfirmedChange network batch graph count confirmed = .ok (some change)) :
    graph.process.returnOutputAmountSats ≠ 0 ∧ ∃ output script scriptHash,
      confirmedChangeScript batch graph output = .ok (script, scriptHash) ∧
      change.scriptPubkeyHex = hexEncode script ∧
      change.custodyAddress = DogeNetwork.p2shAddress scriptHash ∧
      change.originalRecipientAddress = zeroRecipient := by
  unfold deriveConfirmedChange at h
  by_cases hzero : graph.process.returnOutputAmountSats = 0
  · rw [if_pos hzero] at h
    obtain ⟨-, h⟩ := guard_bind_eq_ok.mp h
    cases h
  rw [if_neg hzero] at h
  obtain ⟨_, -, h⟩ := bind_eq_ok.mp h
  obtain ⟨-, h⟩ := guard_bind_eq_ok.mp h
  obtain ⟨-, h⟩ := guard_bind_eq_ok.mp h
  obtain ⟨output, -, h⟩ := bind_eq_ok.mp h
  obtain ⟨-, h⟩ := guard_bind_eq_ok.mp h
  obtain ⟨⟨script, scriptHash⟩, hscript, h⟩ := bind_eq_ok.mp h
  obtain ⟨_, -, h⟩ := bind_eq_ok.mp h
  obtain ⟨_, -, h⟩ := bind_eq_ok.mp h
  obtain ⟨_, -, h⟩ := bind_eq_ok.mp h
  rw [DogeNetwork.encodeAddress_p2sh, ok_bind] at h
  cases h
  exact ⟨hzero, output, script, scriptHash, hscript, rfl, rfl, rfl⟩

variable [Hashes] {network : DogeNetwork} {bridgeState : Pubkey} {managerSet : ManagerSet}

/-- The change of a prepared withdrawal is locked by the custody script of the zero recipient. -/
theorem changeOf_locked {reservation : CustodyReservation} {change : CustodyUtxo}
    (h : IsChangeOf network bridgeState managerSet reservation change) :
    LockedByCustody bridgeState managerSet change := by
  obtain ⟨args, payload, persisted, p, batch, graph, count, confirmed, -, hp, hunsigned, hamount,
    hderive⟩ := h
  obtain ⟨withdrawalSats, plan, hchecks, -, rfl⟩ := preparedFromReservation_eq_ok.mp hp
  obtain ⟨hpos, output, script, scriptHash, hscript, hhex, haddress, hrecipient⟩ :=
    deriveConfirmedChange_some hderive
  obtain ⟨rfl, bytes, recovered, last, hbytes, hrecovered, hlast, rfl⟩ :=
    confirmedChangeScript_sound hscript
  have hzero : plan.changeSats ≠ 0 := fun hz => hpos (hamount.trans hz)
  obtain ⟨-, hil, outputs, -, hol, rfl, hserialized⟩ :=
    UnsignedTransaction.fromPersistedBytes_sound hrecovered
  have hbytes : (UnsignedTransaction.built _ outputs).serialize = (preparedUnsigned bridgeState
      payload managerSet reservation plan.changeSats).serialize :=
    hserialized.symm.trans (Option.some.inj (hbytes.symm.trans hunsigned))
  have hsame : outputs = plannedOutputs bridgeState payload managerSet plan.changeSats :=
    UnsignedTransaction.built_serialize_outputs_inj
      (UnsignedTransaction.built_serialize_length_lt hil hol) hbytes
  have hchange : last = changeOutput bridgeState managerSet plan.changeSats := by
    rw [UnsignedTransaction.built, hsame, plannedOutputs, changeOutputs, if_neg hzero,
      List.getLast?_concat] at hlast
    exact (Option.some.inj hlast).symm
  subst hchange
  refine ⟨hchecks.change.resolve_left hzero, ?_, ?_⟩
  · rw [haddress, hrecipient]
    rfl
  · rw [hhex, hrecipient]
    exact eqIgnoreAsciiCase_refl _

/-! Spending. -/

omit [Hashes] [Base58Check] [TxoConstants] in
theorem selectedUtxo_toTxIn (utxo : CustodyUtxo) :
    (selectedUtxo bridgeState managerSet utxo).toTxIn = spendingInput utxo := by
  have hreverse : utxo.txid.reverse.reverse = utxo.txid := List.Vector.eq _ _ (by simp)
  rw [SelectedUtxo.toTxIn, selectedUtxo, hreverse]
  rfl

omit [Hashes] [Base58Check] [TxoConstants] in
/-- Inputs are 41 bytes each, in reservation order. -/
theorem flatMap_block {inputs : List SelectedUtxo} {index : ℕ} {selected : SelectedUtxo}
    (h : inputs[index]? = some selected) (rest : ByteString) :
    (((inputs.map SelectedUtxo.toTxIn).flatMap TxIn.serialize ++ rest).drop (41 * index)).take 41 =
      selected.toTxIn.serialize := by
  induction inputs generalizing index with
  | nil => simp at h
  | cons first others ih =>
    have hlen := first.toTxIn_serialize_length
    rw [List.map_cons, List.flatMap_cons, List.append_assoc]
    cases index with
    | zero =>
      rw [List.getElem?_cons_zero, Option.some.injEq] at h
      rw [Nat.mul_zero, List.drop_zero, List.take_left' hlen, h]
    | succ index =>
      rw [List.getElem?_cons_succ] at h
      rw [Nat.mul_succ, Nat.add_comm, ← List.drop_drop, List.drop_left' hlen, ih h]

omit [TxoConstants] in
theorem LockedByCustody.spendable {utxo : CustodyUtxo}
    (h : LockedByCustody bridgeState managerSet utxo) :
    SpendableBy network bridgeState managerSet utxo where
  locked := h
  passes _ _ := selectUtxo_eq_ok.mpr ⟨h.matches, rfl⟩
  spent := by
    intro args payload reservation persisted p index hp hindex
    obtain ⟨withdrawalSats, plan, -, -, rfl⟩ := preparedFromReservation_eq_ok.mp hp
    have hselected : (reservation.utxos.map (selectedUtxo bridgeState managerSet))[index]? =
        some (selectedUtxo bridgeState managerSet utxo) := by
      rw [List.getElem?_map, hindex]
      rfl
    constructor
    · dsimp only [preparedRecord, preparedUnsigned, UnsignedTransaction.built]
      rw [List.getElem?_map, hselected, Option.map_some, selectedUtxo_toTxIn]
    · dsimp only [preparedRecord, preparedUnsigned]
      rw [UnsignedTransaction.built_serialize, inputsOffset, List.length_map, ← List.drop_drop,
        ← List.drop_drop, List.drop_left' (u32Le_length _), List.drop_left' rfl,
        flatMap_block hselected, SelectedUtxo.toTxIn_serialize]
      have hreverse : utxo.txid.reverse.reverse = utxo.txid := List.Vector.eq _ _ (by simp)
      rw [selectedUtxo, hreverse]

variable [BlockHashText] [CustodyProfiles] {managerSetIndex : UInt32}

theorem recorded_locked (hset : managerSetForIndex managerSetIndex = .ok managerSet)
    {utxo : CustodyUtxo} (h : Recorded network bridgeState managerSetIndex managerSet utxo) :
    LockedByCustody bridgeState managerSet utxo := by
  induction h with
  | deposit _ hindex hregister => exact registerDeposit_locked (hindex ▸ hset) hregister
  | change hchange => exact changeOf_locked hchange
  | kept _ hkept ih => exact ih.congr hkept

/-- Every recorded UTXO is spendable, and so is every change its value passes through in any
number of later withdrawals. -/
theorem recorded_spendable (hset : managerSetForIndex managerSetIndex = .ok managerSet)
    {utxo later : CustodyUtxo} (h : Recorded network bridgeState managerSetIndex managerSet utxo)
    (hchain : Relation.ReflTransGen (Respends network bridgeState managerSet) utxo later) :
    SpendableBy network bridgeState managerSet later := by
  suffices hlater : Recorded network bridgeState managerSetIndex managerSet later from
    (recorded_locked hset hlater).spendable
  obtain rfl | ⟨spent, -, reservation, -, hchange⟩ := hchain.cases_tail
  · exact h
  · exact .change hchange

end

end DogeOperator.Spendable

namespace DogeOperator.Digests
open Bytes Network Manager Confirm Deposit

/-- Block hashes are displayed in reverse byte order. -/
scoped instance : BlockHashText where
  fromStr text := do
    let bytes ← hexDecode text
    match toFixed? 32 bytes with
    | some hash => return hash.reverse
    | none => .error "bad hex string length"

scoped instance : CustodyProfiles where
  localRegtest := (localRegtestManagerSetM, localRegtestManagerSetPubkeys)
  officialTestnet := match officialTestnetManagerSet1 with
    | .ok set => (set.m, set.pubkeys)
    | .error _ => (0, [])
  localRegtestTypeName := "LocalRegtestManagerCustody"
  officialTestnetTypeName := "OfficialTestnetManagerCustody"
  p2shAddress _ scriptHash := .ok (DogeNetwork.p2shAddress scriptHash)

end DogeOperator.Digests

namespace DogeOperator.Spendable
open Bytes Outcome Crypto Tx Network Manager Records Prepare Confirm Digests

/-- Outputs of custody with one key reference are spent, and change returns. -/
theorem local_change {utxos : List CustodyUtxo} {key : String} (hne : utxos ≠ [])
    (hlen : utxos.length ≤ maxPersistedInputs)
    (hmatches : ∀ utxo ∈ utxos, Matches localBridgeState localRegtestManagerSet utxo)
    (hkey : commonKeyReference utxos = .ok key) :
    ∃ change, IsChangeOf .regtest localBridgeState localRegtestManagerSet (localReservation utxos)
      change := by
  have hprepared : preparedFromReservation localArgs localBridgeState localPayload
      localRegtestManagerSet (localReservation utxos) none = .ok (localPrepared utxos) :=
    preparedFromReservation_eq_ok.mpr
      ⟨9000000, localPlan, localReservation_checks hne hmatches, trivial, rfl⟩
  have hpaid : PaysExactly (localConfirmed utxos).transaction.vout
      (localPrepared utxos).transaction.logicalOutputs := paysExactly_electrsOutput _
  have hchange : localPlan.changeSats ≠ 0 := by decide
  obtain ⟨change, hderive, -⟩ := deriveConfirmedChange_prepared (by decide) hlen hprepared
    (localGraph_persisted _) hpaid hchange
  exact ⟨change key, localArgs, localPayload, none, _, localBatch _, localGraph _, _, _, rfl,
    hprepared, rfl, rfl, hderive.trans (bind_eq_ok.mpr ⟨key, hkey, rfl⟩)⟩

/-- The change of two deposits is spent with another deposit. -/
theorem recorded_spendable_local :
    ∃ change later, IsChangeOf .regtest localBridgeState localRegtestManagerSet
        (localReservation (localMixture "key-1" "key-1")) change ∧
      Respends .regtest localBridgeState localRegtestManagerSet change later ∧
      SpendableBy .regtest localBridgeState localRegtestManagerSet later := by
  have hset : managerSetForIndex 0 = .ok localRegtestManagerSet := rfl
  have hlocal : ∀ key recipient vout amountSats,
      Matches localBridgeState localRegtestManagerSet (localUtxo key recipient vout amountSats) :=
    fun _ _ _ _ => custodyUtxo_matches localRegtestManagerSet_quorum
  have hmixture : ∀ utxo ∈ localMixture "key-1" "key-1",
      Matches localBridgeState localRegtestManagerSet utxo := by
    intro utxo hutxo
    rcases List.mem_pair.mp hutxo with rfl | rfl
    · exact hlocal _ _ _ _
    · exact hlocal _ _ _ _
  have hshared : commonKeyReference (localMixture "key-1" "key-1") = .ok "key-1" := rfl
  obtain ⟨change, hchange⟩ := local_change (List.cons_ne_nil _ _) (by decide) hmixture hshared
  have hspent := (changeOf_locked hchange).matches
  have hkey : commonKeyReference [change, localUtxo change.keyReference 0x22 1 10000000] =
      .ok change.keyReference := by simp [commonKeyReference, localUtxo, custodyUtxo, orBail]
  have hlen : [change, localUtxo change.keyReference 0x22 1 10000000].length ≤ maxPersistedInputs :=
    (by decide : 2 ≤ maxPersistedInputs)
  have hmatches : ∀ utxo ∈ [change, localUtxo change.keyReference 0x22 1 10000000],
      Matches localBridgeState localRegtestManagerSet utxo := by
    intro utxo hutxo
    rcases List.mem_pair.mp hutxo with rfl | rfl
    · exact hspent
    · exact hlocal _ _ _ _
  obtain ⟨later, hlater⟩ :=
    local_change (List.cons_ne_nil _ _) hlen hmatches hkey
  have hrespends : Respends .regtest localBridgeState localRegtestManagerSet change later :=
    ⟨_, List.mem_cons_self, hlater⟩
  exact ⟨change, later, hchange, hrespends,
    recorded_spendable hset (.change hchange) (.single hrespends)⟩

end DogeOperator.Spendable
