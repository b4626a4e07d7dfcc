import DogeOperator.DepositRun

/-! The deposit transaction: when it is built, what it spends and pays, and how it is found again in
what Electrs says of it. -/
namespace DogeOperator.DepositSpend
open Bytes Outcome Crypto Tx Records Confirm Deposit DepositRun

/-- The funding output covers the deposit and its fee exactly, or leaves an output worth spending. -/
def Covers (fundingAmount amountSats : UInt64) : Prop :=
  fundingAmount.toNat = amountSats.toNat + defaultFeeSats.toNat ∨
    amountSats.toNat + defaultFeeSats.toNat + dogeDustLimitSats.toNat ≤ fundingAmount.toNat

theorem depositChange_eq_ok {fundingAmount amountSats changeSats : UInt64} :
    depositChange fundingAmount amountSats = .ok changeSats ↔
      fundingAmount.toNat = amountSats.toNat + defaultFeeSats.toNat + changeSats.toNat ∧
        (changeSats = 0 ∨ dogeDustLimitSats ≤ changeSats) := by
  have hfunding := fundingAmount.toNat_lt
  simp only [depositChange, bind_eq_ok, orBail_eq_ok, checkedAdd_eq_some, checkedSub_eq_some,
    guard_bind_eq_ok, pure_eq_ok, Except.ok.injEq]
  constructor
  · rintro ⟨required, hrequired, change, hchange, hdust, rfl⟩
    refine ⟨by omega, ?_⟩
    by_cases hzero : change = 0
    · exact .inl hzero
    · exact .inr (UInt64.not_lt.mp fun hlt => hdust ⟨hzero, hlt⟩)
  · rintro ⟨hsum, hdust⟩
    have hrequired : (amountSats + defaultFeeSats).toNat =
        amountSats.toNat + defaultFeeSats.toNat := by
      rw [UInt64.toNat_add]
      exact Nat.mod_eq_of_lt (by omega)
    refine ⟨amountSats + defaultFeeSats, hrequired, changeSats, by omega, ?_, rfl⟩
    rintro ⟨hzero, hlt⟩
    exact UInt64.not_lt.mpr (hdust.resolve_left hzero) hlt

theorem covers_iff {fundingAmount amountSats : UInt64} :
    Covers fundingAmount amountSats ↔
      ∃ changeSats, depositChange fundingAmount amountSats = .ok changeSats := by
  have hfunding := fundingAmount.toNat_lt
  simp only [depositChange_eq_ok, Covers]
  constructor
  · intro h
    have hfee : defaultFeeSats.toNat = 1000000 := rfl
    have hchange : (UInt64.ofNat (fundingAmount.toNat - (amountSats.toNat + defaultFeeSats.toNat))).toNat
        = fundingAmount.toNat - (amountSats.toNat + defaultFeeSats.toNat) := by
      rw [UInt64.toNat_ofNat']
      exact Nat.mod_eq_of_lt (by omega)
    refine ⟨UInt64.ofNat (fundingAmount.toNat - (amountSats.toNat + defaultFeeSats.toNat)), ?_, ?_⟩
    · rw [hchange]
      omega
    · rcases h with h | h
      · exact .inl (UInt64.toNat_inj.mp (by rw [hchange, h]; simp))
      · refine .inr (UInt64.le_iff_toNat_le.mpr ?_)
        rw [hchange]
        omega
  · rintro ⟨changeSats, hsum, rfl | hdust⟩
    · exact .inl hsum
    · have hle := UInt64.le_iff_toNat_le.mp hdust
      omega

section
variable [Hashes] [Secp256k1] [DogecoinLibrary]

/-- What a deposit transaction does with the funding output. -/
structure Spends (key : DogecoinLibrary.PrivateKey) (fundingScript depositScript : ByteString)
    (funding : FundingOutpoint) (amountSats : UInt64) (tx : DepositTx) (feeSats : UInt64) : Prop where
  /-- It spends that output and no other, finally. -/
  input : ∃ scriptSig, tx.inputs = [⟨funding.txid, funding.vout, scriptSig, sequenceFinal⟩]
  /-- It is signed by the funding key for what it is when it is sent. -/
  signed : tx.inputs.map TxIn.scriptSig = [fundingScriptSig key (tx.signatureHash fundingScript)]
  paid : tx.outputs.head? = some { value := amountSats, scriptPubkey := depositScript }
  returned : ∀ output ∈ tx.outputs.tail,
    output.scriptPubkey = fundingScript ∧ dogeDustLimitSats ≤ output.value
  conserved : (tx.outputs.map fun output => output.value.toNat).sum + feeSats.toNat =
    funding.amount.toNat
  fee : feeSats = defaultFeeSats

omit [Secp256k1] [DogecoinLibrary] in
/-- The script under the signature does not see the signature. -/
theorem signatureHash_scriptSig (tx : DepositTx) (scriptSig script : ByteString) :
    ({ tx with inputs := tx.inputs.map ({ · with scriptSig }) } : DepositTx).signatureHash script =
      tx.signatureHash script := by
  simp [DepositTx.signatureHash, Function.comp_def]

variable {key : DogecoinLibrary.PrivateKey} {fundingScript depositScript : ByteString}
  {funding : FundingOutpoint} {amountSats : UInt64}

theorem built_iff_covers :
    (∃ built, buildSignedDepositTransaction key fundingScript funding depositScript amountSats =
      .ok built) ↔ Covers funding.amount amountSats := by
  unfold buildSignedDepositTransaction
  rw [covers_iff]
  simp only [bind_eq_ok, pure_eq_ok]
  constructor
  · rintro ⟨_, changeSats, hchange, -⟩
    exact ⟨changeSats, hchange⟩
  · rintro ⟨changeSats, hchange⟩
    exact ⟨_, changeSats, hchange, rfl⟩

theorem built_spends {tx : DepositTx} {feeSats : UInt64}
    (h : buildSignedDepositTransaction key fundingScript funding depositScript amountSats =
      .ok (tx, feeSats)) : Spends key fundingScript depositScript funding amountSats tx feeSats := by
  unfold buildSignedDepositTransaction at h
  rcases bind_eq_ok.mp h with ⟨changeSats, hchange, h⟩
  cases h
  rcases depositChange_eq_ok.mp hchange with ⟨hsum, hdust⟩
  refine ⟨⟨_, rfl⟩, ?_, rfl, ?_, ?_, rfl⟩
  · rw [signatureHash_scriptSig]
    rfl
  · intro output houtput
    by_cases hzero : changeSats = 0
    · simp [unsignedDeposit, depositOutputs, hzero] at houtput
    · have hlast : output = { value := changeSats, scriptPubkey := fundingScript } := by
        simpa [unsignedDeposit, depositOutputs, hzero] using houtput
      rw [hlast]
      exact ⟨rfl, hdust.resolve_left hzero⟩
  · by_cases hzero : changeSats = 0
    · simp [unsignedDeposit, depositOutputs, hzero] at hsum ⊢
      omega
    · simp [unsignedDeposit, depositOutputs, hzero] at hsum ⊢
      omega

theorem built_outputs {tx : DepositTx} {feeSats : UInt64}
    (h : buildSignedDepositTransaction key fundingScript funding depositScript amountSats =
      .ok (tx, feeSats)) : ∃ changeSats,
    tx.outputs = depositOutputs depositScript fundingScript amountSats changeSats := by
  unfold buildSignedDepositTransaction at h
  rcases bind_eq_ok.mp h with ⟨changeSats, -, h⟩
  cases h
  exact ⟨changeSats, rfl⟩

/-- A deposit transaction is built exactly when the funding output covers it, and it spends that
output whole: to custody, back to the funding key, and the fee. -/
theorem buildSignedDepositTransaction_spends (key : DogecoinLibrary.PrivateKey)
    (fundingScript depositScript : ByteString) (funding : FundingOutpoint) (amountSats : UInt64) :
    ((∃ built, buildSignedDepositTransaction key fundingScript funding depositScript amountSats =
        .ok built) ↔ Covers funding.amount amountSats) ∧
      ∀ tx feeSats, buildSignedDepositTransaction key fundingScript funding depositScript amountSats =
          .ok (tx, feeSats) →
        Spends key fundingScript depositScript funding amountSats tx feeSats :=
  ⟨built_iff_covers, fun _ _ h => built_spends h⟩

end

/-! The deposit as Electrs shows it. -/

def shown (output : TxOut) : DepositOutput where
  scriptpubkey := hexEncode output.scriptPubkey
  value := output.value

/-- A key's script is never a script of custody, in any case of its digits. -/
theorem p2pkh_not_p2sh (pubkeyHash scriptHash : FixedBytes 20) :
    eqIgnoreAsciiCase (hexEncode (p2pkhScriptPubkey pubkeyHash))
      (hexEncode (p2shScriptPubkey scriptHash)) = false := by
  have hkey : ∀ rest, (hexChars (0x76 :: rest)).head? = some '7' := fun _ => rfl
  have hscript : ∀ rest, (hexChars (0xa9 :: rest)).head? = some 'a' := fun _ => rfl
  simp only [eqIgnoreAsciiCase, hexEncode, String.toList_ofList, decide_eq_false_iff_not]
  intro hsame
  have hhead := congrArg List.head? hsame
  simp only [List.head?_map, p2pkhScriptPubkey, p2shScriptPubkey, List.cons_append, hkey, hscript]
    at hhead
  revert hhead
  decide

/-- The custody output is found where it was put, and only there. -/
theorem findDeposit_shown (pubkeyHash scriptHash : FixedBytes 20) (amountSats changeSats : UInt64) :
    findDeposit amountSats (hexEncode (p2shScriptPubkey scriptHash))
      ((depositOutputs (p2shScriptPubkey scriptHash) (p2pkhScriptPubkey pubkeyHash) amountSats
        changeSats).map shown) =
      .ok (0, amountSats, hexEncode (p2shScriptPubkey scriptHash)) := by
  have hother := p2pkh_not_p2sh pubkeyHash scriptHash
  by_cases hzero : changeSats = 0
  · simp [depositOutputs, hzero, findDeposit, shown, keepDeposit, toU32, orBail]
  · simp [depositOutputs, hzero, findDeposit, shown, keepDeposit, hother, toU32, orBail]

end DogeOperator.DepositSpend
