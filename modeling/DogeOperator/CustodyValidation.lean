import DogeOperator.DogeAmount
import DogeOperator.Prepare
import DogeOperator.SortByKey
import Mathlib.Data.List.Permutation

/-! The check of a decoded transaction against the custody plan. Recipient and change are counted
each on its own, so an output that carries both addresses can be counted for both. -/
namespace DogeOperator.CustodyValidation
open Bytes Outcome Panics Json DogeAmount SortByKey Prepare

def toAsciiLowercase (text : String) : String := String.ofList (text.toList.map Char.toLower)

/-- The order of `(String, u32)` -/
def outpointKey (outpoint : String × UInt32) : List ℕ ×ₗ ℕ :=
  toLex (outpoint.1.toList.map Char.toNat, outpoint.2.toNat)

/-- One `vin` -/
def decodedInput (vin : Value) : Result (String × UInt32) := do
  let txid ← orBail ((vin.get "txid").bind Value.asStr) "decoded input missing txid"
  let vout ← orBail ((vin.get "vout").bind Value.asU64) "decoded input missing vout"
  let vout ← context "decoded input vout exceeds u32"
    (orBail (if vout < 2 ^ 32 then some (UInt32.ofNat vout) else none)
      "out of range integral type conversion attempted")
  return (toAsciiLowercase txid, vout)

def wantedInputs (expectedInputs : List (String × UInt32)) : List (String × UInt32) :=
  expectedInputs.map fun outpoint => (toAsciiLowercase outpoint.1, outpoint.2)

def checkInputs (decoded : Value) (expectedInputs : List (String × UInt32)) : Result Unit := do
  let vins ← orBail ((decoded.get "vin").bind Value.asArray) "decoded transaction missing vin array"
  if vins.length ≠ expectedInputs.length then
    bail s!"decoded transaction has {vins.length} inputs, expected exactly {expectedInputs.length} tracked inputs"
  let actualInputs ← vins.mapM decodedInput
  if sortByKey outpointKey actualInputs ≠ sortByKey outpointKey (wantedInputs expectedInputs) then
    bail "decoded transaction inputs differ from the atomically reserved custody outpoints"

/-- `matches_address` -/
def matchesAddress (output : Value) (address : String) : Bool :=
  let script := (output.get "scriptPubKey").getD .null
  (script.get "address").bind Value.asStr = some address ||
    (((script.get "addresses").bind Value.asArray).map fun addresses =>
      addresses.any fun candidate => candidate.asStr = some address).getD false

/-- The outputs, as many as the plan has. -/
def decodedOutputs (decoded : Value) (recipientAddress : String) (changeAddress : Option String)
    (plan : CustodyTransactionPlan) : Result (List Value) := do
  let vouts ← orBail ((decoded.get "vout").bind Value.asArray)
    "decoded transaction missing vout array"
  let expectedOutputCount := 1 + if plan.changeSats ≠ 0 then 1 else 0
  if vouts.length ≠ expectedOutputCount then
    bail s!"decoded transaction has {vouts.length} outputs, expected exactly {expectedOutputCount}"
  if plan.changeSats ≠ 0 ∧ changeAddress = some recipientAddress then
    bail "custody change address must differ from the withdrawal recipient"
  return vouts

def decodedAmount (profile : Profile) (output : Value) : Checked UInt64 := do
  let value ← lift (orBail (output.get "value") "decoded output missing value")
  dogeAmountToSats profile value

structure Tally where
  recipientMatches : ℕ
  changeMatches : ℕ
  totalOutputSats : UInt64

/-- Whether an output with this amount counts for an address. -/
def counts (address : Option String) (sats : UInt64) (output : Value × UInt64) : Bool :=
  match address with
  | some address => matchesAddress output.1 address && output.2 = sats
  | none => false

/-- `for output in vouts` -/
def tallyOutput (profile : Profile) (recipientAddress : String) (changeAddress : Option String)
    (plan : CustodyTransactionPlan) (tally : Tally) (output : Value) : Checked Tally := do
  let amount ← decodedAmount profile output
  let totalOutputSats ← lift (orBail (checkedAdd tally.totalOutputSats amount)
    "decoded output total overflows u64")
  return {
    recipientMatches := tally.recipientMatches +
      if counts (some recipientAddress) plan.recipientSats (output, amount) then 1 else 0
    changeMatches := tally.changeMatches +
      if counts changeAddress plan.changeSats (output, amount) then 1 else 0
    totalOutputSats }

def checkTally (plan : CustodyTransactionPlan) (selectedSats : UInt64) (tally : Tally) :
    Result Unit := do
  if tally.recipientMatches ≠ 1 then
    bail "decoded transaction does not contain exactly one authoritative recipient output"
  if plan.changeSats ≠ 0 ∧ tally.changeMatches ≠ 1 then
    bail "decoded transaction does not contain exactly one explicit custody change output"
  let actualFee ← orBail (checkedSub selectedSats tally.totalOutputSats)
    "decoded outputs exceed selected custody inputs"
  if actualFee ≠ plan.feeSats then
    bail s!"decoded transaction fee is {actualFee} sats, expected explicit {plan.feeSats} sats"

def validateDecodedCustodyTransaction (profile : Profile) (decoded : Value)
    (expectedInputs : List (String × UInt32)) (recipientAddress : String)
    (changeAddress : Option String) (plan : CustodyTransactionPlan) (selectedSats : UInt64) :
    Checked Unit := do
  lift (checkInputs decoded expectedInputs)
  let vouts ← lift (decodedOutputs decoded recipientAddress changeAddress plan)
  let tally ← vouts.foldlM (tallyOutput profile recipientAddress changeAddress plan) ⟨0, 0, 0⟩
  lift (checkTally plan selectedSats tally)

theorem counts_matches {address : String} {sats amount : UInt64} {output : Value}
    (h : counts (some address) sats (output, amount)) : matchesAddress output address = true :=
  (Bool.and_eq_true_iff.mp h).1

/-! The plan that an accepted transaction is compared with. -/

variable {profile : Profile} {decoded : Value} {expectedInputs : List (String × UInt32)}
  {recipientAddress : String} {changeAddress : Option String} {plan : CustodyTransactionPlan}
  {selectedSats : UInt64}

/-- An address and an amount for each output: the recipient, and the change when there is any. -/
def planItems (recipientAddress : String) (changeAddress : Option String)
    (plan : CustodyTransactionPlan) : List (Option String × UInt64) :=
  (some recipientAddress, plan.recipientSats) ::
    if plan.changeSats = 0 then [] else [(changeAddress, plan.changeSats)]

/-- The inputs are the expected ones in some order. -/
def SpendsExactly (decoded : Value) (expectedInputs : List (String × UInt32)) : Prop :=
  ∃ vins inputs, (decoded.get "vin").bind Value.asArray = some vins ∧
    List.Forall₂ (fun vin input => decodedInput vin = .ok input) vins inputs ∧
    inputs.Perm (wantedInputs expectedInputs)

/-- Each output pays one item of the plan, no two the same, and the rest is the fee. -/
def PaysExactly (profile : Profile) (decoded : Value) (recipientAddress : String)
    (changeAddress : Option String) (plan : CustodyTransactionPlan) (selectedSats : UInt64) : Prop :=
  ∃ vouts amounts, (decoded.get "vout").bind Value.asArray = some vouts ∧
    List.Forall₂ (fun output amount => decodedAmount profile output = .ok amount) vouts amounts ∧
    (∃ items, items.Perm (planItems recipientAddress changeAddress plan) ∧
      List.Forall₂ (fun output item => counts item.1 item.2 output) (vouts.zip amounts) items) ∧
    selectedSats.toNat = (amounts.map UInt64.toNat).sum + plan.feeSats.toNat

/-- An output for both addresses, with the amount of both. -/
def PaidTwice (profile : Profile) (decoded : Value) (recipientAddress : String)
    (changeAddress : Option String) (plan : CustodyTransactionPlan) : Prop :=
  plan.changeSats ≠ 0 ∧ ∃ vouts, (decoded.get "vout").bind Value.asArray = some vouts ∧
    ∃ output ∈ vouts, ∃ amount, decodedAmount profile output = .ok amount ∧
      counts (some recipientAddress) plan.recipientSats (output, amount) ∧
      counts changeAddress plan.changeSats (output, amount)

/-! What is checked. -/

theorem outpointKey_injective : Function.Injective outpointKey := by
  rintro ⟨txid, vout⟩ ⟨txid', vout'⟩ h
  obtain ⟨htxid, hvout⟩ := Prod.mk.inj (toLex_inj.mp h)
  have hchars := List.map_injective_iff.mpr (fun a b => Char.toNat_inj.mp) htxid
  rw [Prod.mk.injEq]
  exact ⟨String.toList_inj.mp hchars, UInt32.toNat_inj.mp hvout⟩

theorem checkInputs_eq_ok :
    checkInputs decoded expectedInputs = .ok () ↔ SpendsExactly decoded expectedInputs := by
  rw [checkInputs, bind_eq_ok]
  constructor
  · rintro ⟨vins, hvins, h⟩
    rw [guard_bind_eq_ok] at h
    obtain ⟨-, h⟩ := h
    obtain ⟨inputs, hinputs, h⟩ := bind_eq_ok.mp h
    have hsorted := not_not.mp (guard_eq_ok.mp h)
    exact ⟨vins, inputs, orBail_eq_ok.mp hvins, mapM_eq_ok.mp hinputs,
      (sortByKey_eq_iff outpointKey_injective).mp hsorted⟩
  · rintro ⟨vins, inputs, hvins, hinputs, hperm⟩
    have hlength : vins.length = expectedInputs.length := by
      rw [hinputs.length_eq, hperm.length_eq, wantedInputs, List.length_map]
    refine ⟨vins, orBail_eq_ok.mpr hvins, ?_⟩
    rw [guard_bind_eq_ok]
    refine ⟨not_not.mpr hlength, bind_eq_ok.mpr ⟨inputs, mapM_eq_ok.mpr hinputs, ?_⟩⟩
    exact guard_eq_ok.mpr (not_not.mpr ((sortByKey_eq_iff outpointKey_injective).mpr hperm))

theorem decodedOutputs_eq_ok {vouts : List Value} :
    decodedOutputs decoded recipientAddress changeAddress plan = .ok vouts ↔
      (decoded.get "vout").bind Value.asArray = some vouts ∧
      vouts.length = (planItems recipientAddress changeAddress plan).length ∧
      ¬ (plan.changeSats ≠ 0 ∧ changeAddress = some recipientAddress) := by
  have hcount : (1 + if plan.changeSats ≠ 0 then 1 else 0) =
      (planItems recipientAddress changeAddress plan).length := by
    rw [planItems, List.length_cons]
    by_cases hchange : plan.changeSats = 0
    · simp [hchange]
    · simp [hchange]
  rw [decodedOutputs, bind_eq_ok]
  constructor
  · rintro ⟨vouts', hvouts, h⟩
    rw [guard_bind_eq_ok, guard_bind_eq_ok] at h
    obtain ⟨hlength, hsame, h⟩ := h
    cases h
    exact ⟨orBail_eq_ok.mp hvouts, (not_not.mp hlength).trans hcount, hsame⟩
  · rintro ⟨hvouts, hlength, hsame⟩
    refine ⟨vouts, orBail_eq_ok.mpr hvouts, ?_⟩
    rw [guard_bind_eq_ok, guard_bind_eq_ok]
    exact ⟨not_not.mpr (hlength.trans hcount.symm), hsame, rfl⟩

theorem checkTally_eq_ok {tally : Tally} : checkTally plan selectedSats tally = .ok () ↔
    tally.recipientMatches = 1 ∧ (plan.changeSats ≠ 0 → tally.changeMatches = 1) ∧
      selectedSats.toNat = tally.totalOutputSats.toNat + plan.feeSats.toNat := by
  rw [checkTally, guard_bind_eq_ok, not_not, guard_bind_eq_ok, bind_eq_ok, not_and, not_not]
  refine and_congr_right fun _ => and_congr_right fun _ => ?_
  constructor
  · rintro ⟨fee, hfee, h⟩
    have hsame := not_not.mp (guard_eq_ok.mp h)
    rw [← hsame]
    exact checkedSub_eq_some.mp (orBail_eq_ok.mp hfee)
  · intro h
    exact ⟨plan.feeSats, orBail_eq_ok.mpr (checkedSub_eq_some.mpr h),
      guard_eq_ok.mpr (not_not.mpr rfl)⟩

/-- A step reads one amount and counts the output for each address on its own. -/
theorem tallyOutput_eq_ok {tally tally' : Tally} {output : Value} :
    tallyOutput profile recipientAddress changeAddress plan tally output = .ok tally' ↔
      ∃ amount, decodedAmount profile output = .ok amount ∧
        tally'.totalOutputSats.toNat = tally.totalOutputSats.toNat + amount.toNat ∧
        tally'.recipientMatches = tally.recipientMatches +
          (if counts (some recipientAddress) plan.recipientSats (output, amount) then 1 else 0) ∧
        tally'.changeMatches = tally.changeMatches +
          (if counts changeAddress plan.changeSats (output, amount) then 1 else 0) := by
  rw [tallyOutput, bind_eq_ok]
  refine exists_congr fun amount => and_congr_right fun _ => ?_
  constructor
  · intro h
    obtain ⟨total, htotal, h⟩ := bind_eq_ok.mp h
    cases h
    exact ⟨checkedAdd_eq_some.mp (orBail_eq_ok.mp (mapError_eq_ok.mp htotal)), rfl, rfl⟩
  · rintro ⟨htotal, hrecipient, hchange⟩
    rw [bind_eq_ok]
    refine ⟨tally'.totalOutputSats, mapError_eq_ok.mpr (orBail_eq_ok.mpr
      (checkedAdd_eq_some.mpr htotal)), ?_⟩
    rw [← hrecipient, ← hchange]
    rfl

/-- The whole loop: the sum of the amounts, and how many outputs count for each address. -/
theorem tally_eq_ok {start tally : Tally} {vouts : List Value} :
    vouts.foldlM (tallyOutput profile recipientAddress changeAddress plan) start = .ok tally ↔
      ∃ amounts,
        List.Forall₂ (fun output amount => decodedAmount profile output = .ok amount) vouts amounts ∧
        tally.totalOutputSats.toNat =
          start.totalOutputSats.toNat + (amounts.map UInt64.toNat).sum ∧
        tally.recipientMatches = start.recipientMatches +
          (vouts.zip amounts).countP (counts (some recipientAddress) plan.recipientSats) ∧
        tally.changeMatches = start.changeMatches +
          (vouts.zip amounts).countP (counts changeAddress plan.changeSats) := by
  induction vouts generalizing start with
  | nil =>
    rw [List.foldlM_nil]
    constructor
    · intro h
      cases h
      exact ⟨[], .nil, rfl, rfl, rfl⟩
    · rintro ⟨amounts, hamounts, htotal, hrecipient, hchange⟩
      cases hamounts
      cases start
      cases tally
      simp only [List.map_nil, List.sum_nil, Nat.add_zero, List.zip_nil_right, List.countP_nil,
        UInt64.toNat_inj] at htotal hrecipient hchange
      rw [htotal, hrecipient, hchange]
      rfl
  | cons output vouts ih =>
    rw [List.foldlM_cons, bind_eq_ok]
    constructor
    · rintro ⟨next, hnext, hrest⟩
      obtain ⟨amount, hamount, htotal, hrecipient, hchange⟩ := tallyOutput_eq_ok.mp hnext
      obtain ⟨amounts, hamounts, htotal', hrecipient', hchange'⟩ := ih.mp hrest
      refine ⟨amount :: amounts, .cons hamount hamounts, ?_, ?_, ?_⟩
      · rw [htotal', htotal, List.map_cons, List.sum_cons, Nat.add_assoc]
      · rw [hrecipient', hrecipient, List.zip_cons_cons, List.countP_cons]
        omega
      · rw [hchange', hchange, List.zip_cons_cons, List.countP_cons]
        omega
    · rintro ⟨amounts, hamounts, htotal, hrecipient, hchange⟩
      cases hamounts with
      | @cons _ amount _ amounts hamount hamounts =>
        rw [List.map_cons, List.sum_cons] at htotal
        rw [List.zip_cons_cons, List.countP_cons] at hrecipient hchange
        have hlt := tally.totalOutputSats.toNat_lt
        have hnext : (UInt64.ofNat (start.totalOutputSats.toNat + amount.toNat)).toNat =
            start.totalOutputSats.toNat + amount.toNat := by
          rw [UInt64.toNat_ofNat', Nat.mod_eq_of_lt (by omega)]
        refine ⟨⟨_, _, UInt64.ofNat (start.totalOutputSats.toNat + amount.toNat)⟩,
          tallyOutput_eq_ok.mpr ⟨amount, hamount, hnext, rfl, rfl⟩, ih.mpr ⟨amounts, hamounts, ?_⟩⟩
        dsimp only
        rw [hnext]
        omega

theorem validate_eq_ok : validateDecodedCustodyTransaction profile decoded expectedInputs
      recipientAddress changeAddress plan selectedSats = .ok () ↔
    SpendsExactly decoded expectedInputs ∧
    ∃ vouts amounts, (decoded.get "vout").bind Value.asArray = some vouts ∧
      vouts.length = (planItems recipientAddress changeAddress plan).length ∧
      ¬ (plan.changeSats ≠ 0 ∧ changeAddress = some recipientAddress) ∧
      List.Forall₂ (fun output amount => decodedAmount profile output = .ok amount) vouts amounts ∧
      (vouts.zip amounts).countP (counts (some recipientAddress) plan.recipientSats) = 1 ∧
      (plan.changeSats ≠ 0 → (vouts.zip amounts).countP (counts changeAddress plan.changeSats) = 1) ∧
      selectedSats.toNat = (amounts.map UInt64.toNat).sum + plan.feeSats.toNat := by
  rw [validateDecodedCustodyTransaction, bind_eq_ok]
  constructor
  · rintro ⟨⟨⟩, hinputs, h⟩
    obtain ⟨vouts, hvouts, h⟩ := bind_eq_ok.mp h
    obtain ⟨tally, htally, h⟩ := bind_eq_ok.mp h
    obtain ⟨harray, hlength, hsame⟩ := decodedOutputs_eq_ok.mp (mapError_eq_ok.mp hvouts)
    obtain ⟨amounts, hamounts, htotal, hrecipient, hchange⟩ := tally_eq_ok.mp htally
    obtain ⟨hone, hone', hfee⟩ := checkTally_eq_ok.mp (mapError_eq_ok.mp h)
    simp only [UInt64.toNat_zero, Nat.zero_add] at htotal hrecipient hchange
    rw [hrecipient] at hone
    rw [hchange] at hone'
    rw [htotal] at hfee
    exact ⟨checkInputs_eq_ok.mp (mapError_eq_ok.mp hinputs), vouts, amounts, harray, hlength, hsame,
      hamounts, hone, hone', hfee⟩
  · rintro ⟨hinputs, vouts, amounts, harray, hlength, hsame, hamounts, hone, hone', hfee⟩
    have hlt := selectedSats.toNat_lt
    have htotal : (UInt64.ofNat (amounts.map UInt64.toNat).sum).toNat =
        (amounts.map UInt64.toNat).sum := by
      rw [UInt64.toNat_ofNat', Nat.mod_eq_of_lt (by omega)]
    let tally : Tally := {
      recipientMatches := 1
      changeMatches := (vouts.zip amounts).countP (counts changeAddress plan.changeSats)
      totalOutputSats := UInt64.ofNat (amounts.map UInt64.toNat).sum }
    have htally : vouts.foldlM (tallyOutput profile recipientAddress changeAddress plan) ⟨0, 0, 0⟩ =
        .ok tally := by
      refine tally_eq_ok.mpr ⟨amounts, hamounts, ?_, ?_, ?_⟩
      · rw [htotal, UInt64.toNat_zero, Nat.zero_add]
      · rw [hone]
      · rw [Nat.zero_add]
    have hcheck : checkTally plan selectedSats tally = .ok () :=
      checkTally_eq_ok.mpr ⟨rfl, hone', by rw [htotal, hfee]⟩
    exact ⟨(), mapError_eq_ok.mpr (checkInputs_eq_ok.mpr hinputs), bind_eq_ok.mpr ⟨vouts,
      mapError_eq_ok.mpr (decodedOutputs_eq_ok.mpr ⟨harray, hlength, hsame⟩),
      bind_eq_ok.mpr ⟨tally, htally, mapError_eq_ok.mpr hcheck⟩⟩⟩

/-! Which accepted transactions are the plan. -/

/-- An output has one amount. -/
theorem amounts_unique {vouts : List Value} {amounts amounts' : List UInt64}
    (h : List.Forall₂ (fun output amount => decodedAmount profile output = .ok amount) vouts amounts)
    (h' : List.Forall₂ (fun output amount => decodedAmount profile output = .ok amount)
      vouts amounts') : amounts = amounts' := by
  apply List.right_unique_forall₂' _ h h'
  intro output amount amount' hamount hamount'
  rw [hamount] at hamount'
  exact Except.ok.inj hamount'

/-- Two outputs are assigned one item each, in this order or in the other one. -/
theorem exists_assignment_pair {first second : Value × UInt64} {item item' : Option String × UInt64} :
    (∃ items, items.Perm [item, item'] ∧
      List.Forall₂ (fun output item => counts item.1 item.2 output) [first, second] items) ↔
    (counts item.1 item.2 first ∧ counts item'.1 item'.2 second) ∨
      (counts item'.1 item'.2 first ∧ counts item.1 item.2 second) := by
  constructor
  · rintro ⟨items, hperm, hcounts⟩
    rcases List.perm_pair.mp hperm with rfl | rfl
    · exact .inl (by simpa using hcounts)
    · exact .inr (by simpa using hcounts)
  · rintro (⟨hfirst, hsecond⟩ | ⟨hfirst, hsecond⟩)
    · exact ⟨[item, item'], .refl _, .cons hfirst (.cons hsecond .nil)⟩
    · exact ⟨[item', item], List.Perm.swap _ _ _, .cons hfirst (.cons hsecond .nil)⟩

/-- Two things are each found once in two places: in different ones, or in the same. -/
theorem apart_iff : ∀ r r' c c' : Bool,
    (if r' then 1 else 0) + (if r then 1 else 0) = 1 → (if c' then 1 else 0) + (if c then 1 else 0) = 1 →
      ((r ∧ c') ∨ (c ∧ r') ↔ ¬ ((r ∧ c) ∨ (r' ∧ c'))) := by decide

/-- One of the two outputs counts for both addresses. -/
theorem paidTwice_pair {first second : Value} {amount amount' : UInt64} (hzero : plan.changeSats ≠ 0)
    (harray : (decoded.get "vout").bind Value.asArray = some [first, second])
    (hfirst : decodedAmount profile first = .ok amount)
    (hsecond : decodedAmount profile second = .ok amount') :
    PaidTwice profile decoded recipientAddress changeAddress plan ↔
      (counts (some recipientAddress) plan.recipientSats (first, amount) ∧
        counts changeAddress plan.changeSats (first, amount)) ∨
      (counts (some recipientAddress) plan.recipientSats (second, amount') ∧
        counts changeAddress plan.changeSats (second, amount')) := by
  constructor
  · rintro ⟨-, vouts', harray', output, houtput, paid, hpaid, hcounts⟩
    rw [harray, Option.some.injEq] at harray'
    subst harray'
    rcases List.mem_pair.mp houtput with rfl | rfl
    · rw [hfirst, Except.ok.injEq] at hpaid
      subst hpaid
      exact .inl hcounts
    · rw [hsecond, Except.ok.injEq] at hpaid
      subst hpaid
      exact .inr hcounts
  · rintro (hcounts | hcounts)
    · exact ⟨hzero, _, harray, first, by simp, amount, hfirst, hcounts⟩
    · exact ⟨hzero, _, harray, second, by simp, amount', hsecond, hcounts⟩

/-- An accepted transaction is the plan exactly when no output is counted for both addresses. -/
theorem validated_is_plan_iff (h : validateDecodedCustodyTransaction profile decoded expectedInputs
      recipientAddress changeAddress plan selectedSats = .ok ()) :
    (SpendsExactly decoded expectedInputs ∧
      PaysExactly profile decoded recipientAddress changeAddress plan selectedSats) ↔
    ¬ PaidTwice profile decoded recipientAddress changeAddress plan := by
  obtain ⟨hinputs, vouts, amounts, harray, hlength, -, hamounts, hrecipient, hchange, hfee⟩ :=
    validate_eq_ok.mp h
  have hassigned : PaysExactly profile decoded recipientAddress changeAddress plan selectedSats ↔
      ∃ items, items.Perm (planItems recipientAddress changeAddress plan) ∧
        List.Forall₂ (fun output item => counts item.1 item.2 output) (vouts.zip amounts) items := by
    constructor
    · rintro ⟨vouts', amounts', harray', hamounts', hitems, -⟩
      rw [harray, Option.some.injEq] at harray'
      subst harray'
      rw [amounts_unique hamounts hamounts']
      exact hitems
    · exact fun hitems => ⟨vouts, amounts, harray, hamounts, hitems, hfee⟩
  rw [and_iff_right hinputs, hassigned]
  by_cases hzero : plan.changeSats = 0
  · rw [planItems, if_pos hzero] at hlength ⊢
    have hnot : ¬ PaidTwice profile decoded recipientAddress changeAddress plan :=
      fun htwice => htwice.1 hzero
    refine iff_of_true ?_ hnot
    obtain ⟨output, rfl⟩ := List.length_eq_one_iff.mp hlength
    obtain ⟨amount, _, -, hnil, rfl⟩ := List.forall₂_cons_left_iff.mp hamounts
    cases hnil
    have hcounts : counts (some recipientAddress) plan.recipientSats (output, amount) = true := by
      simpa [List.countP_cons] using hrecipient
    exact ⟨_, .refl _, .cons hcounts .nil⟩
  · rw [planItems, if_neg hzero] at hlength ⊢
    have hchange := hchange hzero
    obtain ⟨first, second, rfl⟩ := List.length_eq_two.mp hlength
    obtain ⟨amount, _, hfirst, hrest, rfl⟩ := List.forall₂_cons_left_iff.mp hamounts
    obtain ⟨amount', _, hsecond, hnil, rfl⟩ := List.forall₂_cons_left_iff.mp hrest
    cases hnil
    change (∃ items, _ ∧ List.Forall₂ _ [(first, amount), (second, amount')] items) ↔ _
    rw [exists_assignment_pair, paidTwice_pair hzero harray hfirst hsecond]
    change List.countP _ [(first, amount), (second, amount')] = 1 at hrecipient
    change List.countP _ [(first, amount), (second, amount')] = 1 at hchange
    rw [List.countP_cons, List.countP_singleton] at hrecipient hchange
    exact apart_iff _ _ _ _ hrecipient hchange

/-! Transactions of one input and two outputs. -/

def addressOutput (value : String) (address : String) : Value :=
  .object [("value", .float value), ("scriptPubKey", .object [("address", .string address)])]

def sharedOutput (value : String) (addresses : List String) : Value :=
  .object [("value", .float value),
    ("scriptPubKey", .object [("addresses", .array (addresses.map Value.string))])]

def singleInput (vouts : List Value) : Value :=
  .object [("vin", .array [.object [("txid", .string "AB"), ("vout", .integer 0)]]),
    ("vout", .array vouts)]

def evenPlan : CustodyTransactionPlan where
  recipientSats := 50000000
  changeSats := 50000000
  feeSats := 20000000

theorem singleInput_spends (vouts : List Value) : SpendsExactly (singleInput vouts) [("ab", 0)] :=
  ⟨_, [("ab", 0)], rfl, .cons rfl .nil, .refl _⟩

theorem addressOutput_half (address : String) :
    decodedAmount .release (addressOutput "0.5" address) = .ok 50000000 := rfl

theorem sharedOutput_half (addresses : List String) :
    decodedAmount .release (sharedOutput "0.5" addresses) = .ok 50000000 := rfl

theorem validate_honest : validateDecodedCustodyTransaction .release
    (singleInput [addressOutput "0.5" "recipient", addressOutput "0.5" "custody"]) [("ab", 0)]
    "recipient" (some "custody") evenPlan 120000000 = .ok () :=
  validate_eq_ok.mpr ⟨singleInput_spends _, _, [50000000, 50000000], rfl, rfl, by decide,
    .cons (addressOutput_half _) (.cons (addressOutput_half _) .nil), by decide, fun _ => by decide,
    by decide⟩

theorem validated_is_plan_honest :
    SpendsExactly (singleInput [addressOutput "0.5" "recipient", addressOutput "0.5" "custody"])
      [("ab", 0)] ∧
    PaysExactly .release
      (singleInput [addressOutput "0.5" "recipient", addressOutput "0.5" "custody"])
      "recipient" (some "custody") evenPlan 120000000 := by
  apply (validated_is_plan_iff validate_honest).mpr
  rintro ⟨-, vouts, harray, output, houtput, amount, -, hrecipient, hchange⟩
  cases harray
  rcases List.mem_pair.mp houtput with rfl | rfl
  · exact absurd (counts_matches hchange) (by decide)
  · exact absurd (counts_matches hrecipient) (by decide)

/-- One output for both addresses is counted twice, and the other one pays anyone. -/
theorem change_diverted_accepted :
    validateDecodedCustodyTransaction .release
      (singleInput [sharedOutput "0.5" ["recipient", "custody"], addressOutput "0.5" "elsewhere"])
      [("ab", 0)] "recipient" (some "custody") evenPlan 120000000 = .ok () ∧
    ¬ PaysExactly .release
      (singleInput [sharedOutput "0.5" ["recipient", "custody"], addressOutput "0.5" "elsewhere"])
      "recipient" (some "custody") evenPlan 120000000 := by
  constructor
  · exact validate_eq_ok.mpr ⟨singleInput_spends _, _, [50000000, 50000000], rfl, rfl, by decide,
      .cons (sharedOutput_half _) (.cons (addressOutput_half _) .nil), by decide,
      fun _ => by decide, by decide⟩
  · rintro ⟨vouts, amounts, harray, hamounts, ⟨items, hperm, hassigned⟩, -⟩
    cases harray
    obtain ⟨amount, _, -, hrest, rfl⟩ := List.forall₂_cons_left_iff.mp hamounts
    obtain ⟨amount', _, -, hnil, rfl⟩ := List.forall₂_cons_left_iff.mp hrest
    cases hnil
    rcases exists_assignment_pair.mp ⟨items, hperm, hassigned⟩ with ⟨-, hother⟩ | ⟨-, hother⟩
    · exact absurd (counts_matches hother) (by decide)
    · exact absurd (counts_matches hother) (by decide)

end DogeOperator.CustodyValidation
