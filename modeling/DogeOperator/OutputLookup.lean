import DogeOperator.CustodyValidation

/-! The one output that pays an address, and what it is for a transaction that has been checked against
the custody plan. -/
namespace DogeOperator.OutputLookup
open Bytes Outcome Panics Json DogeAmount Prepare CustodyValidation

def outputIndex (output : Value) : Result UInt32 := do
  let index ← orBail ((output.get "n").bind Value.asU64) "matching vout missing nonnegative index"
  context "matching vout index exceeds u32"
    (orBail (if index < 2 ^ 32 then some (UInt32.ofNat index) else none)
      "out of range integral type conversion attempted")

def matchingAmount (profile : Profile) (output : Value) : Checked UInt64 := do
  let value ← lift (orBail (output.get "value") "matching vout missing value")
  dogeAmountToSats profile value

/-- `for vout in vouts`. A second match is read before it is refused. -/
def locateOutput (profile : Profile) (address : String) (matchFound : Option (UInt32 × UInt64))
    (output : Value) : Checked (Option (UInt32 × UInt64)) :=
  if matchesAddress output address then do
    let index ← lift (outputIndex output)
    let sats ← matchingAmount profile output
    if matchFound.isSome then
      lift (bail s!"transaction has multiple outputs for address {address}; exact vout is ambiguous")
    return some (index, sats)
  else .ok matchFound

def extractVoutAndSats (profile : Profile) (verbose : Value) (address : String) :
    Checked (UInt32 × UInt64) := do
  let vouts ← lift (orBail ((verbose.get "vout").bind Value.asArray)
    "verbose transaction missing vout array")
  let matchFound ← vouts.foldlM (locateOutput profile address) none
  lift (orBail matchFound s!"transaction has no output for address {address}")

variable {profile : Profile} {verbose : Value} {address : String} {index : UInt32} {sats : UInt64}

def payingOutputs (address : String) (vouts : List Value) : List Value :=
  vouts.filter (matchesAddress · address)

theorem matchingAmount_eq_ok {output : Value} :
    matchingAmount profile output = .ok sats ↔ decodedAmount profile output = .ok sats := by
  cases hvalue : output.get "value" with
  | none => simp [matchingAmount, decodedAmount, hvalue, orBail, bail]
  | some value => simp [matchingAmount, decodedAmount, hvalue, orBail]

theorem locateOutput_eq_ok {matchFound found : Option (UInt32 × UInt64)} {output : Value}
    (hmatch : matchesAddress output address = true) :
    locateOutput profile address matchFound output = .ok found ↔ matchFound = none ∧
      ∃ index sats, outputIndex output = .ok index ∧ decodedAmount profile output = .ok sats ∧
        found = some (index, sats) := by
  simp only [locateOutput, if_pos hmatch, bind_eq_ok, matchingAmount_eq_ok]
  constructor
  · rintro ⟨index, hindex, sats, hsats, h⟩
    cases matchFound with
    | some earlier => cases h
    | none =>
      cases h
      exact ⟨rfl, index, sats, mapError_eq_ok.mp hindex, hsats, rfl⟩
  · rintro ⟨rfl, index, sats, hindex, hsats, rfl⟩
    exact ⟨index, mapError_eq_ok.mpr hindex, sats, hsats, rfl⟩

/-- The whole loop: nothing is found, or the one output that pays. -/
theorem locate_eq_ok {matchFound found : Option (UInt32 × UInt64)} {vouts : List Value} :
    vouts.foldlM (locateOutput profile address) matchFound = .ok found ↔
      (payingOutputs address vouts = [] ∧ found = matchFound) ∨
      (matchFound = none ∧ ∃ output index sats, payingOutputs address vouts = [output] ∧
        outputIndex output = .ok index ∧ decodedAmount profile output = .ok sats ∧
        found = some (index, sats)) := by
  induction vouts generalizing matchFound with
  | nil =>
    rw [List.foldlM_nil]
    constructor
    · intro h
      cases h
      exact .inl ⟨rfl, rfl⟩
    · rintro (⟨-, rfl⟩ | ⟨-, output, index, sats, hnone, -⟩)
      · rfl
      · cases hnone
  | cons output vouts ih =>
    rw [List.foldlM_cons, bind_eq_ok]
    cases hmatch : matchesAddress output address with
    | false =>
      have hpaying : payingOutputs address (output :: vouts) = payingOutputs address vouts := by
        simp [payingOutputs, hmatch]
      have hskipped : locateOutput profile address matchFound output = .ok matchFound := by
        simp [locateOutput, hmatch]
      rw [hpaying, ← ih]
      constructor
      · rintro ⟨next, hnext, hrest⟩
        cases hskipped.symm.trans hnext
        exact hrest
      · exact fun hrest => ⟨matchFound, hskipped, hrest⟩
    | true =>
      have hpaying : payingOutputs address (output :: vouts) =
          output :: payingOutputs address vouts := by
        simp [payingOutputs, hmatch]
      rw [hpaying]
      constructor
      · rintro ⟨next, hnext, hrest⟩
        rcases (locateOutput_eq_ok hmatch).mp hnext with ⟨rfl, index, sats, hindex, hsats, rfl⟩
        rcases ih.mp hrest with ⟨hnone, rfl⟩ | ⟨hfound, -⟩
        · exact .inr ⟨rfl, output, index, sats, by rw [hnone], hindex, hsats, rfl⟩
        · cases hfound
      · rintro (⟨hnone, -⟩ | ⟨rfl, output', index, sats, hone, hindex, hsats, rfl⟩)
        · cases hnone
        · rcases List.cons.inj hone with ⟨rfl, hnone⟩
          exact ⟨some (index, sats), (locateOutput_eq_ok hmatch).mpr ⟨rfl, index, sats, hindex, hsats, rfl⟩,
            ih.mpr (.inl ⟨hnone, rfl⟩)⟩

/-- Exactly one output pays the address, and its index and its amount can be read. -/
theorem extract_eq_ok : extractVoutAndSats profile verbose address = .ok (index, sats) ↔
    ∃ vouts output, (verbose.get "vout").bind Value.asArray = some vouts ∧
      payingOutputs address vouts = [output] ∧ outputIndex output = .ok index ∧
      decodedAmount profile output = .ok sats := by
  rw [extractVoutAndSats, bind_eq_ok]
  constructor
  · rintro ⟨vouts, hvouts, h⟩
    rcases bind_eq_ok.mp h with ⟨found, hfound, h⟩
    cases orBail_eq_ok.mp (mapError_eq_ok.mp h)
    have harray := orBail_eq_ok.mp (mapError_eq_ok.mp hvouts)
    rcases locate_eq_ok.mp hfound with ⟨-, hnone⟩ | ⟨-, output, index', sats', hone, hindex, hsats, hsame⟩
    · cases hnone
    · cases hsame
      exact ⟨vouts, output, harray, hone, hindex, hsats⟩
  · rintro ⟨vouts, output, harray, hone, hindex, hsats⟩
    have hfound := locate_eq_ok.mpr (.inr ⟨rfl, output, index, sats, hone, hindex, hsats, rfl⟩)
    exact ⟨vouts, mapError_eq_ok.mpr (orBail_eq_ok.mpr harray),
      bind_eq_ok.mpr ⟨_, hfound, mapError_eq_ok.mpr (orBail_eq_ok.mpr rfl)⟩⟩

/-! Transactions that have been checked. -/

/-- Among outputs of which one is counted for an address, the only one that pays it has the amount that
was counted. -/
theorem counted_amount {vouts : List Value} {amounts : List UInt64} {output : Value}
    {expected : UInt64}
    (hamounts : List.Forall₂ (fun output amount => decodedAmount profile output = .ok amount)
      vouts amounts)
    (hone : payingOutputs address vouts = [output])
    (hcounted : (vouts.zip amounts).countP (counts (some address) expected) = 1) :
    decodedAmount profile output = .ok expected := by
  have hsome : 0 < (vouts.zip amounts).countP (counts (some address) expected) := by omega
  rcases List.countP_pos_iff.mp hsome with ⟨⟨output', amount⟩, hmem, hcounts⟩
  have hpays : output' ∈ payingOutputs address vouts :=
    List.mem_filter.mpr ⟨(List.of_mem_zip hmem).1, counts_matches hcounts⟩
  rw [hone, List.mem_singleton] at hpays
  subst hpays
  have hamount := List.forall₂_zip hamounts hmem
  have hexpected : amount = expected := by simpa using (Bool.and_eq_true_iff.mp hcounts).2
  rw [hamount, hexpected]

/-- The amount that is found in an accepted transaction is the one that was planned, for the recipient
as for the change. -/
theorem accepted_extraction {expectedInputs : List (String × UInt32)} {recipientAddress : String}
    {changeAddress : Option String} {plan : CustodyTransactionPlan} {selectedSats : UInt64}
    (haccepted : validateDecodedCustodyTransaction profile verbose expectedInputs recipientAddress
      changeAddress plan selectedSats = .ok ())
    (hextracted : extractVoutAndSats profile verbose address = .ok (index, sats)) :
    (address = recipientAddress → sats = plan.recipientSats) ∧
      (changeAddress = some address → plan.changeSats ≠ 0 → sats = plan.changeSats) := by
  rcases validate_eq_ok.mp haccepted with
    ⟨-, vouts, amounts, harray, -, -, hamounts, hrecipient, hchange, -⟩
  rcases extract_eq_ok.mp hextracted with ⟨vouts', output, harray', hone, -, hsats⟩
  cases harray.symm.trans harray'
  have hplanned : ∀ {expected : UInt64},
      (vouts.zip amounts).countP (counts (some address) expected) = 1 → sats = expected := by
    intro expected hcounted
    cases hsats.symm.trans (counted_amount hamounts hone hcounted)
    rfl
  constructor
  · rintro rfl
    exact hplanned hrecipient
  · rintro rfl hnonzero
    exact hplanned (hchange hnonzero)

/-- An output with its index. -/
def indexedOutput (index : ℕ) (value : String) (address : String) : Value :=
  .object [("n", .integer index), ("value", .float value),
    ("scriptPubKey", .object [("address", .string address)])]

def evenTransaction : Value :=
  singleInput [indexedOutput 0 "0.5" "recipient", indexedOutput 1 "0.5" "custody"]

theorem accepted_extraction_local :
    extractVoutAndSats .release evenTransaction "custody" = .ok (1, evenPlan.changeSats) := by
  have haccepted : validateDecodedCustodyTransaction .release evenTransaction [("ab", 0)]
      "recipient" (some "custody") evenPlan 120000000 = .ok () :=
    validate_eq_ok.mpr ⟨singleInput_spends _, _, [50000000, 50000000], rfl, rfl, by decide,
      .cons rfl (.cons rfl .nil), by decide, fun _ => by decide, by decide⟩
  have hextracted : extractVoutAndSats .release evenTransaction "custody" = .ok (1, 50000000) :=
    extract_eq_ok.mpr ⟨_, indexedOutput 1 "0.5" "custody", rfl, rfl, rfl, rfl⟩
  have hplanned : 50000000 = evenPlan.changeSats :=
    (accepted_extraction haccepted hextracted).2 rfl (by decide)
  rw [hextracted, hplanned]

end DogeOperator.OutputLookup
