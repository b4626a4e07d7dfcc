import DogeOperator.ApplySignatures
import DogeOperator.DepositSession
import DogeOperator.EvidenceValidator
import DogeOperator.Spendable

/-! Any number of deposit runs: what they post is funded and covered, what they register is backed by
a post of its own, and with an Electrs that shows a transaction as it is, what is registered is what
was paid. -/
namespace DogeOperator.DepositsBacked
open Bytes Outcome Crypto Base64 Tx Network Manager Redeem Records Json Confirm Deposit Operations
  Solana Electrs Withdraw Program DepositRun DepositSpend DepositSession Spendable Relation

theorem exec_gets {op : DepositOp} {w w' : Ledger} {answer : Result op.Answer}
    (hexec : exec op w answer w') : ∀ entry ∈ w.gets, entry ∈ w'.gets := by
  cases op with
  | post url body =>
    cases hexec
    exact fun _ => id
  | upsertCustodyUtxo utxo =>
    cases hexec
    exact fun _ => id
  | _ =>
    refine (exec_asks ?_ hexec).gets
    trivial

theorem calls_any {α : Type} (p : DepositFlow α) : p.Calls fun _ => True := by
  induction p with
  | done result => trivial
  | call op next ih => exact ⟨trivial, ih⟩

theorem session_gets {p : DepositFlow Unit} {w w' : Ledger} (hrun : Session exec p w w') :
    ∀ entry ∈ w.gets, entry ∈ w'.gets := by
  have hsafe : Safe exec (fun v => ∀ entry ∈ w.gets, entry ∈ v.gets)
      (fun _ v => ∀ entry ∈ w.gets, entry ∈ v.gets) p w :=
    Safe.of_calls (calls_any p)
      (fun _ _ _ _ _ hexec h entry hentry => exec_gets hexec _ (h entry hentry)) fun _ => id
  exact hsafe.session (fun _ => id) hrun

section
variable [SolanaSdk] [UrlParser] [Hashes] [Base58Check] [Base58Decode] [Secp256k1] [BlockHashText]
  [TxoConstants] [CustodyProfiles] [DogecoinLibrary] {w w₀ w' : Ledger}

/-- The transaction that Electrs took with a post. -/
def acceptedTxid (post : Post) : Option (FixedBytes 32) := do
  let answer ← post.answer
  if answer.isSuccess then (DogecoinLibrary.txidFromStr (trimQuotes (trim answer.text))).toOption
  else none

omit [SolanaSdk] [UrlParser] [Hashes] [Base58Check] [Base58Decode] [BlockHashText] [TxoConstants]
  [CustodyProfiles] in
theorem acceptedTxid_eq_some {post : Post} {txid : FixedBytes 32} :
    acceptedTxid post = some txid ↔ Accepted post.answer txid := by
  simp only [acceptedTxid, Accepted, Option.bind_eq_bind, Option.bind_eq_some_iff]
  refine exists_congr fun answer => and_congr_right fun _ => ?_
  by_cases hsuccess : answer.isSuccess = true
  · cases htxid : DogecoinLibrary.txidFromStr (trimQuotes (trim answer.text)) with
    | error e => simp [hsuccess, Except.toOption]
    | ok named => simp [hsuccess, Except.toOption]
  · simp [hsuccess]

/-- A post that a deposit run was ready for. -/
def Funded (w : Ledger) (post : Post) : Prop :=
  ∃ args prepared tx, post = sentPost args tx post.answer ∧ Ready args prepared tx w

/-- A row of a deposit that was posted, taken, and found confirmed. -/
def Backed (w : Ledger) (row : CustodyUtxo) : Prop :=
  ∃ args prepared tx answer, Ready args prepared tx w ∧ sentPost args tx answer ∈ w.posts ∧
    Accepted answer tx.txid ∧ Confirms args prepared tx row w

/-- Every post is funded, every row backed, and each row has a post of its own. -/
structure AllBacked (w : Ledger) : Prop where
  posts : ∀ post ∈ w.posts, Funded w post
  rows : ∀ row ∈ w.rows, Backed w row
  apart : (w.rows.map (·.txid)).Sublist (w.posts.filterMap acceptedTxid)

omit [SolanaSdk] [UrlParser] [Base58Decode] [Secp256k1] [DogecoinLibrary] in
/-- What the registration says of the deposit that it was given. -/
theorem registerDeposit_row {args : DepositArgs} {bridgeState : Pubkey} {txid : FixedBytes 32}
    {confirmed : DepositTransaction} {blockTxids : List (FixedBytes 32)} {tipHeight : UInt32}
    {row : CustodyUtxo}
    (h : registerDeposit args bridgeState txid confirmed blockTxids tipHeight = .ok row) :
    row.txid = txid ∧ confirmed.txid = txid ∧ ∃ scriptHash,
      p2shCustodyAddress args.dogeNetwork bridgeState args.recipientTokenAccount
        args.managerSetIndex = .ok (row.custodyAddress, scriptHash) ∧
      findDeposit args.amountSats (hexEncode (p2shScriptPubkey scriptHash)) confirmed.vout =
        .ok (row.vout, row.amountSats, row.scriptPubkeyHex) := by
  unfold registerDeposit at h
  rcases bind_eq_ok.mp h with ⟨⟨address, scriptHash⟩, hscript, h⟩
  rcases bind_eq_ok.mp h with ⟨managerSet, -, h⟩
  rcases bind_eq_ok.mp h with ⟨redeemScript, -, h⟩
  rcases bind_eq_ok.mp h with ⟨_, -, h⟩
  rcases bind_eq_ok.mp h with ⟨derived, -, h⟩
  rcases guard_bind_eq_ok.mp h with ⟨-, h⟩
  rcases guard_bind_eq_ok.mp h with ⟨hnamed, h⟩
  rcases bind_eq_ok.mp h with ⟨⟨vout, amountSats, scriptPubkeyHex⟩, hdeposit, h⟩
  rcases bind_eq_ok.mp h with ⟨blockHeight, -, h⟩
  rcases bind_eq_ok.mp h with ⟨blockHashText, -, h⟩
  rcases bind_eq_ok.mp h with ⟨blockHash, -, h⟩
  rcases bind_eq_ok.mp h with ⟨position, -, h⟩
  rcases bind_eq_ok.mp h with ⟨txIndex, -, h⟩
  rcases bind_eq_ok.mp h with ⟨confirmations, -, h⟩
  rcases bind_eq_ok.mp h with ⟨depositVoutU16, -, h⟩
  cases h
  exact ⟨rfl, not_not.mp hnamed, scriptHash, hscript, hdeposit⟩

omit [SolanaSdk] [UrlParser] [Base58Decode] in
theorem confirms_txid {args : DepositRun.Args} {prepared : Prepared} {tx : DepositTx}
    {row : CustodyUtxo} (h : Confirms args prepared tx row w) : row.txid = tx.txid := by
  rcases h with ⟨_, _, _, _, -, -, -, -, -, hrow⟩
  exact (registerDeposit_row hrow).1

omit [UrlParser] [BlockHashText] [TxoConstants] in
theorem Funded.mono {post : Post} (h : Funded w post) (hgets : ∀ entry ∈ w.gets, entry ∈ w'.gets) :
    Funded w' post := by
  rcases h with ⟨args, prepared, tx, hpost, hready⟩
  exact ⟨args, prepared, tx, hpost, hready.mono hgets⟩

omit [UrlParser] in
theorem Backed.mono {row : CustodyUtxo} (h : Backed w row)
    (hgets : ∀ entry ∈ w.gets, entry ∈ w'.gets) (hposts : ∀ post ∈ w.posts, post ∈ w'.posts) :
    Backed w' row := by
  rcases h with ⟨args, prepared, tx, answer, hready, hpost, haccepted, hconfirms⟩
  exact ⟨args, prepared, tx, answer, hready.mono hgets, hposts _ hpost, haccepted,
    hconfirms.mono hgets⟩

omit [UrlParser] in
/-- One run adds at most a post, and with it at most a row. -/
theorem AllBacked.progress {args : DepositRun.Args} (h : AllBacked w)
    (hgets : ∀ entry ∈ w.gets, entry ∈ w'.gets) (hprogress : Progress args w w') : AllBacked w' := by
  cases hprogress with
  | asked hasked =>
    refine ⟨fun post hpost => ?_, fun row hrow => ?_, ?_⟩
    · rw [hasked.posts] at hpost
      exact (h.posts post hpost).mono hgets
    · rw [hasked.rows] at hrow
      exact (h.rows row hrow).mono hgets fun post hpost => hasked.posts ▸ hpost
    · rw [hasked.rows, hasked.posts]
      exact h.apart
  | @posted prepared tx answer hready hposts hrows =>
    refine ⟨fun post hpost => ?_, fun row hrow => ?_, ?_⟩
    · rw [hposts, List.mem_append, List.mem_singleton] at hpost
      rcases hpost with hold | rfl
      · exact (h.posts post hold).mono hgets
      · exact ⟨args, prepared, tx, rfl, hready⟩
    · rw [hrows] at hrow
      exact (h.rows row hrow).mono hgets fun post hpost => hposts ▸ List.mem_append_left _ hpost
    · rw [hrows, hposts, List.filterMap_append]
      exact h.apart.trans (List.sublist_append_left _ _)
  | @registered prepared tx answer row hready hposts haccepted hconfirms hrows =>
    have hkept : ∀ post ∈ w.posts, post ∈ w'.posts :=
      fun post hpost => hposts ▸ List.mem_append_left _ hpost
    refine ⟨fun post hpost => ?_, fun old hrow => ?_, ?_⟩
    · rw [hposts, List.mem_append, List.mem_singleton] at hpost
      rcases hpost with hold | rfl
      · exact (h.posts post hold).mono hgets
      · exact ⟨args, prepared, tx, rfl, hready⟩
    · rw [hrows, List.mem_append, List.mem_singleton] at hrow
      rcases hrow with hold | rfl
      · exact (h.rows old hold).mono hgets hkept
      · have hsent : sentPost args tx answer ∈ w'.posts := by simp [hposts]
        exact ⟨args, prepared, tx, answer, hready, hsent, haccepted, hconfirms⟩
    · have hown : [sentPost args tx answer].filterMap acceptedTxid = [row.txid] := by
        have htaken : acceptedTxid (sentPost args tx answer) = some tx.txid :=
          acceptedTxid_eq_some.mpr haccepted
        rw [List.filterMap_cons_some htaken, List.filterMap_nil, confirms_txid hconfirms]
      rw [hrows, hposts, List.map_append, List.filterMap_append, hown]
      exact h.apart.append (List.Sublist.refl _)

/-- After any deposit runs, each stopped anywhere and whatever the services have answered: nothing was
posted but the signed transaction of a funding output that Electrs had shown, confirmed and large
enough; and every registered UTXO is the confirmed transaction of a post of its own. -/
theorem sessions_backed (hposts : w₀.posts = []) (hrows : w₀.rows = [])
    (hruns : Sessions exec (fun _ p => ∃ args, p = run args) w₀ w) : AllBacked w := by
  induction hruns with
  | refl =>
    refine ⟨fun post hpost => ?_, fun row hrow => ?_, ?_⟩
    · rw [hposts] at hpost
      exact absurd hpost List.not_mem_nil
    · rw [hrows] at hrow
      exact absurd hrow List.not_mem_nil
    · rw [hrows]
      exact List.nil_sublist _
  | @tail v v' _ hsession ih =>
    rcases hsession with ⟨_, ⟨args, rfl⟩, hsession⟩
    have hprogress : Progress args v v' :=
      (run_safe args v).session (.asked (.refl v)) hsession
    exact ih.progress (session_gets hsession) hprogress

/-- The transaction was sent, taken and confirmed, and the row is what Electrs showed of its deposit
to the custody script. -/
structure Registers (args : DepositRun.Args) (scriptHash : FixedBytes 20) (tx : DepositTx)
    (answer : Option HttpAnswer) (confirmed : ElectrsTx) (row : CustodyUtxo) : Prop where
  custody : p2shCustodyAddress args.dogeNetwork (bridgeStateAddress args.dogeBridgeProgram)
    args.recipientTokenAccount args.managerSetIndex = .ok (row.custodyAddress, scriptHash)
  spends : ∃ key, Spends key (fundingScript key) (p2shScriptPubkey scriptHash) args.fundingOutpoint
    args.amountSats tx defaultFeeSats
  accepted : Accepted answer tx.txid
  told : confirmed.txid = tx.txid ∧ confirmed.status.confirmed = true
  txid : row.txid = tx.txid
  amount : row.amountSats = args.amountSats
  script : eqIgnoreAsciiCase row.scriptPubkeyHex (hexEncode (p2shScriptPubkey scriptHash)) = true
  shown : confirmed.vout[row.vout.toNat]? =
    some { scriptpubkey := row.scriptPubkeyHex, value := row.amountSats }

/-- The row stands for the very output that pays custody. -/
structure PaidBy (args : DepositRun.Args) (scriptHash : FixedBytes 20) (tx : DepositTx)
    (row : CustodyUtxo) : Prop where
  output : tx.outputs[row.vout.toNat]? =
    some { value := args.amountSats, scriptPubkey := p2shScriptPubkey scriptHash }
  script : row.scriptPubkeyHex = hexEncode (p2shScriptPubkey scriptHash)

omit [UrlParser] in
/-- What was settled before the post is what the row was derived from. -/
theorem confirms_registers {args : DepositRun.Args} {prepared : Prepared} {tx : DepositTx}
    {answer : Option HttpAnswer} {row : CustodyUtxo} (hready : Ready args prepared tx w)
    (haccepted : Accepted answer tx.txid) (hconfirms : Confirms args prepared tx row w) :
    ∃ confirmed scriptHash,
      Told ElectrsTx.fromJson s!"{trimTrailingSlashes args.electrsUrl}/tx/{displayTxid tx.txid}"
        confirmed w ∧
      Registers args scriptHash tx answer confirmed row ∧
      (confirmed.vout = tx.outputs.map shown → PaidBy args scriptHash tx row) := by
  rcases hconfirms with ⟨confirmed, _, _, _, htold, hconfirmed, -, -, -, hrow⟩
  rcases registerDeposit_row hrow with ⟨htxid, hnamed, scriptHash, hscript, hfound⟩
  rcases hready.settled with ⟨wif, hsettled⟩
  have hstate := settled_bridgeState hsettled
  have hsame : scriptHash = prepared.custody.scriptHash := by
    have hcustody := hscript.symm.trans (settled_custody hsettled).1
    simp only [Except.ok.injEq, Prod.mk.injEq] at hcustody
    exact hcustody.2
  subst hsame
  rw [hstate] at hscript
  rcases findDeposit_output hfound with ⟨hamount, hscripthex, houtput⟩
  refine ⟨confirmed, prepared.custody.scriptHash, htold, ⟨hscript, ?_, haccepted,
    ⟨hnamed, hconfirmed⟩, htxid, hamount, hscripthex, houtput⟩, fun hshown => ?_⟩
  · exact ⟨prepared.fundingKey, built_spends hready.built⟩
  · rcases built_outputs hready.built with ⟨changeSats, houtputs⟩
    have hvout : confirmed.toDeposit.vout = (depositOutputs prepared.custody.depositScript
        (fundingScript prepared.fundingKey) args.amountSats changeSats).map shown := by
      rw [← houtputs]
      exact hshown
    rw [hvout] at hfound
    -- the custody output is the first one, and no other matches
    have hfirst := (findDeposit_shown _ _ _ _).symm.trans hfound
    simp only [Except.ok.injEq, Prod.mk.injEq] at hfirst
    rcases hfirst with ⟨hindex, -, hhex⟩
    refine ⟨?_, hhex.symm⟩
    rw [houtputs, ← hindex]
    rfl

/-- A deposit run that succeeds has posted one transaction, which spends the funding output and which
Electrs took and told confirmed, and has registered one UTXO, the deposit to the custody script as
Electrs showed it; and if what Electrs showed are the outputs of the transaction, the UTXO is the very
output that pays custody. -/
theorem completed_run_registers (args : DepositRun.Args)
    (hrun : Completes exec (run args) w₀ (.ok ()) w) :
    ∃ tx answer row confirmed scriptHash, w.posts = w₀.posts ++ [sentPost args tx answer] ∧
      w.rows = w₀.rows ++ [row] ∧
      Told ElectrsTx.fromJson s!"{trimTrailingSlashes args.electrsUrl}/tx/{displayTxid tx.txid}"
        confirmed w ∧
      Registers args scriptHash tx answer confirmed row ∧
      (confirmed.vout = tx.outputs.map shown → PaidBy args scriptHash tx row) := by
  have hend := (run_safe args w₀).completes (.asked (.refl w₀)) hrun
  rcases hend.2 () rfl with ⟨added, hadded⟩
  have hlonger : w.rows.length ≠ w₀.rows.length := by simp [hadded]
  cases hend.1 with
  | asked h => exact absurd (congrArg List.length h.rows) hlonger
  | posted _ _ hrows => exact absurd (congrArg List.length hrows) hlonger
  | @registered prepared tx answer row hready hposts haccepted hconfirms hrows =>
    rcases confirms_registers hready haccepted hconfirms with ⟨confirmed, scriptHash, hregisters⟩
    exact ⟨tx, answer, row, confirmed, scriptHash, hposts, hrows, hregisters⟩

end

end DogeOperator.DepositsBacked

/-! A local deposit that is mined. -/

namespace DogeOperator.Digests
open Bytes Outcome Crypto Tx DepositRun

def localFundingSecret : FixedBytes 32 := List.Vector.replicate 32 1

def localFundingPubkey : ByteString :=
  [0x03, 0x1b, 0x84, 0xc5, 0x56, 0x7b, 0x12, 0x64, 0x40, 0x99, 0x5d, 0x3e, 0xd5, 0xaa, 0xba, 0x05,
    0x65, 0xd7, 0x1e, 0x18, 0x34, 0x60, 0x48, 0x19, 0xff, 0x9c, 0x17, 0xf5, 0xe9, 0xd5, 0xdd, 0x07,
    0x8f]

def localFundingWif : String := "cMceqPhHedrhbcR9eXgzmfWy7kRqLyAxMYwFT6ABDWsiwUp9Nsq9"

def localFundingAddress : String :=
  base58EncodeCheck (0x6f :: (hash160 localFundingPubkey).toList)

/-- `Txid::from_str` -/
def parseTxid (text : String) : Except String (FixedBytes 32) :=
  hexDecode text >>= fun bytes =>
    (toFixed? 32 bytes).elim (.error "bad hex string length") fun txid => .ok txid.reverse

theorem parseTxid_displayTxid (txid : FixedBytes 32) : parseTxid (displayTxid txid) = .ok txid := by
  have hreverse : txid.reverse.reverse = txid := by
    apply List.Vector.toList_injective
    simp
  rw [parseTxid, displayTxid, hexDecode_hexEncode, ok_bind, toFixed?_toList, Option.elim_some, hreverse]

/-- A stand-in that can read one key. -/
scoped instance : Base58Decode where
  decodeCheck text :=
    if text = localFundingWif then .ok (0xef :: localFundingSecret.toList ++ [0x01])
    else .error "provided string contained invalid character"

/-- A stand-in for the Dogecoin library that knows one key and its address. -/
scoped instance : DogecoinLibrary where
  PrivateKey := FixedBytes 32
  fromWif text := if text = localFundingWif then .ok localFundingSecret else .error "base58 error"
  network _ := .regtest
  inner secret := secret
  publicKey _ := localFundingPubkey
  p2pkhAddress publicKey _ := base58EncodeCheck (0x6f :: (hash160 publicKey).toList)
  addressFromStr text :=
    if text = localFundingAddress then
      .ok ⟨fun _ => .ok (p2pkhScriptPubkey (hash160 localFundingPubkey))⟩
    else .error "base58 error"
  txidFromStr := parseTxid

end DogeOperator.Digests

namespace DogeOperator.DepositsBacked
open Bytes Outcome Crypto Base64 Tx Network Manager Redeem Records Json Confirm Deposit Operations
  Solana Electrs Withdraw Program DepositRun DepositSpend DepositSession Prepare Localnet Digests

/-- The funding output covers the deposit exactly. -/
def localDepositArgs : DepositRun.Args where
  dogeNetwork := .regtest
  managerSetIndex := 0
  recipientTokenAccount := List.Vector.replicate 32 0x66
  custodyKeyReference := "key-1"
  amountSats := 200000000
  runtimeNetwork := .localhost
  solanaRpcUrl := localSolanaRpc
  operatorKeypair := "operator.json"
  payerKeypair := "payer.json"
  dogeBridgeProgram := List.Vector.replicate 32 1
  wormholeCoreProgram := List.Vector.replicate 32 3
  wormholeShimProgram := List.Vector.replicate 32 3
  bridgeState := none
  electrsUrl := localElectrsUrl
  fundingWifFile := "funding.wif"
  fundingTxid := List.Vector.replicate 32 0x22
  fundingVout := 0
  fundingAmount := 201000000
  confirmationTimeoutSecs := 600
  pollIntervalMs := 1000
  operatorStore := "operator.db"
  evidencePath := "deposit.json"

def outputJson (output : DepositOutput) : Value :=
  .object [("scriptpubkey", .string output.scriptpubkey), ("value", ofU64 output.value)]

def localBlockHash : FixedBytes 32 := List.Vector.replicate 32 0x88

/-- A transaction in block 100. -/
def txAnswer (txid : FixedBytes 32) (outputs : List DepositOutput) : HttpAnswer where
  status := 200
  text := ""
  json := .ok (.object [("txid", .string (displayTxid txid)),
    ("vout", .array (outputs.map outputJson)),
    ("status", .object [("confirmed", .bool true), ("block_height", ofU32 100),
      ("block_hash", .string (hexEncode localBlockHash.reverse.toList))])])

def confirmedTx (txid : FixedBytes 32) (outputs : List DepositOutput) : ElectrsTx where
  txid
  vout := outputs
  status := { confirmed := true, blockHeight := some 100,
              blockHash := some (hexEncode localBlockHash.reverse.toList), blockTime := none }

theorem outputJson_decodes (output : DepositOutput) :
    electrsVoutFromJson (outputJson output) = .ok output := by
  refine bind_eq_ok.mpr ⟨_, asFields_object _ _, ?_⟩
  refine bind_eq_ok.mpr ⟨output.scriptpubkey, required_eq_ok rfl (asString_string _), ?_⟩
  exact bind_eq_ok.mpr ⟨output.value, required_eq_ok rfl (asU64_ofU64 _), rfl⟩

theorem confirmedStatus_decodes : ElectrsTxStatus.fromJson (.object [("confirmed", .bool true),
    ("block_height", ofU32 100), ("block_hash", .string (hexEncode localBlockHash.reverse.toList))]) =
    .ok (confirmedTx localBlockHash []).status := by
  refine bind_eq_ok.mpr ⟨_, asFields_object _ _, ?_⟩
  refine bind_eq_ok.mpr ⟨true, required_eq_ok rfl (asBool_bool _), ?_⟩
  refine bind_eq_ok.mpr ⟨some 100, optional_eq_ok rfl nofun (asU32_ofU32 _), ?_⟩
  refine bind_eq_ok.mpr ⟨some _, optional_eq_ok rfl nofun (asString_string _), ?_⟩
  exact bind_eq_ok.mpr ⟨none, rfl, rfl⟩

theorem asTxid_displayTxid (txid : FixedBytes 32) :
    asTxid (.string (displayTxid txid)) = .ok txid := parseTxid_displayTxid txid

theorem txAnswer_decodes (txid : FixedBytes 32) (outputs : List DepositOutput) :
    (txAnswer txid outputs).json >>= ElectrsTx.fromJson = .ok (confirmedTx txid outputs) := by
  have houtputs : asArray electrsVoutFromJson (.array (outputs.map outputJson)) = .ok outputs := by
    have hmap := asArray_map (f := id) outputJson_decodes outputs
    rwa [List.map_id] at hmap
  refine bind_eq_ok.mpr ⟨_, rfl, ?_⟩
  refine bind_eq_ok.mpr ⟨_, asFields_object _ _, ?_⟩
  refine bind_eq_ok.mpr ⟨txid, required_eq_ok rfl (asTxid_displayTxid txid), ?_⟩
  refine bind_eq_ok.mpr ⟨outputs, required_eq_ok rfl houtputs, ?_⟩
  exact bind_eq_ok.mpr ⟨_, required_eq_ok rfl confirmedStatus_decodes, rfl⟩

def localFundingOutput : DepositOutput where
  scriptpubkey := hexEncode (p2pkhScriptPubkey (hash160 localFundingPubkey))
  value := 201000000

/-- The answers of Electrs in turn: the funding transaction, the deposit, its block, and the tip. -/
def minedAnswer (tx : DepositTx) : ℕ → HttpAnswer
  | 0 => txAnswer localDepositArgs.fundingTxid [localFundingOutput]
  | 1 => txAnswer tx.txid (tx.outputs.map shown)
  | 2 => ⟨200, "", .ok (.array [.string (displayTxid tx.txid)])⟩
  | _ => ⟨200, "101", .error "expected value at line 1 column 1"⟩

/-- Every service answers, and the deposit is mined. -/
def mining (tx : DepositTx) : Handler DepositOp.Answer ErrorChain Ledger
  | .outside (.http (.get url)), w =>
    (.ok (minedAnswer tx w.gets.length),
      { w with gets := w.gets ++ [(url, minedAnswer tx w.gets.length)] })
  | .outside (.system (.readKeypairFile _)), w => (.ok localOperator, w)
  | .outside (.system (.attemptsWithin _ _)), w => (.ok 0, w)
  | .outside (.system (.createParentDirectory _)), w => (.ok (), w)
  | .outside (.system (.writeFile _ _)), w => (.ok (), w)
  | .outside _, w => (bail "busy", w)
  | .openFile _, w => (.ok ⟨true, 0o600⟩, w)
  | .readToString _, w => (.ok localFundingWif, w)
  | .createBridgeClient _ _, w => (.ok (), w)
  | .getCurrentBridgeState _, w => (SolanaSdk.decodeBridgeState [] |>.mapError ([·]), w)
  | .openStore _, w => (.ok (), w)
  | .post url body, w =>
    (.ok ⟨200, displayTxid tx.txid, .error "expected value at line 1 column 1"⟩,
      { w with posts := w.posts ++
          [⟨url, body, some ⟨200, displayTxid tx.txid, .error "expected value at line 1 column 1"⟩⟩] })
  | .upsertCustodyUtxo utxo, w => (.ok (), { w with rows := w.rows ++ [utxo] })

theorem mining_exec (tx : DepositTx) (op : DepositOp) (w : Ledger) :
    exec op w (mining tx op w).1 (mining tx op w).2 := by
  cases op with
  | outside op =>
    cases op with
    | http op => cases op <;> rfl
    | store op => rfl
    | rpc op => rfl
    | system op => cases op <;> rfl
  | _ => rfl

def localRedeemScript : ByteString :=
  scriptBytes 1 localBridgeState localDepositArgs.recipientTokenAccount localRegtestManagerSet.m
    localRegtestManagerSet.pubkeys

def localPrepared : Prepared where
  bridgeState := localBridgeState
  custody := {
    depositAddress := DogeNetwork.p2shAddress (hash160 localRedeemScript)
    scriptHash := hash160 localRedeemScript
    redeemScript := localRedeemScript }
  fundingKey := localFundingSecret

theorem settle_local : settle localDepositArgs localFundingWif = .ok localPrepared := by
  have hscript : buildRedeemScript 1 localBridgeState localDepositArgs.recipientTokenAccount
      localRegtestManagerSet.m localRegtestManagerSet.pubkeys = .ok localRedeemScript :=
    buildRedeemScript_eq_ok.mpr ⟨localRegtestManagerSet_quorum, rfl⟩
  have hset : managerSetForIndex localDepositArgs.managerSetIndex = .ok localRegtestManagerSet := rfl
  have hcustody : deriveCustody localDepositArgs localBridgeState = .ok localPrepared.custody := by
    refine bind_eq_ok.mpr ⟨(localPrepared.custody.depositAddress, localPrepared.custody.scriptHash),
      ?_, ?_⟩
    · refine bind_eq_ok.mpr ⟨_, hset, ?_⟩
      exact bind_eq_ok.mpr ⟨_, hscript, rfl⟩
    · refine bind_eq_ok.mpr ⟨_, hset, ?_⟩
      refine bind_eq_ok.mpr ⟨_, hscript, ?_⟩
      exact bind_eq_ok.mpr ⟨(), by decide, rfl⟩
  have hkey : parseFundingKey localDepositArgs.dogeNetwork localFundingWif =
      .ok localFundingSecret := by
    refine bind_eq_ok.mpr ⟨(), by decide, ?_⟩
    refine bind_eq_ok.mpr ⟨localFundingSecret, rfl, ?_⟩
    exact guard_bind_eq_ok.mpr ⟨not_not.mpr rfl, rfl⟩
  refine bind_eq_ok.mpr ⟨_, hcustody, ?_⟩
  refine bind_eq_ok.mpr ⟨_, hkey, ?_⟩
  refine bind_eq_ok.mpr ⟨(), ?_, rfl⟩
  refine bind_eq_ok.mpr ⟨_, context_eq_ok.mpr (mapError_eq_ok.mpr rfl), ?_⟩
  exact guard_eq_ok.mpr (not_not.mpr rfl)

def answered (tx : DepositTx) (url : String) (w : Ledger) : Ledger :=
  { w with gets := w.gets ++ [(url, minedAnswer tx w.gets.length)] }

theorem electrsGetJson_mining {α : Type} {decode : Value → Decoded α} {tx : DepositTx} {w : Ledger}
    {a : α} (url : String) (hsuccess : (minedAnswer tx w.gets.length).isSuccess = true)
    (hdecode : (minedAnswer tx w.gets.length).json >>= decode = .ok a) :
    (outside (electrsGetJson decode url)).runWith (mining tx) w = (.ok a, answered tx url w) := by
  simp [electrsGetJson, withContext, http, invoke, outside, mining, bailIf, hsuccess, hdecode,
    context, Except.mapError, Program.mapError, Program.bind, answered]

theorem readFundingWif_mining (tx : DepositTx) (w : Ledger) :
    (readFundingWif localDepositArgs.fundingWifFile).runWith (mining tx) w =
      (.ok localFundingWif, w) := by
  have hvisible : localFundingWif.toList.all (fun c => !isWhitespace c) = true := by
    decide +kernel
  have htrim : trim localFundingWif = localFundingWif :=
    trim_of_visible fun c hc => by simpa using List.all_eq_true.mp hvisible c hc
  have hne : localFundingWif ≠ "" := by decide
  simp [readFundingWif, within, perform, invoke, bailWhen, mining, htrim, hne, Except.mapError]

theorem prepare_mining (tx : DepositTx) (w : Ledger) :
    (prepare localDepositArgs).runWith (mining tx) w = (.ok localPrepared, w) := by
  have hboundary : validateBoundary localDepositArgs = .ok () := rfl
  have hdust : ¬ localDepositArgs.amountSats < dogeDustLimitSats := by decide
  have hstate : localDepositArgs.bridgeState = none := rfl
  have hkeypair : ∀ path role, (outside (readKeypair path role)).runWith (mining tx) w =
      (.ok localOperator, w) := fun _ _ => rfl
  rcases (⟨_, rfl⟩ : ∃ state, SolanaSdk.decodeBridgeState [] = .ok state) with ⟨state, hdecoded⟩
  simp [prepare, hboundary, hdust, bailWhen, readFundingWif_mining, hkeypair, within, perform,
    invoke, mining, hdecoded, Except.mapError, settle_local, hstate]

def start : Ledger := ⟨[], [], []⟩

def fundingUrl : String :=
  s!"{trimTrailingSlashes localDepositArgs.electrsUrl}/tx/{displayTxid localDepositArgs.fundingOutpoint.txid}"

theorem verifyFundingUtxo_mining (tx : DepositTx) :
    (verifyFundingUtxo localDepositArgs.dogeNetwork localDepositArgs.electrsUrl
        (fundingAddress localDepositArgs localPrepared.fundingKey)
        localDepositArgs.fundingOutpoint).runWith (mining tx) start =
      (.ok (), answered tx fundingUrl start) := by
  have haddress : context "parse funding address for Electrs lookup" (orFail
      (DogecoinLibrary.addressFromStr (fundingAddress localDepositArgs localPrepared.fundingKey))) =
      .ok ⟨fun _ => .ok (p2pkhScriptPubkey (hash160 localFundingPubkey))⟩ :=
    context_eq_ok.mpr (mapError_eq_ok.mpr (if_pos rfl))
  have hlookup : (outside (electrsGetJson ElectrsTx.fromJson fundingUrl)).runWith (mining tx) start =
      (.ok (confirmedTx localDepositArgs.fundingTxid [localFundingOutput]),
        answered tx fundingUrl start) :=
    electrsGetJson_mining fundingUrl rfl
      (txAnswer_decodes localDepositArgs.fundingTxid [localFundingOutput])
  have hfunding : checkFundingUtxo (p2pkhScriptPubkey (hash160 localFundingPubkey))
      localDepositArgs.fundingOutpoint
      (confirmedTx localDepositArgs.fundingTxid [localFundingOutput]) = .ok () :=
    checkFundingUtxo_eq_ok.mpr ⟨rfl, rfl, localFundingOutput, rfl, rfl, rfl⟩
  have hscript : context s!"funding address is not {dogeNetworkText localDepositArgs.dogeNetwork}"
      (orFail (.ok (p2pkhScriptPubkey (hash160 localFundingPubkey)))) =
      .ok (p2pkhScriptPubkey (hash160 localFundingPubkey)) :=
    context_eq_ok.mpr (mapError_eq_ok.mpr rfl)
  unfold fundingUrl at hlookup ⊢
  unfold verifyFundingUtxo
  rw [haddress]
  simp only [bind_eq, liftM_eq, done_ok_bind, hscript, runWith_bind, hlookup]
  simp only [hfunding, runWith_done]

def taken (tx : DepositTx) : HttpAnswer :=
  ⟨200, displayTxid tx.txid, .error "expected value at line 1 column 1"⟩

def postedTo (tx : DepositTx) (w : Ledger) : Ledger :=
  { w with posts := w.posts ++ [sentPost localDepositArgs tx (some (taken tx))] }

theorem hexDigit_plain {n : ℕ} (h : n < 16) :
    isWhitespace (hexDigit n) = false ∧ isQuote (hexDigit n) = false := by
  interval_cases n <;> decide

theorem displayTxid_trimmed (txid : FixedBytes 32) :
    trimQuotes (trim (displayTxid txid)) = displayTxid txid := by
  have hplain : ∀ c ∈ (displayTxid txid).toList, isWhitespace c = false ∧ isQuote c = false := by
    intro c hc
    rw [displayTxid, hexEncode, String.toList_ofList] at hc
    rcases EvidenceValidator.mem_hexChars hc with ⟨n, hn, rfl⟩
    exact hexDigit_plain hn
  rw [trim_of_visible fun c hc => (hplain c hc).1, trimQuotes, List.rdropWhile]
  have hquotes : (displayTxid txid).toList.dropWhile isQuote = (displayTxid txid).toList :=
    dropWhile_of_all_false fun c hc => (hplain c hc).2
  have hreverse : (displayTxid txid).toList.reverse.dropWhile isQuote =
      (displayTxid txid).toList.reverse :=
    dropWhile_of_all_false fun c hc => (hplain c (List.mem_reverse.mp hc)).2
  rw [hquotes, hreverse, List.reverse_reverse, String.ofList_toList]

theorem broadcastElectrs_mining (tx : DepositTx) (w : Ledger) :
    (DepositRun.broadcastElectrs localDepositArgs.electrsUrl (hexEncode tx.serialize)).runWith
      (mining tx) w = (.ok tx.txid, postedTo tx w) := by
  have hnamed : ∀ message, context message (orFail (DogecoinLibrary.txidFromStr
      (trimQuotes (trim (displayTxid tx.txid))))) = .ok tx.txid := by
    intro message
    rw [displayTxid_trimmed]
    exact context_eq_ok.mpr (mapError_eq_ok.mpr (parseTxid_displayTxid tx.txid))
  simp only [DepositRun.broadcastElectrs, within, perform, invoke, bailWhen, bind_eq, runWith_bind,
    runWith_mapError, runWith_call, mining]
  simp [HttpAnswer.isSuccess, Except.mapError, hnamed, postedTo, sentPost, taken]

def depositUrl (tx : DepositTx) : String :=
  s!"{trimTrailingSlashes localDepositArgs.electrsUrl}/tx/{displayTxid tx.txid}"

theorem pollDeposit_mining {tx : DepositTx} {w : Ledger} (hasked : w.gets.length = 1) :
    (pollDeposit localDepositArgs.electrsUrl tx.txid localDepositArgs.confirmationTimeoutMs
        localDepositArgs.pollIntervalMs.toNat).runWith (mining tx) w =
      (.ok (confirmedTx tx.txid (tx.outputs.map shown)), answered tx (depositUrl tx) w) := by
  have hlookup : (outside (electrsGetJson ElectrsTx.fromJson (depositUrl tx))).runWith (mining tx) w =
      (.ok (confirmedTx tx.txid (tx.outputs.map shown)), answered tx (depositUrl tx) w) := by
    refine electrsGetJson_mining _ ?_ ?_
    · rw [hasked]
      rfl
    · rw [hasked]
      exact txAnswer_decodes tx.txid _
  have hattempts : (outside (system (.attemptsWithin localDepositArgs.confirmationTimeoutMs
      localDepositArgs.pollIntervalMs.toNat))).runWith (mining tx) w = (.ok 0, w) := rfl
  unfold depositUrl at hlookup ⊢
  simp only [pollDeposit, bind_eq, runWith_bind, hattempts, pollDepositWithin, runWith_attempt, hlookup]
  simp [confirmedTx]

def tipUrl : String := s!"{trimTrailingSlashes localDepositArgs.electrsUrl}/blocks/tip/height"

theorem electrsGetHeight_mining (tx : DepositTx) {w : Ledger} (hasked : w.gets.length = 3) :
    (outside (electrsGetHeight localDepositArgs.electrsUrl)).runWith (mining tx) w =
      (.ok 101, answered tx tipUrl w) := by
  have hanswer : minedAnswer tx w.gets.length = ⟨200, "101", .error "expected value at line 1 column 1"⟩ := by
    rw [hasked]
    rfl
  have hheight : IntegerText.parseU32 (trim "101").toList = .ok 101 := by decide
  unfold tipUrl
  simp [electrsGetHeight, withContext, http, invoke, outside, mining, bailIf, hanswer,
    HttpAnswer.isSuccess, hheight, context, orFail, Except.mapError, Program.mapError, Program.bind,
    answered]

theorem registerConfirmed_mining {tx : DepositTx} {w : Ledger} (hasked : w.gets.length = 2)
    {changeSats : UInt64} (houtputs : tx.outputs = depositOutputs localPrepared.custody.depositScript
      (fundingScript localPrepared.fundingKey) localDepositArgs.amountSats changeSats) :
    ∃ registered w', (registerConfirmed localDepositArgs localPrepared.custody tx.txid
      (confirmedTx tx.txid (tx.outputs.map shown))).runWith (mining tx) w = (.ok registered, w') := by
  have hfound : findDeposit localDepositArgs.amountSats
      (hexEncode localPrepared.custody.depositScript)
      (confirmedTx tx.txid (tx.outputs.map shown)).vout =
      .ok (0, localDepositArgs.amountSats, hexEncode localPrepared.custody.depositScript) := by
    rw [confirmedTx, houtputs]
    exact findDeposit_shown (hash160 localFundingPubkey) localPrepared.custody.scriptHash
      localDepositArgs.amountSats changeSats
  have hblock : ∀ url, (outside (electrsGetJson (asArray asTxid) url)).runWith (mining tx) w =
      (.ok [tx.txid], answered tx url w) := by
    intro url
    have hdecode : asArray asTxid (.array [.string (displayTxid tx.txid)]) = .ok [tx.txid] := by
      rw [asArray, List.mapM_cons, asTxid_displayTxid, ok_bind, List.mapM_nil]
      rfl
    refine electrsGetJson_mining _ ?_ ?_
    · rw [hasked]
      rfl
    · rw [hasked, minedAnswer, ok_bind]
      exact hdecode
  have hhash : ∀ message, context message (orFail (BlockHashText.fromStr
      (hexEncode localBlockHash.reverse.toList))) = .ok localBlockHash :=
    fun _ => context_eq_ok.mpr (mapError_eq_ok.mpr rfl)
  have hasked' : ∀ url, (answered tx url w).gets.length = 3 := by
    intro url
    simp [answered, hasked]
  have hsame : ¬ (confirmedTx tx.txid (tx.outputs.map shown)).txid ≠ tx.txid := not_not.mpr rfl
  have hstatus : (confirmedTx tx.txid (tx.outputs.map shown)).status =
      ⟨true, some 100, some (hexEncode localBlockHash.reverse.toList), none⟩ := rfl
  have hposition : [tx.txid].findIdx? (fun txid => decide (txid = tx.txid)) = some 0 := by
    rw [List.findIdx?_cons, decide_eq_true rfl, if_pos rfl]
  have htip : confirmationsAt 101 100 = some 2 := by decide
  have hindex : ∀ message, toU16 message 0 = .ok 0 := fun _ => rfl
  have hvout : ∀ message, toU16 message (0 : UInt32).toNat = .ok 0 := fun _ => rfl
  have hheight := fun url => electrsGetHeight_mining tx (hasked' url)
  unfold registerConfirmed
  simp only [bailWhen, if_neg hsame, bind_eq, liftM_eq, done_ok_bind, hfound, hstatus, orBail, hhash,
    runWith_bind, hblock, hposition, hindex, hheight, htip, hvout]
  exact ⟨_, _, rfl⟩

theorem writeEvidence_mining (tx : DepositTx) (path : String) (document : Value) (w : Ledger) :
    (writeEvidence path document).runWith (mining tx) w = (.ok (), w) := by
  simp [writeEvidence, system, invoke, outside, mining, within, Except.mapError]

theorem local_covers : Covers localDepositArgs.fundingOutpoint.amount localDepositArgs.amountSats :=
  .inl rfl

/-- Nothing was answered but what is mined. -/
structure Faithful (tx : DepositTx) (w : Ledger) : Prop where
  gets : ∀ entry ∈ w.gets, ∃ n, entry.2 = minedAnswer tx n
  posts : ∀ post ∈ w.posts, post.answer = some (taken tx)

theorem mining_faithful (tx : DepositTx) (op : DepositOp) (w : Ledger) (h : Faithful tx w) :
    Faithful tx (mining tx op w).2 := by
  cases op with
  | outside op =>
    cases op with
    | http op =>
      cases op with
      | get url =>
        refine ⟨fun entry hentry => ?_, h.posts⟩
        rcases List.mem_append.mp hentry with hold | hnew
        · exact h.gets entry hold
        · rw [List.mem_singleton.mp hnew]
          exact ⟨_, rfl⟩
      | postJson url body => exact h
      | postTransaction key url body => exact h
    | store op => exact h
    | rpc op => exact h
    | system op => cases op <;> exact h
  | post url body =>
    refine ⟨h.gets, fun post hpost => ?_⟩
    rcases List.mem_append.mp hpost with hold | hnew
    · exact h.posts post hold
    · rw [List.mem_singleton.mp hnew]
      rfl
  | upsertCustodyUtxo utxo => exact ⟨h.gets, h.posts⟩
  | _ => exact h

/-- A run in which the deposit is mined. -/
structure Mined (tx : DepositTx) {α : Type} (p : DepositFlow α) (w : Ledger) (result : Result α)
    (w' : Ledger) : Prop where
  completes : Completes exec p w result w'
  faithful : Faithful tx w → Faithful tx w'

section
variable {α β : Type} {tx : DepositTx} {w v w' : Ledger} {f : α → DepositFlow β} {a : α}
  {result : Result β}

theorem mined_runWith {p : DepositFlow α} (h : p.runWith (mining tx) w = (.ok a, v)) :
    Mined tx p w (.ok a) v := by
  have hexec : ∀ op (v : Ledger), True → exec op v (mining tx op v).1 (mining tx op v).2 ∧ True :=
    fun op v _ => ⟨mining_exec tx op v, trivial⟩
  have hrun := completes_runWith hexec p (w := w) trivial
  have hkept := fun hw => runWith_kept (mining_faithful tx) p (w := w) hw
  rw [h] at hrun hkept
  exact ⟨hrun, hkept⟩

theorem mined_bind {p : DepositFlow α} (h : p.runWith (mining tx) w = (.ok a, v))
    (hnext : Mined tx (f a) v result w') : Mined tx (p.bind f) w result w' := by
  have hfirst := mined_runWith h
  exact ⟨completes_bind.mpr (.inl ⟨a, v, hfirst.completes, hnext.completes⟩),
    fun hw => hnext.faithful (hfirst.faithful hw)⟩

theorem mined_value {x : Result α} (h : x = .ok a) (hnext : Mined tx (f a) w result w') :
    Mined tx ((done x : DepositFlow α).bind f) w result w' := by
  rw [h]
  exact hnext

end

theorem sendAndRegister_mining {tx : DepositTx} {feeSats : UInt64} {w : Ledger}
    (hbuilt : buildSignedDepositTransaction localPrepared.fundingKey
      (fundingScript localPrepared.fundingKey) localDepositArgs.fundingOutpoint
      localPrepared.custody.depositScript localDepositArgs.amountSats = .ok (tx, feeSats))
    (hasked : w.gets.length = 1) :
    ∃ w', Mined tx (sendAndRegister localDepositArgs localPrepared) w (.ok ()) w' := by
  rcases built_outputs hbuilt with ⟨changeSats, houtputs⟩
  have hposted : (postedTo tx w).gets.length = 1 := hasked
  have hpolled : (answered tx (depositUrl tx) (postedTo tx w)).gets.length = 2 := by
    simp [answered, hposted]
  rcases registerConfirmed_mining hpolled houtputs with ⟨registered, w', hregistered⟩
  have hsame : ¬ tx.txid ≠ tx.txid := not_not.mpr rfl
  refine ⟨w', ?_⟩
  unfold sendAndRegister
  refine mined_value hbuilt ?_
  refine mined_bind (broadcastElectrs_mining tx w) ?_
  refine mined_value (if_neg hsame) ?_
  refine mined_bind (writeEvidence_mining tx _ _ _) ?_
  refine mined_bind (pollDeposit_mining hposted) ?_
  refine mined_bind hregistered ?_
  exact mined_runWith (writeEvidence_mining tx _ _ _)

/-- The local deposit, as it is built. -/
def IsLocalDeposit (tx : DepositTx) : Prop :=
  ∃ feeSats, buildSignedDepositTransaction localPrepared.fundingKey
    (fundingScript localPrepared.fundingKey) localDepositArgs.fundingOutpoint
    localPrepared.custody.depositScript localDepositArgs.amountSats = .ok (tx, feeSats)

/-- The local deposit is posted, mined and registered. -/
theorem run_mined : ∃ tx w, IsLocalDeposit tx ∧ Mined tx (run localDepositArgs) start (.ok ()) w := by
  rcases built_iff_covers.mpr local_covers with ⟨⟨tx, feeSats⟩, hbuilt⟩
  have hasked : (answered tx fundingUrl start).gets.length = 1 := rfl
  rcases sendAndRegister_mining hbuilt hasked with ⟨w, hsent⟩
  refine ⟨tx, w, ⟨feeSats, hbuilt⟩, ?_⟩
  unfold run
  refine mined_bind (prepare_mining tx start) ?_
  exact mined_bind (verifyFundingUtxo_mining tx) hsent

theorem sessions_backed_local : ∃ w row, w.rows = [row] ∧ AllBacked w := by
  rcases run_mined with ⟨tx, w, -, hmined⟩
  have hend := (run_safe localDepositArgs start).completes (.asked (.refl start)) hmined.completes
  rcases hend.2 () rfl with ⟨row, hrows⟩
  exact ⟨w, row, hrows,
    sessions_backed rfl rfl (.single ⟨_, ⟨localDepositArgs, rfl⟩, hmined.completes.session⟩)⟩

/-- A funding output that is used up leaves no change. -/
theorem spends_whole {key : DogecoinLibrary.PrivateKey} {fundingScript depositScript : ByteString}
    {funding : FundingOutpoint} {amountSats feeSats : UInt64} {tx : DepositTx}
    (h : Spends key fundingScript depositScript funding amountSats tx feeSats)
    (hwhole : funding.amount.toNat = amountSats.toNat + feeSats.toNat) :
    tx.outputs = [{ value := amountSats, scriptPubkey := depositScript }] := by
  have hpaid := h.paid
  have hreturned := h.returned
  have hconserved := h.conserved
  cases houtputs : tx.outputs with
  | nil =>
    rw [houtputs] at hpaid
    cases hpaid
  | cons first rest =>
    rw [houtputs] at hpaid hreturned hconserved
    cases hpaid
    cases rest with
    | nil => rfl
    | cons change rest =>
      have hdust : dogeDustLimitSats.toNat ≤ change.value.toNat :=
        (hreturned change List.mem_cons_self).2
      have hpositive : 0 < dogeDustLimitSats.toNat := by decide
      simp only [List.map_cons, List.sum_cons] at hconserved
      omega

theorem deposit_whole {tx : DepositTx} (h : IsLocalDeposit tx) :
    tx.outputs = [{ value := localDepositArgs.amountSats,
                    scriptPubkey := localPrepared.custody.depositScript }] := by
  rcases h with ⟨feeSats, hbuilt⟩
  have hspends := built_spends hbuilt
  refine spends_whole hspends ?_
  rw [hspends.fee]
  rfl

theorem minedAnswer_decodes {tx : DepositTx} {confirmed : ElectrsTx} {n : ℕ}
    (h : (minedAnswer tx n).json >>= ElectrsTx.fromJson = .ok confirmed) :
    confirmed = confirmedTx localDepositArgs.fundingTxid [localFundingOutput] ∨
      confirmed = confirmedTx tx.txid (tx.outputs.map shown) := by
  have hblock : ∃ e, ElectrsTx.fromJson (.array [.string (displayTxid tx.txid)]) = .error e :=
    ⟨_, rfl⟩
  unfold minedAnswer at h
  split at h
  · exact .inl (Except.ok.inj (h.symm.trans (txAnswer_decodes _ _)))
  · exact .inr (Except.ok.inj (h.symm.trans (txAnswer_decodes _ _)))
  · rcases hblock with ⟨e, he⟩
    rw [ok_bind, he] at h
    cases h
  · cases h

/-- The only transaction with an output of the deposit amount is the deposit. -/
theorem faithful_confirmed {tx : DepositTx} {w : Ledger} {url : String} {confirmed : ElectrsTx}
    {index : ℕ} {output : DepositOutput} (hfaithful : Faithful tx w)
    (htold : Told ElectrsTx.fromJson url confirmed w) (houtput : confirmed.vout[index]? = some output)
    (hamount : output.value = localDepositArgs.amountSats) :
    confirmed.vout = tx.outputs.map shown := by
  rcases htold with ⟨answer, hmem, -, hdecoded⟩
  rcases hfaithful.gets _ hmem with ⟨n, hn⟩
  dsimp only at hn
  rw [hn] at hdecoded
  rcases minedAnswer_decodes hdecoded with hfunding | hdeposit
  · have hin : output ∈ [localFundingOutput] := by
      rw [hfunding] at houtput
      exact List.mem_of_getElem? houtput
    rw [List.mem_singleton.mp hin] at hamount
    exact absurd hamount (by decide)
  · rw [hdeposit]
    rfl

theorem completed_run_registers_local :
    ∃ (w : Ledger) (tx : DepositTx) (row : CustodyUtxo) (scriptHash : FixedBytes 20),
    w.posts.map Post.body = [hexEncode tx.serialize] ∧ w.rows = [row] ∧ row.txid = tx.txid ∧
      PaidBy localDepositArgs scriptHash tx row := by
  rcases run_mined with ⟨deposit, w, hdeposit, hmined⟩
  rcases completed_run_registers localDepositArgs hmined.completes with
    ⟨tx, answer, row, confirmed, scriptHash, hposts, hrows, htold, hregisters, hpaid⟩
  have hfaithful := hmined.faithful ⟨by simp [start], by simp [start]⟩
  -- what was posted pays as the deposit does
  have hsame : tx.outputs = deposit.outputs := by
    rcases hregisters.spends with ⟨key, hspends⟩
    have hcustody := hregisters.custody.symm.trans (settled_custody settle_local).1
    simp only [Except.ok.injEq, Prod.mk.injEq] at hcustody
    rw [spends_whole hspends rfl, deposit_whole hdeposit, hcustody.2]
    rfl
  have hshown := faithful_confirmed hfaithful htold hregisters.shown hregisters.amount
  refine ⟨w, tx, row, scriptHash, ?_, hrows, hregisters.txid, hpaid ?_⟩
  · rw [hposts]
    rfl
  · rw [hshown, hsame]

end DogeOperator.DepositsBacked
