import DogeOperator.DepositSpend

/-! Deposit runs, stopped anywhere and whatever the services answer: a run posts at most one
transaction, after it has seen the funding output, and registers at most one UTXO, after the post was
accepted and the transaction found confirmed. -/
namespace DogeOperator.DepositSession
open Bytes Outcome Crypto Base64 Tx Network Manager Redeem Records Json Confirm Deposit Operations
  Solana Electrs Withdraw Program DepositRun DepositSpend

structure Post where
  url : String
  body : String
  answer : Option HttpAnswer

/-- What Electrs has told, what was posted to it, and what the store was given. -/
structure Ledger where
  gets : List (String × HttpAnswer)
  posts : List Post
  rows : List CustodyUtxo

/-- The services may answer anything; a row is written whole or not at all. -/
def exec : Exec DepositOp.Answer ErrorChain Ledger
  | .outside (.http (.get url)), w, answer, w' =>
    w' = { w with gets := w.gets ++ (answer.toOption.map fun a => (url, a)).toList }
  | .post url body, w, answer, w' => w' = { w with posts := w.posts ++ [⟨url, body, answer.toOption⟩] }
  | .upsertCustodyUtxo utxo, w, answer, w' =>
    w' = { w with rows := w.rows ++ if answer.isOk then [utxo] else [] }
  | _, w, _, w' => w' = w

/-- Nothing was posted or registered, and nothing forgotten. -/
structure Asked (w w' : Ledger) : Prop where
  gets : ∀ entry ∈ w.gets, entry ∈ w'.gets
  posts : w'.posts = w.posts
  rows : w'.rows = w.rows

theorem Asked.refl (w : Ledger) : Asked w w := ⟨fun _ => id, rfl, rfl⟩

theorem Asked.trans {w w' w'' : Ledger} (h : Asked w w') (h' : Asked w' w'') : Asked w w'' :=
  ⟨fun entry hentry => h'.gets entry (h.gets entry hentry), h'.posts.trans h.posts,
    h'.rows.trans h.rows⟩

/-- Operations that post nothing and register nothing. -/
def Asks : DepositOp → Prop
  | .post _ _ => False
  | .upsertCustodyUtxo _ => False
  | _ => True

theorem exec_asks {op : DepositOp} {w w' : Ledger} {answer : Result op.Answer} (h : Asks op)
    (hexec : exec op w answer w') : Asked w w' := by
  cases op with
  | outside op =>
    cases op with
    | http op =>
      cases op with
      | get url =>
        cases hexec
        exact ⟨fun _ hentry => List.mem_append_left _ hentry, rfl, rfl⟩
      | postJson url body =>
        cases hexec
        exact .refl w
      | postTransaction key url body =>
        cases hexec
        exact .refl w
    | store op =>
      cases hexec
      exact .refl w
    | rpc op =>
      cases hexec
      exact .refl w
    | system op =>
      cases hexec
      exact .refl w
  | post url body => exact h.elim
  | upsertCustodyUtxo utxo => exact h.elim
  | _ =>
    cases hexec
    exact .refl w

section
variable {α β : Type} {Inv : Ledger → Prop} {w w₀ : Ledger}

/-- Invariants that asking does not break. -/
def KeptByAsking (Inv : Ledger → Prop) : Prop := ∀ w w', Asked w w' → Inv w → Inv w'

theorem asks_safe {p : DepositFlow α} (hcalls : p.Calls Asks) (hkept : KeptByAsking Inv) (hw : Inv w) :
    Safe exec Inv (fun _ => Asked w) p w := by
  have hsafe : Safe exec (Asked w) (fun _ => Asked w) p w :=
    Safe.of_calls hcalls (fun _ _ _ _ hasks hexec h => h.trans (exec_asks hasks hexec)) (.refl w)
  exact hsafe.mono (fun _ h => hkept _ _ h hw) fun _ _ => id

theorem after_asks {p : DepositFlow α} {f : α → DepositFlow β} {Q : Result β → Ledger → Prop}
    (hcalls : p.Calls Asks) (hkept : KeptByAsking Inv) (hw : Inv w)
    (hok : ∀ a w', Asked w w' → Safe exec Inv Q (f a) w')
    (herror : ∀ e w', Asked w w' → Q (.error e) w') : Safe exec Inv Q (p.bind f) w :=
  (asks_safe hcalls hkept hw).bind hok herror

theorem outside_asks {p : Flow α} : (outside p).Calls Asks := by
  induction p with
  | done result => trivial
  | call op next ih => exact ⟨trivial, ih⟩

/-- What is decoded from an answer that Electrs has given. -/
def Told (decode : Value → Decoded α) (url : String) (a : α) (w : Ledger) : Prop :=
  ∃ answer, (url, answer) ∈ w.gets ∧ answer.isSuccess = true ∧ answer.json >>= decode = .ok a

theorem Told.mono {decode : Value → Decoded α} {url : String} {a : α} {w' : Ledger}
    (h : Told decode url a w) (hgets : ∀ entry ∈ w.gets, entry ∈ w'.gets) :
    Told decode url a w' := by
  rcases h with ⟨answer, hmem, hanswer⟩
  exact ⟨answer, hgets _ hmem, hanswer⟩

/-- The shared operations, as the deposit performs them. -/
def sharedExec : Exec Op.Answer ErrorChain Ledger := fun op => exec (.outside op)

theorem safe_outside {p : Flow α} {Q : Result α → Ledger → Prop} (h : Safe sharedExec Inv Q p w) :
    Safe exec Inv Q (outside p) w := by
  induction p generalizing w with
  | done result => exact h
  | call op next ih =>
    intro answer w' hexec
    exact ⟨(h answer w' hexec).1, ih answer (h answer w' hexec).2⟩

/-- An answer to a GET is on the ledger. -/
theorem get_told {url : String} (hkept : KeptByAsking Inv) (hw : Inv w) :
    Safe sharedExec Inv (fun result w' => Asked w w' ∧ ∀ answer, result = .ok answer →
      (url, answer) ∈ w'.gets) (withContext s!"GET {url}" (http (.get url))) w := by
  apply safe_mapError.mpr
  intro answer w' hexec
  have hasks : Asks (.outside (.http (.get url))) := trivial
  have hasked : Asked w w' := exec_asks hasks hexec
  refine ⟨hkept _ _ hasked hw, hasked, ?_⟩
  intro a ha
  rw [mapError_eq_ok.mp ha] at hexec
  cases hexec
  simp [Except.toOption]

theorem electrsGetJson_told {decode : Value → Decoded α} {url : String} (hkept : KeptByAsking Inv)
    (hw : Inv w) :
    Safe exec Inv (fun result w' => Asked w w' ∧ ∀ a, result = .ok a → Told decode url a w')
      (outside (electrsGetJson decode url)) w := by
  apply safe_outside
  refine (get_told hkept hw).bind (fun answer w₁ h₁ => ?_) fun _ _ h => ⟨h.1, fun _ ha => nomatch ha⟩
  refine after_done (fun _ hsuccess => ?_) fun _ => ⟨h₁.1, fun _ ha => nomatch ha⟩
  refine ⟨h₁.1, fun a ha => ⟨answer, h₁.2 answer rfl, ?_, ?_⟩⟩
  · exact not_not.mp (guard_eq_ok.mp hsuccess)
  · exact mapError_eq_ok.mp (context_eq_ok.mp ha)

/-- A tip height that Electrs has given. -/
def ToldHeight (electrsUrl : String) (height : UInt32) (w : Ledger) : Prop :=
  ∃ answer, (s!"{trimTrailingSlashes electrsUrl}/blocks/tip/height", answer) ∈ w.gets ∧
    answer.isSuccess = true ∧ IntegerText.parseU32 (trim answer.text).toList = .ok height

theorem electrsGetHeight_told {electrsUrl : String} (hkept : KeptByAsking Inv) (hw : Inv w) :
    Safe exec Inv (fun result w' => Asked w w' ∧ ∀ height, result = .ok height →
      ToldHeight electrsUrl height w') (outside (electrsGetHeight electrsUrl)) w := by
  apply safe_outside
  refine (get_told hkept hw).bind (fun answer w₁ h₁ => ?_) fun _ _ h => ⟨h.1, fun _ ha => nomatch ha⟩
  refine after_done (fun _ hsuccess => ?_) fun _ => ⟨h₁.1, fun _ ha => nomatch ha⟩
  refine ⟨h₁.1, fun height ha => ⟨answer, h₁.2 answer rfl, ?_, ?_⟩⟩
  · exact not_not.mp (guard_eq_ok.mp hsuccess)
  · exact orFail_eq_ok.mp (context_eq_ok.mp ha)

end

theorem checkFundingUtxo_eq_ok {script : ByteString} {funding : FundingOutpoint}
    {transaction : ElectrsTx} {u : Unit} :
    checkFundingUtxo script funding transaction = .ok u ↔
      transaction.txid = funding.txid ∧ transaction.status.confirmed = true ∧
      ∃ output, transaction.vout[funding.vout.toNat]? = some output ∧
        output.value = funding.amount ∧ output.scriptpubkey = hexEncode script := by
  simp only [checkFundingUtxo, guard_bind_eq_ok, bind_eq_ok, orBail_eq_ok, not_not, pure_eq_ok,
    guard_eq_ok]
  constructor
  · rintro ⟨htxid, output, houtput, hvalue, hscript, hconfirmed⟩
    exact ⟨htxid, hconfirmed, output, houtput, hvalue, hscript⟩
  · rintro ⟨htxid, hconfirmed, output, houtput, hvalue, hscript⟩
    exact ⟨htxid, output, houtput, hvalue, hscript, hconfirmed⟩

section
variable [Secp256k1] [DogecoinLibrary] {w : Ledger}

/-- What a poll for the deposit brings. -/
def Polled (url : String) (w : Ledger) (result : Result ElectrsTx) (w' : Ledger) : Prop :=
  Asked w w' ∧ ∀ confirmed, result = .ok confirmed →
    Told ElectrsTx.fromJson url confirmed w' ∧ confirmed.status.confirmed = true

/-- One question for the deposit, its failure as a value. -/
theorem askDeposit_safe {Inv : Ledger → Prop} (hkept : KeptByAsking Inv) {url : String}
    {w₁ : Ledger} (hw : Inv w) (h : Asked w₁ w) :
    Safe exec Inv (fun result w' => ∃ response, result = .ok response ∧ Inv w' ∧ Asked w₁ w' ∧
        ∀ a, response = .ok a → Told ElectrsTx.fromJson url a w')
      (outside (electrsGetJson ElectrsTx.fromJson url)).attempt w := by
  refine safe_attempt.mpr ((electrsGetJson_told hkept hw).imp fun response w' h' => ?_)
  exact ⟨response, rfl, hkept _ _ h'.1 hw, h.trans h'.1, h'.2⟩

theorem polled_confirmed {url : String} {w₁ : Ledger} {confirmed : ElectrsTx} (h : Asked w₁ w)
    (htold : Told ElectrsTx.fromJson url confirmed w) (hconfirmed : confirmed.status.confirmed = true) :
    Polled url w₁ (.ok confirmed) w := by
  refine ⟨h, fun a ha => ?_⟩
  cases ha
  exact ⟨htold, hconfirmed⟩

theorem polled_error {url : String} {w₁ : Ledger} {e : ErrorChain} (h : Asked w₁ w) :
    Polled url w₁ (.error e) w := ⟨h, fun _ ha => nomatch ha⟩

theorem pollDepositWithin_safe {Inv : Ledger → Prop} (hkept : KeptByAsking Inv) {url : String}
    {txid : FixedBytes 32} (attempts : ℕ) {w₁ : Ledger} (hw : Inv w) (h : Asked w₁ w) :
    Safe exec Inv (Polled url w₁) (pollDepositWithin url txid attempts) w := by
  induction attempts generalizing w with
  | zero =>
    refine (askDeposit_safe hkept hw h).bind (fun response w' h' => ?_) fun e w' h' => ?_
    · rcases h' with ⟨_, heq, -, hasked, htold⟩
      cases heq
      cases response with
      | error e => exact polled_error hasked
      | ok confirmed =>
        dsimp only
        split
        · rename_i hconfirmed
          exact polled_confirmed hasked (htold confirmed rfl) hconfirmed
        · exact polled_error hasked
    · rcases h' with ⟨_, heq, -⟩
      cases heq
  | succ attempts ih =>
    refine (askDeposit_safe hkept hw h).bind (fun response w' h' => ?_) fun e w' h' => ?_
    · rcases h' with ⟨_, heq, hw', hasked, htold⟩
      cases heq
      cases response with
      | error e => exact ih hw' hasked
      | ok confirmed =>
        dsimp only
        split
        · rename_i hconfirmed
          exact polled_confirmed hasked (htold confirmed rfl) hconfirmed
        · exact ih hw' hasked
    · rcases h' with ⟨_, heq, -⟩
      cases heq

theorem pollDeposit_safe {Inv : Ledger → Prop} (hkept : KeptByAsking Inv) {electrsUrl : String}
    {txid : FixedBytes 32} {timeoutMs intervalMs : ℕ} (hw : Inv w) :
    Safe exec Inv (Polled s!"{trimTrailingSlashes electrsUrl}/tx/{displayTxid txid}" w)
      (pollDeposit electrsUrl txid timeoutMs intervalMs) w :=
  after_asks outside_asks hkept hw
    (fun attempts _ h => pollDepositWithin_safe hkept attempts (hkept _ _ h hw) h)
    fun _ _ h => polled_error h

end

section
variable [SolanaSdk] [UrlParser] [Hashes] [Base58Check] [Base58Decode] [Secp256k1] [BlockHashText]
  [TxoConstants] [CustodyProfiles] [DogecoinLibrary] {args : DepositRun.Args} {w w₀ w' : Ledger}

/-- Electrs has shown the funding output: confirmed, of the stated amount, under the script of the
funding address. -/
def SawFunding (args : DepositRun.Args) (key : DogecoinLibrary.PrivateKey) (w : Ledger) : Prop :=
  ∃ address script transaction output,
    DogecoinLibrary.addressFromStr (fundingAddress args key) = .ok address ∧
    address.requireNetwork (bitcoinNetwork args.dogeNetwork) = .ok script ∧
    Told ElectrsTx.fromJson
      s!"{trimTrailingSlashes args.electrsUrl}/tx/{displayTxid args.fundingTxid}" transaction w ∧
    transaction.txid = args.fundingTxid ∧ transaction.status.confirmed = true ∧
    transaction.vout[args.fundingVout.toNat]? = some output ∧
    output.value = args.fundingAmount ∧ output.scriptpubkey = hexEncode script

/-- What the command has settled, and seen, before it posts. -/
structure Ready (args : DepositRun.Args) (prepared : Prepared) (tx : DepositTx) (w : Ledger) :
    Prop where
  settled : ∃ wif, settle args wif = .ok prepared
  funded : SawFunding args prepared.fundingKey w
  built : buildSignedDepositTransaction prepared.fundingKey (fundingScript prepared.fundingKey)
    args.fundingOutpoint prepared.custody.depositScript args.amountSats = .ok (tx, defaultFeeSats)

/-- Electrs took the post and named the transaction. -/
def Accepted (answer : Option HttpAnswer) (txid : FixedBytes 32) : Prop :=
  ∃ a, answer = some a ∧ a.isSuccess = true ∧
    DogecoinLibrary.txidFromStr (trimQuotes (trim a.text)) = .ok txid

def sentPost (args : DepositRun.Args) (tx : DepositTx) (answer : Option HttpAnswer) : Post :=
  ⟨s!"{trimTrailingSlashes args.electrsUrl}/tx", hexEncode tx.serialize, answer⟩

/-- What Electrs has told of the confirmed deposit gives the row. -/
def Confirms (args : DepositRun.Args) (prepared : Prepared) (tx : DepositTx) (row : CustodyUtxo)
    (w : Ledger) : Prop :=
  ∃ confirmed blockHash blockTxids tipHeight,
    Told ElectrsTx.fromJson s!"{trimTrailingSlashes args.electrsUrl}/tx/{displayTxid tx.txid}"
      confirmed w ∧
    confirmed.status.confirmed = true ∧ confirmed.status.blockHash = some blockHash ∧
    Told (asArray asTxid) s!"{trimTrailingSlashes args.electrsUrl}/block/{blockHash}/txids"
      blockTxids w ∧
    ToldHeight args.electrsUrl tipHeight w ∧
    registerDeposit args.toDepositArgs prepared.bridgeState tx.txid confirmed.toDeposit blockTxids
      tipHeight = .ok row

/-- How far a run has come since it was started. -/
inductive Progress (args : DepositRun.Args) (w₀ w : Ledger) : Prop
  | asked (h : Asked w₀ w)
  | posted {prepared : Prepared} {tx : DepositTx} {answer : Option HttpAnswer}
      (hready : Ready args prepared tx w) (hposts : w.posts = w₀.posts ++ [sentPost args tx answer])
      (hrows : w.rows = w₀.rows)
  | registered {prepared : Prepared} {tx : DepositTx} {answer : Option HttpAnswer} {row : CustodyUtxo}
      (hready : Ready args prepared tx w) (hposts : w.posts = w₀.posts ++ [sentPost args tx answer])
      (haccepted : Accepted answer tx.txid) (hconfirms : Confirms args prepared tx row w)
      (hrows : w.rows = w₀.rows ++ [row])

omit [SolanaSdk] [UrlParser] [Base58Decode] [Base58Check] [BlockHashText] [TxoConstants]
  [CustodyProfiles] [Hashes] in
theorem SawFunding.mono {key : DogecoinLibrary.PrivateKey} (h : SawFunding args key w)
    (hgets : ∀ entry ∈ w.gets, entry ∈ w'.gets) : SawFunding args key w' := by
  rcases h with ⟨address, script, transaction, output, haddress, hscript, htold, hrest⟩
  exact ⟨address, script, transaction, output, haddress, hscript, htold.mono hgets, hrest⟩

omit [UrlParser] [BlockHashText] [TxoConstants] in
theorem Ready.mono {prepared : Prepared} {tx : DepositTx} (h : Ready args prepared tx w)
    (hgets : ∀ entry ∈ w.gets, entry ∈ w'.gets) : Ready args prepared tx w' :=
  ⟨h.settled, h.funded.mono hgets, h.built⟩

omit [SolanaSdk] [UrlParser] [Base58Decode] in
theorem Confirms.mono {prepared : Prepared} {tx : DepositTx} {row : CustodyUtxo}
    (h : Confirms args prepared tx row w) (hgets : ∀ entry ∈ w.gets, entry ∈ w'.gets) :
    Confirms args prepared tx row w' := by
  rcases h with ⟨confirmed, blockHash, blockTxids, tipHeight, htold, hconfirmed, hhash, htxids,
    ⟨answer, hmem, hanswer⟩, hrow⟩
  exact ⟨confirmed, blockHash, blockTxids, tipHeight, htold.mono hgets, hconfirmed, hhash,
    htxids.mono hgets, ⟨answer, hgets _ hmem, hanswer⟩, hrow⟩

omit [UrlParser] in
theorem progress_kept : KeptByAsking (Progress args w₀) := by
  intro w w' hasked hw
  cases hw with
  | asked h => exact .asked (h.trans hasked)
  | posted hready hposts hrows =>
    exact .posted (hready.mono hasked.gets) (hasked.posts.trans hposts) (hasked.rows.trans hrows)
  | registered hready hposts haccepted hconfirms hrows =>
    exact .registered (hready.mono hasked.gets) (hasked.posts.trans hposts) haccepted
      (hconfirms.mono hasked.gets) (hasked.rows.trans hrows)

/-! The run, part by part. -/

theorem prepare_safe : Safe exec (Progress args w₀) (fun result w => Asked w₀ w ∧
    ∀ prepared, result = .ok prepared → ∃ wif, settle args wif = .ok prepared) (prepare args) w₀ := by
  have herror : ∀ (e : ErrorChain) w, Asked w₀ w → Asked w₀ w ∧ ∀ prepared : Prepared,
      .error e = Except.ok prepared → ∃ wif, settle args wif = .ok prepared :=
    fun _ _ h => ⟨h, fun _ hprepared => nomatch hprepared⟩
  have hwif : (readFundingWif args.fundingWifFile).Calls Asks := by
    simp [readFundingWif, within, perform, bailWhen, invoke, calls_bind, Asks]
  refine after_done (fun _ _ => ?_) fun e => herror e w₀ (.refl w₀)
  refine after_done (fun _ _ => ?_) fun e => herror e w₀ (.refl w₀)
  refine after_asks hwif progress_kept (.asked (.refl w₀)) (fun wif w₁ h₁ => ?_) herror
  refine after_asks outside_asks progress_kept (.asked h₁) (fun _ w₂ h₂ => ?_)
    fun e w h => herror e w (h₁.trans h)
  replace h₂ := h₁.trans h₂
  refine after_asks outside_asks progress_kept (.asked h₂) (fun _ w₃ h₃ => ?_)
    fun e w h => herror e w (h₂.trans h)
  replace h₃ := h₂.trans h₃
  refine after_done (fun _ _ => ?_) fun e => herror e w₃ h₃
  refine after_asks (by simp [within, perform, invoke, Asks]) progress_kept (.asked h₃)
    (fun _ w₄ h₄ => ?_) fun e w h => herror e w (h₃.trans h)
  replace h₄ := h₃.trans h₄
  refine after_asks (by simp [within, perform, invoke, Asks]) progress_kept (.asked h₄)
    (fun _ w₅ h₅ => ?_) fun e w h => herror e w (h₄.trans h)
  replace h₅ := h₄.trans h₅
  refine after_asks (by simp [within, perform, invoke, Asks]) progress_kept (.asked h₅)
    (fun _ w₆ h₆ => ?_) fun e w h => herror e w (h₅.trans h)
  exact ⟨h₅.trans h₆, fun prepared hprepared => ⟨wif, hprepared⟩⟩

omit [UrlParser] in
theorem verifyFundingUtxo_safe {key : DogecoinLibrary.PrivateKey} (h : Asked w₀ w) :
    Safe exec (Progress args w₀) (fun result w' => Asked w₀ w' ∧ ∀ u, result = .ok u →
        SawFunding args key w')
      (verifyFundingUtxo args.dogeNetwork args.electrsUrl (fundingAddress args key)
        args.fundingOutpoint) w := by
  refine after_done (fun address haddress => ?_) fun _ => ⟨h, fun _ hu => nomatch hu⟩
  refine after_done (fun script hscript => ?_) fun _ => ⟨h, fun _ hu => nomatch hu⟩
  refine (electrsGetJson_told progress_kept (.asked h)).bind (fun transaction w₁ h₁ => ?_)
    fun _ _ h' => ⟨h.trans h'.1, fun _ hu => nomatch hu⟩
  refine ⟨h.trans h₁.1, fun u hu => ?_⟩
  rcases checkFundingUtxo_eq_ok.mp hu with ⟨htxid, hconfirmed, output, houtput, hvalue, hpays⟩
  exact ⟨address, script, transaction, output, mapError_eq_ok.mp (context_eq_ok.mp haddress),
    mapError_eq_ok.mp (context_eq_ok.mp hscript), h₁.2 transaction rfl, htxid, hconfirmed, houtput,
    hvalue, hpays⟩

omit [UrlParser] in
theorem broadcastElectrs_safe {prepared : Prepared} {tx : DepositTx} (h : Asked w₀ w)
    (hready : Ready args prepared tx w) :
    Safe exec (Progress args w₀) (fun result w' => ∃ answer, Ready args prepared tx w' ∧
        w'.posts = w₀.posts ++ [sentPost args tx answer] ∧ w'.rows = w₀.rows ∧
        ∀ txid, result = .ok txid → Accepted answer txid)
      (broadcastElectrs args.electrsUrl (hexEncode tx.serialize)) w := by
  have hpost : ∀ message, Safe exec (Progress args w₀)
      (fun result w' => ∃ answer, Ready args prepared tx w' ∧
        w'.posts = w₀.posts ++ [sentPost args tx answer] ∧ w'.rows = w₀.rows ∧
        ∀ a, result = .ok a → answer = some a)
      (within message
        (perform (.post s!"{trimTrailingSlashes args.electrsUrl}/tx" (hexEncode tx.serialize)))) w := by
    intro message
    apply safe_mapError.mpr
    intro answer w' hexec
    cases hexec
    have hready' : Ready args prepared tx
        { w with posts := w.posts ++ [sentPost args tx answer.toOption] } :=
      hready.mono fun _ => id
    have hposts : w.posts ++ [sentPost args tx answer.toOption] =
        w₀.posts ++ [sentPost args tx answer.toOption] := by rw [h.posts]
    refine ⟨.posted hready' hposts h.rows, answer.toOption, hready', hposts, h.rows, ?_⟩
    intro a ha
    rw [mapError_eq_ok.mp ha]
    rfl
  refine (hpost _).bind (fun answer w₁ h₁ => ?_) fun e w₁ h₁ => ?_
  · rcases h₁ with ⟨recorded, hready₁, hposts, hrows, hanswer⟩
    cases hanswer answer rfl
    refine after_done (fun _ hsuccess => ?_) fun _ =>
      ⟨some answer, hready₁, hposts, hrows, fun _ ha => nomatch ha⟩
    refine ⟨some answer, hready₁, hposts, hrows, fun txid htxid => ⟨answer, rfl, ?_, ?_⟩⟩
    · exact not_not.mp (guard_eq_ok.mp hsuccess)
    · exact mapError_eq_ok.mp (context_eq_ok.mp htxid)
  · rcases h₁ with ⟨recorded, hready₁, hposts, hrows, -⟩
    exact ⟨recorded, hready₁, hposts, hrows, fun _ ha => nomatch ha⟩

omit [UrlParser] [BlockHashText] [TxoConstants] in
theorem settled_bridgeState {wif : String} {prepared : Prepared}
    (h : settle args wif = .ok prepared) :
    prepared.bridgeState = bridgeStateAddress args.dogeBridgeProgram := by
  rcases bind_eq_ok.mp h with ⟨custody, -, h⟩
  rcases bind_eq_ok.mp h with ⟨key, -, h⟩
  rcases bind_eq_ok.mp h with ⟨u, -, h⟩
  cases h
  rfl

omit [UrlParser] [BlockHashText] [TxoConstants] in
/-- What the preparation settled is what the registration works out again. -/
theorem settled_custody {wif : String} {prepared : Prepared}
    (h : settle args wif = .ok prepared) :
    p2shCustodyAddress args.dogeNetwork prepared.bridgeState args.recipientTokenAccount
        args.managerSetIndex = .ok (prepared.custody.depositAddress, prepared.custody.scriptHash) ∧
      ∃ managerSet, managerSetForIndex args.managerSetIndex = .ok managerSet ∧
        buildRedeemScript 1 prepared.bridgeState args.recipientTokenAccount managerSet.m
          managerSet.pubkeys = .ok prepared.custody.redeemScript ∧
        assertCustodyProfile args.managerSetIndex managerSet = .ok () ∧
        CustodyProfiles.p2shAddress args.dogeNetwork prepared.custody.scriptHash =
          .ok prepared.custody.depositAddress := by
  rcases bind_eq_ok.mp h with ⟨custody, hcustody, h⟩
  rcases bind_eq_ok.mp h with ⟨key, -, h⟩
  rcases bind_eq_ok.mp h with ⟨u, haddress, h⟩
  cases h
  rcases bind_eq_ok.mp hcustody with ⟨⟨address, scriptHash⟩, hscript, hcustody⟩
  rcases bind_eq_ok.mp hcustody with ⟨managerSet, hset, hcustody⟩
  rcases bind_eq_ok.mp hcustody with ⟨redeemScript, hredeem, hcustody⟩
  rcases bind_eq_ok.mp hcustody with ⟨u', hprofile, hcustody⟩
  cases hcustody
  refine ⟨hscript, managerSet, hset, hredeem, hprofile, ?_⟩
  rcases bind_eq_ok.mp haddress with ⟨derived, hderived, hsame⟩
  have heq : derived = address := by
    by_contra hne
    rw [if_pos hne] at hsame
    exact nomatch hsame
  rw [← heq]
  exact mapError_eq_ok.mp (context_eq_ok.mp hderived)

/-- The posted state, from which the confirmed deposit is registered. -/
structure PostAccepted (args : DepositRun.Args) (prepared : Prepared) (tx : DepositTx)
    (answer : Option HttpAnswer) (w₀ w : Ledger) : Prop where
  ready : Ready args prepared tx w
  posts : w.posts = w₀.posts ++ [sentPost args tx answer]
  accepted : Accepted answer tx.txid
  rows : w.rows = w₀.rows

omit [UrlParser] in
theorem PostAccepted.progress {prepared : Prepared} {tx : DepositTx} {answer : Option HttpAnswer}
    (h : PostAccepted args prepared tx answer w₀ w) : Progress args w₀ w :=
  .posted h.ready h.posts h.rows

omit [UrlParser] [BlockHashText] [TxoConstants] in
theorem PostAccepted.mono {prepared : Prepared} {tx : DepositTx} {answer : Option HttpAnswer}
    (h : PostAccepted args prepared tx answer w₀ w) (hasked : Asked w w') :
    PostAccepted args prepared tx answer w₀ w' :=
  ⟨h.ready.mono hasked.gets, hasked.posts.trans h.posts, h.accepted, hasked.rows.trans h.rows⟩

/-- The row is in the store at the end of a successful run. -/
def EndsRegistered (args : DepositRun.Args) (w₀ : Ledger) {α : Type} (result : Result α)
    (w : Ledger) : Prop :=
  Progress args w₀ w ∧ ∀ a, result = .ok a → ∃ row, w.rows = w₀.rows ++ [row]

omit [UrlParser] in
theorem endsRegistered_error {α : Type} {e : ErrorChain} (h : Progress args w₀ w) :
    EndsRegistered args w₀ (.error e : Result α) w := ⟨h, fun _ ha => nomatch ha⟩

omit [UrlParser] in
theorem upsert_safe {prepared : Prepared} {tx : DepositTx} {answer : Option HttpAnswer}
    {row : CustodyUtxo} (h : PostAccepted args prepared tx answer w₀ w)
    (hconfirms : Confirms args prepared tx row w) :
    Safe exec (Progress args w₀) (EndsRegistered args w₀)
      (within "register deposit custody UTXO" (perform (.upsertCustodyUtxo row))) w := by
  apply safe_mapError.mpr
  intro answer' w' hexec
  have hgets : ∀ entry ∈ w.gets, entry ∈ w'.gets := by
    cases hexec
    exact fun _ => id
  have hposts : w'.posts = w.posts := by
    cases hexec
    rfl
  cases answer' with
  | error e =>
    have hrows : w'.rows = w.rows := by
      cases hexec
      exact List.append_nil _
    have hsame := (h.mono ⟨hgets, hposts, hrows⟩).progress
    exact ⟨hsame, endsRegistered_error hsame⟩
  | ok u =>
    have hrows : w'.rows = w₀.rows ++ [row] := by
      cases hexec
      exact congrArg (· ++ _) h.rows
    have hprogress : Progress args w₀ w' := .registered (h.ready.mono hgets)
      (hposts.trans h.posts) h.accepted (hconfirms.mono hgets) hrows
    exact ⟨hprogress, hprogress, fun _ _ => ⟨row, hrows⟩⟩

omit [UrlParser] in
theorem registerConfirmed_safe {prepared : Prepared} {tx : DepositTx} {answer : Option HttpAnswer}
    {confirmed : ElectrsTx} (h : PostAccepted args prepared tx answer w₀ w)
    (htold : Told ElectrsTx.fromJson
      s!"{trimTrailingSlashes args.electrsUrl}/tx/{displayTxid tx.txid}" confirmed w)
    (hconfirmed : confirmed.status.confirmed = true) :
    Safe exec (Progress args w₀) (EndsRegistered args w₀)
      (registerConfirmed args prepared.custody tx.txid confirmed) w := by
  refine after_done (fun _ htxid => ?_) fun _ => endsRegistered_error h.progress
  refine after_done (fun deposit hdeposit => ?_) fun _ => endsRegistered_error h.progress
  refine after_done (fun blockHeight hheight => ?_) fun _ => endsRegistered_error h.progress
  refine after_done (fun blockHashText hhash => ?_) fun _ => endsRegistered_error h.progress
  refine after_done (fun blockHash hblock => ?_) fun _ => endsRegistered_error h.progress
  refine (electrsGetJson_told progress_kept h.progress).bind (fun blockTxids w₁ h₁ => ?_)
    fun _ _ h' => endsRegistered_error (h.mono h'.1).progress
  have hw₁ := h.mono h₁.1
  refine after_done (fun position hposition => ?_) fun _ => endsRegistered_error hw₁.progress
  refine after_done (fun txIndex hindex => ?_) fun _ => endsRegistered_error hw₁.progress
  refine (electrsGetHeight_told progress_kept hw₁.progress).bind (fun tipHeight w₂ h₂ => ?_)
    fun _ _ h' => endsRegistered_error (hw₁.mono h'.1).progress
  have hw₂ := hw₁.mono h₂.1
  refine after_done (fun confirmations hconfirmations => ?_) fun _ =>
    endsRegistered_error hw₂.progress
  refine after_done (fun depositVoutU16 hvout => ?_) fun _ => endsRegistered_error hw₂.progress
  -- the row is the one the registration gives
  have hrow : registerDeposit args.toDepositArgs prepared.bridgeState tx.txid confirmed.toDeposit
      blockTxids tipHeight = .ok (custodyRow args prepared.custody tx.txid deposit.1 deposit.2.1
        deposit.2.2 blockHash blockHeight confirmations
        (TxoConstants.combinedIndex blockHeight txIndex depositVoutU16)) := by
    rcases h.ready.settled with ⟨wif, hsettled⟩
    rcases settled_custody hsettled with ⟨hcustody, managerSet, hset, hredeem, hprofile, haddress⟩
    have hsame : ¬ confirmed.txid ≠ tx.txid := guard_eq_ok.mp htxid
    refine bind_eq_ok.mpr ⟨_, hcustody, ?_⟩
    refine bind_eq_ok.mpr ⟨_, hset, ?_⟩
    refine bind_eq_ok.mpr ⟨_, hredeem, ?_⟩
    refine bind_eq_ok.mpr ⟨_, hprofile, ?_⟩
    refine bind_eq_ok.mpr ⟨_, context_eq_ok.mpr (mapError_eq_ok.mpr haddress), ?_⟩
    refine guard_bind_eq_ok.mpr ⟨not_not.mpr rfl, ?_⟩
    refine guard_bind_eq_ok.mpr ⟨hsame, ?_⟩
    refine bind_eq_ok.mpr ⟨_, hdeposit, ?_⟩
    refine bind_eq_ok.mpr ⟨_, hheight, ?_⟩
    refine bind_eq_ok.mpr ⟨_, hhash, ?_⟩
    refine bind_eq_ok.mpr ⟨_, hblock, ?_⟩
    refine bind_eq_ok.mpr ⟨_, hposition, ?_⟩
    refine bind_eq_ok.mpr ⟨_, hindex, ?_⟩
    refine bind_eq_ok.mpr ⟨_, hconfirmations, ?_⟩
    exact bind_eq_ok.mpr ⟨_, hvout, rfl⟩
  have hconfirms : Confirms args prepared tx _ w₂ :=
    ⟨confirmed, blockHashText, blockTxids, tipHeight, (htold.mono h₁.1.gets).mono h₂.1.gets, hconfirmed,
      orBail_eq_ok.mp hhash, (h₁.2 blockTxids rfl).mono h₂.1.gets, h₂.2 tipHeight rfl, hrow⟩
  have hupsert := upsert_safe hw₂ hconfirms
  refine hupsert.bind (fun u w₃ h₃ => ⟨h₃.1, fun _ _ => h₃.2 u rfl⟩) fun _ _ h' =>
    endsRegistered_error h'.1

omit [UrlParser] in
theorem writeEvidence_ends {path : String} {document : Value} (h : Progress args w₀ w)
    (hrow : ∃ row, w.rows = w₀.rows ++ [row]) :
    Safe exec (Progress args w₀) (EndsRegistered args w₀) (writeEvidence path document) w := by
  have hcalls : (writeEvidence path document).Calls Asks := by
    refine Calls.bind outside_asks fun _ => ?_
    exact calls_mapError.mpr outside_asks
  refine (asks_safe hcalls progress_kept h).imp fun result w' hasked => ?_
  refine ⟨progress_kept _ _ hasked h, fun _ _ => ?_⟩
  rw [hasked.rows]
  exact hrow

-- the type of a safety statement would otherwise be evaluated through the amounts
attribute [local irreducible] buildSignedDepositTransaction

omit [UrlParser] in
theorem sendAndRegister_safe {prepared : Prepared} (h : Asked w₀ w)
    (hsettled : ∃ wif, settle args wif = .ok prepared)
    (hfunded : SawFunding args prepared.fundingKey w) :
    Safe exec (Progress args w₀) (EndsRegistered args w₀) (sendAndRegister args prepared) w := by
  unfold sendAndRegister
  -- whatever is built
  generalize hresult : buildSignedDepositTransaction prepared.fundingKey _ _ _ _ = result
  refine after_done (fun built hok => ?_) fun _ => endsRegistered_error (.asked h)
  have hbuilt := hresult.trans hok
  have hfee := (built_spends hbuilt).fee
  have hready : Ready args prepared built.1 w := by
    refine ⟨hsettled, hfunded, ?_⟩
    rw [← hfee]
    exact hbuilt
  refine (broadcastElectrs_safe h hready).bind (fun broadcastTxid w₁ h₁ => ?_) fun e w₁ h₁ => ?_
  · rcases h₁ with ⟨answer, hready₁, hposts, hrows, haccepted⟩
    have hposted : Progress args w₀ w₁ := .posted hready₁ hposts hrows
    refine after_done (fun _ hsame => ?_) fun _ => endsRegistered_error hposted
    have hnamed : broadcastTxid = built.1.txid := not_not.mp (guard_eq_ok.mp hsame)
    have hw₁ : PostAccepted args prepared built.1 answer w₀ w₁ :=
      ⟨hready₁, hposts, hnamed ▸ haccepted broadcastTxid rfl, hrows⟩
    have hcalls : ∀ document, (writeEvidence args.evidencePath document).Calls Asks := by
      intro document
      refine Calls.bind outside_asks fun _ => ?_
      exact calls_mapError.mpr outside_asks
    refine after_asks (hcalls _) progress_kept hposted (fun _ w₂ h₂ => ?_)
      fun _ _ h' => endsRegistered_error (hw₁.mono h').progress
    have hw₂ := hw₁.mono h₂
    refine (pollDeposit_safe progress_kept hw₂.progress).bind (fun confirmed w₃ h₃ => ?_)
      fun _ _ h' => endsRegistered_error (hw₂.mono h'.1).progress
    have htold := h₃.2 confirmed rfl
    refine (registerConfirmed_safe (hw₂.mono h₃.1) htold.1 htold.2).bind
      (fun registered w₄ h₄ => ?_) fun _ _ h' => endsRegistered_error h'.1
    exact writeEvidence_ends h₄.1 (h₄.2 registered rfl)
  · rcases h₁ with ⟨answer, hready₁, hposts, hrows, -⟩
    exact endsRegistered_error (.posted hready₁ hposts hrows)

/-- The command, whatever it does once the funding output is verified. -/
theorem verified_safe {send : Prepared → DepositFlow Unit}
    (hsend : ∀ prepared w, Asked w₀ w → (∃ wif, settle args wif = .ok prepared) →
      SawFunding args prepared.fundingKey w →
      Safe exec (Progress args w₀) (EndsRegistered args w₀) (send prepared) w) :
    Safe exec (Progress args w₀) (EndsRegistered args w₀)
      ((prepare args).bind fun prepared => (verifyFundingUtxo args.dogeNetwork args.electrsUrl
        (fundingAddress args prepared.fundingKey) args.fundingOutpoint).bind fun _ =>
          send prepared) w₀ := by
  refine prepare_safe.bind (fun prepared w₁ h₁ => ?_) fun _ _ h => endsRegistered_error (.asked h.1)
  refine (verifyFundingUtxo_safe h₁.1).bind (fun u w₂ h₂ => ?_)
    fun _ _ h => endsRegistered_error (.asked h.1)
  exact hsend prepared w₂ h₂.1 (h₁.2 prepared rfl) (h₂.2 u rfl)

/-- One run of the command. -/
theorem run_safe (args : DepositRun.Args) (w₀ : Ledger) :
    Safe exec (Progress args w₀) (EndsRegistered args w₀) (run args) w₀ :=
  verified_safe fun _ _ h hsettled hfunded => sendAndRegister_safe h hsettled hfunded

end

end DogeOperator.DepositSession
