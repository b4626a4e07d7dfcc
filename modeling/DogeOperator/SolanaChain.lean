import Mathlib.Logic.Function.Basic
import DogeOperator.Operations

/-! Solana accounts, as far as the setup commands write them: the instructions and transactions that
they send, and what the programs on chain document of these. -/
namespace DogeOperator.SolanaChain
open Bytes Network Operations

/-- `Mint::LEN` -/
def mintLen : ℕ := 82

structure Mint where
  mintAuthority : Option Pubkey
  freezeAuthority : Option Pubkey
  decimals : UInt8
  deriving DecidableEq

structure TokenAccount where
  owner : Pubkey
  mint : Pubkey
  closeAuthority : Option Pubkey
  deriving DecidableEq

structure TokenMetadata where
  name : String
  symbol : String
  uri : String
  deriving DecidableEq

structure PsyBridgeTipStateCommitment where
  blockHash : FixedBytes 32
  blockMerkleTreeRoot : FixedBytes 32
  blockTime : UInt32
  blockHeight : UInt32
  deriving DecidableEq

structure PsyBridgeStateCommitment where
  blockHash : FixedBytes 32
  blockMerkleTreeRoot : FixedBytes 32
  pendingMintsFinalizedHash : FixedBytes 32
  txoOutputListFinalizedHash : FixedBytes 32
  autoClaimedTxoTreeRoot : FixedBytes 32
  autoClaimedDepositsTreeRoot : FixedBytes 32
  autoClaimedDepositsNextIndex : UInt32
  blockHeight : UInt32
  deriving DecidableEq

structure PsyBridgeHeader where
  tipState : PsyBridgeTipStateCommitment
  finalizedState : PsyBridgeStateCommitment
  bridgeStateHash : FixedBytes 32
  lastRollbackAtSecs : UInt32
  pausedUntilSecs : UInt32
  totalFinalizedFeesCollectedChainHistory : UInt64
  deriving DecidableEq

structure PsyReturnTxOutput where
  sighash : FixedBytes 32
  outputIndex : UInt64
  amountSats : UInt64
  deriving DecidableEq

structure PsyBridgeConfig where
  depositFeeRateNumerator : UInt64
  depositFeeRateDenominator : UInt64
  withdrawalFeeRateNumerator : UInt64
  withdrawalFeeRateDenominator : UInt64
  depositFlatFeeSats : UInt64
  withdrawalFlatFeeSats : UInt64
  deriving DecidableEq

structure InitializeBridgeParams where
  bridgeHeader : PsyBridgeHeader
  custodianWalletConfigHash : FixedBytes 32
  startReturnTxoOutput : PsyReturnTxOutput
  configParams : PsyBridgeConfig
  deriving DecidableEq

/-- The bridge state, with the accounts that it was initialized for. -/
structure BridgeRecord where
  dogeMint : Pubkey
  params : InitializeBridgeParams
  deriving DecidableEq

inductive ChainAccount
  /-- Created for a program, and not initialized yet. -/
  | allocated (owner : Pubkey) (space : ℕ)
  | mint (mint : Mint)
  | token (account : TokenAccount)
  | metadata (metadata : TokenMetadata)
  | bridge (record : BridgeRecord)
  deriving DecidableEq

abbrev Chain := Pubkey → Option ChainAccount

/-- The addresses of the token programs, and those that they derive. -/
class TokenPrograms where
  tokenProgram : Pubkey
  associatedTokenAddress : (owner mint : Pubkey) → Pubkey
  metadataAddress : (mint : Pubkey) → Pubkey

inductive Instruction
  | createAccount (payer account : Pubkey) (lamports : UInt64) (space : ℕ) (owner : Pubkey)
  | initializeMint (mint authority : Pubkey) (freezeAuthority : Option Pubkey) (decimals : UInt8)
  | setMintAuthority (mint : Pubkey) (newAuthority : Option Pubkey) (authority : Pubkey)
  | setCloseAuthority (account : Pubkey) (newAuthority : Option Pubkey) (authority : Pubkey)
  | createMetadata (metadata mint mintAuthority payer updateAuthority : Pubkey)
      (data : TokenMetadata)
  | createAssociatedTokenAccount (payer owner mint : Pubkey)
  | initializeBridge (bridgeState payer operator feeSpender dogeMint : Pubkey)
      (params : InitializeBridgeParams)

structure Transaction where
  instructions : List Instruction
  payer : Pubkey
  signers : List Pubkey
  blockhash : FixedBytes 32

/-- The programs on chain and the runtime: what an instruction may do when it succeeds, and a transaction
when it is confirmed. -/
class ChainPrograms extends TokenPrograms where
  Effect : (signers : List Pubkey) → Instruction → Chain → Chain → Prop
  Confirms : Transaction → Chain → Chain → Prop

section
variable [ChainPrograms]

/-- The instructions succeed one after another. -/
inductive Performs (signers : List Pubkey) : List Instruction → Chain → Chain → Prop
  | nil (c : Chain) : Performs signers [] c c
  | cons {instruction : Instruction} {rest : List Instruction} {c c₁ c' : Chain}
      (heffect : ChainPrograms.Effect signers instruction c c₁) (hrest : Performs signers rest c₁ c') :
      Performs signers (instruction :: rest) c c'

/-- What the programs document of the accounts that they write. -/
class LawfulPrograms : Prop where
  /-- A transaction takes effect whole. -/
  confirms {tx : Transaction} {c c' : Chain} (h : ChainPrograms.Confirms tx c c') :
    Performs tx.signers tx.instructions c c'
  /-- The system program creates an account only at an address that is not in use. -/
  createAccount {signers : List Pubkey} {payer account : Pubkey} {lamports : UInt64} {space : ℕ}
    {owner : Pubkey} {c c' : Chain}
    (h : ChainPrograms.Effect signers (.createAccount payer account lamports space owner) c c') :
    c account = none ∧ c' = Function.update c account (some (.allocated owner space))
  initializeMint {signers : List Pubkey} {mint authority : Pubkey} {freezeAuthority : Option Pubkey}
    {decimals : UInt8} {c c' : Chain}
    (h : ChainPrograms.Effect signers (.initializeMint mint authority freezeAuthority decimals) c c') :
    c' = Function.update c mint (some (.mint ⟨some authority, freezeAuthority, decimals⟩))
  /-- The other fields of the mint stay as they are. -/
  setMintAuthority {signers : List Pubkey} {mint authority : Pubkey} {newAuthority : Option Pubkey}
    {c c' : Chain}
    (h : ChainPrograms.Effect signers (.setMintAuthority mint newAuthority authority) c c') :
    ∃ m, c mint = some (.mint m) ∧
      c' = Function.update c mint (some (.mint { m with mintAuthority := newAuthority }))
  setCloseAuthority {signers : List Pubkey} {account authority : Pubkey}
    {newAuthority : Option Pubkey} {c c' : Chain}
    (h : ChainPrograms.Effect signers (.setCloseAuthority account newAuthority authority) c c') :
    ∃ t, c account = some (.token t) ∧
      c' = Function.update c account (some (.token { t with closeAuthority := newAuthority }))
  createMetadata {signers : List Pubkey} {metadata mint mintAuthority payer updateAuthority : Pubkey}
    {data : TokenMetadata} {c c' : Chain}
    (h : ChainPrograms.Effect signers
      (.createMetadata metadata mint mintAuthority payer updateAuthority data) c c') :
    c metadata = none ∧ c' = Function.update c metadata (some (.metadata data))
  /-- This is not the idempotent instruction. -/
  createAssociatedTokenAccount {signers : List Pubkey} {payer owner mint : Pubkey} {c c' : Chain}
    (h : ChainPrograms.Effect signers (.createAssociatedTokenAccount payer owner mint) c c') :
    c (TokenPrograms.associatedTokenAddress owner mint) = none ∧
      c' = Function.update c (TokenPrograms.associatedTokenAddress owner mint)
        (some (.token ⟨owner, mint, none⟩))
  /-- The bridge can be initialized once. -/
  initializeBridge {signers : List Pubkey}
    {bridgeState payer operator feeSpender dogeMint : Pubkey} {params : InitializeBridgeParams}
    {c c' : Chain}
    (h : ChainPrograms.Effect signers
      (.initializeBridge bridgeState payer operator feeSpender dogeMint params) c c') :
    c bridgeState = none ∧
      c' = Function.update c bridgeState (some (.bridge ⟨dogeMint, params⟩))

/-- A transaction that is sent either fails or is confirmed; the confirmation may not be heard. -/
def Transaction.Sent {α ε : Type} (tx : Transaction) (c : Chain) (answer : Except ε α)
    (c' : Chain) : Prop :=
  (c' = c ∧ answer.isOk = false) ∨ ChainPrograms.Confirms tx c c'

end

/-! What transactions leave as it is. -/

/-- An account stays as it is, but for the close authority of a token account, which may be given
up. -/
inductive Settles : ChainAccount → ChainAccount → Prop
  | same (a : ChainAccount) : Settles a a
  | closed (t : TokenAccount) : Settles (.token t) (.token { t with closeAuthority := none })

theorem Settles.trans {a b c : ChainAccount} (h : Settles a b) (h' : Settles b c) : Settles a c := by
  cases h with
  | same => exact h'
  | closed t =>
    cases h' with
    | same => exact .closed t
    | closed => exact .closed t

/-- Every account is still there, settled. -/
def Kept (c c' : Chain) : Prop :=
  ∀ key a, c key = some a → ∃ a', c' key = some a' ∧ Settles a a'

variable {c c' c'' : Chain} {key : Pubkey} {a : ChainAccount}

theorem Kept.refl (c : Chain) : Kept c c := fun _ a h => ⟨a, h, .same a⟩

theorem Kept.trans (h : Kept c c') (h' : Kept c' c'') : Kept c c'' := by
  intro key a hstored
  rcases h key a hstored with ⟨b, hb, hsettles⟩
  rcases h' key b hb with ⟨b', hb', hsettles'⟩
  exact ⟨b', hb', hsettles.trans hsettles'⟩

theorem Kept.absent (h : Kept c c') (habsent : c' key = none) : c key = none := by
  cases hstored : c key with
  | none => rfl
  | some a =>
    rcases h key a hstored with ⟨a', ha', -⟩
    cases habsent.symm.trans ha'

/-- Writing to an account that was not there. -/
theorem Kept.update (h : Kept c c') (habsent : c key = none) :
    Kept c (Function.update c' key (some a)) := by
  intro other b hstored
  have hother : other ≠ key := by
    rintro rfl
    cases habsent.symm.trans hstored
  rcases h other b hstored with ⟨b', hb', hsettles⟩
  exact ⟨b', by rw [Function.update_of_ne hother, hb'], hsettles⟩

/-- Giving up a close authority. -/
theorem Kept.close {t : TokenAccount} (h : Kept c c') (hstored : c' key = some (.token t)) :
    Kept c (Function.update c' key (some (.token { t with closeAuthority := none }))) := by
  intro other b hb
  rcases h other b hb with ⟨b', hb', hsettles⟩
  by_cases hother : other = key
  · subst hother
    cases hstored.symm.trans hb'
    exact ⟨_, Function.update_self _ _ _, hsettles.trans (.closed t)⟩
  · exact ⟨b', by rw [Function.update_of_ne hother, hb'], hsettles⟩

/-! What is new, and how it was made. -/

/-- What was there is kept; what is new is made in a certain way, seen from where the chain is now. -/
structure Grown (Made : Chain → Pubkey → ChainAccount → Prop) (c c' : Chain) : Prop where
  kept : Kept c c'
  made : ∀ key a, c key = none → c' key = some a → Made c' key a

section Grown
variable {Made Made' : Chain → Pubkey → ChainAccount → Prop}

theorem Grown.refl (c : Chain) : Grown Made c c where
  kept := .refl c
  made _ _ habsent hstored := by cases habsent.symm.trans hstored

theorem Grown.mono (h : Grown Made c c') (hmade : ∀ key a, Made c' key a → Made' c' key a) :
    Grown Made' c c' where
  kept := h.kept
  made key a habsent hstored := hmade key a (h.made key a habsent hstored)

/-- Writing an account, as far as what is new is concerned. -/
theorem made_update (Made : Chain → Pubkey → ChainAccount → Prop)
    (hmade : ∀ other b, c other = none → c' other = some b → Made c' other b)
    (hothers : ∀ other b, Made c' other b → Made (Function.update c' key (some a)) other b)
    (hnew : c key = none → Made (Function.update c' key (some a)) key a) :
    ∀ other b, c other = none → Function.update c' key (some a) other = some b →
      Made (Function.update c' key (some a)) other b := by
  intro other b habsent hstored
  by_cases hother : other = key
  · subst hother
    rw [Function.update_self] at hstored
    cases hstored
    exact hnew habsent
  · rw [Function.update_of_ne hother] at hstored
    exact hothers other b (hmade other b habsent hstored)

/-- An account that was not there. -/
theorem Grown.add (h : Grown Made c c') (habsent : c' key = none)
    (hothers : ∀ other b, Made c' other b → Made (Function.update c' key (some a)) other b)
    (hnew : Made (Function.update c' key (some a)) key a) :
    Grown Made c (Function.update c' key (some a)) where
  kept := h.kept.update (h.kept.absent habsent)
  made := made_update Made h.made hothers fun _ => hnew

end Grown

section Legit
variable {Legit : Pubkey → ChainAccount → Prop}

/-- The account is new, and changed. -/
theorem Grown.change (h : Grown (fun _ => Legit) c c') (hnew : c key = none) (hlegit : Legit key a) :
    Grown (fun _ => Legit) c (Function.update c' key (some a)) where
  kept := h.kept.update hnew
  made := made_update (fun _ => Legit) h.made (fun _ _ => id) fun _ => hlegit

theorem Grown.close {t : TokenAccount} (h : Grown (fun _ => Legit) c c')
    (hsettles : ∀ key a a', Settles a a' → Legit key a → Legit key a')
    (hstored : c' key = some (.token t)) :
    Grown (fun _ => Legit) c
      (Function.update c' key (some (.token { t with closeAuthority := none }))) where
  kept := h.kept.close hstored
  made := made_update (fun _ => Legit) h.made (fun _ _ => id) fun hnew =>
    hsettles key _ _ (.closed t) (h.made key _ hnew hstored)

/-- What one stretch has made, the next one keeps. -/
theorem Grown.trans (h : Grown (fun _ => Legit) c c') (h' : Grown (fun _ => Legit) c' c'')
    (hsettles : ∀ key a a', Settles a a' → Legit key a → Legit key a') :
    Grown (fun _ => Legit) c c'' where
  kept := h.kept.trans h'.kept
  made key a habsent hstored := by
    cases hbetween : c' key with
    | none => exact h'.made key a hbetween hstored
    | some b =>
      rcases h'.kept key b hbetween with ⟨b', hb', hsettled⟩
      cases hstored.symm.trans hb'
      exact hsettles key _ _ hsettled (h.made key b habsent hbetween)

end Legit

/-! Transactions of one instruction, and the two instructions that make a mint. -/

section
variable [ChainPrograms] [LawfulPrograms] {payer : Pubkey} {signers : List Pubkey}
  {blockhash : FixedBytes 32}

theorem confirms_single {instruction : Instruction}
    (h : ChainPrograms.Confirms ⟨[instruction], payer, signers, blockhash⟩ c c') :
    ChainPrograms.Effect signers instruction c c' := by
  cases LawfulPrograms.confirms h with
  | cons heffect hrest =>
    cases hrest
    exact heffect

/-- A mint is made where there was nothing, and whole. -/
theorem confirms_createMint {mint authority funder : Pubkey} {freeze : Option Pubkey} {decimals : UInt8}
    {lamports : UInt64}
    (h : ChainPrograms.Confirms ⟨[.createAccount funder mint lamports mintLen TokenPrograms.tokenProgram,
      .initializeMint mint authority freeze decimals], payer, signers, blockhash⟩ c c') :
    c mint = none ∧ c' = Function.update c mint (some (.mint ⟨some authority, freeze, decimals⟩)) := by
  cases LawfulPrograms.confirms h with
  | cons hcreate hrest =>
    cases hrest with
    | cons hinitialize hnil =>
      cases hnil
      rcases LawfulPrograms.createAccount hcreate with ⟨habsent, rfl⟩
      rw [LawfulPrograms.initializeMint hinitialize, Function.update_idem]
      exact ⟨habsent, rfl⟩

end

end DogeOperator.SolanaChain
