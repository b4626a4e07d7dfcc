import DogeOperator.Json
import DogeOperator.Batches
import DogeOperator.Program
import DogeOperator.Store

/-! Everything outside the withdrawal code: the operator store, the Solana RPC node, the HTTP
services, the file system and the clock, each call an operation of a program. -/
namespace DogeOperator.Operations
open Bytes Outcome Network Json Batches Store

abbrev SolanaSignature := FixedBytes 64

structure Keypair where
  pubkey : Pubkey
  secret : FixedBytes 32

/-- The parts of a Solana transaction that are read; the rest of the message is opaque. -/
structure SolanaTransaction where
  signatures : List SolanaSignature
  recentBlockhash : FixedBytes 32
  message : ByteString
  deriving DecidableEq

structure Account where
  owner : Pubkey
  data : ByteString

/-- `err` is the transaction error, if it failed. -/
structure TransactionStatus where
  err : Option String

/-- `EncodedConfirmedTransactionWithStatusMeta`: the metadata may be absent. -/
structure ConfirmedTransaction where
  slot : UInt64
  blockTime : Option Int64
  metaStatus : Option TransactionStatus

inductive HistoryRecord
  | withdrawalRequest (record : WithdrawalRequestRecord)
  | other

structure HistorySyncConfig where
  rpcUrl : String
  dogeBridgeProgram : Pubkey
  bridgeState : Pubkey
  pendingMintProgram : Pubkey
  txoBufferProgram : Pubkey
  includeWithdrawals : Bool
  includeManualDeposits : Bool

structure NoopShimMonitorConfig where
  rpcUrl : String
  bridgeState : Pubkey
  noopShimProgramId : Pubkey
  batchSize : ℕ

structure NoopShimWithdrawalMessage where
  signature : SolanaSignature
  emitter : Pubkey
  nonce : UInt32
  dogeTxBytes : ByteString

structure NoopShimPage where
  messages : List NoopShimWithdrawalMessage
  hasMore : Bool
  nextCursor : Option SolanaSignature

inductive RpcOp
  | getAccount (address : Pubkey)
  | getAccountWithCommitment (address : Pubkey)
  | getSignatureStatusesWithHistory (signatures : List SolanaSignature)
  | getTransaction (signature : SolanaSignature)
  | isBlockhashValid (blockhash : FixedBytes 32)
  | sendTransaction (transaction : SolanaTransaction)
  | sendAndConfirmTransaction (transaction : SolanaTransaction)
  | getLatestBlockhash
  | getMinimumBalanceForRentExemption (size : ℕ)
  | getBalance (address : Pubkey)
  | streamHistory (config : HistorySyncConfig)
  | getWithdrawals (config : NoopShimMonitorConfig) (before : Option SolanaSignature) (limit : ℕ)

@[reducible] def RpcOp.Answer : RpcOp → Type
  | getAccount _ => Account
  | getAccountWithCommitment _ => Option Account
  | getSignatureStatusesWithHistory _ => List (Option TransactionStatus)
  | getTransaction _ => ConfirmedTransaction
  | isBlockhashValid _ => Bool
  | sendTransaction _ => SolanaSignature
  | sendAndConfirmTransaction _ => SolanaSignature
  | getLatestBlockhash => FixedBytes 32
  | getMinimumBalanceForRentExemption _ => UInt64
  | getBalance _ => UInt64
  | streamHistory _ => List HistoryRecord
  | getWithdrawals _ _ _ => NoopShimPage

/-- A failed send and an unreadable body are both failures of the operation. The snapshot a raw
transaction is posted for does not travel; it names the posting in what follows. -/
inductive HttpOp
  | get (url : String)
  | postJson (url : String) (body : Value)
  | postTransaction (solanaSignature : String) (url : String) (hexBody : String)

inductive SystemOp
  | readKeypairFile (path : String)
  | newKeypair
  | newUniqueSignature
  /-- How many further attempts the clock allows before the timeout is seen to have elapsed. -/
  | attemptsWithin (timeoutMs intervalMs : ℕ)
  | createParentDirectory (path : String)
  | writeFile (path : String) (contents : Value)

@[reducible] def SystemOp.Answer : SystemOp → Type
  | readKeypairFile _ => Keypair
  | newKeypair => Keypair
  | newUniqueSignature => SolanaSignature
  | attemptsWithin _ _ => ℕ
  | createParentDirectory _ => Unit
  | writeFile _ _ => Unit

inductive Op
  | store (op : StoreOp)
  | rpc (op : RpcOp)
  | http (op : HttpOp)
  | system (op : SystemOp)

@[reducible] def Op.Answer : Op → Type
  | store op => op.Answer
  | rpc op => op.Answer
  | http _ => HttpAnswer
  | system op => op.Answer

/-- A fallible computation with outside calls. -/
abbrev Flow (α : Type) := Program Op.Answer ErrorChain α

variable {α : Type}

def store (op : StoreOp) : Flow op.Answer := Program.invoke (Op.store op)

def rpc (op : RpcOp) : Flow op.Answer := Program.invoke (Op.rpc op)

def http (op : HttpOp) : Flow HttpAnswer := Program.invoke (Op.http op)

def system (op : SystemOp) : Flow op.Answer := Program.invoke (Op.system op)

/-- `if condition { bail!(message) }` -/
def bailIf (condition : Prop) [Decidable condition] (message : String) : Flow Unit :=
  .done (if condition then bail message else .ok ())

/-- `if condition { .. }` without an else branch. -/
def onlyIf (condition : Prop) [Decidable condition] (p : Flow Unit) : Flow Unit :=
  if condition then p else return ()

/-- `.context(message)` on a call. -/
def withContext (message : String) (p : Flow α) : Flow α := p.mapError (message :: ·)

/-- The record of a lookup that has to be there. -/
def found (x : Flow (Option α)) (message : String) : Flow α := do
  let record ← x
  orBail record message

theorem bailIf_of_not {condition : Prop} [Decidable condition] {message : String}
    (h : ¬ condition) : bailIf condition message = .done (.ok ()) := by
  rw [bailIf, if_neg h]

/-- The indices of a request range, in order. -/
def requestIndices (start stop : UInt64) : List UInt64 :=
  (List.range (stop.toNat - start.toNat)).map fun offset => start + UInt64.ofNat offset

theorem mem_requestIndices {start stop index : UInt64} :
    index ∈ requestIndices start stop ↔ start ≤ index ∧ index < stop := by
  rw [requestIndices, List.mem_map]
  constructor
  · intro h
    rcases h with ⟨offset, hmem, rfl⟩
    have hlt := List.mem_range.mp hmem
    have hstop := stop.toNat_lt
    have hsum : (start + UInt64.ofNat offset).toNat = start.toNat + offset := by
      rw [UInt64.toNat_add, UInt64.toNat_ofNat', Nat.mod_eq_of_lt (a := offset) (by omega),
        Nat.mod_eq_of_lt (by omega)]
    rw [UInt64.le_iff_toNat_le, UInt64.lt_iff_toNat_lt, hsum]
    omega
  · intro h
    have hle := UInt64.le_iff_toNat_le.mp h.1
    have hlt := UInt64.lt_iff_toNat_lt.mp h.2
    refine ⟨index.toNat - start.toNat, List.mem_range.mpr (by omega), UInt64.toNat_inj.mp ?_⟩
    have hindex := index.toNat_lt
    rw [UInt64.toNat_add, UInt64.toNat_ofNat', Nat.mod_eq_of_lt (a := index.toNat - _) (by omega),
      Nat.mod_eq_of_lt (by omega)]
    omega

section
variable {allowed : Op → Prop}

@[simp] theorem calls_bailIf {condition : Prop} [Decidable condition] {message : String} :
    (bailIf condition message).Calls allowed := trivial

@[simp] theorem calls_withContext {message : String} {p : Flow α} :
    (withContext message p).Calls allowed ↔ p.Calls allowed := Program.calls_mapError

theorem calls_found {x : Flow (Option α)} {message : String} (h : x.Calls allowed) :
    (found x message).Calls allowed := h.bind fun _ => trivial

end

end DogeOperator.Operations
