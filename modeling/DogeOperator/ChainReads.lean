import DogeOperator.Footprint

/-! The Solana chain beside a withdraw run: one snapshot transaction that may land or expire at any
moment, and reads of it that are true when they are made. What a run has read stays true only if
it is about the end of the transaction. -/
namespace DogeOperator.ChainReads
open Outcome Crypto Network Records Confirm Store Operations Solana Withdraw Program Relation

inductive Landing
  | no
  | ok
  | failed
  deriving DecidableEq

/-- The chain as far as one snapshot transaction goes. -/
structure Chain where
  cursor : UInt64
  landed : Landing
  blockhashValid : Bool

/-- The snapshot transaction, its signature, which reads back from its text, and the batch end. -/
structure Snapshot [SolanaSdk] where
  transaction : SolanaTransaction
  signature : SolanaSignature
  signed : transaction.signatures.head? = some signature
  text : SolanaSdk.signatureFromStr (SolanaSdk.signatureToString signature) = .ok signature
  bridgeState : Pubkey
  requestEndIndex : UInt64

section
variable [SolanaSdk] (t : Snapshot)

/-- The key of its batch in the store. -/
def Snapshot.key : String := SolanaSdk.signatureToString t.signature

inductive ChainStep : Chain → Chain → Prop
  | landOk {c : Chain} (hvalid : c.blockhashValid = true) (hlanded : c.landed = .no) :
      ChainStep c { c with landed := .ok, cursor := t.requestEndIndex }
  | landFailed {c : Chain} (hvalid : c.blockhashValid = true) (hlanded : c.landed = .no) :
      ChainStep c { c with landed := .failed }
  | expire {c : Chain} : ChainStep c { c with blockhashValid := false }

/-- The transaction has not landed successfully, and never will. -/
def NeverLands (c : Chain) : Prop :=
  ∀ c', ReflTransGen (ChainStep t) c c' → c'.landed ≠ .ok

/-- It failed, or it can no longer land. -/
def Dead (c : Chain) : Prop :=
  c.landed = .failed ∨ c.landed = .no ∧ c.blockhashValid = false

variable {t} {c c' : Chain}

theorem dead_step (h : Dead c) (hstep : ChainStep t c c') : Dead c' := by
  cases hstep with
  | landOk hvalid hlanded =>
    rcases h with h | h
    · exact absurd (hlanded.symm.trans h) (by simp)
    · exact absurd (hvalid.symm.trans h.2) (by simp)
  | landFailed => exact .inl rfl
  | expire =>
    cases h with
    | inl hfailed => exact .inl hfailed
    | inr hexpired => exact .inr ⟨hexpired.1, rfl⟩

theorem dead_run (h : Dead c) (hrun : ReflTransGen (ChainStep t) c c') : Dead c' := by
  induction hrun with
  | refl => exact h
  | tail _ hstep ih => exact dead_step ih hstep

omit [SolanaSdk] in
theorem dead_not_ok (h : Dead c) : c.landed ≠ .ok := by
  intro hok
  rcases h with h | h
  · exact absurd (hok.symm.trans h) (by simp)
  · exact absurd (hok.symm.trans h.1) (by simp)

theorem neverLands_iff : NeverLands t c ↔ Dead c := by
  constructor
  · intro h
    have hnow : c.landed ≠ .ok := h c .refl
    cases hlanded : c.landed with
    | ok => exact absurd hlanded hnow
    | failed => exact .inl hlanded
    | no =>
      cases hvalid : c.blockhashValid with
      | false => exact .inr ⟨hlanded, hvalid⟩
      | true => exact absurd rfl (h _ (.single (.landOk hvalid hlanded)))
  · intro h c' hrun
    exact dead_not_ok (dead_run h hrun)

/-- What a status read says. -/
def Landing.status : Landing → Option Bool
  | .no => none
  | .ok => some true
  | .failed => some false

variable (t)

/-- A successful answer of the RPC node is true of the chain at that moment. -/
def Truthful (c : Chain) : (op : RpcOp) → op.Answer → Prop
  | .getAccount address, account => address = t.bridgeState → ∀ state,
      SolanaSdk.decodeBridgeState account.data = .ok state →
        state.withdrawalSnapshot.nextRequestedWithdrawalsTreeIndex = c.cursor
  | .getSignatureStatusesWithHistory signatures, statuses => signatures = [t.signature] →
      statuses.head?.join.map (·.err.isNone) = c.landed.status
  | .getTransaction signature, transaction => signature = t.signature →
      c.landed ≠ .no ∧ (transaction.metaStatus.any (·.err.isSome) → c.landed = .failed)
  | .isBlockhashValid blockhash, valid => blockhash = t.transaction.recentBlockhash →
      valid = c.blockhashValid
  | _, _ => True

section
variable [OperatorStore]

structure World where
  store : OperatorStore.State
  chain : Chain

def World.view (w : World) : StoreView := OperatorStore.view w.store

/-- One operation at one moment of the chain. A failed read says nothing. -/
def respond : Exec Op.Answer ErrorChain World
  | .store op, w, answer, w' => OperatorStore.exec op w.store answer w'.store ∧ w'.chain = w.chain
  | .rpc op, w, answer, w' => w' = w ∧ ∀ a, answer = .ok a → Truthful t w.chain op a
  | .http _, w, _, w' => w' = w
  | .system _, w, _, w' => w' = w

/-- The chain moves by itself. -/
def ChainMoves (w w' : World) : Prop := w'.store = w.store ∧ ChainStep t w.chain w'.chain

/-- The blockhash of the transaction is not read once it has landed and its blockhash expired. -/
def Timely : Op → World → Prop
  | .rpc (.isBlockhashValid blockhash), w => blockhash = t.transaction.recentBlockhash →
      ¬ (w.chain.landed = .ok ∧ w.chain.blockhashValid = false)
  | _, _ => True

/-- Any number of chain steps come between two operations. -/
def exec : Exec Op.Answer ErrorChain World := (respond t).after (ChainMoves t)

/-- The same, when every blockhash read is timely. -/
def timelyExec : Exec Op.Answer ErrorChain World :=
  ((respond t).restrict (Timely t)).after (ChainMoves t)

/-- A run of the operator: withdraw runs that may stop anywhere, and the chain in between. -/
def OperatorStep [UrlParser] [Hashes] [Base58Check] [Secp256k1] [BlockHashText] [TxoConstants]
    (exec : Exec Op.Answer ErrorChain World) (w w' : World) : Prop :=
  ChainMoves t w w' ∨ ∃ args, Session exec (runWithStore args) w w'

/-- The batch carries the snapshot transaction. -/
def Carries (batch : SnapshotBatch) : Prop :=
  ∃ bytes, batch.solanaTransaction = some bytes ∧
    SolanaSdk.deserializeTransaction bytes = .ok t.transaction

/-- The batch of the transaction is stored, and it is failed only if the transaction is dead. -/
def FailedIsDead (w : World) : Prop :=
  ∃ batch, w.view.batch t.key = some batch ∧ Carries t batch ∧
    (batch.status = .failed → Dead w.chain)

/-- A batch may be failed only when its transaction is dead. -/
def Careful (c : Chain) : StoreOp → Prop
  | .upsertSnapshotBatch batch => batch.solanaSignature = t.key →
      Carries t batch ∧ batch.status ≠ .failed
  | .setSnapshotBatchStatus key status => key = t.key → status = .failed → Dead c
  | _ => True

/-- No operation that could fail a batch or rewrite it. -/
def Benign : Op → Prop
  | .store (.upsertSnapshotBatch _) => False
  | .store (.setSnapshotBatchStatus _ status) => status ≠ .failed
  | _ => True

variable {t} {w w' : World}

omit [OperatorStore] in
/-- What one store operation preserves. -/
theorem effect_failedIsDead {v v' : StoreView} {op : StoreOp} {answer : op.Answer}
    (h : ∃ batch, v.batch t.key = some batch ∧ Carries t batch ∧ (batch.status = .failed → Dead c))
    (hcareful : Careful t c op) (heffect : Effect v op answer v') :
    ∃ batch, v'.batch t.key = some batch ∧ Carries t batch ∧ (batch.status = .failed → Dead c) := by
  rcases h with ⟨batch, hbatch, hcarries, hdead⟩
  by_cases hpre : Footprint.Preliminary (.store op)
  · rw [(Footprint.effect_preliminary hpre heffect).1]
    exact ⟨batch, hbatch, hcarries, hdead⟩
  have hset : ∀ (key : String) (status : OperatorStatus), (key = t.key → status = .failed → Dead c) →
      ∃ other, (v.setBatchStatus key status).batch t.key = some other ∧ Carries t other ∧
        (other.status = .failed → Dead c) := by
    intro key status hstatus
    by_cases hkey : t.key = key
    · exact ⟨{ batch with status }, by simp [StoreView.setBatchStatus, ← hkey, hbatch], hcarries,
        hstatus hkey.symm⟩
    · exact ⟨batch, by simp [StoreView.setBatchStatus, hkey, hbatch], hcarries, hdead⟩
  cases op with
  | setDogecoinTransactionStatusByRawHash =>
    cases heffect
    exact ⟨batch, hbatch, hcarries, hdead⟩
  | setSnapshotBatchStatus key status =>
    cases heffect
    exact hset key status hcareful
  | persistSignedSnapshot key =>
    rcases heffect with ⟨reservation, request, mappings, rfl⟩
    exact hset key .signed fun _ h => nomatch h
  | finalizeConfirmedSnapshot key =>
    rcases heffect with ⟨reservation, request, process, rfl⟩
    exact hset key .confirmed fun _ h => nomatch h
  | reserveCustodyForSnapshot =>
    rcases answer with ⟨reservation, fresh⟩
    rcases heffect with ⟨-, -, -, -, hfresh, rfl⟩
    have hkey : t.key ≠ fresh.solanaSignature := by
      intro heq
      rw [← heq, hbatch] at hfresh
      exact nomatch hfresh
    exact ⟨batch, by simp [hkey, hbatch], hcarries, hdead⟩
  | upsertSnapshotBatch written =>
    cases heffect
    by_cases hkey : t.key = written.solanaSignature
    · have hwritten := hcareful hkey.symm
      exact ⟨written, by simp [← hkey], hwritten.1, fun h => absurd h hwritten.2⟩
    · exact ⟨batch, by simp [hkey, hbatch], hcarries, hdead⟩
  | _ => exact absurd trivial hpre

theorem chainMoves_run (hrun : ReflTransGen (ChainMoves t) w w') :
    w'.store = w.store ∧ ReflTransGen (ChainStep t) w.chain w'.chain := by
  induction hrun with
  | refl => exact ⟨rfl, .refl⟩
  | tail _ hmove ih => exact ⟨hmove.1.trans ih.1, ih.2.tail hmove.2⟩

theorem failedIsDead_chainMoves (h : FailedIsDead t w) (hrun : ReflTransGen (ChainMoves t) w w') :
    FailedIsDead t w' := by
  have hmoves := chainMoves_run hrun
  rcases h with ⟨batch, hbatch, hcarries, hdead⟩
  refine ⟨batch, ?_, hcarries, fun hfailed => dead_run (hdead hfailed) hmoves.2⟩
  rw [World.view, hmoves.1]
  exact hbatch

/-- Later in a run: the invariant, and a chain that has moved on. -/
structure Later (t : Snapshot) (w w' : World) : Prop where
  invariant : FailedIsDead t w'
  chain : ReflTransGen (ChainStep t) w.chain w'.chain

theorem Later.trans {w'' : World} (h : Later t w w') (h' : Later t w' w'') : Later t w w'' :=
  ⟨h'.invariant, h.chain.trans h'.chain⟩

/-- A store operation with due care, at any moment of the chain. -/
theorem timelyExec_store {op : StoreOp} {answer : Result op.Answer} (h : FailedIsDead t w)
    (hcareful : ∀ c, ReflTransGen (ChainStep t) w.chain c → Careful t c op)
    (hexec : timelyExec t (.store op) w answer w') : Later t w w' := by
  rcases hexec with ⟨w₁, hmoves, -, hexec, hchain⟩
  have hrun := chainMoves_run hmoves
  have h₁ := failedIsDead_chainMoves h hmoves
  refine ⟨?_, hchain ▸ hrun.2⟩
  unfold FailedIsDead
  rw [hchain]
  cases answer with
  | error e =>
    have hview : w'.view = w₁.view := OperatorStore.failed hexec
    rw [hview]
    exact h₁
  | ok a => exact effect_failedIsDead h₁ (hcareful _ hrun.2) (OperatorStore.effect hexec)

theorem timelyExec_benign {op : Op} {answer : Result op.Answer} (h : FailedIsDead t w)
    (hbenign : Benign op) (hexec : timelyExec t op w answer w') : Later t w w' := by
  cases op with
  | store op =>
    refine timelyExec_store h (fun c _ => ?_) hexec
    cases op with
    | upsertSnapshotBatch => exact hbenign.elim
    | setSnapshotBatchStatus => exact fun _ hfailed => absurd hfailed hbenign
    | _ => trivial
  | rpc op =>
    rcases hexec with ⟨w₁, hmoves, -, rfl, -⟩
    exact ⟨failedIsDead_chainMoves h hmoves, (chainMoves_run hmoves).2⟩
  | http op =>
    rcases hexec with ⟨w₁, hmoves, -, rfl⟩
    exact ⟨failedIsDead_chainMoves h hmoves, (chainMoves_run hmoves).2⟩
  | system op =>
    rcases hexec with ⟨w₁, hmoves, -, rfl⟩
    exact ⟨failedIsDead_chainMoves h hmoves, (chainMoves_run hmoves).2⟩

end

end

end DogeOperator.ChainReads
