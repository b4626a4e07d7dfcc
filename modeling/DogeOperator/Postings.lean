import DogeOperator.GraphSpec
import DogeOperator.WithdrawRuns

/-! At most one Dogecoin transaction is ever posted for a batch: over any number of runs, stopped
anywhere, and whatever the services answer. What is posted is already persisted, and a batch with
a persisted transaction is never signed again. -/
namespace DogeOperator.Postings
open Bytes Outcome Records Store Operations Resume Program Footprint WithdrawRuns GraphSpec
  Relation

/-- The raw transaction persisted for a batch. -/
def persistedRaw (v : StoreView) (key : String) : Option ByteString :=
  (v.transaction key).bind DogecoinTransaction.rawTransaction

/-- A raw transaction posted to Electrs for a batch. -/
structure Posting where
  solanaSignature : String
  body : String
  /-- What the store held for the batch when it was posted. -/
  persisted : Option ByteString

def SignedOrLater (status : OperatorStatus) : Prop :=
  status = .signed ∨ status = .broadcast ∨ status = .confirmed

/-- The batch is signed with this raw transaction. -/
structure SignedWith (v : StoreView) (key : String) (raw : ByteString) : Prop where
  signed : ∃ batch, v.batch key = some batch ∧ SignedOrLater batch.status
  persisted : persistedRaw v key = some raw

/-- The batch is stored and not signed yet. -/
def Unsigned (v : StoreView) (key : String) : Prop :=
  ∃ batch, v.batch key = some batch ∧ ¬ SignedOrLater batch.status

theorem Unsigned.not_signedWith {v : StoreView} {key : String} (h : Unsigned v key)
    (raw : ByteString) : ¬ SignedWith v key raw := by
  intro hsigned
  rcases h with ⟨batch, hbatch, hunsigned⟩
  rcases hsigned.signed with ⟨other, hother, hstatus⟩
  cases hbatch.symm.trans hother
  exact hunsigned hstatus

/-- Signed batches stay signed with the same transaction. -/
def Keeps (v v' : StoreView) : Prop :=
  ∀ key raw, SignedWith v key raw → SignedWith v' key raw

theorem keeps_of_eq {v v' : StoreView} (hbatch : v'.batch = v.batch)
    (htransaction : v'.transaction = v.transaction) : Keeps v v' := by
  intro key raw h
  refine ⟨?_, ?_⟩
  · rw [hbatch]
    exact h.signed
  · rw [persistedRaw, htransaction]
    exact h.persisted

/-- A batch may be written as unsigned, or with another transaction, only before it is signed. -/
def Careful (v : StoreView) : StoreOp → Prop
  | .upsertSnapshotBatch batch => Unsigned v batch.solanaSignature
  | .setSnapshotBatchStatus key status => SignedOrLater status ∨ Unsigned v key
  | .persistSignedSnapshot key _ _ _ => Unsigned v key
  | .finalizeConfirmedSnapshot key transaction _ =>
    transaction.rawTransaction = persistedRaw v key
  | _ => True

theorem keeps_setBatchStatus {v : StoreView} {key : String} {status : OperatorStatus}
    (h : SignedOrLater status ∨ Unsigned v key) : Keeps v (v.setBatchStatus key status) := by
  intro other raw hsigned
  refine ⟨?_, hsigned.persisted⟩
  rcases hsigned.signed with ⟨batch, hbatch, hlater⟩
  by_cases hkey : other = key
  · subst hkey
    have hstatus : SignedOrLater status := h.resolve_right fun hu => hu.not_signedWith raw hsigned
    exact ⟨{ batch with status }, by simp [StoreView.setBatchStatus, hbatch], hstatus⟩
  · exact ⟨batch, by simp [StoreView.setBatchStatus, hkey, hbatch], hlater⟩

theorem setTransactionStatus_persistedRaw (v : StoreView) (rawHash : FixedBytes 32)
    (status : OperatorStatus) (key : String) :
    persistedRaw (v.setTransactionStatus rawHash status) key = persistedRaw v key := by
  simp only [persistedRaw, StoreView.setTransactionStatus]
  cases v.transaction key with
  | none => rfl
  | some transaction =>
    by_cases hhash : transaction.rawHash = rawHash <;> simp [hhash]

/-- Writing records at an unsigned batch, or its own transaction back, keeps the signed ones. -/
theorem keeps_update {v v' : StoreView} (key : String)
    (hbatch : ∀ other, other ≠ key → v'.batch other = v.batch other)
    (htransaction : ∀ other, other ≠ key → v'.transaction other = v.transaction other)
    (hkey : ∀ raw, SignedWith v key raw → SignedWith v' key raw) : Keeps v v' := by
  intro other raw h
  by_cases heq : other = key
  · subst heq
    exact hkey raw h
  · refine ⟨?_, ?_⟩
    · rw [hbatch other heq]
      exact h.signed
    · rw [persistedRaw, htransaction other heq]
      exact h.persisted

/-- What one store operation preserves. -/
theorem effect_keeps {v v' : StoreView} {op : StoreOp} {answer : op.Answer}
    (hcareful : Careful v op) (heffect : Effect v op answer v') : Keeps v v' := by
  by_cases hpre : Preliminary (.store op)
  · obtain ⟨hbatch, htransaction⟩ := effect_preliminary hpre heffect
    exact keeps_of_eq hbatch htransaction
  cases op with
  | setDogecoinTransactionStatusByRawHash =>
    cases heffect
    intro key raw h
    exact ⟨h.signed, (setTransactionStatus_persistedRaw v _ _ key).trans h.persisted⟩
  | setSnapshotBatchStatus =>
    cases heffect
    exact keeps_setBatchStatus hcareful
  | reserveCustodyForSnapshot =>
    rcases answer with ⟨reservation, batch⟩
    rcases heffect with ⟨-, -, -, -, hfresh, rfl⟩
    refine keeps_update batch.solanaSignature ?_ (fun _ _ => rfl) ?_
    · intro other hother
      simp [hother]
    · intro raw h
      rcases h.signed with ⟨stored, hstored, -⟩
      cases hfresh.symm.trans hstored
  | upsertSnapshotBatch batch =>
    cases heffect
    refine keeps_update batch.solanaSignature ?_ (fun _ _ => rfl) ?_
    · intro other hother
      simp [hother]
    · intro raw h
      exact absurd h (hcareful.not_signedWith raw)
  | persistSignedSnapshot key =>
    rcases heffect with ⟨reservation, request, mappings, rfl⟩
    refine keeps_update key ?_ ?_ ?_
    · intro other hother
      simp [StoreView.setBatchStatus, hother]
    · intro other hother
      simp [hother]
    · intro raw h
      exact absurd h (hcareful.not_signedWith raw)
  | finalizeConfirmedSnapshot key transaction =>
    rcases heffect with ⟨reservation, request, process, rfl⟩
    refine keeps_update key ?_ ?_ ?_
    · intro other hother
      simp [StoreView.setBatchStatus, hother]
    · intro other hother
      simp [hother]
    · intro raw h
      refine ⟨?_, ?_⟩
      · rcases h.signed with ⟨batch, hbatch, -⟩
        exact ⟨{ batch with status := .confirmed }, by simp [StoreView.setBatchStatus, hbatch],
          .inr (.inr rfl)⟩
      · simpa [persistedRaw] using hcareful.trans h.persisted
  | _ => exact absurd trivial hpre

/-- Operations that never need care. -/
def Benign : Op → Prop
  | .store op => ∀ v, Careful v op
  | .http (.postTransaction _ _ _) => False
  | _ => True

theorem preliminary_benign (op : Op) (h : Preliminary op) : Benign op := by
  cases op with
  | store op => cases op <;> first | exact fun _ => trivial | exact h.elim
  | rpc op => trivial
  | http op => cases op <;> exact h
  | system op => trivial

section
variable [OperatorStore]

/-- The store, and everything posted so far. -/
structure World where
  store : OperatorStore.State
  posted : List Posting

def World.view (w : World) : StoreView := OperatorStore.view w.store

/-- The store does what it promises; the services may answer anything, each time anew, and a post
counts whatever its answer. -/
def exec : Exec Op.Answer ErrorChain World
  | .store op, w, answer, w' => OperatorStore.exec op w.store answer w'.store ∧ w'.posted = w.posted
  | .http (.postTransaction key _ body), w, _, w' =>
    w' = { w with posted := w.posted ++ [⟨key, body, persistedRaw w.view key⟩] }
  | .http (.get _), w, _, w' => w' = w
  | .http (.postJson _ _), w, _, w' => w' = w
  | .rpc _, w, _, w' => w' = w
  | .system _, w, _, w' => w' = w

/-- Everything posted was the transaction persisted for its batch, and still is. -/
def Faithful (w : World) : Prop :=
  ∀ posting ∈ w.posted, ∃ raw, posting.body = hexEncode raw ∧ posting.persisted = some raw ∧
    SignedWith w.view posting.solanaSignature raw

/-- Nothing posted, no batch or transaction changed. -/
structure SameBatches (w w' : World) : Prop where
  posted : w'.posted = w.posted
  batch : w'.view.batch = w.view.batch
  transaction : w'.view.transaction = w.view.transaction

variable {w w' : World} {key : String} {raw : ByteString} {α β : Type}

theorem SameBatches.signedWith (h : SameBatches w w') (hw : SignedWith w.view key raw) :
    SignedWith w'.view key raw := keeps_of_eq h.batch h.transaction key raw hw

theorem SameBatches.unsigned (h : SameBatches w w') (hw : Unsigned w.view key) :
    Unsigned w'.view key := by
  unfold Unsigned
  rw [h.batch]
  exact hw

theorem faithful_of_keeps (hw : Faithful w) (hposted : w'.posted = w.posted)
    (hkeeps : Keeps w.view w'.view) : Faithful w' := by
  intro posting hmem
  rw [hposted] at hmem
  rcases hw posting hmem with ⟨raw, hbody, hpersisted, hsigned⟩
  exact ⟨raw, hbody, hpersisted, hkeeps _ _ hsigned⟩

theorem SameBatches.faithful (h : SameBatches w w') (hw : Faithful w) : Faithful w' :=
  faithful_of_keeps hw h.posted (keeps_of_eq h.batch h.transaction)

/-- A store operation with due care, in any world. -/
theorem exec_store_faithful {op : StoreOp} {answer : Result op.Answer} (hw : Faithful w)
    (hcareful : Careful w.view op) (hexec : exec (.store op) w answer w') : Faithful w' := by
  apply faithful_of_keeps hw hexec.2
  cases answer with
  | error e =>
    have hview : w'.view = w.view := OperatorStore.failed hexec.1
    rw [hview]
    exact fun _ _ => id
  | ok a => exact effect_keeps hcareful (OperatorStore.effect hexec.1)

theorem exec_preliminary {op : Op} {answer : Result op.Answer} (h : Preliminary op)
    (hexec : exec op w answer w') : SameBatches w w' := by
  cases op with
  | store op =>
    refine ⟨hexec.2, ?_, ?_⟩
    · cases answer with
      | error e => exact congrArg StoreView.batch (OperatorStore.failed hexec.1)
      | ok a => exact (effect_preliminary h (OperatorStore.effect hexec.1)).1
    · cases answer with
      | error e => exact congrArg StoreView.transaction (OperatorStore.failed hexec.1)
      | ok a => exact (effect_preliminary h (OperatorStore.effect hexec.1)).2
  | http op =>
    cases op with
    | get url =>
      cases hexec
      exact ⟨rfl, rfl, rfl⟩
    | postJson url body =>
      cases hexec
      exact ⟨rfl, rfl, rfl⟩
    | postTransaction key url body => exact h.elim
  | rpc op =>
    cases hexec
    exact ⟨rfl, rfl, rfl⟩
  | system op =>
    cases hexec
    exact ⟨rfl, rfl, rfl⟩

theorem SameBatches.refl (w : World) : SameBatches w w := ⟨rfl, rfl, rfl⟩

theorem SameBatches.trans {w'' : World} (h : SameBatches w w') (h' : SameBatches w' w'') :
    SameBatches w w'' :=
  ⟨h'.posted.trans h.posted, h'.batch.trans h.batch, h'.transaction.trans h.transaction⟩

/-- The part of a run before a batch changes. -/
theorem safe_preliminary {p : Flow α} (hcalls : p.Calls Preliminary) (hw : Faithful w) :
    Safe exec Faithful (fun _ => SameBatches w) p w :=
  (Safe.of_calls hcalls (fun _ _ _ _ hallowed hexec hsame =>
    hsame.trans (exec_preliminary hallowed hexec)) (SameBatches.refl w)).mono
    (fun _ hsame => hsame.faithful hw) fun _ _ => id

/-- Then the rest of the run, with the batches as they were at the start. -/
theorem after_preliminary {w₀ : World} {p : Flow α} {f : α → Flow β} {Q : Result β → World → Prop}
    (hw : Faithful w₀) (hsame : SameBatches w₀ w) (hcalls : p.Calls Preliminary)
    (hok : ∀ a w', SameBatches w₀ w' → Safe exec Faithful Q (f a) w')
    (herror : ∀ e w', Faithful w' → Q (.error e) w') : Safe exec Faithful Q (p.bind f) w :=
  (safe_preliminary hcalls (hsame.faithful hw)).bind (fun a w' h => hok a w' (hsame.trans h))
    fun e w' h => herror e w' ((hsame.trans h).faithful hw)

theorem after_quiet {w₀ : World} {p : Flow α} {f : α → Flow β} {Q : Result β → World → Prop}
    (hw : Faithful w₀) (hsame : SameBatches w₀ w) (hcalls : p.Calls Quiet)
    (hok : ∀ a w', SameBatches w₀ w' → Safe exec Faithful Q (f a) w')
    (herror : ∀ e w', Faithful w' → Q (.error e) w') : Safe exec Faithful Q (p.bind f) w :=
  after_preliminary hw hsame (hcalls.mono quiet_preliminary) hok herror

/-- What lookups by key return is what is stored. -/
theorem lookups_safe {p : Flow α} (hcalls : p.Calls IsLookupCall) (hpropagates : p.Propagates) :
    Safe exec (fun w' => w'.posted = w.posted ∧ w'.view = w.view)
      (fun result w' => (w'.posted = w.posted ∧ w'.view = w.view) ∧
        ∀ a, result = .ok a → p.eval (lookupOracle w.view) = .ok a) p w := by
  refine Safe.of_oracle hcalls hpropagates ?_ ⟨rfl, rfl⟩
  intro op w₁ answer w₂ hlookup hsame hexec
  cases op with
  | store op =>
    have hview : w₂.view = w₁.view := read_view (lookup_read hlookup) hexec.1
    refine ⟨⟨hexec.2.trans hsame.1, hview.trans hsame.2⟩, ?_⟩
    intro a ha
    cases ha
    have hanswer := effect_lookup hlookup (OperatorStore.effect hexec.1)
    rw [show OperatorStore.view w₁.store = w.view from hsame.2] at hanswer
    exact hanswer
  | rpc op => exact hlookup.elim
  | http op => exact hlookup.elim
  | system op => exact hlookup.elim

theorem safe_benign {p : Flow α} (hcalls : p.Calls Benign) (hw : Faithful w) :
    Safe exec Faithful (fun _ => Faithful) p w := by
  refine Safe.of_calls hcalls (fun op w answer w' hallowed hexec hw => ?_) hw
  cases op with
  | store op => exact exec_store_faithful hw (hallowed w.view) hexec
  | http op =>
    have hpreliminary : Preliminary (.http op) := by cases op <;> exact hallowed
    exact (exec_preliminary hpreliminary hexec).faithful hw
  | rpc op =>
    have hpreliminary : Preliminary (.rpc op) := trivial
    exact (exec_preliminary hpreliminary hexec).faithful hw
  | system op =>
    have hpreliminary : Preliminary (.system op) := trivial
    exact (exec_preliminary hpreliminary hexec).faithful hw

/-! The batch that a run is about. -/

/-- The batch is stored under its key, observed. -/
def StoredObserved (batch : SnapshotBatch) (w : World) : Prop :=
  w.view.batch batch.solanaSignature = some batch ∧ batch.status = .observed

/-- The batch is stored under its key, its snapshot landed and no transaction signed yet. -/
def StoredLanded (batch : SnapshotBatch) (w : World) : Prop :=
  w.view.batch batch.solanaSignature = some batch ∧
    (batch.status = .snapshotted ∨ batch.status = .constructed)

theorem storedObserved_stable (batch : SnapshotBatch) : Stable exec (StoredObserved batch) :=
  fun _ _ _ _ hallowed hexec hw => ⟨(exec_preliminary hallowed hexec).batch ▸ hw.1, hw.2⟩

theorem storedLanded_stable (batch : SnapshotBatch) : Stable exec (StoredLanded batch) :=
  fun _ _ _ _ hallowed hexec hw => ⟨(exec_preliminary hallowed hexec).batch ▸ hw.1, hw.2⟩

/-- A landed batch is stored as it has become. -/
theorem exec_landed {batch : SnapshotBatch} {metadata : ConfirmedTransaction} {u : Unit}
    (hexec : exec (.store (.upsertSnapshotBatch (confirmedBatch batch metadata))) w (.ok u) w') :
    StoredLanded (confirmedBatch batch metadata) w' := by
  refine ⟨?_, confirmedBatch_status batch metadata⟩
  have heffect : w'.view = _ := OperatorStore.effect hexec.1
  rw [heffect]
  exact Function.update_self _ _ _

/-- A reserved batch is new under its key, and fresh. -/
theorem exec_reserved {reservationId : String} {requiredSats : UInt64}
    {build : CustodyReservation → Result SnapshotBatch} {reserved : CustodyReservation × SnapshotBatch}
    (hbuild : ∀ reservation batch, build reservation = .ok batch → Fresh batch)
    (hexec : exec (.store (.reserveCustodyForSnapshot reservationId requiredSats build)) w
      (.ok reserved) w') :
    Fresh reserved.2 ∧ w.view.batch reserved.2.solanaSignature = none ∧ w'.view.batch =
      Function.update w.view.batch reserved.2.solanaSignature (some reserved.2) := by
  rcases reserved with ⟨reservation, batch⟩
  rcases OperatorStore.effect hexec.1 with ⟨-, -, -, hbatch, habsent, hview⟩
  exact ⟨hbuild reservation batch hbatch, habsent, congrArg StoreView.batch hview⟩

theorem exec_reserved_stored {reservationId : String} {requiredSats : UInt64}
    {build : CustodyReservation → Result SnapshotBatch} {reserved : CustodyReservation × SnapshotBatch}
    (hbuild : ∀ reservation batch, build reservation = .ok batch → Fresh batch)
    (hexec : exec (.store (.reserveCustodyForSnapshot reservationId requiredSats build)) w
      (.ok reserved) w') : StoredObserved reserved.2 w' := by
  rcases exec_reserved hbuild hexec with ⟨hfresh, -, hupdate⟩
  refine ⟨?_, hfresh.observed⟩
  rw [hupdate]
  exact Function.update_self _ _ _

/-- What the store says about the oldest incomplete batch holds when it has said it. -/
theorem exec_oldest {answer : Option SnapshotBatch}
    (hexec : exec (.store .oldestIncompleteSnapshotBatch) w (.ok answer) w') :
    (∀ batch, answer = some batch → OldestIncomplete w'.view batch) ∧
      (answer = none → ∀ key batch, w'.view.batch key = some batch → ¬ Incomplete batch.status) := by
  have heffect := OperatorStore.effect hexec.1
  have hview : w'.view = w.view := heffect.1
  rw [hview]
  exact heffect.2

end

end DogeOperator.Postings
