import Mathlib.Tactic

/-! Fallible results with a context chain, and checked unsigned arithmetic.
An error is the list of messages from the outermost context to the root cause. -/
namespace DogeOperator.Outcome

abbrev ErrorChain := List String

abbrev Result (α : Type) := Except ErrorChain α

def bail {α : Type} (message : String) : Result α := .error [message]

/-- Wrap a failure in one more message. -/
def context {α : Type} (message : String) (x : Result α) : Result α :=
  x.mapError (message :: ·)

/-- `ok_or_else`: the absent value becomes an error. -/
def orBail {α : Type} (x : Option α) (message : String) : Result α :=
  match x with
  | some a => .ok a
  | none => bail message

/-- A failure of a third-party function, which is one message. -/
def orFail {α : Type} (x : Except String α) : Result α := x.mapError ([·])

def isOk {ε α : Type} : Except ε α → Bool
  | .ok _ => true
  | .error _ => false

variable {ε α β : Type}

theorem bind_eq_ok {x : Except ε α} {f : α → Except ε β} {b : β} :
    (x >>= f) = .ok b ↔ ∃ a, x = .ok a ∧ f a = .ok b := by
  cases x with
  | error e => simp [bind, Except.bind]
  | ok a => simp [bind, Except.bind]

@[simp] theorem ok_bind (a : α) (f : α → Except ε β) : (Except.ok a >>= f) = f a := rfl

@[simp] theorem error_bind (e : ε) (f : α → Except ε β) : (Except.error e >>= f) = .error e := rfl

@[simp] theorem pure_eq_ok (a : α) : (pure a : Except ε α) = .ok a := rfl

@[simp] theorem orBail_some (a : α) (message : String) : orBail (some a) message = .ok a := rfl

theorem orBail_eq_ok {x : Option α} {message : String} {a : α} :
    orBail x message = .ok a ↔ x = some a := by
  cases x <;> simp [orBail, bail]

theorem context_eq_ok {message : String} {x : Result α} {a : α} :
    context message x = .ok a ↔ x = .ok a := by
  cases x <;> simp [context, Except.mapError]

theorem mapError_eq_ok {ε' : Type} {f : ε → ε'} {x : Except ε α} {a : α} :
    x.mapError f = .ok a ↔ x = .ok a := by
  cases x <;> simp [Except.mapError]

theorem orFail_eq_ok {x : Except String α} {a : α} : orFail x = .ok a ↔ x = .ok a := mapError_eq_ok

theorem map_eq_ok {f : α → β} {x : Except ε α} {b : β} :
    x.map f = .ok b ↔ ∃ a, x = .ok a ∧ f a = b := by
  cases x <;> simp [Except.map]

@[simp] theorem context_ok (message : String) (a : α) : context message (.ok a) = .ok a := rfl

@[simp] theorem bail_ne_ok {message : String} {a : α} : (bail message : Result α) ≠ .ok a := by
  simp [bail]

/-- A guard passes exactly when its condition fails to trigger. -/
theorem guard_eq_ok {c : Prop} [Decidable c] {message : String} {u : PUnit} :
    (if c then bail message else (.ok PUnit.unit : Result PUnit)) = .ok u ↔ ¬ c := by
  split_ifs with h <;> simp [h]

/-- A guard in the middle of a `do` block: the rest runs exactly when it does not trigger. -/
theorem guard_bind_eq_ok {c : Prop} [Decidable c] {message : String} {k : PUnit → Result α} {b : α} :
    (if c then bail message >>= k else k PUnit.unit) = .ok b ↔ ¬ c ∧ k PUnit.unit = .ok b := by
  split_ifs with h
  · simp [h, bail]
  · simp [h]

theorem guard_bind_of_neg {c : Prop} [Decidable c] {message : String} {k : PUnit → Result α}
    (h : ¬ c) : (if c then bail message >>= k else k PUnit.unit) = k PUnit.unit := if_neg h

/-- `collect::<Result<Vec<_>>>()` succeeds exactly when every element does, in order. -/
theorem mapM_eq_ok {f : α → Except ε β} {xs : List α} {ys : List β} :
    xs.mapM f = .ok ys ↔ List.Forall₂ (fun x y => f x = .ok y) xs ys := by
  induction xs generalizing ys with
  | nil =>
    rw [List.mapM_nil, List.forall₂_nil_left_iff]
    exact ⟨fun h => (Except.ok.inj h).symm, fun h => by rw [h]; rfl⟩
  | cons x xs ih =>
    rw [List.mapM_cons, bind_eq_ok]
    constructor
    · rintro ⟨y, hy, h⟩
      obtain ⟨ys', hys, h⟩ := bind_eq_ok.mp h
      cases h
      exact .cons hy (ih.mp hys)
    · intro h
      cases h with
      | cons hy hys => exact ⟨_, hy, bind_eq_ok.mpr ⟨_, ih.mpr hys, rfl⟩⟩

/-- An infallible element function makes `collect` a plain map. -/
theorem mapM_ok_map {f : α → Except ε β} {g : α → β} {xs : List α}
    (h : ∀ x ∈ xs, f x = .ok (g x)) : xs.mapM f = .ok (xs.map g) := by
  rw [mapM_eq_ok, List.forall₂_map_right_iff, List.forall₂_same]
  exact h

/-- A property kept by every successful step of `try_fold` holds of its result. -/
theorem foldlM_invariant {f : β → α → Except ε β} {P : β → Prop} {xs : List α} {b b' : β}
    (hstep : ∀ b b', ∀ a ∈ xs, P b → f b a = .ok b' → P b') (h : P b)
    (hrun : xs.foldlM f b = .ok b') : P b' := by
  induction xs generalizing b with
  | nil =>
    cases hrun
    exact h
  | cons x xs ih =>
    rw [List.foldlM_cons] at hrun
    obtain ⟨c, hc, hrun⟩ := bind_eq_ok.mp hrun
    exact ih (fun b b' a ha => hstep b b' a (List.mem_cons_of_mem x ha))
      (hstep b c x List.mem_cons_self h hc) hrun

/-! Checked arithmetic on 64-bit unsigned integers. -/

def checkedAdd (a b : UInt64) : Option UInt64 :=
  if a.toNat + b.toNat < 2 ^ 64 then some (a + b) else none

def checkedSub (a b : UInt64) : Option UInt64 :=
  if b.toNat ≤ a.toNat then some (a - b) else none

def saturatingAdd (a b : UInt64) : UInt64 :=
  if a.toNat + b.toNat < 2 ^ 64 then a + b else UInt64.ofNat (2 ^ 64 - 1)

theorem checkedAdd_eq_some {a b c : UInt64} :
    checkedAdd a b = some c ↔ c.toNat = a.toNat + b.toNat := by
  unfold checkedAdd
  split_ifs with h
  · have hs : (a + b).toNat = a.toNat + b.toNat := by
      rw [UInt64.toNat_add, Nat.mod_eq_of_lt h]
    rw [Option.some.injEq]
    constructor
    · rintro rfl
      exact hs
    · intro hc
      exact UInt64.toNat_inj.mp (hs.trans hc.symm)
  · have hc := c.toNat_lt
    simp only [false_iff]
    omega

theorem checkedSub_eq_some {a b c : UInt64} :
    checkedSub a b = some c ↔ a.toNat = b.toNat + c.toNat := by
  unfold checkedSub
  split_ifs with h
  · have hs : (a - b).toNat = a.toNat - b.toNat :=
      UInt64.toNat_sub_of_le _ _ (UInt64.le_iff_toNat_le.mpr h)
    rw [Option.some.injEq]
    constructor
    · rintro rfl
      omega
    · intro hc
      exact UInt64.toNat_inj.mp (by omega)
  · simp only [false_iff]
    omega

theorem saturatingAdd_toNat (a b : UInt64) :
    (saturatingAdd a b).toNat = min (a.toNat + b.toNat) (2 ^ 64 - 1) := by
  unfold saturatingAdd
  split_ifs with h
  · rw [UInt64.toNat_add, Nat.mod_eq_of_lt h]
    omega
  · rw [UInt64.toNat_ofNat']
    omega

end DogeOperator.Outcome
