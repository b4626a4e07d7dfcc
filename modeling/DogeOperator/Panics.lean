import DogeOperator.Bytes
import DogeOperator.Outcome

/-! Panics beside errors: a slice, an index or an array conversion out of bounds stops the program.
Code written with these operations never panics when it agrees with the same code without them. -/
namespace DogeOperator.Panics
open Bytes Outcome

inductive Fault
  | error (chain : ErrorChain)
  | panic

abbrev Checked (α : Type) := Except Fault α

variable {α β : Type}

/-- Code that cannot panic. -/
def lift (x : Result α) : Checked α := x.mapError .error

/-- `&bytes[start..stop]` -/
def sliceRange (bytes : ByteString) (start stop : ℕ) : Checked ByteString :=
  if start ≤ stop ∧ stop ≤ bytes.length then .ok ((bytes.drop start).take (stop - start))
  else .error .panic

/-- `slice.try_into().unwrap()`, and `copy_from_slice` into an array of `n` bytes. -/
def intoArray (n : ℕ) (bytes : ByteString) : Checked (FixedBytes n) :=
  match toFixed? n bytes with
  | some array => .ok array
  | none => .error .panic

/-- `bytes[index]` -/
def byteAt (bytes : ByteString) (index : ℕ) : Checked UInt8 :=
  match bytes[index]? with
  | some byte => .ok byte
  | none => .error .panic

/-- `value.expect(..)` -/
def expectSome (value : Option α) : Checked α :=
  match value with
  | some a => .ok a
  | none => .error .panic

/-- `bytes[start..stop].try_into().unwrap()` -/
def arrayRange (n : ℕ) (bytes : ByteString) (start stop : ℕ) : Checked (FixedBytes n) := do
  let block ← sliceRange bytes start stop
  intoArray n block

@[simp] theorem lift_ok (a : α) : lift (.ok a) = .ok a := rfl

@[simp] theorem lift_error (e : ErrorChain) : (lift (.error e) : Checked α) = .error (.error e) := rfl

@[simp] theorem expectSome_some (a : α) : expectSome (some a) = .ok a := rfl

theorem lift_bind (x : Result α) (f : α → Result β) :
    lift (x >>= f) = lift x >>= fun a => lift (f a) := by
  cases x <;> rfl

/-- The rest of the code, for the values its start can return. -/
theorem bind_eq_lift {x : Result α} {f : α → Checked β} {g : α → Result β}
    (h : ∀ a, x = .ok a → f a = lift (g a)) : (lift x >>= f) = lift (x >>= g) := by
  cases x with
  | error e => rfl
  | ok a => exact h a rfl

/-- The rest of the code after a read, which returns the reader as well. -/
theorem bind_pair_eq_lift {x : Result (α × β)} {f : α × β → Checked γ} {g : α × β → Result γ}
    (h : ∀ a r, x = .ok (a, r) → f (a, r) = lift (g (a, r))) : (lift x >>= f) = lift (x >>= g) :=
  bind_eq_lift fun p => h p.1 p.2

/-- The rest of the code after a guard that does not trigger. -/
theorem guard_eq_lift {condition : Prop} [Decidable condition] {message : String}
    {f : PUnit → Checked β} {g : PUnit → Result β}
    (h : ¬ condition → f PUnit.unit = lift (g PUnit.unit)) :
    (if condition then lift (bail message) >>= f else f PUnit.unit) =
      lift (if condition then bail message >>= g else g PUnit.unit) := by
  by_cases hcondition : condition
  · rw [if_pos hcondition, if_pos hcondition]
    rfl
  · rw [if_neg hcondition, if_neg hcondition]
    exact h hcondition

theorem lift_ne_panic {x : Result α} : lift x ≠ .error .panic := by
  cases x with
  | error e =>
    intro h
    cases h
  | ok a =>
    intro h
    cases h

theorem sliceRange_ok {bytes : ByteString} {start stop : ℕ} (h : start ≤ stop)
    (hstop : stop ≤ bytes.length) :
    sliceRange bytes start stop = .ok ((bytes.drop start).take (stop - start)) := if_pos ⟨h, hstop⟩

/-- As many bytes as the array holds. -/
theorem intoArray_eq {n : ℕ} {bytes : ByteString} (h : bytes.length = n) :
    ∃ array : FixedBytes n, intoArray n bytes = .ok array ∧ array.toList = bytes := by
  refine ⟨⟨bytes, h⟩, ?_, rfl⟩
  rw [intoArray, toFixed?, dif_pos h]

/-- An array in range has the bytes of its block. -/
theorem arrayRange_eq (n start : ℕ) {stop : ℕ} {bytes : ByteString} (hn : start + n = stop)
    (h : stop ≤ bytes.length) :
    ∃ array : FixedBytes n, arrayRange n bytes start stop = .ok array ∧
      array.toList = (bytes.drop start).take n := by
  subst hn
  have hlen : ((bytes.drop start).take n).length = n := by
    rw [List.length_take, List.length_drop]
    omega
  have hsize : start + n - start = n := by omega
  have hslice := sliceRange_ok (Nat.le_add_right start n) h
  rw [hsize] at hslice
  rw [arrayRange, hslice]
  exact intoArray_eq hlen

end DogeOperator.Panics
