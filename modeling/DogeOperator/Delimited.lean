import Mathlib.Tactic

/-! Self-delimiting encodings: equal streams that start with encoded values start with the same
value and go on equally. Fields are joined by concatenation, lists by their length and elements. -/
namespace DogeOperator

variable {α β σ : Type}

/-- The valid values are read back from the front of any stream. -/
def Delimited (valid : α → Prop) (encode : α → List σ) : Prop :=
  ∀ ⦃a b⦄, valid a → valid b → ∀ ⦃rest rest'⦄, encode a ++ rest = encode b ++ rest' →
    a = b ∧ rest = rest'

namespace Delimited

variable {valid : α → Prop} {encode : α → List σ} {valid' : β → Prop} {encode' : β → List σ}

/-- Encodings of one length. -/
theorem of_length {n : ℕ} (hlen : ∀ a, (encode a).length = n)
    (hinj : ∀ a b, valid a → valid b → encode a = encode b → a = b) : Delimited valid encode := by
  intro a b ha hb rest rest' heq
  have hsplit := List.append_inj heq ((hlen a).trans (hlen b).symm)
  exact ⟨hinj a b ha hb hsplit.1, hsplit.2⟩

theorem vector (n : ℕ) : Delimited (fun _ => True) fun v : List.Vector σ n => v.toList :=
  of_length List.Vector.toList_length fun a b _ _ h => List.Vector.eq a b h

/-- One field after the other. -/
theorem prod (h : Delimited valid encode) (h' : Delimited valid' encode') :
    Delimited (fun x : α × β => valid x.1 ∧ valid' x.2) fun x => encode x.1 ++ encode' x.2 := by
  intro x y hx hy rest rest' heq
  rw [List.append_assoc, List.append_assoc] at heq
  have hfirst := h hx.1 hy.1 heq
  have hsecond := h' hx.2 hy.2 hfirst.2
  exact ⟨Prod.ext hfirst.1 hsecond.1, hsecond.2⟩

/-- Lists of one length, element by element. -/
theorem flatMap (h : Delimited valid encode) {xs ys : List α} (hlen : xs.length = ys.length)
    (hxs : ∀ x ∈ xs, valid x) (hys : ∀ y ∈ ys, valid y) {rest rest' : List σ}
    (heq : xs.flatMap encode ++ rest = ys.flatMap encode ++ rest') : xs = ys ∧ rest = rest' := by
  induction xs generalizing ys with
  | nil =>
    cases ys with
    | nil => exact ⟨rfl, heq⟩
    | cons y ys => exact absurd hlen (by simp)
  | cons x xs ih =>
    cases ys with
    | nil => exact absurd hlen (by simp)
    | cons y ys =>
      rw [List.forall_mem_cons] at hxs hys
      rw [List.flatMap_cons, List.flatMap_cons, List.append_assoc, List.append_assoc] at heq
      have hhead := h hxs.1 hys.1 heq
      have htail := ih (Nat.succ.inj hlen) hxs.2 hys.2 hhead.2
      exact ⟨congrArg₂ List.cons hhead.1 htail.1, htail.2⟩

variable {bound : ℕ} {count : ℕ → List σ}

/-- A list after its length. -/
theorem counted (hcount : Delimited (· < bound) count) (h : Delimited valid encode) :
    Delimited (fun xs : List α => xs.length < bound ∧ ∀ x ∈ xs, valid x)
      fun xs => count xs.length ++ xs.flatMap encode := by
  intro xs ys hxs hys rest rest' heq
  rw [List.append_assoc, List.append_assoc] at heq
  have hlen := hcount hxs.1 hys.1 heq
  exact h.flatMap hlen.1 hxs.2 hys.2 hlen.2

/-- A block of the stream itself after its length. -/
theorem framed (hcount : Delimited (· < bound) count) :
    Delimited (fun block : List σ => block.length < bound) fun block => count block.length ++ block := by
  intro xs ys hxs hys rest rest' heq
  rw [List.append_assoc, List.append_assoc] at heq
  have hlen := hcount hxs hys heq
  exact List.append_inj hlen.2 hlen.1

end Delimited
end DogeOperator
