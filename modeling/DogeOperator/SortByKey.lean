import Mathlib.Data.List.Sort
import Mathlib.Data.List.Lex
import Mathlib.Data.Prod.Lex

/-! Lists in the order of a key. With a key that tells elements apart the order of the input is
lost and nothing else, and equal neighbours are all the repetitions there are. -/
namespace DogeOperator.SortByKey

variable {α κ ι : Type*} [LinearOrder κ] [LinearOrder ι] {key : α → κ}

def sortByKey (key : α → κ) (xs : List α) : List α :=
  xs.mergeSort fun x y => decide (key x ≤ key y)

theorem sortByKey_perm (key : α → κ) (xs : List α) : (sortByKey key xs).Perm xs :=
  List.mergeSort_perm xs _

theorem pairwise_sortByKey (key : α → κ) (xs : List α) :
    (sortByKey key xs).Pairwise fun x y => key x ≤ key y := by
  have hsorted : (sortByKey key xs).Pairwise fun x y => decide (key x ≤ key y) = true :=
    List.pairwise_mergeSort
    (fun x y z hxy hyz => by simpa using (of_decide_eq_true hxy).trans (of_decide_eq_true hyz))
    (fun x y => by simpa using le_total (key x) (key y)) xs
  exact hsorted.imp of_decide_eq_true

theorem sortByKey_eq_iff (hkey : key.Injective) {xs ys : List α} :
    sortByKey key xs = sortByKey key ys ↔ xs.Perm ys := by
  constructor
  · intro h
    exact (sortByKey_perm key xs).symm.trans ((List.Perm.of_eq h).trans (sortByKey_perm key ys))
  · intro h
    apply List.Perm.eq_of_pairwise (fun x y _ _ hxy hyx => hkey (le_antisymm hxy hyx))
      (pairwise_sortByKey key xs) (pairwise_sortByKey key ys)
    exact (sortByKey_perm key xs).trans (h.trans (sortByKey_perm key ys).symm)

/-- Every element with the one after it. -/
def neighbours (xs : List α) : List (α × α) := xs.zip xs.tail

theorem forall_neighbours {P : α → α → Prop} {xs : List α} :
    (∀ pair ∈ neighbours xs, P pair.1 pair.2) ↔ xs.IsChain P := by
  induction xs with
  | nil => simp [neighbours]
  | cons x xs ih =>
    cases xs with
    | nil => simp [neighbours]
    | cons y xs =>
      have hcons : neighbours (x :: y :: xs) = (x, y) :: neighbours (y :: xs) := rfl
      rw [hcons, List.forall_mem_cons, ih, List.isChain_cons_cons]

/-- In an order that `value` follows, values repeat only between neighbours. -/
theorem nodup_map_iff_neighbours {value : α → ι} {xs : List α}
    (h : xs.Pairwise fun x y => value x ≤ value y) :
    (xs.map value).Nodup ↔ ∀ pair ∈ neighbours xs, value pair.1 ≠ value pair.2 := by
  rw [List.Nodup, List.pairwise_map]
  constructor
  · intro hnodup
    exact forall_neighbours.mpr hnodup.isChain
  · intro hne
    have hle := forall_neighbours.mpr h.isChain
    have hlt : xs.IsChain fun x y => value x < value y :=
      forall_neighbours.mp fun pair hpair => (hle pair hpair).lt_of_ne (hne pair hpair)
    have htrans : IsTrans α fun x y => value x < value y := ⟨fun _ _ _ => lt_trans⟩
    exact (List.isChain_iff_pairwise.mp hlt).imp fun hxy => hxy.ne

end DogeOperator.SortByKey
