import Mathlib.Data.List.Basic
import Mathlib.Logic.Function.Basic

/-! Tables in which a key is written once: under a taken key a new value must agree with the stored
one in what is kept, and changes nothing. The rest of a stored value may be changed in place. -/
namespace DogeOperator.WriteOnce

section
variable {κ ν η : Type} [DecidableEq κ] [DecidableEq η] (kept : ν → η)

/-- Whether the value was accepted, and the table afterwards. -/
def put (table : κ → Option ν) (key : κ) : Option ν → Bool × (κ → Option ν)
  | none => (false, table)
  | some value =>
    match table key with
    | none => (true, Function.update table key (some value))
    | some stored => (kept stored = kept value, table)

/-- Entries in order, up to the first one that is refused. -/
def putAll (table : κ → Option ν) : List (κ × Option ν) → Bool × (κ → Option ν)
  | [] => (true, table)
  | (key, value) :: rest =>
    match put kept table key value with
    | (true, next) => putAll next rest
    | (false, next) => (false, next)

/-- Change a value in place. -/
def modify (table : κ → Option ν) (key : κ) (f : ν → ν) : κ → Option ν :=
  Function.update table key ((table key).map f)

end

section
variable {κ ν η : Type} (kept : ν → η)

/-- Every entry has a value, which agrees with the stored one. -/
def Accepted (table : κ → Option ν) (entries : List (κ × Option ν)) : Prop :=
  ∀ entry ∈ entries, ∃ value, entry.2 = some value ∧
    ∀ stored, table entry.1 = some stored → kept stored = kept value

/-- Entries with one key agree. -/
def Consistent (entries : List (κ × Option ν)) : Prop :=
  entries.Pairwise fun earlier later => earlier.1 = later.1 →
    earlier.2.map kept = later.2.map kept

/-- Every entry is stored, up to what is not kept. -/
def Settled (table : κ → Option ν) (entries : List (κ × Option ν)) : Prop :=
  ∀ entry ∈ entries, ∃ value stored, entry.2 = some value ∧ table entry.1 = some stored ∧
    kept stored = kept value

/-- What is kept of a stored value stays. -/
def Retains (table next : κ → Option ν) : Prop :=
  ∀ key stored, table key = some stored →
    ∃ stored', next key = some stored' ∧ kept stored' = kept stored

/-- Stored values stay, and new ones come from the entries. -/
structure Grows (entries : List (κ × Option ν)) (table next : κ → Option ν) : Prop where
  stays : ∀ key stored, table key = some stored → next key = some stored
  joins : ∀ key stored, table key = none → next key = some stored → (key, some stored) ∈ entries

variable {kept} {table next last : κ → Option ν} {entries entries' : List (κ × Option ν)}

theorem retains_refl : Retains kept table table := fun _ stored h => ⟨stored, h, rfl⟩

theorem Retains.trans (h : Retains kept table next) (h' : Retains kept next last) :
    Retains kept table last := by
  intro key stored hstored
  obtain ⟨stored', hnext, hkept⟩ := h key stored hstored
  obtain ⟨stored'', hlast, hkept'⟩ := h' key stored' hnext
  exact ⟨stored'', hlast, hkept'.trans hkept⟩

theorem Grows.retains (h : Grows entries table next) : Retains kept table next :=
  fun key stored hstored => ⟨stored, h.stays key stored hstored, rfl⟩

theorem grows_refl : Grows entries table table := by
  refine ⟨fun _ _ h => h, fun key stored hnone hstored => ?_⟩
  rw [hnone] at hstored
  cases hstored

theorem Grows.trans (h : Grows entries table next) (h' : Grows entries' next last) :
    Grows (entries ++ entries') table last := by
  constructor
  · intro key stored hstored
    exact h'.stays key stored (h.stays key stored hstored)
  · intro key stored hnone hstored
    rw [List.mem_append]
    cases hnext : next key with
    | none => exact .inr (h'.joins key stored hnext hstored)
    | some middle =>
      have hlast := h'.stays key middle hnext
      rw [hstored, Option.some.injEq] at hlast
      subst hlast
      exact .inl (h.joins key stored hnone hnext)

theorem Settled.retains (h : Settled kept table entries) (hretains : Retains kept table next) :
    Settled kept next entries := by
  intro entry hentry
  obtain ⟨value, stored, hvalue, hstored, hkept⟩ := h entry hentry
  obtain ⟨stored', hnext, hkept'⟩ := hretains _ stored hstored
  exact ⟨value, stored', hvalue, hnext, hkept'.trans hkept⟩

end

section
variable {κ ν η : Type} [DecidableEq κ] {kept : ν → η} {table : κ → Option ν} {key : κ}
  {entries : List (κ × Option ν)}

theorem modify_retains {f : ν → ν} (hf : ∀ value, kept (f value) = kept value) :
    Retains kept table (modify table key f) := by
  intro key' stored hstored
  by_cases hkey : key' = key
  · subst hkey
    refine ⟨f stored, ?_, hf stored⟩
    rw [modify, Function.update_self, hstored]
    rfl
  · exact ⟨stored, by rw [modify, Function.update_of_ne hkey, hstored], rfl⟩

theorem update_grows {value : ν} (hfree : table key = none) :
    Grows [(key, some value)] table (Function.update table key (some value)) := by
  constructor
  · intro key' stored hstored
    have hkey : key' ≠ key := by
      rintro rfl
      rw [hfree] at hstored
      cases hstored
    rw [Function.update_of_ne hkey, hstored]
  · intro key' stored hnone hstored
    by_cases hkey : key' = key
    · subst hkey
      rw [Function.update_self] at hstored
      rw [hstored]
      exact List.mem_singleton_self _
    · rw [Function.update_of_ne hkey, hnone] at hstored
      cases hstored

/-- After a new value the later entries under its key have to agree with it. -/
theorem accepted_update {value : ν} (hfree : table key = none) :
    Accepted kept (Function.update table key (some value)) entries ↔ Accepted kept table entries ∧
      ∀ entry ∈ entries, key = entry.1 → (some value).map kept = entry.2.map kept := by
  rw [Accepted, Accepted, ← forall₂_and]
  refine forall₂_congr fun entry _ => ?_
  by_cases hkey : key = entry.1
  · rw [← hkey, hfree, Function.update_self]
    constructor
    · rintro ⟨later, hlater, hagree⟩
      rw [hlater]
      exact ⟨⟨later, rfl, by simp⟩, fun _ => congrArg some (hagree value rfl)⟩
    · rintro ⟨⟨later, hlater, -⟩, hagree⟩
      rw [hlater] at hagree
      refine ⟨later, hlater, fun stored hstored => ?_⟩
      cases hstored
      exact Option.some.inj (hagree rfl)
  · rw [Function.update_of_ne (Ne.symm hkey)]
    exact ⟨fun h => ⟨h, fun hentry => absurd hentry hkey⟩, And.left⟩

end

section
variable {κ ν η : Type} [DecidableEq κ] [DecidableEq η] {kept : ν → η} {table : κ → Option ν}
  {entries : List (κ × Option ν)}

/-- An entry is refused, joins the table, or is there already. -/
theorem put_cases (kept : ν → η) (table : κ → Option ν) (key : κ) (value : Option ν) :
    (put kept table key value = (false, table) ∧ ∀ new, value = some new →
      ∃ stored, table key = some stored ∧ kept stored ≠ kept new) ∨
    (∃ new, value = some new ∧ table key = none ∧
      put kept table key value = (true, Function.update table key (some new))) ∨
    ∃ new stored, value = some new ∧ table key = some stored ∧ kept stored = kept new ∧
      put kept table key value = (true, table) := by
  cases value with
  | none => exact .inl ⟨rfl, fun new h => nomatch h⟩
  | some new =>
    cases hstored : table key with
    | none => exact .inr (.inl ⟨new, rfl, rfl, by rw [put, hstored]⟩)
    | some stored =>
      have hput : put kept table key (some new) = (decide (kept stored = kept new), table) := by
        rw [put, hstored]
      by_cases hkept : kept stored = kept new
      · rw [decide_eq_true hkept] at hput
        exact .inr (.inr ⟨new, stored, rfl, rfl, hkept, hput⟩)
      · rw [decide_eq_false hkept] at hput
        refine .inl ⟨hput, fun new' hnew => ?_⟩
        cases hnew
        exact ⟨stored, rfl, hkept⟩

/-- Whatever is refused, stored values stay. -/
theorem putAll_grows : Grows entries table (putAll kept table entries).2 := by
  induction entries generalizing table with
  | nil => exact grows_refl
  | cons entry rest ih =>
    obtain ⟨key, value⟩ := entry
    rcases put_cases kept table key value with
      ⟨hput, -⟩ | ⟨new, rfl, hfree, hput⟩ | ⟨new, stored, -, -, -, hput⟩
    · rw [putAll, hput]
      exact grows_refl
    · rw [putAll, hput]
      exact (update_grows hfree).trans ih
    · rw [putAll, hput]
      have hkept : Grows [(key, value)] table table := grows_refl
      exact hkept.trans ih

/-- The entries are accepted when each agrees with the table and with the entries before it. -/
theorem putAll_accepts_iff : (putAll kept table entries).1 = true ↔
    Accepted kept table entries ∧ Consistent kept entries := by
  induction entries generalizing table with
  | nil =>
    have haccepted : Accepted kept table [] := fun entry hentry => nomatch hentry
    exact iff_of_true rfl ⟨haccepted, List.Pairwise.nil⟩
  | cons entry rest ih =>
    obtain ⟨key, value⟩ := entry
    rw [Accepted, List.forall_mem_cons, Consistent, List.pairwise_cons]
    rcases put_cases kept table key value with
      ⟨hput, hrefused⟩ | ⟨new, rfl, hfree, hput⟩ | ⟨new, stored, rfl, hstored, hkept, hput⟩
    · rw [putAll, hput]
      refine iff_of_false Bool.false_ne_true ?_
      rintro ⟨⟨⟨new, hvalue, hagree⟩, -⟩, -⟩
      obtain ⟨stored, hstored, hdiffers⟩ := hrefused new hvalue
      exact hdiffers (hagree stored hstored)
    · have hnew : ∃ value, some new = some value ∧
          ∀ stored, table key = some stored → kept stored = kept value :=
        ⟨new, rfl, by simp [hfree]⟩
      rw [putAll, hput]
      dsimp only
      rw [ih, accepted_update hfree, and_iff_right hnew, and_assoc]
      exact Iff.rfl
    · have hnew : ∃ value, some new = some value ∧
          ∀ stored, table key = some stored → kept stored = kept value := by
        refine ⟨new, rfl, fun stored' hstored' => ?_⟩
        rw [hstored, Option.some.injEq] at hstored'
        rw [← hstored', hkept]
      rw [putAll, hput]
      dsimp only
      rw [ih, and_iff_right hnew]
      refine and_congr_right fun haccepted => (and_iff_right ?_).symm
      -- the later entries agree with what is stored, and so with this one
      intro later hlater hkey
      obtain ⟨value, hvalue, hagree⟩ := haccepted later hlater
      have hsame : key = later.1 := hkey
      rw [hsame] at hstored
      rw [hvalue, Option.map_some, Option.map_some, ← hkept, hagree stored hstored]

/-- Accepted entries are stored. -/
theorem putAll_settled (h : (putAll kept table entries).1 = true) :
    Settled kept (putAll kept table entries).2 entries := by
  induction entries generalizing table with
  | nil => exact fun entry hentry => nomatch hentry
  | cons entry rest ih =>
    obtain ⟨key, value⟩ := entry
    rcases put_cases kept table key value with
      ⟨hput, -⟩ | ⟨new, rfl, hfree, hput⟩ | ⟨new, stored, rfl, hstored, hkept, hput⟩
    · rw [putAll, hput] at h
      cases h
    · rw [putAll, hput] at h ⊢
      refine List.forall_mem_cons.mpr ⟨⟨new, new, rfl, ?_, rfl⟩, ih h⟩
      exact putAll_grows.stays key new (Function.update_self ..)
    · rw [putAll, hput] at h ⊢
      refine List.forall_mem_cons.mpr ⟨⟨new, stored, rfl, ?_, hkept⟩, ih h⟩
      exact putAll_grows.stays key stored hstored

/-- Stored entries change nothing. -/
theorem putAll_of_settled (h : Settled kept table entries) :
    putAll kept table entries = (true, table) := by
  induction entries with
  | nil => rfl
  | cons entry rest ih =>
    obtain ⟨⟨new, stored, hvalue, hstored, hkept⟩, hrest⟩ := List.forall_mem_cons.mp h
    have hput : put kept table entry.1 entry.2 = (true, table) := by
      rw [hvalue, put, hstored]
      dsimp only
      rw [decide_eq_true hkept]
    rw [putAll, hput]
    exact ih hrest

end

end DogeOperator.WriteOnce
