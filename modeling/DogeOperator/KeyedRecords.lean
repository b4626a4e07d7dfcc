import Mathlib.Logic.Function.Basic
import Mathlib.Logic.Relation

/-! Tables of records that live one at a time: a stored record moves along the edges of its life, and
a new one is made only while no other is active. -/
namespace DogeOperator.KeyedRecords
open Relation

variable {K R : Type} [DecidableEq K]

/-- The life of one record. -/
structure Life (R : Type) where
  edge : R → R → Prop
  active : R → Prop
  fresh : R → Prop

/-- No record of the table is active. -/
def Idle (life : Life R) (table : K → Option R) : Prop :=
  ∀ key record, table key = some record → ¬ life.active record

inductive TableStep (life : Life R) : (K → Option R) → (K → Option R) → Prop
  | advance {table : K → Option R} {key : K} {record record' : R}
      (hstored : table key = some record) (hedge : life.edge record record') :
      TableStep life table (Function.update table key (some record'))
  | create {table : K → Option R} {key : K} {record : R} (hidle : Idle life table)
      (habsent : table key = none) (hfresh : life.fresh record) :
      TableStep life table (Function.update table key (some record))

def TableRun (life : Life R) : (K → Option R) → (K → Option R) → Prop :=
  ReflTransGen (TableStep life)

/-- At most one record is active. -/
def OneActive (life : Life R) (table : K → Option R) : Prop :=
  ∀ key record key' record', table key = some record → life.active record →
    table key' = some record' → life.active record' → key = key'

/-- A record that was not active never becomes active. -/
def Life.Retires (life : Life R) : Prop :=
  ∀ record record', life.edge record record' → life.active record' → life.active record

variable {life : Life R} {table table' : K → Option R} {key : K} {record record' : R}

/-- What one step does to a stored record. -/
theorem TableStep.stored (h : TableStep life table table') (hstored : table key = some record) :
    ∃ record', table' key = some record' ∧ ReflGen life.edge record record' := by
  cases h with
  | @advance moved old new hold hedge =>
    by_cases hkey : key = moved
    · subst hkey
      cases hstored.symm.trans hold
      exact ⟨new, Function.update_self _ _ _, .single hedge⟩
    · exact ⟨record, by simp [hkey, hstored], .refl⟩
  | @create made new _ habsent _ =>
    have hkey : key ≠ made := by
      rintro rfl
      cases hstored.symm.trans habsent
    exact ⟨record, by simp [hkey, hstored], .refl⟩

/-- Stored records stay stored, and move along the edges of their life. -/
theorem TableRun.stored (h : TableRun life table table') (hstored : table key = some record) :
    ∃ record', table' key = some record' ∧ ReflTransGen life.edge record record' := by
  induction h with
  | refl => exact ⟨record, hstored, .refl⟩
  | tail _ hstep ih =>
    rcases ih with ⟨middle, hmiddle, hrun⟩
    rcases hstep.stored hmiddle with ⟨last, hlast, hedge⟩
    exact ⟨last, hlast, hrun.trans hedge.to_reflTransGen⟩

/-- A new record begins its life fresh. -/
theorem TableRun.created (h : TableRun life table table') (habsent : table key = none)
    (hstored : table' key = some record') :
    ∃ record, life.fresh record ∧ ReflTransGen life.edge record record' := by
  induction h generalizing record' with
  | refl => cases habsent.symm.trans hstored
  | @tail before after _ hstep ih =>
    cases hstep with
    | @advance moved old new hold hedge =>
      by_cases hkey : key = moved
      · subst hkey
        cases (Function.update_self key (some new) before).symm.trans hstored
        rcases ih hold with ⟨record, hfresh, hrun⟩
        exact ⟨record, hfresh, hrun.tail hedge⟩
      · exact ih (by simpa [hkey] using hstored)
    | @create made new _ _ hfresh =>
      by_cases hkey : key = made
      · subst hkey
        cases (Function.update_self key (some new) before).symm.trans hstored
        exact ⟨_, hfresh, .refl⟩
      · exact ih (by simpa [hkey] using hstored)

/-- A record at the end of its life never changes. -/
theorem TableRun.final (h : TableRun life table table') (hstored : table key = some record)
    (hfinal : ∀ record', ¬ life.edge record record') : table' key = some record := by
  rcases h.stored hstored with ⟨record', hstored', hrun⟩
  rcases ReflTransGen.cases_head hrun with rfl | ⟨next, hedge, -⟩
  · exact hstored'
  · exact absurd hedge (hfinal next)

/-- Where an active record comes from. -/
theorem TableStep.active (hretires : life.Retires) (h : TableStep life table table')
    (hstored : table' key = some record) (hactive : life.active record) :
    (∃ old, table key = some old ∧ life.active old) ∨
      Idle life table ∧ ∀ other, other ≠ key → table' other = table other := by
  cases h with
  | @advance moved old new hold hedge =>
    by_cases hkey : key = moved
    · subst hkey
      cases (Function.update_self key (some new) table).symm.trans hstored
      exact .inl ⟨old, hold, hretires _ _ hedge hactive⟩
    · exact .inl ⟨record, by simpa [hkey] using hstored, hactive⟩
  | @create made new hidle =>
    by_cases hkey : key = made
    · subst hkey
      exact .inr ⟨hidle, fun other hother => Function.update_of_ne hother _ _⟩
    · exact .inl ⟨record, by simpa [hkey] using hstored, hactive⟩

/-- One active record at a time, by one step. -/
theorem TableStep.oneActive (hretires : life.Retires) (h : TableStep life table table')
    (hone : OneActive life table) : OneActive life table' := by
  intro key record key' record' hstored hactive hstored' hactive'
  rcases h.active hretires hstored hactive with ⟨old, hold, hactiveOld⟩ | ⟨hidle, hsame⟩
  · rcases h.active hretires hstored' hactive' with ⟨old', hold', hactiveOld'⟩ | ⟨hidle, -⟩
    · exact hone _ _ _ _ hold hactiveOld hold' hactiveOld'
    · exact absurd hactiveOld (hidle _ _ hold)
  · by_contra hne
    rw [hsame key' (Ne.symm hne)] at hstored'
    exact hidle _ _ hstored' hactive'

theorem TableRun.oneActive (hretires : life.Retires) (h : TableRun life table table')
    (hone : OneActive life table) : OneActive life table' := by
  induction h with
  | refl => exact hone
  | tail _ hstep ih => exact hstep.oneActive hretires ih

/-- What every edge keeps of a record. -/
theorem Life.run_keeps {P : R → Prop} (hkeeps : ∀ r r', life.edge r r' → P r → P r')
    (hrun : ReflTransGen life.edge record record') (h : P record) : P record' := by
  induction hrun with
  | refl => exact h
  | tail _ hedge ih => exact hkeeps _ _ hedge ih

end DogeOperator.KeyedRecords
