import DogeOperator.Daemon
import DogeOperator.TrailingRun

/-! The failure tracker over any calls, and the poll loop over any outcomes of its cycles. The
tracker's count is the run of failures the calls end in, and the loop stops with the first cycle
that completes a run as long as the threshold. -/
namespace DogeOperator.PollFailures
open Outcome Operations Program Daemon TrailingRun

inductive PollCall
  | recordSuccess
  | recordFailure
  deriving DecidableEq, Repr

def isFailure : PollCall → Bool
  | .recordSuccess => false
  | .recordFailure => true

def recordCall (failures : PollFailureTracker) : PollCall → PollFailureTracker
  | .recordSuccess => failures.recordSuccess
  | .recordFailure => failures.recordFailure.2

/-- A fresh tracker after some calls. -/
def afterCalls (threshold : UInt32) (calls : List PollCall) : PollFailureTracker :=
  calls.foldl recordCall (PollFailureTracker.new threshold)

example : (afterCalls 3 [.recordFailure, .recordSuccess, .recordFailure]).consecutive = 1 := by
  decide

theorem afterCalls_concat (threshold : UInt32) (calls : List PollCall) (call : PollCall) :
    afterCalls threshold (calls ++ [call]) = recordCall (afterCalls threshold calls) call := by
  rw [afterCalls, List.foldl_append]
  rfl

/-! The count. -/

theorem afterCalls_threshold (threshold : UInt32) (calls : List PollCall) :
    (afterCalls threshold calls).threshold = threshold := by
  induction calls using List.reverseRecOn with
  | nil => rfl
  | append_singleton calls call ih =>
    rw [afterCalls_concat]
    cases call with
    | recordSuccess => exact ih
    | recordFailure => exact (PollFailureTracker.recordFailure_count _).1.trans ih

theorem afterCalls_consecutive (threshold : UInt32) (calls : List PollCall) :
    (afterCalls threshold calls).consecutive.toNat =
      min (trailing isFailure calls) (2 ^ 32 - 1) := by
  induction calls using List.reverseRecOn with
  | nil => rfl
  | append_singleton calls call ih =>
    rw [afterCalls_concat]
    cases call with
    | recordSuccess =>
      rw [trailing_concat_neg (by decide)]
      rfl
    | recordFailure =>
      have hcount := (PollFailureTracker.recordFailure_count (afterCalls threshold calls)).2.1
      rw [recordCall, hcount, ih, trailing_concat_pos (by decide)]
      omega

/-- A failure reaches the threshold when the run that it ends is as long. -/
theorem recordFailure_iff (threshold : UInt32) (calls : List PollCall) :
    (afterCalls threshold calls).recordFailure.1 = true ↔
      threshold.toNat ≤ trailing isFailure calls + 1 := by
  have hreached := (PollFailureTracker.recordFailure_count (afterCalls threshold calls)).2.2
  have hbound := threshold.toNat_lt
  rw [hreached, afterCalls_threshold, afterCalls_consecutive]
  omega

/-! The loop. -/

/-- The call that a cycle leads to. -/
def outcomeCall : Result Unit → PollCall
  | .ok () => .recordSuccess
  | .error _ => .recordFailure

def failed (outcome : Result Unit) : Bool := isFailure (outcomeCall outcome)

/-- The error that the daemon's supervisor sees. -/
def abortError (error : ErrorChain) : ErrorChain :=
  [error.headD default,
    s!"operator-daemon aborting after {pollFailureThreshold} consecutive poll failures"]

/-- The tracker after some cycles. -/
def afterCycles (threshold : UInt32) (outcomes : List (Result Unit)) : PollFailureTracker :=
  afterCalls threshold (outcomes.map outcomeCall)

theorem afterCycles_concat (threshold : UInt32) (outcomes : List (Result Unit))
    (outcome : Result Unit) : afterCycles threshold (outcomes ++ [outcome]) =
      recordCall (afterCycles threshold outcomes) (outcomeCall outcome) := by
  rw [afterCycles, List.map_append, List.map_singleton, afterCalls_concat]
  rfl

/-- A cycle stops the loop when it completes a run of failures. -/
theorem afterCycles_reached (threshold : UInt32) (outcomes : List (Result Unit))
    (error : ErrorChain) : (afterCycles threshold outcomes).recordFailure.1 = true ↔
      CompletesRun failed threshold.toNat (outcomes ++ [.error error]) := by
  have htrailing : trailing isFailure (outcomes.map outcomeCall) = trailing failed outcomes :=
    trailing_map outcomes
  have hfailed : failed (.error error) = true := rfl
  rw [afterCycles, recordFailure_iff, htrailing, completesRun_concat, and_iff_right hfailed]

/-- How the loop ends after the outcomes of its cycles: with an error as soon as they have the
property, or without one when the cycles run out first. -/
def LoopEnds (P : List (Result Unit) → Prop) (cycles : ℕ) (outcomes : List (Result Unit))
    (result : Result Unit) : Prop :=
  (result = .ok () ∧ outcomes.length = cycles ∧ Never P outcomes) ∨
    ∃ earlier error, outcomes = earlier ++ [.error error] ∧ result = .error (abortError error) ∧
      outcomes.length ≤ cycles ∧ First P outcomes

section
variable {P : List (Result Unit) → Prop} {cycles : ℕ} {outcome : Result Unit}
  {outcomes : List (Result Unit)} {result : Result Unit}

theorem loopEnds_zero (hnil : ¬ P []) :
    LoopEnds P 0 outcomes result ↔ outcomes = [] ∧ result = .ok () := by
  constructor
  · rintro (⟨hresult, hlength, -⟩ | ⟨earlier, error, rfl, -, hlength, -⟩)
    · exact ⟨List.eq_nil_of_length_eq_zero hlength, hresult⟩
    · rw [List.length_append, List.length_singleton] at hlength
      omega
  · rintro ⟨rfl, rfl⟩
    exact .inl ⟨rfl, rfl, never_nil.mpr hnil⟩

theorem not_loopEnds_nil : ¬ LoopEnds P (cycles + 1) [] result := by
  rintro (⟨-, hlength, -⟩ | ⟨earlier, error, hearlier, -⟩)
  · cases hlength
  · exact absurd hearlier (by simp)

/-- The outcome is the last one. -/
theorem loopEnds_last (hnil : ¬ P []) (h : P [outcome]) :
    LoopEnds P (cycles + 1) (outcome :: outcomes) result ↔
      outcomes = [] ∧ ∃ error, outcome = .error error ∧ result = .error (abortError error) := by
  constructor
  · rintro (⟨-, -, hnever⟩ | ⟨earlier, error, houtcomes, hresult, -, hfirst⟩)
    · exact absurd h ((never_cons.mp hnever).2 [] List.nil_prefix)
    · have hnil' : outcomes = [] := (first_cons.mp hfirst).2.eq_nil h
      subst hnil'
      have hlast : [] ++ [outcome] = earlier ++ [.error error] := houtcomes
      exact ⟨rfl, error, (List.append_singleton_inj.mp hlast).2, hresult⟩
  · rintro ⟨rfl, error, rfl, rfl⟩
    exact .inr ⟨[], error, rfl, rfl, by simp, first_cons.mpr ⟨hnil, first_nil.mpr h⟩⟩

/-- The loop goes on after the outcome. -/
theorem loopEnds_cons (hnil : ¬ P []) (h : ¬ P [outcome]) :
    LoopEnds P (cycles + 1) (outcome :: outcomes) result ↔
      LoopEnds (fun after => P (outcome :: after)) cycles outcomes result := by
  rw [LoopEnds, LoopEnds, never_cons, first_cons, and_iff_right hnil, and_iff_right hnil,
    List.length_cons, Nat.add_right_cancel_iff, Nat.add_le_add_iff_right]
  refine or_congr_right ⟨?_, ?_⟩
  · rintro ⟨earlier, error, houtcomes, hresult, hlength, hfirst⟩
    cases earlier with
    | nil =>
      rw [(List.cons.inj houtcomes).2] at hfirst
      exact absurd hfirst.1 h
    | cons first earlier =>
      exact ⟨earlier, error, (List.cons.inj houtcomes).2, hresult, hlength, hfirst⟩
  · rintro ⟨earlier, error, rfl, hresult, hlength, hfirst⟩
    exact ⟨outcome :: earlier, error, rfl, hresult, hlength, hfirst⟩

/-- Where every cycle fails, the loop gives up when there are enough of them. -/
theorem LoopEnds.error_iff {threshold : ℕ} (hpos : 0 < threshold)
    (hfailed : ∀ outcome ∈ outcomes, failed outcome)
    (hends : LoopEnds (CompletesRun failed threshold) cycles outcomes result) :
    (∃ error, result = .error error) ↔ threshold ≤ cycles := by
  rcases hends with ⟨rfl, rfl, hnever⟩ | ⟨earlier, error, -, rfl, hlength, hfirst⟩
  · refine iff_of_false (by simp) fun hle => hnever outcomes List.prefix_rfl ?_
    rw [completesRun_of_all hfailed]
    exact ⟨List.ne_nil_of_length_pos (hpos.trans_le hle), hle⟩
  · rw [First, completesRun_of_all hfailed] at hfirst
    exact iff_of_true ⟨_, rfl⟩ (hfirst.1.2.trans hlength)

end

/-- The outcomes complete a run of failures, when earlier ones are counted in. -/
def CompletesAfter (threshold : UInt32) (before after : List (Result Unit)) : Prop :=
  CompletesRun failed threshold.toNat (before ++ after)

theorem completesAfter_cons {threshold : UInt32} {before : List (Result Unit)}
    {outcome : Result Unit} : (fun after => CompletesAfter threshold before (outcome :: after)) =
      CompletesAfter threshold (before ++ [outcome]) := by
  funext after
  rw [CompletesAfter, CompletesAfter, List.append_assoc, List.singleton_append]

section
variable {σ : Type} {exec : Exec Op.Answer ErrorChain σ} {cycle : Flow Unit} {w w' : σ}
  {threshold : UInt32} {before : List (Result Unit)} {result : Result Unit}

/-- A cycle, and the rest of the loop if the cycle completes no run of failures. -/
theorem pollLoop_succ {cycles : ℕ} :
    Completes exec (pollLoop cycle (cycles + 1) (afterCycles threshold before)) w result w' ↔
      ∃ outcome v, Completes exec cycle w outcome v ∧
        ((CompletesAfter threshold before [outcome] ∧ w' = v ∧
            ∃ error, outcome = .error error ∧ result = .error (abortError error)) ∨
          (¬ CompletesAfter threshold before [outcome] ∧
            Completes exec (pollLoop cycle cycles (afterCycles threshold (before ++ [outcome]))) v
              result w')) := by
  rw [pollLoop, Program.bind_eq, completes_attempt_bind]
  refine exists_congr fun outcome => exists_congr fun v => and_congr_right fun _ => ?_
  rw [afterCycles_concat]
  cases outcome with
  | ok value =>
    have hgoes : ¬ CompletesAfter threshold before [.ok value] := fun h =>
      absurd (completesRun_concat.mp h).1 Bool.false_ne_true
    rw [or_iff_right fun h => hgoes h.1, and_iff_right hgoes]
    rfl
  | error error =>
    have hreached : (afterCycles threshold before).recordFailure.1 = true ↔
        CompletesAfter threshold before [.error error] := afterCycles_reached threshold before error
    change Completes exec (if (afterCycles threshold before).recordFailure.1 = true then
        .done (.error (abortError error))
      else pollLoop cycle cycles (afterCycles threshold before).recordFailure.2) v result w' ↔ _
    by_cases hlast : (afterCycles threshold before).recordFailure.1 = true
    · have hcompletes := hreached.mp hlast
      rw [if_pos hlast, completes_done, or_iff_left fun h => h.1 hcompletes,
        and_iff_right hcompletes]
      constructor
      · rintro ⟨hresult, hw⟩
        exact ⟨hw, error, rfl, hresult⟩
      · rintro ⟨hw, _, herror, hresult⟩
        cases herror
        exact ⟨hresult, hw⟩
    · have hgoes : ¬ CompletesAfter threshold before [.error error] := mt hreached.mpr hlast
      rw [if_neg hlast, or_iff_right fun h => hgoes h.1, and_iff_right hgoes]
      rfl

/-- The loop after some cycles, the last of which completed no run of failures. -/
theorem pollLoop_afterCycles (cycles : ℕ) (hbefore : ¬ CompletesAfter threshold before []) :
    Completes exec (pollLoop cycle cycles (afterCycles threshold before)) w result w' ↔
      ∃ outcomes, Repeats exec cycle w outcomes w' ∧
        LoopEnds (CompletesAfter threshold before) cycles outcomes result := by
  induction cycles generalizing before w with
  | zero =>
    rw [pollLoop, Program.pure_eq, completes_done]
    simp only [loopEnds_zero hbefore]
    constructor
    · rintro ⟨hresult, rfl⟩
      exact ⟨[], .nil, rfl, hresult⟩
    · rintro ⟨outcomes, hruns, rfl, hresult⟩
      cases hruns
      exact ⟨hresult, rfl⟩
  | succ cycles ih =>
    rw [pollLoop_succ]
    constructor
    · rintro ⟨outcome, v, hcycle, ⟨hlast, rfl, hends⟩ | ⟨hgoes, hloop⟩⟩
      · exact ⟨[outcome], .cons hcycle .nil, (loopEnds_last hbefore hlast).mpr ⟨rfl, hends⟩⟩
      · have hafter : ¬ CompletesAfter threshold (before ++ [outcome]) [] := by
          rwa [← completesAfter_cons]
        obtain ⟨outcomes, hruns, hends⟩ := (ih hafter).mp hloop
        refine ⟨outcome :: outcomes, .cons hcycle hruns, (loopEnds_cons hbefore hgoes).mpr ?_⟩
        rwa [completesAfter_cons]
    · rintro ⟨_ | ⟨outcome, outcomes⟩, hruns, hends⟩
      · exact absurd hends not_loopEnds_nil
      · obtain ⟨v, hcycle, hruns⟩ := repeats_cons.mp hruns
        by_cases hlast : CompletesAfter threshold before [outcome]
        · obtain ⟨rfl, herror⟩ := (loopEnds_last hbefore hlast).mp hends
          cases hruns
          exact ⟨outcome, _, hcycle, .inl ⟨hlast, rfl, herror⟩⟩
        · have hafter : ¬ CompletesAfter threshold (before ++ [outcome]) [] := by
            rwa [← completesAfter_cons]
          rw [loopEnds_cons hbefore hlast, completesAfter_cons] at hends
          exact ⟨outcome, v, hcycle, .inr ⟨hlast, (ih hafter).mpr ⟨outcomes, hruns, hends⟩⟩⟩

/-- The loop from its start. -/
theorem pollLoop_completes {cycles : ℕ} :
    Completes exec (pollLoop cycle cycles (PollFailureTracker.new threshold)) w result w' ↔
      ∃ outcomes, Repeats exec cycle w outcomes w' ∧
        LoopEnds (CompletesRun failed threshold.toNat) cycles outcomes result := by
  have hnil : ¬ CompletesAfter threshold [] [] := not_completesRun_nil
  exact pollLoop_afterCycles cycles hnil

end

/-- A fresh tracker counts the run of failures that its calls end in, up to the largest `u32`. It
reports the threshold at a failure exactly when that many of the latest calls, this one included,
are failures. A loop over cycles, which may succeed and fail in any order, stops with an error at
the first cycle that completes such a run, and at no other. -/
theorem trailing_failures_counted (threshold : UInt32) :
    (∀ calls, (afterCalls threshold calls).consecutive.toNat =
      min (trailing isFailure calls) (2 ^ 32 - 1)) ∧
    (∀ calls, (afterCalls threshold calls).recordFailure.1 = true ↔
      EndsIn isFailure threshold.toNat (calls ++ [.recordFailure])) ∧
    ∀ {σ : Type} (exec : Exec Op.Answer ErrorChain σ) (cycle : Flow Unit) (cycles : ℕ) (w w' : σ)
      (result : Result Unit),
      Completes exec (pollLoop cycle cycles (PollFailureTracker.new threshold)) w result w' ↔
        ∃ outcomes, Repeats exec cycle w outcomes w' ∧
          LoopEnds (CompletesRun failed threshold.toNat) cycles outcomes result := by
  refine ⟨afterCalls_consecutive threshold, fun calls => ?_, ?_⟩
  · rw [recordFailure_iff, endsIn_iff, trailing_concat_pos (by decide)]
  · intro σ exec cycle cycles w w' result
    exact pollLoop_completes

end DogeOperator.PollFailures
