import Mathlib.Tactic
import Mathlib.Logic.Relation

/-! Programs that call outside operations, as trees: an operation may fail, and the program sees
the failure. A run may stop before any call, which is where a crash leaves the world.
An assertion is carried through a program one call at a time. -/
namespace DogeOperator

/-- The program ends with a result, or calls an operation and continues with its answer. -/
inductive Program {Op : Type} (Answer : Op → Type) (ε α : Type) : Type
  | done (result : Except ε α)
  | call (op : Op) (next : Except ε (Answer op) → Program Answer ε α)

namespace Program
open Relation

variable {Op : Type} {Answer : Op → Type} {ε α β σ : Type}

def bind : Program Answer ε α → (α → Program Answer ε β) → Program Answer ε β
  | done (.ok a), f => f a
  | done (.error e), _ => done (.error e)
  | call op next, f => call op fun answer => (next answer).bind f

instance : Monad (Program Answer ε) where
  pure a := done (.ok a)
  bind := bind

instance : MonadLift (Except ε) (Program Answer ε) where
  monadLift := done

/-- Call one operation; its failure is the program's. -/
def invoke (op : Op) : Program Answer ε (Answer op) := call op done

/-- The program with its failure as a value. -/
def attempt : Program Answer ε α → Program Answer ε (Except ε α)
  | done result => done (.ok result)
  | call op next => call op fun answer => (next answer).attempt

def mapError (g : ε → ε) : Program Answer ε α → Program Answer ε α
  | done result => done (result.mapError g)
  | call op next => call op fun answer => (next answer).mapError g

/-- One program for every element, in order, up to the first failure. -/
def forEach (f : β → Program Answer ε Unit) : List β → Program Answer ε Unit
  | [] => done (.ok ())
  | x :: xs => (f x).bind fun _ => forEach f xs

@[simp] theorem pure_eq (a : α) : (pure a : Program Answer ε α) = done (.ok a) := rfl

@[simp] theorem liftM_eq (x : Except ε α) :
    (liftM x : Program Answer ε α) = done x := rfl

@[simp] theorem monadLift_eq (x : Except ε α) :
    (MonadLift.monadLift x : Program Answer ε α) = done x := rfl

@[simp] theorem bind_eq (p : Program Answer ε α) (f : α → Program Answer ε β) :
    (p >>= f) = p.bind f := rfl

@[simp] theorem done_ok_bind (a : α) (f : α → Program Answer ε β) :
    (done (.ok a) : Program Answer ε α).bind f = f a := rfl

@[simp] theorem done_error_bind (e : ε) (f : α → Program Answer ε β) :
    (done (.error e) : Program Answer ε α).bind f = done (.error e) := rfl

/-! Which operations a program may call. -/

/-- Every operation the program calls, whatever the answers, is an allowed one. -/
def Calls (allowed : Op → Prop) : Program Answer ε α → Prop
  | done _ => True
  | call op next => allowed op ∧ ∀ answer, (next answer).Calls allowed

/-- The program may end with the value, for some answers. -/
def Returns : Program Answer ε α → α → Prop
  | done result, a => result = .ok a
  | call _ next, a => ∃ answer, (next answer).Returns a

section Calls
variable {allowed allowed' : Op → Prop} {p : Program Answer ε α} {f : α → Program Answer ε β}

@[simp] theorem calls_done (result : Except ε α) :
    Calls allowed (done result : Program Answer ε α) := trivial

@[simp] theorem calls_call {op : Op} {next : Except ε (Answer op) → Program Answer ε α} :
    (call op next).Calls allowed ↔ allowed op ∧ ∀ answer, (next answer).Calls allowed := Iff.rfl

theorem calls_invoke {op : Op} :
    Calls allowed (invoke op : Program Answer ε (Answer op)) ↔ allowed op :=
  ⟨And.left, fun h => ⟨h, fun _ => trivial⟩⟩

theorem calls_bind : (p.bind f).Calls allowed ↔
    p.Calls allowed ∧ ∀ a, p.Returns a → (f a).Calls allowed := by
  induction p with
  | done result =>
    cases result with
    | error e => simp [Calls, Returns, Program.bind]
    | ok a => simp [Calls, Returns, Program.bind]
  | call op next ih =>
    have hnext : (∀ answer, ((next answer).bind f).Calls allowed) ↔
        (∀ answer, (next answer).Calls allowed) ∧
          ∀ a, (∃ answer, (next answer).Returns a) → (f a).Calls allowed := by
      simp only [ih, forall_and, forall_exists_index]
      exact and_congr_right' forall_comm
    simp only [Program.bind, Calls, Returns, hnext, and_assoc]

theorem Calls.bind (hp : p.Calls allowed) (hf : ∀ a, (f a).Calls allowed) :
    (p.bind f).Calls allowed := calls_bind.mpr ⟨hp, fun a _ => hf a⟩

@[simp] theorem calls_ite {condition : Prop} [Decidable condition] {q : Program Answer ε α} :
    (if condition then p else q).Calls allowed ↔
      (condition → p.Calls allowed) ∧ (¬ condition → q.Calls allowed) := by
  split_ifs with h
  · simp [h]
  · simp [h]

@[simp] theorem calls_attempt : p.attempt.Calls allowed ↔ p.Calls allowed := by
  induction p with
  | done result => exact Iff.rfl
  | call op next ih => exact and_congr_right' (forall_congr' ih)

@[simp] theorem calls_mapError {g : ε → ε} : (p.mapError g).Calls allowed ↔ p.Calls allowed := by
  induction p with
  | done result => exact Iff.rfl
  | call op next ih => exact and_congr_right' (forall_congr' ih)

theorem Calls.forEach {f : β → Program Answer ε Unit} (hf : ∀ x, (f x).Calls allowed)
    (xs : List β) : (forEach f xs).Calls allowed := by
  induction xs with
  | nil => trivial
  | cons x xs ih => exact (hf x).bind fun _ => ih

theorem Calls.mono (h : p.Calls allowed) (himp : ∀ op, allowed op → allowed' op) :
    p.Calls allowed' := by
  induction p with
  | done result => trivial
  | call op next ih => exact ⟨himp op h.1, fun answer => ih answer (h.2 answer)⟩

theorem returns_bind {b : β} (h : (p.bind f).Returns b) : ∃ a, p.Returns a ∧ (f a).Returns b := by
  induction p with
  | done result =>
    cases result with
    | error e => cases h
    | ok a => exact ⟨a, rfl, h⟩
  | call op next ih =>
    obtain ⟨answer, h⟩ := h
    obtain ⟨a, ha, hb⟩ := ih answer h
    exact ⟨a, ⟨answer, ha⟩, hb⟩

end Calls

/-! Which operations a program calls when the answers are as expected. -/

def CallsGiven (expected : (op : Op) → Except ε (Answer op) → Prop) (allowed : Op → Prop) :
    Program Answer ε α → Prop
  | done _ => True
  | call op next =>
    allowed op ∧ ∀ answer, expected op answer → (next answer).CallsGiven expected allowed

section CallsGiven
variable {expected : (op : Op) → Except ε (Answer op) → Prop} {allowed : Op → Prop}
  {p : Program Answer ε α}

theorem Calls.given (h : p.Calls allowed) : p.CallsGiven expected allowed := by
  induction p with
  | done result => trivial
  | call op next ih => exact ⟨h.1, fun answer _ => ih answer (h.2 answer)⟩

theorem CallsGiven.bind {f : α → Program Answer ε β} (hp : p.CallsGiven expected allowed)
    (hf : ∀ a, p.Returns a → (f a).CallsGiven expected allowed) :
    (p.bind f).CallsGiven expected allowed := by
  induction p with
  | done result =>
    cases result with
    | error e => trivial
    | ok a => exact hf a rfl
  | call op next ih =>
    exact ⟨hp.1, fun answer hanswer =>
      ih answer (hp.2 answer hanswer) fun a ha => hf a ⟨answer, ha⟩⟩

theorem callsGiven_done_bind {r : Except ε α} {f : α → Program Answer ε β}
    (hf : ∀ a, r = .ok a → (f a).CallsGiven expected allowed) :
    ((done r : Program Answer ε α).bind f).CallsGiven expected allowed := by
  cases r with
  | error e => trivial
  | ok a => exact hf a rfl

theorem callsGiven_invoke_bind {op : Op} {f : Answer op → Program Answer ε β} (hop : allowed op)
    (hf : ∀ a, expected op (.ok a) → (f a).CallsGiven expected allowed) :
    ((invoke op : Program Answer ε (Answer op)).bind f).CallsGiven expected allowed := by
  refine ⟨hop, fun answer hanswer => ?_⟩
  cases answer with
  | error e => trivial
  | ok a => exact hf a hanswer

end CallsGiven

/-! Assertions about the world. -/

/-- What an operation may answer and do to the world. -/
abbrev Exec (Answer : Op → Type) (ε σ : Type) := (op : Op) → σ → Except ε (Answer op) → σ → Prop

/-- The invariant holds after every call, and the assertion holds of the result and the world at
the end. -/
def Safe (exec : Exec Answer ε σ) (Inv : σ → Prop) (Q : Except ε α → σ → Prop) :
    Program Answer ε α → σ → Prop
  | done result, w => Q result w
  | call op next, w => ∀ answer w', exec op w answer w' → Inv w' ∧ Safe exec Inv Q (next answer) w'

section Safe
variable {exec : Exec Answer ε σ} {Inv Inv' : σ → Prop} {Q R : Except ε α → σ → Prop}
  {p : Program Answer ε α} {w w' : σ}

theorem Safe.mono (h : Safe exec Inv R p w) (hinv : ∀ w, Inv w → Inv' w)
    (himp : ∀ result w, R result w → Q result w) : Safe exec Inv' Q p w := by
  induction p generalizing w with
  | done result => exact himp result w h
  | call op next ih =>
    intro answer w' hexec
    exact ⟨hinv w' (h answer w' hexec).1, ih answer (h answer w' hexec).2⟩

theorem Safe.imp (h : Safe exec Inv R p w) (himp : ∀ result w, R result w → Q result w) :
    Safe exec Inv Q p w := h.mono (fun _ => id) himp

theorem Safe.and (h : Safe exec Inv Q p w) (h' : Safe exec Inv' R p w) :
    Safe exec Inv (fun result w => Q result w ∧ R result w) p w := by
  induction p generalizing w with
  | done result => exact ⟨h, h'⟩
  | call op next ih =>
    intro answer w' hexec
    exact ⟨(h answer w' hexec).1, ih answer (h answer w' hexec).2 (h' answer w' hexec).2⟩

/-- Sequencing: the second program starts in what the first one establishes. -/
theorem Safe.bind {Q : Except ε β → σ → Prop} {f : α → Program Answer ε β}
    (hp : Safe exec Inv R p w) (hok : ∀ a w, R (.ok a) w → Safe exec Inv Q (f a) w)
    (herror : ∀ e w, R (.error e) w → Q (.error e) w) : Safe exec Inv Q (p.bind f) w := by
  induction p generalizing w with
  | done result =>
    cases result with
    | error e => exact herror e w hp
    | ok a => exact hok a w hp
  | call op next ih =>
    intro answer w' hexec
    have hnext := hp answer w' hexec
    exact ⟨hnext.1, ih answer hnext.2⟩

/-- A step inside the program, without calls. -/
theorem after_done {r : Except ε α} {Q : Except ε β → σ → Prop} {f : α → Program Answer ε β}
    (hok : ∀ a, r = .ok a → Safe exec Inv Q (f a) w) (herror : ∀ e, Q (.error e) w) :
    Safe exec Inv Q ((done r : Program Answer ε α).bind f) w := by
  cases r with
  | error e => exact herror e
  | ok a => exact hok a rfl

/-- One operation, and what comes after it. -/
theorem after_invoke {op : Op} {Q : Except ε β → σ → Prop} {f : Answer op → Program Answer ε β}
    (hok : ∀ a w', exec op w (.ok a) w' → Inv w' ∧ Safe exec Inv Q (f a) w')
    (herror : ∀ e w', exec op w (.error e) w' → Inv w' ∧ Q (.error e) w') :
    Safe exec Inv Q ((invoke op : Program Answer ε (Answer op)).bind f) w := by
  intro answer w' hexec
  cases answer with
  | error e => exact herror e w' hexec
  | ok a => exact hok a w' hexec

/-- An assertion about every end, and one about the value of those that have one. -/
def EndsWith (R : σ → Prop) (S : α → σ → Prop) (result : Except ε α) (w : σ) : Prop :=
  R w ∧ ∀ a, result = .ok a → S a w

theorem endsWith_ok {R : σ → Prop} {S : α → σ → Prop} {a : α} (h : R w) (hvalue : S a w) :
    EndsWith R S (.ok a : Except ε α) w := by
  refine ⟨h, fun b heq => ?_⟩
  cases heq
  exact hvalue

theorem endsWith_error {R : σ → Prop} {S : α → σ → Prop} {e : ε} (h : R w) :
    EndsWith R S (.error e : Except ε α) w := ⟨h, fun _ heq => by cases heq⟩

theorem EndsWith.value {R : σ → Prop} {S : α → σ → Prop} {a : α}
    (h : EndsWith R S (.ok a : Except ε α) w) : S a w := h.2 a rfl

theorem safe_attempt {Q : Except ε (Except ε α) → σ → Prop} :
    Safe exec Inv Q p.attempt w ↔ Safe exec Inv (fun result => Q (.ok result)) p w := by
  induction p generalizing w with
  | done result => exact Iff.rfl
  | call op next ih =>
    exact forall_congr' fun answer => forall_congr' fun w' => imp_congr_right fun _ =>
      and_congr_right' (ih answer)

theorem safe_mapError {g : ε → ε} :
    Safe exec Inv Q (p.mapError g) w ↔ Safe exec Inv (fun result => Q (result.mapError g)) p w := by
  induction p generalizing w with
  | done result => exact Iff.rfl
  | call op next ih =>
    exact forall_congr' fun answer => forall_congr' fun w' => imp_congr_right fun _ =>
      and_congr_right' (ih answer)

/-- A world predicate that no allowed operation breaks holds throughout. -/
theorem Safe.of_calls {allowed : Op → Prop} (hcalls : p.Calls allowed)
    (hkeeps : ∀ op w answer w', allowed op → exec op w answer w' → Inv w → Inv w') (hw : Inv w) :
    Safe exec Inv (fun _ => Inv) p w := by
  induction p generalizing w with
  | done result => exact hw
  | call op next ih =>
    intro answer w' hexec
    have hw' := hkeeps op w answer w' hcalls.1 hexec hw
    exact ⟨hw', ih answer (hcalls.2 answer) hw'⟩

/-- A loop keeps what its body keeps. -/
theorem Safe.forEach {f : β → Program Answer ε Unit} {xs : List β} {R : σ → Prop}
    (hf : ∀ x ∈ xs, ∀ w, R w → Safe exec Inv (fun _ => R) (f x) w) (hw : R w) :
    Safe exec Inv (fun _ => R) (forEach f xs) w := by
  induction xs generalizing w with
  | nil => exact hw
  | cons x xs ih =>
    refine (hf x List.mem_cons_self w hw).bind (fun _ w' hw' => ?_) fun _ _ h => h
    exact ih (fun y hy => hf y (List.mem_cons_of_mem x hy)) hw'

end Safe

/-! Programs that only ask. -/

/-- The result when every operation answers as the oracle says. -/
def eval (oracle : (op : Op) → Except ε (Answer op)) : Program Answer ε α → Except ε α
  | done result => result
  | call op next => (next (oracle op)).eval oracle

/-- A failed operation ends the program with a failure. -/
def Propagates : Program Answer ε α → Prop
  | done _ => True
  | call _ next => (∀ e, ∃ e', next (.error e) = done (.error e')) ∧ ∀ a, (next (.ok a)).Propagates

section Oracle
variable {oracle : (op : Op) → Except ε (Answer op)} {p : Program Answer ε α}
  {f : α → Program Answer ε β}

@[simp] theorem eval_done (result : Except ε α) :
    (done result : Program Answer ε α).eval oracle = result := rfl

@[simp] theorem eval_call (op : Op) (next : Except ε (Answer op) → Program Answer ε α) :
    (call op next).eval oracle = (next (oracle op)).eval oracle := rfl

@[simp] theorem eval_bind :
    (p.bind f).eval oracle = p.eval oracle >>= fun a => (f a).eval oracle := by
  induction p with
  | done result => cases result <;> rfl
  | call op next ih => exact ih (oracle op)

theorem propagates_done (result : Except ε α) :
    (done result : Program Answer ε α).Propagates := trivial

theorem propagates_invoke (op : Op) :
    (invoke op : Program Answer ε (Answer op)).Propagates :=
  ⟨fun e => ⟨e, rfl⟩, fun _ => trivial⟩

theorem Propagates.bind (hp : p.Propagates) (hf : ∀ a, (f a).Propagates) :
    (p.bind f).Propagates := by
  induction p with
  | done result =>
    cases result with
    | error e => trivial
    | ok a => exact hf a
  | call op next ih =>
    refine ⟨fun e => ?_, fun a => ih (.ok a) (hp.2 a)⟩
    rcases hp.1 e with ⟨e', he⟩
    exact ⟨e', congrArg (·.bind f) he⟩

theorem Propagates.forEach {f : β → Program Answer ε Unit} (hf : ∀ x, (f x).Propagates)
    (xs : List β) : (forEach f xs).Propagates := by
  induction xs with
  | nil => trivial
  | cons x xs ih => exact (hf x).bind fun _ => ih

variable {exec : Exec Answer ε σ} {allowed : Op → Prop} {R : σ → Prop} {w : σ}

/-- Operations that answer as the oracle says, or fail. -/
theorem Safe.of_oracle (hcalls : p.Calls allowed) (hpropagates : p.Propagates)
    (hexec : ∀ op w answer w', allowed op → R w → exec op w answer w' →
      R w' ∧ ∀ a, answer = .ok a → oracle op = .ok a) (hw : R w) :
    Safe exec R (fun result w' => R w' ∧ ∀ a, result = .ok a → p.eval oracle = .ok a) p w := by
  induction p generalizing w with
  | done result => exact ⟨hw, fun _ => id⟩
  | call op next ih =>
    intro answer w' hstep
    have hnext := hexec op w answer w' hcalls.1 hw hstep
    refine ⟨hnext.1, ?_⟩
    cases answer with
    | error e =>
      rcases hpropagates.1 e with ⟨e', he⟩
      rw [he]
      exact ⟨hnext.1, fun _ h => nomatch h⟩
    | ok a =>
      rw [eval, hnext.2 a rfl]
      exact ih (.ok a) (hcalls.2 _) (hpropagates.2 a) hnext.1

/-- Operations that answer as the oracle says. -/
theorem Safe.of_exact_oracle (hcalls : p.Calls allowed)
    (hexec : ∀ op w answer w', allowed op → R w → exec op w answer w' →
      R w' ∧ answer = oracle op) (hw : R w) :
    Safe exec R (fun result w' => R w' ∧ result = p.eval oracle) p w := by
  induction p generalizing w with
  | done result => exact ⟨hw, rfl⟩
  | call op next ih =>
    intro answer w' hstep
    have hnext := hexec op w answer w' hcalls.1 hw hstep
    refine ⟨hnext.1, ?_⟩
    rw [eval, ← hnext.2]
    exact ih answer (hcalls.2 answer) hnext.1

end Oracle

/-! Runs, one call at a time. -/

inductive Step (exec : Exec Answer ε σ) : Program Answer ε α × σ → Program Answer ε α × σ → Prop
  | call {op : Op} {next : Except ε (Answer op) → Program Answer ε α} {answer : Except ε (Answer op)}
      {w w' : σ} (hexec : exec op w answer w') : Step exec (call op next, w) (next answer, w')

/-- The run up to any call: either it went on to the end, or the process stopped there. -/
def Session (exec : Exec Answer ε σ) (p : Program Answer ε α) (w w' : σ) : Prop :=
  ∃ p', ReflTransGen (Step exec) (p, w) (p', w')

/-- An uninterrupted run. -/
def Completes (exec : Exec Answer ε σ) (p : Program Answer ε α) (w : σ) (result : Except ε α)
    (w' : σ) : Prop :=
  ReflTransGen (Step exec) (p, w) (done result, w')

/-- One session after another; `start` says which programs may be started in a world. -/
def Sessions (exec : Exec Answer ε σ) (start : σ → Program Answer ε α → Prop) : σ → σ → Prop :=
  ReflTransGen fun w w' => ∃ p, start w p ∧ Session exec p w w'

section Completes
variable {exec : Exec Answer ε σ} {p : Program Answer ε α} {w w' : σ} {result : Except ε α}

theorem completes_done {r : Except ε α} :
    Completes exec (done r) w result w' ↔ result = r ∧ w' = w := by
  constructor
  · intro h
    rcases ReflTransGen.cases_head h with heq | ⟨_, hstep, -⟩
    · cases heq
      exact ⟨rfl, rfl⟩
    · cases hstep
  · rintro ⟨rfl, rfl⟩
    exact .refl

theorem completes_call {op : Op} {next : Except ε (Answer op) → Program Answer ε α} :
    Completes exec (call op next) w result w' ↔
      ∃ answer v, exec op w answer v ∧ Completes exec (next answer) v result w' := by
  constructor
  · intro h
    rcases ReflTransGen.cases_head h with heq | ⟨_, hstep, htail⟩
    · cases heq
    · cases hstep with
      | call hexec => exact ⟨_, _, hexec, htail⟩
  · rintro ⟨answer, v, hexec, htail⟩
    exact .head (.call hexec) htail

/-- The first program runs to its end, and the second one from there if it has succeeded. -/
theorem completes_bind {f : α → Program Answer ε β} {result : Except ε β} :
    Completes exec (p.bind f) w result w' ↔
      (∃ a v, Completes exec p w (.ok a) v ∧ Completes exec (f a) v result w') ∨
        ∃ e, Completes exec p w (.error e) w' ∧ result = .error e := by
  induction p generalizing w with
  | done r =>
    cases r with
    | ok a => simp [Program.bind, completes_done]
    | error e => simp [Program.bind, completes_done, and_comm]
  | call op next ih =>
    simp only [Program.bind, completes_call, ih]
    constructor
    · rintro ⟨answer, v, hexec, ⟨a, v', hfirst, hsecond⟩ | ⟨e, hfirst, rfl⟩⟩
      · exact .inl ⟨a, v', ⟨answer, v, hexec, hfirst⟩, hsecond⟩
      · exact .inr ⟨e, ⟨answer, v, hexec, hfirst⟩, rfl⟩
    · rintro (⟨a, v', ⟨answer, v, hexec, hfirst⟩, hsecond⟩ | ⟨e, ⟨answer, v, hexec, hfirst⟩, rfl⟩)
      · exact ⟨answer, v, hexec, .inl ⟨a, v', hfirst, hsecond⟩⟩
      · exact ⟨answer, v, hexec, .inr ⟨e, hfirst, rfl⟩⟩

theorem completes_attempt {result : Except ε (Except ε α)} :
    Completes exec p.attempt w result w' ↔ ∃ r, result = .ok r ∧ Completes exec p w r w' := by
  induction p generalizing w with
  | done r => simp [attempt, completes_done]
  | call op next ih =>
    simp only [attempt, completes_call, ih]
    constructor
    · rintro ⟨answer, v, hexec, r, hresult, hnext⟩
      exact ⟨r, hresult, answer, v, hexec, hnext⟩
    · rintro ⟨r, hresult, answer, v, hexec, hnext⟩
      exact ⟨answer, v, hexec, r, hresult, hnext⟩

/-- A program that sees how the first one ends. -/
theorem completes_attempt_bind {f : Except ε α → Program Answer ε β} {result : Except ε β} :
    Completes exec (p.attempt.bind f) w result w' ↔
      ∃ r v, Completes exec p w r v ∧ Completes exec (f r) v result w' := by
  simp only [completes_bind, completes_attempt]
  constructor
  · rintro (⟨_, v, ⟨r, hr, hfirst⟩, hsecond⟩ | ⟨e, ⟨r, hr, -⟩, -⟩)
    · cases hr
      exact ⟨_, v, hfirst, hsecond⟩
    · cases hr
  · rintro ⟨r, v, hfirst, hsecond⟩
    exact .inl ⟨r, v, ⟨r, rfl, hfirst⟩, hsecond⟩

/-- One uninterrupted run after another, with what each ends with. -/
inductive Repeats (exec : Exec Answer ε σ) (p : Program Answer ε α) :
    σ → List (Except ε α) → σ → Prop
  | nil {w : σ} : Repeats exec p w [] w
  | cons {w v w' : σ} {result : Except ε α} {results : List (Except ε α)}
      (hrun : Completes exec p w result v) (hrest : Repeats exec p v results w') :
      Repeats exec p w (result :: results) w'

theorem repeats_cons {results : List (Except ε α)} :
    Repeats exec p w (result :: results) w' ↔
      ∃ v, Completes exec p w result v ∧ Repeats exec p v results w' := by
  constructor
  · rintro (_ | ⟨hrun, hrest⟩)
    exact ⟨_, hrun, hrest⟩
  · rintro ⟨v, hrun, hrest⟩
    exact .cons hrun hrest

end Completes

section Run
variable {exec : Exec Answer ε σ} {Inv : σ → Prop} {Q : Except ε α → σ → Prop}
  {p p' : Program Answer ε α} {w w' : σ}

theorem Safe.step (h : Safe exec Inv Q p w) (hstep : Step exec (p, w) (p', w')) :
    Inv w' ∧ Safe exec Inv Q p' w' := by
  cases hstep with
  | call hexec => exact h _ _ hexec

theorem Safe.run (h : Safe exec Inv Q p w) (hw : Inv w)
    (hrun : ReflTransGen (Step exec) (p, w) (p', w')) : Inv w' ∧ Safe exec Inv Q p' w' := by
  generalize hlast : (p', w') = last at hrun
  induction hrun generalizing p' w' with
  | refl =>
    cases hlast
    exact ⟨hw, h⟩
  | @tail middle _ _ hstep ih =>
    rcases middle with ⟨q, v⟩
    subst hlast
    exact (ih rfl).2.step hstep

theorem Safe.session (h : Safe exec Inv Q p w) (hw : Inv w) (hrun : Session exec p w w') :
    Inv w' := by
  rcases hrun with ⟨p', hrun⟩
  exact (h.run hw hrun).1

theorem Safe.completes {result : Except ε α} (h : Safe exec Inv Q p w) (hw : Inv w)
    (hrun : Completes exec p w result w') : Q result w' := (h.run hw hrun).2

/-- An assertion about one run that keeps the invariant holds of each. -/
theorem Safe.repeats {R : Except ε α → Prop} {results : List (Except ε α)}
    (h : ∀ w, Inv w → Safe exec Inv (fun result w' => Inv w' ∧ R result) p w) (hw : Inv w)
    (hruns : Repeats exec p w results w') : ∀ result ∈ results, R result := by
  induction hruns with
  | nil => simp
  | cons hrun _ ih =>
    obtain ⟨hv, hresult⟩ := (h _ hw).completes hw hrun
    rw [List.forall_mem_cons]
    exact ⟨hresult, ih hv⟩

/-- An invariant of every program that may be started holds along all sessions. -/
theorem Sessions.invariant {start : σ → Program Answer ε α → Prop}
    (hsafe : ∀ w p, Inv w → start w p → Safe exec Inv (fun _ _ => True) p w) (hw : Inv w)
    (hrun : Sessions exec start w w') : Inv w' := by
  induction hrun with
  | refl => exact hw
  | tail _ hsession ih =>
    rcases hsession with ⟨p, hstart, hsession⟩
    exact (hsafe _ p ih hstart).session ih hsession

/-- Every uninterrupted run goes through a world with the property. -/
def Passes (exec : Exec Answer ε σ) (P : σ → Prop) : Program Answer ε α → σ → Prop
  | done _, w => P w
  | call op next, w => P w ∨ ∀ answer w', exec op w answer w' → Passes exec P (next answer) w'

theorem passes_now {P : σ → Prop} (hw : P w) : Passes exec P p w := by
  cases p with
  | done result => exact hw
  | call op next => exact .inl hw

theorem Passes.bind {P : σ → Prop} {f : α → Program Answer ε β}
    (hp : Safe exec Inv Q p w) (hok : ∀ a w, Q (.ok a) w → Passes exec P (f a) w)
    (herror : ∀ e w, Q (.error e) w → P w) : Passes exec P (p.bind f) w := by
  induction p generalizing w with
  | done result =>
    cases result with
    | error e => exact herror e w hp
    | ok a => exact hok a w hp
  | call op next ih => exact .inr fun answer w' hexec => ih answer (hp answer w' hexec).2

theorem Passes.completes {P : σ → Prop} {result : Except ε α} (h : Passes exec P p w)
    (hrun : Completes exec p w result w') :
    ∃ q v, ReflTransGen (Step exec) (p, w) (q, v) ∧ P v ∧ Completes exec q v result w' := by
  induction p generalizing w with
  | done result' =>
    exact ⟨_, w, .refl, h, hrun⟩
  | call op next ih =>
    cases h with
    | inl hw => exact ⟨_, w, .refl, hw, hrun⟩
    | inr hnext =>
      obtain ⟨answer, v, hexec, htail⟩ := completes_call.mp hrun
      rcases ih _ (hnext _ _ hexec) htail with ⟨q, v, hpre, hv, hpost⟩
      exact ⟨q, v, .head (.call hexec) hpre, hv, hpost⟩

end Run

/-! Runs that are computed. -/

/-- An environment that answers every operation in one way. -/
abbrev Handler (Answer : Op → Type) (ε σ : Type) := (op : Op) → σ → Except ε (Answer op) × σ

/-- The run in such an environment. -/
def runWith (handler : Handler Answer ε σ) : Program Answer ε α → σ → Except ε α × σ
  | done result, w => (result, w)
  | call op next, w => runWith handler (next (handler op w).1) (handler op w).2

section Handler
variable {handler : Handler Answer ε σ} {exec : Exec Answer ε σ} {p : Program Answer ε α} {w w' : σ}
  {result : Except ε α}

@[simp] theorem runWith_done (result : Except ε α) (w : σ) :
    (done result : Program Answer ε α).runWith handler w = (result, w) := rfl

@[simp] theorem runWith_call (op : Op) (next : Except ε (Answer op) → Program Answer ε α) (w : σ) :
    (call op next).runWith handler w =
      (next (handler op w).1).runWith handler (handler op w).2 := rfl

@[simp] theorem runWith_bind {f : α → Program Answer ε β} :
    (p.bind f).runWith handler w =
      match p.runWith handler w with
      | (.ok a, w') => (f a).runWith handler w'
      | (.error e, w') => (.error e, w') := by
  induction p generalizing w with
  | done result => cases result <;> rfl
  | call op next ih => exact ih _

@[simp] theorem runWith_attempt :
    p.attempt.runWith handler w = (.ok (p.runWith handler w).1, (p.runWith handler w).2) := by
  induction p generalizing w with
  | done result => rfl
  | call op next ih => exact ih _

@[simp] theorem runWith_mapError {g : ε → ε} :
    (p.mapError g).runWith handler w =
      ((p.runWith handler w).1.mapError g, (p.runWith handler w).2) := by
  induction p generalizing w with
  | done result => rfl
  | call op next ih => exact ih _

/-- Questions that leave the world alone are answered all at once. -/
theorem runWith_oracle {oracle : (op : Op) → Except ε (Answer op)} {allowed : Op → Prop}
    (hcalls : p.Calls allowed) (hhandler : ∀ op, allowed op → handler op w = (oracle op, w)) :
    p.runWith handler w = (p.eval oracle, w) := by
  induction p with
  | done result => rfl
  | call op next ih =>
    rw [runWith_call, hhandler op hcalls.1]
    exact ih _ (hcalls.2 _)

theorem runWith_kept {Inv : σ → Prop} (hhandler : ∀ op w, Inv w → Inv (handler op w).2)
    (p : Program Answer ε α) (hw : Inv w) : Inv (p.runWith handler w).2 := by
  induction p generalizing w with
  | done result => exact hw
  | call op next ih => exact ih _ (hhandler op w hw)

/-- The computed run is one of the possible runs. -/
theorem completes_runWith {Inv : σ → Prop}
    (hhandler : ∀ op w, Inv w → exec op w (handler op w).1 (handler op w).2 ∧ Inv (handler op w).2)
    (p : Program Answer ε α) (hw : Inv w) :
    Completes exec p w (p.runWith handler w).1 (p.runWith handler w).2 := by
  induction p generalizing w with
  | done result => exact .refl
  | call op next ih =>
    have hnext := hhandler op w hw
    exact .head (.call hnext.1) (ih _ hnext.2)

/-- The same for a handler of the operations that the program may call. -/
theorem Calls.completes {allowed : Op → Prop} (hcalls : p.Calls allowed)
    (hhandler : ∀ op w, allowed op → exec op w (handler op w).1 (handler op w).2) :
    Completes exec p w (p.runWith handler w).1 (p.runWith handler w).2 := by
  induction p generalizing w with
  | done result => exact .refl
  | call op next ih => exact .head (.call (hhandler op w hcalls.1)) (ih _ (hcalls.2 _))

theorem Completes.session (h : Completes exec p w result w') : Session exec p w w' := ⟨_, h⟩

end Handler

/-! Interference of the environment. -/

/-- The environment moves any number of times before each operation takes effect. -/
def Exec.after (exec : Exec Answer ε σ) (env : σ → σ → Prop) : Exec Answer ε σ :=
  fun op w answer w' => ∃ v, ReflTransGen env w v ∧ exec op v answer w'

/-- Operations take effect only in the worlds where they are allowed. -/
def Exec.restrict (exec : Exec Answer ε σ) (allowed : Op → σ → Prop) : Exec Answer ε σ :=
  fun op w answer w' => allowed op w ∧ exec op w answer w'

/-- Operations give only the expected answers. -/
def Exec.answering (exec : Exec Answer ε σ) (expected : (op : Op) → Except ε (Answer op) → Prop) :
    Exec Answer ε σ :=
  fun op w answer w' => exec op w answer w' ∧ expected op answer

theorem Safe.answering {exec : Exec Answer ε σ} {Inv : σ → Prop} {Q : Except ε α → σ → Prop}
    {p : Program Answer ε α} {w : σ} (expected : (op : Op) → Except ε (Answer op) → Prop)
    (h : Safe exec Inv Q p w) : Safe (exec.answering expected) Inv Q p w := by
  induction p generalizing w with
  | done result => exact h
  | call op next ih =>
    intro answer w' hexec
    exact ⟨(h answer w' hexec.1).1, ih answer (h answer w' hexec.1).2⟩

/-! Runs on record. -/

/-- Calls with their answers, the latest first. -/
abbrev Log {Op : Type} (Answer : Op → Type) (ε : Type) := List ((op : Op) × Except ε (Answer op))

/-- The same operations, on record. -/
def Exec.logged (exec : Exec Answer ε σ) : Exec Answer ε (σ × Log Answer ε) :=
  fun op w answer w' => exec op w.1 answer w'.1 ∧ w'.2 = ⟨op, answer⟩ :: w.2

/-- The operation gave the answer when it was called last. -/
def LastAnswer (log : Log Answer ε) (op : Op) (answer : Except ε (Answer op)) : Prop :=
  ∃ later earlier, log = later ++ ⟨op, answer⟩ :: earlier ∧ ∀ event ∈ later, event.1 ≠ op

section Log
variable {log : Log Answer ε} {op : Op} {answer : Except ε (Answer op)}

theorem lastAnswer_now : LastAnswer (⟨op, answer⟩ :: log) op answer := ⟨[], log, rfl, by simp⟩

theorem LastAnswer.cons (h : LastAnswer log op answer) {event : (op : Op) × Except ε (Answer op)}
    (hother : event.1 ≠ op) : LastAnswer (event :: log) op answer := by
  rcases h with ⟨later, earlier, rfl, hlater⟩
  refine ⟨event :: later, earlier, rfl, ?_⟩
  rw [List.forall_mem_cons]
  exact ⟨hother, hlater⟩

end Log

end Program
end DogeOperator
