import DogeOperator.Outcome

/-! Command lines of long options, as `clap` reads them: an option takes the argument after it, a
switch takes none, and neither is given twice. `--option=value` and positional arguments are left
out. -/
namespace DogeOperator.CommandLine
open Outcome

structure Command where
  options : List String
  switches : List String

structure ArgMatches where
  values : List (String × String)
  switches : List String

/-- An argument that starts like an option is not taken for a value. -/
def looksLikeOption (text : String) : Bool := text.toList.head? = some '-' && text ≠ "-"

def isGiven (m : ArgMatches) (name : String) : Bool := (m.values.lookup name).isSome

def readArguments (command : Command) : List String → ArgMatches → Result ArgMatches
  | [], m => .ok m
  | name :: rest, m =>
    if name ∈ command.switches then
      if name ∈ m.switches then bail s!"the argument '{name}' cannot be used multiple times"
      else readArguments command rest { m with switches := m.switches ++ [name] }
    else if name ∈ command.options then
      match rest with
      | [] => bail s!"a value is required for '{name}' but none was supplied"
      | value :: rest =>
        if looksLikeOption value then
          bail s!"a value is required for '{name}' but none was supplied"
        else if isGiven m name then bail s!"the argument '{name}' cannot be used multiple times"
        else readArguments command rest { m with values := m.values ++ [(name, value)] }
    else bail s!"unexpected argument '{name}' found"

def Command.getMatches (command : Command) (arguments : List String) : Result ArgMatches :=
  readArguments command arguments { values := [], switches := [] }

section
variable {α : Type} (parse : String → Except String α) (m : ArgMatches) (name : String)

def parseValue (text : String) : Result α :=
  (parse text).mapError fun error => [s!"invalid value '{text}' for '{name}': {error}"]

/-- `Option<T>` -/
def optionalValue : Result (Option α) :=
  match m.values.lookup name with
  | none => .ok none
  | some text => (parseValue parse name text).map some

def requiredValue : Result α :=
  match m.values.lookup name with
  | none => bail s!"the following required arguments were not provided: {name}"
  | some text => parseValue parse name text

/-- `default_value`: the default is a text, read like a given one. -/
def valueOr (default : String) : Result α := parseValue parse name ((m.values.lookup name).getD default)

end

/-- A path is any text but the empty one. -/
def parsePath (text : String) : Except String String :=
  if text = "" then .error "a value is required but none was supplied" else .ok text

def parseText (text : String) : Except String String := .ok text

/-- `str::parse` for the type of the argument. -/
def parseNumber {α : Type} (parse : List Char → Except String α) (text : String) : Except String α :=
  parse text.toList

/-- Options and their values, one after another. -/
def optionArguments (options : List (String × String)) : List String :=
  options.flatMap fun option => [option.1, option.2]

section
variable {command : Command} {options : List (String × String)} {rest : List String}
  {m m' : ArgMatches}

/-- Known options are read in order, before what follows them. -/
theorem readArguments_options
    (hknown : ∀ option ∈ options, option.1 ∈ command.options ∧ option.1 ∉ command.switches)
    (h : readArguments command (optionArguments options ++ rest) m = .ok m') :
    readArguments command rest { m with values := m.values ++ options } = .ok m' := by
  induction options generalizing m with
  | nil => simpa [optionArguments] using h
  | cons option options ih =>
    have hoption := hknown option List.mem_cons_self
    change readArguments command (option.1 :: option.2 :: (optionArguments options ++ rest)) m =
      .ok m' at h
    rw [readArguments, if_neg hoption.2, if_pos hoption.1] at h
    by_cases hlooks : looksLikeOption option.2
    · rw [if_pos hlooks] at h
      exact absurd h bail_ne_ok
    by_cases hgiven : isGiven m option.1
    · rw [if_neg hlooks, if_pos hgiven] at h
      exact absurd h bail_ne_ok
    rw [if_neg hlooks, if_neg hgiven] at h
    have hrest := ih (fun other hother => hknown other (List.mem_cons_of_mem option hother)) h
    simpa using hrest

/-- Switches leave the values alone. -/
theorem readArguments_switches (hknown : ∀ name ∈ rest, name ∈ command.switches)
    (h : readArguments command rest m = .ok m') :
    m' = { m with switches := m.switches ++ rest } := by
  induction rest generalizing m with
  | nil => simpa [readArguments, eq_comm] using h
  | cons name rest ih =>
    rw [readArguments.eq_def] at h
    dsimp only at h
    rw [if_pos (hknown name List.mem_cons_self)] at h
    by_cases hgiven : name ∈ m.switches
    · rw [if_pos hgiven] at h
      exact absurd h bail_ne_ok
    rw [if_neg hgiven] at h
    have hrest := ih (fun other hother => hknown other (List.mem_cons_of_mem name hother)) h
    simpa using hrest

theorem optionalValue_eq_ok {α : Type} {parse : String → Except String α} {name : String}
    {value : Option α} (h : optionalValue parse m name = .ok value)
    (habsent : m.values.lookup name = none) : value = none := by
  rw [optionalValue, habsent] at h
  exact (Except.ok.inj h).symm

end

end DogeOperator.CommandLine
