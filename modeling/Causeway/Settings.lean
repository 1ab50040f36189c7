import Causeway.Failure
import Causeway.Text.Joined
import Causeway.Text.Plain
import Causeway.Text.Similar

/-!
# Causeway.Settings

The checks a process runs with, read from arguments and from the environment.

* `RefCheck`          — when references are checked against the loans of open calls.
* `Settings`          — the three settings.
* `Arguments.read`    — the arguments, from left to right.
* `Settings.parse`    — arguments first, then the environment for what they leave open.
* `Settings.Fault`    — why they are refused.
* `BadValue.message`  — a refused value in words.

An option's value is looked at only when the next option comes or the arguments end, so an argument
that is no option at all is the one complained about.
-/

namespace Causeway

/-- Variables and their values. -/
abbrev Environment := List (String × String)

inductive RefCheck where
  | off
  /-- In checked builds, and this is one. -/
  | debug
  | always
  deriving DecidableEq, Repr

namespace RefCheck

def name : RefCheck → String
  | .off => "off"
  | .debug => "debug"
  | .always => "always"

def ofName? (name : String) : Option RefCheck :=
  [off, debug, always].find? fun c => c.name = name

def enabled (c : RefCheck) : Bool := c ≠ .off

end RefCheck

structure Settings where
  verifyContracts : Bool := true
  refCheck : RefCheck := .debug
  traceCalls : Bool := false
  deriving DecidableEq, Repr

/-- One of the settings, as it is named to the process. -/
inductive Setting where
  | verifyContracts
  | refCheck
  | traceCalls
  deriving DecidableEq, Repr

namespace Setting

def all : List Setting := [verifyContracts, refCheck, traceCalls]

/-- The option's name, after the two dashes. -/
def name : Setting → String
  | .verifyContracts => "verify-contracts"
  | .refCheck => "ref-check"
  | .traceCalls => "trace-calls"

def placeholder : Setting → String
  | .verifyContracts => "VERIFY_CONTRACTS"
  | .refCheck => "REF_CHECK"
  | .traceCalls => "TRACE_CALLS"

/-- The environment variable that stands in for the option. -/
def variableName (s : Setting) : String := "MC_BRIDGE_" ++ s.placeholder

/-- The values it takes. -/
def choices : Setting → List String
  | .refCheck => ["off", "debug", "always"]
  | _ => ["true", "false"]

def ofName? (name : String) : Option Setting := all.find? fun s => s.name = name

end Setting

/-- A value that a setting does not take; empty when there is none. -/
structure BadValue where
  setting : Setting
  value : String
  deriving DecidableEq, Repr

/-- The explanation of a refused value, with the value that was perhaps meant. The value is shown without
what would control a terminal. -/
def BadValue.message (b : BadValue) : String :=
  let option := "'--" ++ b.setting.name ++ " <" ++ b.setting.placeholder ++ ">'"
  let what :=
    if b.value = "" then "a value is required for " ++ option ++ " but none was supplied"
    else "invalid value '" ++ Plain.text b.value ++ "' for " ++ option
  let tip := match Similar.suggestion? b.value b.setting.choices with
    | some c => "\n\n  tip: a similar value exists: '" ++ c ++ "'"
    | none => ""
  "error: " ++ what ++ "\n  [possible values: " ++ joined ", " b.setting.choices ++ "]" ++ tip
    ++ "\n\nFor more information, try '--help'.\n"

/-- Why arguments or environment are refused. -/
inductive Settings.Fault where
  | unknownArgument
  | invalidValue (b : BadValue)
  /-- An option given twice. -/
  | conflict
  | help
  /-- A value for an option that takes none. -/
  | surplusValue
  deriving DecidableEq, Repr

/-- Arguments read so far. -/
structure Arguments where
  /-- The options with their values, the newest first. -/
  given : List (Setting × String) := []
  /-- An option whose value has not been looked at. -/
  pending : Option (Setting × Option String) := none
  /-- Whether `--` was seen. -/
  verbatim : Bool := false
  deriving DecidableEq, Repr

namespace Arguments

/-- Take an option's value. -/
def accept (a : Arguments) (s : Setting) (value : String) : Except Settings.Fault Arguments :=
  if (a.given.lookup s).isSome then .error .conflict
  else if value ∈ s.choices then .ok { a with given := (s, value) :: a.given, pending := none }
  else .error (.invalidValue ⟨s, value⟩)

/-- Look at the value of the option before. -/
def settle (a : Arguments) : Except Settings.Fault Arguments :=
  match a.pending with
  | none => .ok a
  | some (s, none) => .error (.invalidValue ⟨s, ""⟩)
  | some (s, some v) => a.accept s v

/-- The name of a long option and the value after the equals sign. -/
def splitLong (cs : List Char) : String × Option String :=
  match cs.dropWhile (· ≠ '=') with
  | [] => (String.ofList cs, none)
  | _ :: value => (String.ofList (cs.takeWhile (· ≠ '=')), some (String.ofList value))

/-- One more argument. -/
def next (a : Arguments) (word : String) : Except Settings.Fault Arguments :=
  if a.verbatim then .error .unknownArgument
  else
    match word.toList with
    | ['-', '-'] => .ok { a with verbatim := true }
    | '-' :: '-' :: rest =>
      match splitLong rest with
      | (name, value) =>
        match Setting.ofName? name, value with
        | some s, none => do
          let a ← a.settle
          return { a with pending := some (s, none) }
        | some s, some v => do
          let a ← a.settle
          a.accept s v
        | none, none =>
          if name = "help" then do
            let _ ← a.settle
            .error .help
          else .error .unknownArgument
        | none, some _ => .error (if name = "help" then .surplusValue else .unknownArgument)
    | '-' :: c :: _ =>
      if c = 'h' then do
        let _ ← a.settle
        .error .help
      else .error .unknownArgument
    | _ =>
      match a.pending with
      | some (s, none) => .ok { a with pending := some (s, some word) }
      | _ => .error .unknownArgument

/-- All arguments, with the last value looked at. -/
def read (words : List String) : Except Settings.Fault Arguments := do
  let a ← words.foldlM next {}
  a.settle

end Arguments

namespace Settings

/-- The settings of accepted values, each with its default. -/
def ofGiven (given : List (Setting × String)) : Settings where
  verifyContracts := given.lookup .verifyContracts ≠ some "false"
  refCheck := ((given.lookup .refCheck).bind RefCheck.ofName?).getD .debug
  traceCalls := given.lookup .traceCalls = some "true"

/-- The environment's value for a setting that is still open. -/
def consult (env : Environment) (given : List (Setting × String)) (s : Setting) :
    Except BadValue (List (Setting × String)) :=
  match given.lookup s, env.lookup s.variableName with
  | none, some v => if v ∈ s.choices then .ok ((s, v) :: given) else .error ⟨s, v⟩
  | _, _ => .ok given

/-- The settings of values given before, completed from the environment. -/
def complete (given : List (Setting × String)) (env : Environment) : Except BadValue Settings := do
  let all ← Setting.all.foldlM (consult env) given
  return ofGiven all

/-- The settings of a command line in an environment. -/
def parse (words : List String) (env : Environment) : Except Fault Settings := do
  let a ← Arguments.read words
  (complete a.given env).mapError Fault.invalidValue

/-- The settings of the environment alone. -/
def ofEnvironment (env : Environment) : Except BadValue Settings := complete [] env

/-- Settings are installed once, before anything has read them. -/
def alreadyInstalled : Failure := .invalidInput "bridge configuration is already initialized"

end Settings
end Causeway
