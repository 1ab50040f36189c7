import Causeway.Contracts
import Causeway.Logging
import Causeway.Registry

/-!
# Causeway.World

What a process does, and the state it does it in.

* `World`   — registries, settings, contracts, open calls, and the record of what happened.
* `Outcome` — a value, a failure, a panic that unwinds, or the end of the process.
* `Act`     — a computation over a world. Every ending leaves a world.

`τ` are the types of objects, `ε` what callers record besides log lines, `β` the actions that undo part of
a failed call, and `σ` the callers' own state.
-/

namespace Causeway

/-- How a computation ends. -/
inductive Outcome (α : Type) where
  | ok (a : α)
  | fail (f : Failure)
  | panic (message : String)
  /-- The process is over. -/
  | abort (cause : Failure)
  deriving DecidableEq, Repr

/-- Something that happened. -/
inductive Event (ε : Type) where
  | log (level : Level) (text : String)
  | mark (e : ε)
  deriving DecidableEq, Repr

/-- An open call: what it has lent and what is to be undone if it fails, the newest first. -/
structure Frame (τ β : Type) where
  loans : List (τ × Handle) := []
  rollbacks : List β := []
  deriving DecidableEq, Repr

structure World (τ ε β σ : Type) where
  registries : Registries τ
  environment : Environment := []
  /-- The settings, once something has read or installed them. -/
  settings : Option Settings := none
  contracts : Option Contracts := none
  /-- Open calls, the outermost first. -/
  frames : Array (Frame τ β) := #[]
  /-- What happened, the newest first. -/
  trace : List (Event ε) := []
  state : σ

/-- A computation over a world. -/
def Act (τ ε β σ α : Type) : Type := World τ ε β σ → Outcome α × World τ ε β σ

namespace Act

variable {τ ε β σ α γ : Type}

protected def pure (a : α) : Act τ ε β σ α := fun w => (.ok a, w)

/-- Run one computation after another. An ending other than a value is the ending of both. -/
protected def bind (x : Act τ ε β σ α) (f : α → Act τ ε β σ γ) : Act τ ε β σ γ := fun w =>
  match x w with
  | (.ok a, w') => f a w'
  | (.fail e, w') => (.fail e, w')
  | (.panic m, w') => (.panic m, w')
  | (.abort e, w') => (.abort e, w')

instance : Monad (Act τ ε β σ) where
  pure := Act.pure
  bind := Act.bind

/-- End with a failure. -/
def fail (e : Failure) : Act τ ε β σ α := fun w => (.fail e, w)

/-- Unwind. -/
def panic (message : String) : Act τ ε β σ α := fun w => (.panic message, w)

/-- A result as a computation. -/
def ofExcept : Except Failure α → Act τ ε β σ α
  | .ok a => pure a
  | .error e => fail e

/-- A failure as a value. Panics and the end of the process stay what they are. -/
def attempt (x : Act τ ε β σ α) : Act τ ε β σ (Except Failure α) := fun w =>
  match x w with
  | (.ok a, w') => (.ok (.ok a), w')
  | (.fail e, w') => (.ok (.error e), w')
  | (.panic m, w') => (.panic m, w')
  | (.abort e, w') => (.abort e, w')

/-- A panic as a failure. -/
def catchPanic (x : Act τ ε β σ α) : Act τ ε β σ α := fun w =>
  match x w with
  | (.panic m, w') => (.fail (.panic m), w')
  | r => r

/-- Run something that cannot fail and say whether it ended without a panic. -/
def guarded (x : Act τ ε β σ Unit) : Act τ ε β σ Bool := fun w =>
  match x w with
  | (.ok (), w') => (.ok true, w')
  | (.fail _, w') => (.ok true, w')
  | (.panic _, w') => (.ok false, w')
  | (.abort e, w') => (.abort e, w')

/-- Record a log line. -/
def log (level : Level) (text : String) : Act τ ε β σ Unit := fun w =>
  (.ok (), { w with trace := .log level text :: w.trace })

/-- Record something of the caller's. -/
def mark (e : ε) : Act τ ε β σ Unit := fun w => (.ok (), { w with trace := .mark e :: w.trace })

/-- The last line of a process that cannot go on. -/
def lastWords (e : Failure) : String := "mc-bridge fatal: " ++ e.display

/-- End the process. -/
def abort (e : Failure) : Act τ ε β σ α := fun w =>
  (.abort e, { w with trace := .log .crit (lastWords e) :: w.trace })

/-- A failure that ends the process. -/
def orAbort (x : Act τ ε β σ α) : Act τ ε β σ α := do
  match ← attempt x with
  | .ok a => pure a
  | .error e => abort e

/-- The callers' state. -/
def get : Act τ ε β σ σ := fun w => (.ok w.state, w)

/-- Change the callers' state. -/
def modify (f : σ → σ) : Act τ ε β σ Unit := fun w => (.ok (), { w with state := f w.state })

/-- Run a computation over a state of its own, which comes back with its value. -/
def within {ς : Type} (s : ς) (x : Act τ ε β ς α) : Act τ ε β σ (α × ς) := fun w =>
  match x { w with state := s } with
  | (.ok a, w') => (.ok (a, w'.state), { w' with state := w.state })
  | (.fail e, w') => (.fail e, { w' with state := w.state })
  | (.panic m, w') => (.panic m, { w' with state := w.state })
  | (.abort e, w') => (.abort e, { w' with state := w.state })

/-- Read a registry. -/
def readRegistry [DecidableEq τ] (t : τ) (f : Registry → Except Registry.Refusal α) :
    Act τ ε β σ α := fun w =>
  match f (w.registries t) with
  | .ok a => (.ok a, w)
  | .error e => (.fail e.failure, w)

/-- Change a registry. A refused change leaves it as it was. -/
def onRegistry [DecidableEq τ] (t : τ) (f : Registry → Except Registry.Refusal (α × Registry)) :
    Act τ ε β σ α := fun w =>
  match f (w.registries t) with
  | .ok (a, r) => (.ok a, { w with registries := w.registries.set t r })
  | .error e => (.fail e.failure, w)

/-- Change a registry, without an answer. -/
def updateRegistry [DecidableEq τ] (t : τ) (f : Registry → Except Registry.Refusal Registry) :
    Act τ ε β σ Unit :=
  onRegistry t fun r => (f r).map ((), ·)

/-- The settings of the process. The first to ask reads the environment; a value that is refused is
logged and the defaults apply. -/
def settings : Act τ ε β σ Settings := fun w =>
  match w.settings with
  | some s => (.ok s, w)
  | none =>
    match Settings.ofEnvironment w.environment with
    | .ok s => (.ok s, { w with settings := some s })
    | .error e =>
      let line := "Ignoring invalid MC_BRIDGE_* settings: " ++ e.message
      (.ok {}, { w with settings := some {}, trace := .log .warn line :: w.trace })

/-- Install the settings of the process, before anything has read them. -/
def installSettings (s : Settings) : Act τ ε β σ Settings := fun w =>
  match w.settings with
  | some _ => (.fail Settings.alreadyInstalled, w)
  | none => (.ok s, { w with settings := some s })

/-- Install the contracts of the process. -/
def installContracts (t : Contracts) : Act τ ε β σ Contracts := fun w =>
  match Contracts.install w.contracts t with
  | .error e => (.fail e.failure, w)
  | .ok t =>
    let line := s!"{t.size} bridged functions in the contract table"
    (.ok t, { w with contracts := some t, trace := .log .debug line :: w.trace })

def contracts : Act τ ε β σ (Option Contracts) := fun w => (.ok w.contracts, w)

end Act
end Causeway
