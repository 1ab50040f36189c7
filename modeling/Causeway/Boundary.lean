import Causeway.Ownership

/-!
# Causeway.Boundary

Host functions as the foreign side calls them.

* `Passage`             — how a host value becomes a foreign one, and what stands for it after a failure.
* `Boundary.call`       — a function that reports failures in a slot.
* `Boundary.infallible` — a function that cannot fail.

Neither lets a panic through, and a fatal failure ends the process.
-/

namespace Causeway

variable {τ ε β σ α ρ ι : Type}

/-- How a value leaves the host. The sentinel is what a failed call returns. -/
structure Passage (τ ε β σ ρ ι : Type) where
  sentinel : ι
  deliver : ρ → Act τ ε β σ ι

namespace Passage

/-- A value that crosses as it is. -/
def plain (sentinel : α) : Passage τ ε β σ α α := ⟨sentinel, pure⟩

/-- A value that crosses through a function. -/
def through (f : ρ → ι) (sentinel : ι) : Passage τ ε β σ ρ ι := ⟨sentinel, fun r => pure (f r)⟩

/-- Completion as a truth value. -/
def completion : Passage τ ε β σ Unit Bool := through (fun _ => true) false

/-- An owning handle, handed to the foreign side. -/
def ownership [DecidableEq τ] (t : τ) : Passage τ ε β σ Handle Handle := ⟨.null, Handle.intoForeign t⟩

/-- A value that may be missing. -/
def optional (p : Passage τ ε β σ ρ ι) : Passage τ ε β σ (Option ρ) ι :=
  ⟨p.sentinel, fun
    | some r => p.deliver r
    | none => pure p.sentinel⟩

end Passage

namespace Boundary

/-- A panic is a failure, and a fatal failure ends the process. -/
def protect (x : Act τ ε β σ α) : Act τ ε β σ (Except Failure α) := do
  match ← Act.attempt (Act.catchPanic x) with
  | .ok a => return .ok a
  | .error e => if e.isFatal then Act.abort e else return .error e

def errorLine (e : Failure) : String := "mc-bridge error: " ++ e.display

/-- A function that reports its failures in a slot, or in the log where there is none. -/
def call (p : Passage τ ε β σ ρ ι) (slot : ErrorSlot) (body : Act τ ε β σ ρ) :
    Act τ ε β σ (ι × ErrorSlot) := do
  match ← protect (body >>= p.deliver) with
  | .ok i => return (i, slot)
  | .error e =>
    if slot = .absent then Act.log .error (errorLine e)
    return (p.sentinel, slot.store e)

/-- A function that cannot fail. A panic is logged. -/
def infallible (p : Passage τ ε β σ ρ ι) (body : Act τ ε β σ ρ) : Act τ ε β σ ι := do
  match ← protect (body >>= p.deliver) with
  | .ok i => return i
  | .error e =>
    Act.log .error (errorLine e)
    return p.sentinel

/-- Report a failure from foreign code. What keeps the message from being read is caught and described. -/
def raise (slot : ErrorSlot) (r : Raise) : Act τ ε β σ ErrorSlot :=
  infallible (Passage.plain slot) do
    let description ←
      match ← Act.attempt (Act.ofExcept r.message.asBytes) with
      | .ok bytes => pure (Utf8.lossy bytes)
      | .error e => pure e.display
    if slot = .empty then return .holding ⟨r.code, .ofText description⟩
    return slot

end Boundary
end Causeway
