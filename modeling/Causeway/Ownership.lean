import Causeway.ErrorSlot
import Causeway.SharedValue
import Causeway.World

/-!
# Causeway.Ownership

Objects from their registration to the one time they are destroyed or given back.

* `Finalizer`            — what the destructors of the types do.
* `Objects.create`       — register a value of the host.
* `Objects.adopt`        — register an object the foreign side made.
* `Objects.construct`    — have the foreign side make an object, then register it.
* `Objects.destroy`      — remove an object and run the destructor it was registered with.
* `Objects.release`      — remove an object without running it.
* `Handle.drop`, `Handle.intoForeign`, … — the same for the host's owning handles, where a broken rule
  ends the process.

A refused registration destroys the object, so no object is left that nobody answers for.
-/

namespace Causeway

variable {τ ε β σ α : Type} [DecidableEq τ]

/-- What the destructors do to the objects of each type. -/
abbrev Finalizer (τ ε β σ : Type) := τ → Destructor → Address → Act τ ε β σ Unit

namespace Objects

/-- Enter an object in its registry. -/
def insert (t : τ) (a : Address) (d : Destructor) (room : Bool) : Act τ ε β σ Handle := do
  let (name, h) ← Act.onRegistry t fun r =>
    (r.insert a d room).map fun (h, r') => ((r.typeName, h), r')
  Act.log .trace ("registered " ++ name ++ " " ++ h.text)
  return h

/-- Register a value of the host. It is moved to `a` on the heap; `lacking` is its size where no memory for it can be
had. The value is dropped when it is refused. -/
def create (finalize : Finalizer τ ε β σ) (t : τ) (a : Address) (lacking : Option Nat := none) (room : Bool := true) :
    Act τ ε β σ Handle := do
  match ← Act.attempt (do
    Act.readRegistry t fun r => r.expectOwner .host
    match lacking with
    | some size => Act.readRegistry t fun r => .error (.noMemory r.typePath size)
    | none => insert t a .native room) with
  | .ok h => return h
  | .error e =>
    finalize t .native a
    Act.fail e

/-- Register an object the foreign side made, which its function at `code` destroys. It is destroyed when it is
refused. -/
def adopt (finalize : Finalizer τ ε β σ) (t : τ) (a : Address) (code : Address) (room : Bool := true) :
    Act τ ε β σ Handle := do
  if a = 0 then
    Act.readRegistry t fun r => .error (.nothingToAdopt r.typeName)
  else
    match ← Act.attempt (do
      Act.readRegistry t fun r => r.expectOwner .foreign
      insert t a (.foreign code) room) with
    | .ok h => return h
    | .error e =>
      finalize t (.foreign code) a
      Act.fail e

/-- Run a foreign constructor and register what it made, which the function at `code` destroys. An object that comes
with a failure is destroyed. -/
def construct (finalize : Finalizer τ ε β σ) (t : τ) (code : Address)
    (constructor : ErrorSlot → Act τ ε β σ (Address × ErrorSlot)) (room : Bool := true) :
    Act τ ε β σ Handle := do
  Act.readRegistry t fun r => r.expectOwner .foreign
  let (a, slot) ← Act.catchPanic (constructor .empty)
  match slot.result a with
  | .error e =>
    if a ≠ 0 then finalize t (.foreign code) a
    Act.fail e
  | .ok a =>
    if a = 0 then Act.readRegistry t fun r => .error (.nullConstructed r.typeName)
    else adopt finalize t a code room

/-- Run the destructor of an object that left its registry. A panic of a value that the host drops is logged and goes no
further. -/
def finalizeRemoved (finalize : Finalizer τ ε β σ) (t : τ) (r : Registry) (e : Entry) : Act τ ε β σ Unit := do
  match e.destructor with
  | .foreign code => finalize t (.foreign code) e.address
  | .native =>
    if !(← Act.guarded (finalize t .native e.address)) then
      Act.log .error ("destructor of " ++ r.typePath ++ " panicked")

/-- Remove an object and run the destructor it was registered with. -/
def destroy (finalize : Finalizer τ ε β σ) (t : τ) (h : Handle) (claimant : Side) :
    Act τ ε β σ Unit := do
  let (entry, r) ← Act.onRegistry t fun r =>
    (r.remove h claimant).map fun (entry, r') => ((entry, r), r')
  Act.log .trace ("destroying " ++ r.typeName ++ " " ++ h.text)
  finalizeRemoved finalize t r entry
  Act.updateRegistry t fun r => .ok r.noteDestroyed

/-- Remove an object without running its destructor. The caller answers for it now. -/
def release (t : τ) (h : Handle) (claimant : Side) : Act τ ε β σ Address := do
  let (a, name) ← Act.onRegistry t fun r =>
    (r.release h claimant).map fun (a, r') => ((a, r.typeName), r')
  Act.log .trace ("releasing " ++ name ++ " " ++ h.text)
  return a

/-- Destroy an object the foreign side holds. The null handle is ignored. -/
def free (finalize : Finalizer τ ε β σ) (t : τ) (h : Handle) : Act τ ε β σ Unit :=
  if h.isNull then pure () else Act.orAbort (destroy finalize t h .foreign)

/-- Give an object the foreign side holds back to it. The null handle names no object. -/
def take (t : τ) (h : Handle) : Act τ ε β σ Address :=
  if h.isNull then pure 0 else Act.orAbort (release t h .foreign)

end Objects

namespace Handle

/-- Give up the host's handle: the object is destroyed. -/
def drop (finalize : Finalizer τ ε β σ) (t : τ) (h : Handle) : Act τ ε β σ Unit :=
  Act.orAbort (Objects.destroy finalize t h .host)

/-- Hand the object to the foreign side by ownership. -/
def intoForeign (t : τ) (h : Handle) : Act τ ε β σ Handle := do
  Act.orAbort (Act.updateRegistry t fun r => r.transfer h .host .foreign)
  return h

/-- Take back an object from the foreign side. -/
def fromForeign (t : τ) (h : Handle) : Act τ ε β σ Unit :=
  Act.updateRegistry t fun r => r.transfer h .foreign .host

/-- Where the object of a host's handle is. -/
def deref (t : τ) (h : Handle) : Act τ ε β σ Address :=
  Act.orAbort (Act.readRegistry t fun r => r.resolve h)

/-- Where the object of a reference is, under the checks of the process. -/
def resolveRef (t : τ) (h : Handle) : Act τ ε β σ Address := do
  let s ← Act.settings
  Act.readRegistry t fun r => r.resolveRef h s.refCheck.enabled

end Handle

namespace SharedValue

/-- Hand every handle inside to a side, or none. -/
def handOver (v : SharedValue τ) (taker : Side) : Act τ ε β σ Unit := fun w =>
  match v.releaseTo taker w.registries with
  | (.ok (), rs) => (.ok (), { w with registries := rs })
  | (.error e, rs) => (.fail e.failure, { w with registries := rs })

/-- Drop a list of the host's handles in turn. -/
def dropHandles (finalize : Finalizer τ ε β σ) : List (τ × Handle) → Act τ ε β σ Unit
  | [] => pure ()
  | (t, h) :: rest => do
    h.drop finalize t
    dropHandles finalize rest

/-- Drop a value of the host: its handles, in declaration order. -/
def drop (finalize : Finalizer τ ε β σ) (v : SharedValue τ) : Act τ ε β σ Unit :=
  dropHandles finalize v.handles

end SharedValue
end Causeway
