import Causeway.Demo.Foreign
import Causeway.Demo.Signatures

/-!
# Causeway.Demo.Host

The host's calls to the foreign side of the demo bridge. Each is a call with a frame.

* `Demo.makeDemo`  — have the foreign side make an object.
* `Demo.doThing`   — hand over two objects and get bytes back.
* `Demo.apply`     — have the foreign side call a host function; its first failure is the result.
-/

namespace Causeway
namespace Demo

variable {ε β ρ : Type}

/-- Which constructor of the foreign object to use. -/
inductive Constructor where
  | plain
  | rejecting
  | exhausted
  deriving DecidableEq, Repr

def Constructor.signature : Constructor → Signature
  | .plain => makeDemoSignature
  | .rejecting => makeDemoRejectingSignature
  | .exhausted => makeDemoExhaustedSignature

def Constructor.run : Constructor → TextView → ErrorSlot → Act ε β ρ (Address × ErrorSlot)
  | .plain => Foreign.newThingC
  | .rejecting => Foreign.newRejecting
  | .exhausted => Foreign.newExhausted

/-- Have the foreign side make an object. Its name is passed unchecked. -/
def makeDemo (hooks : Hooks ε β ρ) (c : Constructor) (name : List UInt8) : Act ε β ρ Handle :=
  Call.invoke hooks.undo c.signature fun _ =>
    Objects.construct hooks.finalize .thingC thingCDestructor (c.run (View.borrow name))

/-- The name of a foreign object. -/
def getName (hooks : Hooks ε β ρ) (h : Handle) : Act ε β ρ String :=
  Call.invoke hooks.undo getNameSignature fun level => do
    Call.lend level .thingC h
    let name ← thingCAt (← h.resolveRef .thingC)
    Act.ofExcept (TextView.materialize (View.borrow name))

/-- The struct handed over by `doThing`. -/
def sharedThing (z : Int) (y x : Handle) : SharedValue ObjectType :=
  .record "SharedThing"
    (.cons "z" (.scalar z) (.cons "y" (.handle .thingR y) (.cons "x" (.handle .thingC x) .nil)))

/-- The bytes of a foreign array, which is freed. -/
def collect (v : ForeignVec ByteVec) : Act ε β ρ (List UInt8) := do
  let bytes := ((ByteVec.owner Allocation.grants).growable 1).toList v
  Foreign.dropByteVec v
  Act.ofExcept bytes

/-- Hand a number and two objects to the foreign side and get its bytes. -/
def doThing (hooks : Hooks ε β ρ) (z : Int) (y x : Handle) : Act ε β ρ (List UInt8) :=
  Call.invoke hooks.undo doThingSignature fun _ => do
    Call.transfer hooks.finalize (sharedThing z y x)
    match ← Call.callForeign (Foreign.doThing hooks z y x) with
    | none => Act.fail (.allocation "do_thing returned no buffer")
    | some v => collect (some v)

/-- Lend a host object to the foreign side, which prints it twice. -/
def describeR (hooks : Hooks ε β ρ) (h : Handle) : Act ε β ρ Unit :=
  Call.invoke hooks.undo describeRSignature fun level => do
    Call.lend level .thingR h
    if ← Call.callForeign (Foreign.describeR h) then pure () else Act.fail .unknown

def sumBytes (hooks : Hooks ε β ρ) (bytes : List UInt8) : Act ε β ρ Nat :=
  Call.invoke hooks.undo sumBytesSignature fun _ => pure (Foreign.sumBytes (View.borrow bytes))

/-- A foreign copy of bytes. -/
def copyBytes (hooks : Hooks ε β ρ) (bytes : List UInt8) : Act ε β ρ ByteVec :=
  Call.invoke hooks.undo copyBytesSignature fun _ => do
    match ← Call.callForeign (Foreign.copyBytes (View.borrow bytes)) with
    | none => Act.fail (.allocation "copy_bytes returned no buffer")
    | some v => pure v

/-- An empty foreign byte array. -/
def foreignByteVec : Act ε β ρ ByteVec := do
  match ← Foreign.newByteVec 0 with
  | none => Act.fail (.allocation "foreign byte vector")
  | some v => pure v

/-- One call of the host function from the foreign side. Its first failure is kept as it is, besides
being reported in the slot. -/
def trampoline (f : Nat → Act ε β ρ Unit) (kept : Option Failure) (i : Nat) (slot : ErrorSlot) :
    Act ε β ρ (Option Failure × ErrorSlot) := do
  let result ← Act.attempt (Act.catchPanic (f i))
  let kept := match kept, result with
    | none, .error e => some e
    | kept, _ => kept
  let (_, slot) ← Boundary.call (Passage.plain ()) slot (Act.ofExcept result)
  return (kept, slot)

/-- Have the foreign side call `f` with every number below `times`. The first failure of `f` stops it
and is the result. -/
def apply (hooks : Hooks ε β ρ) (times : Int) (f : Nat → Act ε β ρ Unit) : Act ε β ρ Unit :=
  Call.invoke hooks.undo applySignature fun _ => do
    let (completed, kept, slot) ← Foreign.apply (some (trampoline f)) times none .empty
    match kept with
    | some e => Act.fail e
    | none =>
      if ← Act.ofExcept (slot.result completed) then pure () else Act.fail .unknown

/-- Get a listener from the foreign side. -/
def listen (hooks : Hooks ε β ρ) : Act ε β ρ Listener :=
  Call.invoke hooks.undo listenSignature fun _ => pure {}

def sampleEcho (hooks : Hooks ε β ρ) (s : Sample) : Act ε β ρ Sample :=
  Call.invoke hooks.undo sampleEchoSignature fun _ => pure s

def sampleChecksum (hooks : Hooks ε β ρ) (s : Sample) : Act ε β ρ UInt64 :=
  Call.invoke hooks.undo sampleChecksumSignature fun _ => pure s.checksum

/-- Install the demo's contracts. -/
def installContracts : Act ε β ρ Contracts := do
  let t ← Act.ofExcept (contracts.mapError Contracts.Refusal.failure)
  Act.installContracts t

end Demo
end Causeway
