import Causeway.Demo.Store

/-!
# Causeway.Demo.Foreign

The foreign side of the demo bridge. It reports failures by raising them in the slot it is given.

* `Foreign.newThingC` and its two failing variants — constructors.
* `Foreign.doThing`   — takes a host and a foreign object by ownership and answers with squares.
* `Foreign.describeR` — prints a lent host object twice.
* `Foreign.copyBytes` — a byte array with the bytes of a view.
* `Foreign.apply`     — calls a callback with 0, 1, 2, … until it raises.
* `Sample.checksum`   — a number that depends on every field of a sample.
-/

namespace Causeway
namespace Demo

/-- Raised by a constructor that refuses a name. -/
def rejectedCode : Int := 7

/-- Raised for an argument the foreign side does not work with. -/
def badArgumentCode : Int := 8

/-- Raised by a listener that is handed the largest number. -/
def overflowCode : Int := 9

variable {ε β ρ : Type}

namespace Foreign

/-- Raise a failure with a text. -/
def raise (slot : ErrorSlot) (code : Int) (message : String) : ErrorSlot :=
  slot.raise code (TextView.ofText message)

def outOfMemory (slot : ErrorSlot) : ErrorSlot :=
  raise slot Failure.calleeAllocation "out of memory"

/-- Build an object with a name, or nothing if the name cannot be read or copied. -/
def buildThingC (name : TextView) : Act ε β ρ Address :=
  match name.asBytes with
  | .error _ => pure 0
  | .ok bytes => if Allocation.grants (max name.length 1) then storeThingC bytes else pure 0

/-- Build an object. -/
def newThingC (name : TextView) (slot : ErrorSlot) : Act ε β ρ (Address × ErrorSlot) := do
  let a ← buildThingC name
  return (a, if a = 0 then outOfMemory slot else slot)

/-- Build an object, then refuse its name. The object is returned all the same. -/
def newRejecting (name : TextView) (slot : ErrorSlot) : Act ε β ρ (Address × ErrorSlot) := do
  let a ← buildThingC name
  return (a, raise slot rejectedCode "name rejected")

/-- Return nothing and say nothing. -/
def newExhausted (_name : TextView) (slot : ErrorSlot) : Act ε β ρ (Address × ErrorSlot) :=
  pure (0, slot)

/-- A byte array with room for `n` bytes. -/
def newByteVec (n : Nat) : Act ε β ρ (ForeignVec ByteVec) := do
  match ByteVec.reserve Allocation.grants {} n with
  | (false, _) => return none
  | (true, v) =>
    Act.modify fun s => { s with liveByteVecs := s.liveByteVecs + 1 }
    return some v

/-- Free a byte array. -/
def dropByteVec (v : ForeignVec ByteVec) : Act ε β ρ Unit :=
  match v with
  | none => pure ()
  | some _ => Act.modify fun s => { s with liveByteVecs := s.liveByteVecs - 1 }

/-- The last byte of a square in 32 bits. -/
def square (i : Nat) : UInt8 := (i.toUInt32 * i.toUInt32).toUInt8

/-- Print `y` and free it, take `x` back and destroy it, and answer with the first `z` squares. -/
def doThing (hooks : Hooks ε β ρ) (z : Int) (y x : Handle) (slot : ErrorSlot) :
    Act ε β ρ (ForeignVec ByteVec × ErrorSlot) := do
  let (printed, slot) ← printR y slot
  freeThingR hooks y
  destroyThingC (← Objects.take .thingC x)
  if !printed then return (none, slot)
  if z < 0 then return (none, raise slot badArgumentCode "negative length")
  match ← newByteVec z.toNat with
  | none => return (none, outOfMemory slot)
  | some v => return (some (v.pushEach Allocation.grants ((List.range z.toNat).map square)), slot)

/-- Print a host object twice, unless the first time fails. -/
def describeR (h : Handle) (slot : ErrorSlot) : Act ε β ρ (Bool × ErrorSlot) := do
  let (printed, slot) ← printR h slot
  if printed then printR h slot else return (false, slot)

/-- The sum of the bytes of a view; 0 for a null one. -/
def sumBytes (v : View UInt8) : Nat :=
  if v.isNull then 0 else (v.items.getD []).foldl (fun n b => n + b.toNat) 0

/-- A byte array with the bytes of a view. -/
def copyBytes (v : View UInt8) (slot : ErrorSlot) : Act ε β ρ (ForeignVec ByteVec × ErrorSlot) := do
  if v.isNull ∧ ¬ v.isEmpty then return (none, raise slot badArgumentCode "null view")
  match ← newByteVec v.length with
  | none => return (none, outOfMemory slot)
  | some b =>
    let bytes := v.items.getD []
    return (some { b with memory := bytes.toArray, length := bytes.length }, slot)

/-- Call a callback with `i`, `i + 1`, …, `n` times or until it has raised. The callback works on a
context `γ`. -/
def applyLoop {γ : Type} (callback : γ → Nat → ErrorSlot → Act ε β ρ (γ × ErrorSlot)) :
    Nat → Nat → γ → ErrorSlot → Act ε β ρ (Bool × γ × ErrorSlot)
  | 0, _, c, slot => pure (true, c, slot)
  | n + 1, i, c, slot => do
    let (c, slot) ← callback c i slot
    if slot.isRaised then return (false, c, slot) else applyLoop callback n (i + 1) c slot

/-- Call a callback with every number below `times`. -/
def apply {γ : Type} (callback : Option (γ → Nat → ErrorSlot → Act ε β ρ (γ × ErrorSlot)))
    (times : Int) (c : γ) (slot : ErrorSlot) : Act ε β ρ (Bool × γ × ErrorSlot) :=
  match callback with
  | none => pure (false, c, raise slot badArgumentCode "no callback")
  | some f => applyLoop f times.toNat 0 c slot

end Foreign

/-- A foreign listener: the sum of what it was called with, and how often it was released. -/
structure Listener where
  total : Nat := 0
  releases : Nat := 0
  deriving DecidableEq, Repr

/-- Call a listener. It raises on the largest 32-bit number. -/
def Listener.call (l : Listener) (arg : Nat) (slot : ErrorSlot) : Listener × ErrorSlot :=
  if arg = 0xffffffff then (l, Foreign.raise slot overflowCode "listener overflow")
  else ({ l with total := l.total + arg }, slot)

/-- A sample. The weight is the bit pattern of a double. -/
structure Sample where
  id : UInt32
  weight : UInt64
  flags : UInt8
  deriving DecidableEq, Repr

namespace Sample

/-- Whether a bit pattern of a double is not a number. -/
def isNaN (w : UInt64) : Bool := 0x7ff0000000000000 < w &&& 0x7fffffffffffffff

/-- Equality of doubles: no NaN equals anything, and the zeros are equal. -/
def sameWeight (v w : UInt64) : Bool :=
  !isNaN v && !isNaN w && (v = w || (v ||| w) &&& 0x7fffffffffffffff = 0)

/-- Equality field by field, the weights compared as doubles. -/
def same (s t : Sample) : Bool := s.id = t.id && sameWeight s.weight t.weight && s.flags = t.flags

def rotateLeft (w : UInt64) (n : UInt64) : UInt64 := (w <<< n) ||| (w >>> (64 - n))

/-- A number that depends on every field and on nothing else. -/
def checksum (s : Sample) : UInt64 :=
  rotateLeft (s.id.toUInt64 * 0x9e3779b97f4a7c15) 17 ^^^ s.weight ^^^ (s.flags.toUInt64 <<< 56)

end Sample
end Demo
end Causeway
