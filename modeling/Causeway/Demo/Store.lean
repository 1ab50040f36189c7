import Causeway.Call
import Causeway.ObjectType
import Causeway.Sequence.ByteVec

/-!
# Causeway.Demo.Store

The objects of the demo bridge, and the host functions the foreign side calls on them.

* `Demo.Store`      — the demo's objects where they live, and its counters.
* `Demo.newThingR`, `Demo.printR`, … — the exported host functions, each with a slot.
* `Demo.destroyThingR`, `Demo.destroyThingC` — the destructors, which count.

`ρ` is what callers keep beside the demo's objects.
-/

namespace Causeway
namespace Demo

/-- A host object. -/
structure ThingR where
  value : Int
  name : String
  /-- How often it was printed. -/
  prints : Nat := 0
  deriving DecidableEq, Repr

structure Store (ρ : Type) where
  /-- The next address that nothing lives at. -/
  nextAddress : Address := 1
  thingsR : List (Address × ThingR) := []
  /-- The names of the foreign objects. -/
  thingsC : List (Address × List UInt8) := []
  /-- How many objects of either kind were destroyed. -/
  drops : Nat := 0
  /-- How many byte arrays the foreign side has allocated and not freed. -/
  liveByteVecs : Nat := 0
  rest : ρ

/-- A computation of the demo. -/
abbrev Act (ε β ρ α : Type) := Causeway.Act ObjectType ε β (Store ρ) α

/-- The destructors of every type, and how rollbacks run. -/
structure Hooks (ε β ρ : Type) where
  finalize : Finalizer ObjectType ε β (Store ρ)
  undo : β → Act ε β ρ Unit

variable {ε β ρ : Type}

/-- An address that nothing lives at. -/
def allocate : Act ε β ρ Address := fun w =>
  (.ok w.state.nextAddress,
    { w with state := { w.state with nextAddress := w.state.nextAddress + 1 } })

/-- Put a host object on the heap. -/
def storeThingR (thing : ThingR) : Act ε β ρ Address := do
  let a ← allocate
  Act.modify fun s => { s with thingsR := (a, thing) :: s.thingsR }
  return a

/-- Put a foreign object on the heap. -/
def storeThingC (name : List UInt8) : Act ε β ρ Address := do
  let a ← allocate
  Act.modify fun s => { s with thingsC := (a, name) :: s.thingsC }
  return a

def thingRAt (a : Address) : Act ε β ρ ThingR := do
  return ((← Act.get).thingsR.lookup a).getD ⟨0, "", 0⟩

def thingCAt (a : Address) : Act ε β ρ (List UInt8) := do
  return ((← Act.get).thingsC.lookup a).getD []

/-- The destructor of host objects. -/
def destroyThingR (a : Address) : Act ε β ρ Unit :=
  Act.modify fun s => { s with thingsR := s.thingsR.filter (·.1 ≠ a), drops := s.drops + 1 }

/-- The destructor of foreign objects. There is nothing to destroy at 0. -/
def destroyThingC (a : Address) : Act ε β ρ Unit :=
  if a = 0 then pure ()
  else Act.modify fun s => { s with thingsC := s.thingsC.filter (·.1 ≠ a), drops := s.drops + 1 }

/-- Where the code of the destructor of foreign objects is. -/
def thingCDestructor : Address := 1

/-- Print a host object. -/
def print (a : Address) : Act ε β ρ Unit := do
  let thing ← thingRAt a
  Act.modify fun s => { s with
    thingsR := s.thingsR.map fun (b, t) => if b = a then (b, { t with prints := t.prints + 1 }) else (b, t) }
  Act.log .info s!"called back with r={thing.value}"

/-- Register a host object, held by the host. -/
def createThingR (hooks : Hooks ε β ρ) (value : Int) (name : String) : Act ε β ρ Handle := do
  let a ← storeThingR ⟨value, name, 0⟩
  Objects.create hooks.finalize .thingR a

/-- Make a host object for the foreign side. -/
def newThingR (hooks : Hooks ε β ρ) (value : Int) (name : TextView) (slot : ErrorSlot) :
    Act ε β ρ (Handle × ErrorSlot) :=
  Boundary.call (Passage.ownership .thingR) slot do
    let name ← Act.ofExcept name.materialize
    createThingR hooks value name

/-- The number of a host object; -1 after a failure. -/
def valueOfThingR (h : Handle) (slot : ErrorSlot) : Act ε β ρ (Int × ErrorSlot) :=
  Boundary.call (Passage.plain (-1)) slot do
    return (← thingRAt (← h.resolveRef .thingR)).value

/-- The name of a host object; null after a failure. -/
def nameOfThingR (h : Handle) (slot : ErrorSlot) : Act ε β ρ (OwnedText × ErrorSlot) :=
  Boundary.call (Passage.through OwnedText.ofText .null) slot do
    return (← thingRAt (← h.resolveRef .thingR)).name

/-- Print a host object, and say whether that was done. -/
def printR (h : Handle) (slot : ErrorSlot) : Act ε β ρ (Bool × ErrorSlot) :=
  Boundary.call Passage.completion slot do
    print (← h.resolveRef .thingR)

/-- Destroy a host object the foreign side holds. -/
def freeThingR (hooks : Hooks ε β ρ) (h : Handle) : Act ε β ρ Unit :=
  Boundary.infallible (Passage.plain ()) (Objects.free hooks.finalize .thingR h)

end Demo
end Causeway
