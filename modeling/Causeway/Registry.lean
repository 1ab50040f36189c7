import Causeway.Allocation
import Causeway.Handle
import Causeway.Side

/-!
# Causeway.Registry

The objects of one type that are known across the boundary.

* `Destructor`        — how an object is destroyed: as a value of the host, or by a function of the foreign side.
* `Registry`          — slots tagged by generation, the slots that can be used again, and counters.
* `Registry.insert`   — a new handle for an object, held by the host.
* `Registry.remove`   — the object leaves its slot, whose generation moves on.
* `Registry.lookup`   — the object a handle names, if it names one now.
* `Registry.Refusal`  — why an operation did nothing.

An object is held by the side that is to destroy it. While it is lent it is neither destroyed nor handed
over. Removing an object makes every handle that named it stale; a slot whose generations are used up
is not used again.
-/

namespace Causeway

/-- How an object is destroyed. -/
inductive Destructor where
  /-- The host drops the value. -/
  | native
  /-- A function of the foreign side, by the address of its code. -/
  | foreign (code : Address)
  deriving DecidableEq, Repr

/-- The side that makes the objects destroyed so. -/
def Destructor.side : Destructor → Side
  | .native => .host
  | .foreign _ => .foreign

/-- A registered object. -/
structure Entry where
  address : Address
  destructor : Destructor
  holder : Side
  loans : Nat
  deriving DecidableEq, Repr

structure Slot where
  generation : Nat
  entry : Option Entry
  deriving DecidableEq, Repr

/-- The counters have 64 bits each and are exact as long as fewer than `wordLimit` objects were registered. -/
structure Registry where
  typeName : String
  /-- The full name of the type, for the log. -/
  typePath : String
  /-- The side that makes and destroys objects of the type. -/
  owner : Side
  slots : Array Slot := #[]
  /-- Vacant slots, the next to be used first. -/
  free : List Nat := []
  created : Nat := 0
  destroyed : Nat := 0
  released : Nat := 0
  deriving DecidableEq, Repr

namespace Registry

/-- Slots, generations and loans are counted in 32 bits. -/
def counterLimit : Nat := 0x100000000

/-- The generation at which a slot retires. -/
def lastGeneration : Nat := counterLimit - 1

/-- Why a registry refused an operation. -/
inductive Refusal where
  | null (typeName : String)
  | stale (typeName : String) (h : Handle)
  | heldByOther (typeName : String) (h : Handle) (claimant holder : Side)
  | destroyedWhileLent (typeName : String) (h : Handle)
  | notHolder (typeName : String) (h : Handle) (holder claimant : Side)
  | lent (typeName : String) (h : Handle)
  | outsideCall (typeName : String) (h : Handle)
  | tooManyLoans (typeName : String) (h : Handle)
  | loanEndedTwice (typeName : String) (h : Handle)
  | wrongOwner (typeName : String) (owner claimant : Side)
  | nothingToAdopt (typeName : String)
  | nullObject (typeName : String)
  | full (typeName : String)
  | noRoom
  | noMemory (typePath : String) (size : Nat)
  | nullConstructed (typeName : String)
  deriving DecidableEq, Repr

def Refusal.failure : Refusal → Failure
  | .null t => .lifetime ("null " ++ t ++ " handle")
  | .stale t h =>
    .lifetime ("stale " ++ t ++ " handle " ++ h.text ++ ": its object was already destroyed")
  | .heldByOther t h claimant holder =>
    .lifetime ("the " ++ claimant.name ++ " side cannot destroy " ++ t ++ " " ++ h.text
      ++ " held by the " ++ holder.name ++ " side")
  | .destroyedWhileLent t h =>
    .lifetime (t ++ " " ++ h.text ++ " destroyed while lent to an active call")
  | .notHolder t h holder claimant =>
    .lifetime (t ++ " " ++ h.text ++ " is held by the " ++ holder.name ++ " side, not the "
      ++ claimant.name ++ " side")
  | .lent t h => .lifetime (t ++ " " ++ h.text ++ " is lent to an active call")
  | .outsideCall t h =>
    .lifetime ("reference to " ++ t ++ " " ++ h.text ++ " used outside the call it was lent to")
  | .tooManyLoans t h => .contract ("too many loans of " ++ t ++ " " ++ h.text)
  | .loanEndedTwice t h => .lifetime ("loan of " ++ t ++ " " ++ h.text ++ " ended twice")
  | .wrongOwner t owner claimant =>
    .contract (t ++ " is owned by the " ++ owner.name ++ " side, not the " ++ claimant.name ++ " side")
  | .nothingToAdopt t => .allocation ("no " ++ t ++ " object to adopt")
  | .nullObject t => .allocation ("null " ++ t ++ " object")
  | .full t => .allocation (t ++ " registry is full")
  | .noRoom => Allocation.Refusal.exhausted.failure
  | .noMemory path size => .noMemory path size
  | .nullConstructed t => .allocation ("foreign constructor of " ++ t ++ " returned null")

/-- The object a handle names. -/
def lookup (r : Registry) (h : Handle) : Except Refusal Entry :=
  if h.isNull then .error (.null r.typeName)
  else
    match r.slots[h.index]? with
    | some ⟨generation, some entry⟩ =>
      if generation = h.generation then .ok entry else .error (.stale r.typeName h)
    | _ => .error (.stale r.typeName h)

/-- The registry with the object of a handle changed. -/
def put (r : Registry) (h : Handle) (e : Entry) : Registry :=
  { r with slots := r.slots.setIfInBounds h.index ⟨h.generation, some e⟩ }

/-- Whether a side makes the objects of this type. -/
def expectOwner (r : Registry) (side : Side) : Except Refusal Unit :=
  if r.owner = side then .ok () else .error (.wrongOwner r.typeName r.owner side)

/-- Register an object with its destructor, held by the host, in the slot that was vacated last or else in a new one.
`room` says whether memory for a new slot can be had. -/
def insert (r : Registry) (a : Address) (d : Destructor) (room : Bool := true) : Except Refusal (Handle × Registry) :=
  let entry : Entry := ⟨a, d, .host, 0⟩
  if a = 0 then .error (.nullObject r.typeName)
  else
    match r.free with
    | i :: rest =>
      match r.slots[i]? with
      | some slot =>
        .ok (⟨i, slot.generation⟩,
          { r with
            slots := r.slots.setIfInBounds i ⟨slot.generation, some entry⟩
            free := rest
            created := r.created + 1 })
      | none => .error (.full r.typeName)
    | [] =>
      if counterLimit ≤ r.slots.size then .error (.full r.typeName)
      else if room then
        .ok (⟨r.slots.size, 1⟩,
          { r with slots := r.slots.push ⟨1, some entry⟩, created := r.created + 1 })
      else .error .noRoom

/-- Take an object out of its slot. The slot moves to its next generation, and can be used again
unless that is the last. -/
def remove (r : Registry) (h : Handle) (claimant : Side) : Except Refusal (Entry × Registry) :=
  match r.lookup h with
  | .error e => .error e
  | .ok entry =>
    if entry.holder ≠ claimant then .error (.heldByOther r.typeName h claimant entry.holder)
    else if 0 < entry.loans then .error (.destroyedWhileLent r.typeName h)
    else
      let generation := (h.generation + 1) % counterLimit
      .ok (entry,
        { r with
          slots := r.slots.setIfInBounds h.index ⟨generation, none⟩
          free := if generation = lastGeneration then r.free else h.index :: r.free })

/-- Take an object out and count it as given back to its owner. -/
def release (r : Registry) (h : Handle) (claimant : Side) : Except Refusal (Address × Registry) :=
  match r.remove h claimant with
  | .error e => .error e
  | .ok (entry, r') => .ok (entry.address, { r' with released := r'.released + 1 })

/-- Count a destructor that ran. -/
def noteDestroyed (r : Registry) : Registry := { r with destroyed := r.destroyed + 1 }

/-- Where a live object is. -/
def resolve (r : Registry) (h : Handle) : Except Refusal Address :=
  (r.lookup h).map Entry.address

/-- Where an object named by reference is. With `check`, an object the host holds must be lent. -/
def resolveRef (r : Registry) (h : Handle) (check : Bool) : Except Refusal Address :=
  match r.lookup h with
  | .error e => .error e
  | .ok entry =>
    if check ∧ entry.loans = 0 ∧ entry.holder = .host then .error (.outsideCall r.typeName h)
    else .ok entry.address

/-- One more open call has the object. -/
def lend (r : Registry) (h : Handle) : Except Refusal Registry :=
  match r.lookup h with
  | .error e => .error e
  | .ok entry =>
    if counterLimit ≤ entry.loans + 1 then .error (.tooManyLoans r.typeName h)
    else .ok (r.put h { entry with loans := entry.loans + 1 })

/-- One open call fewer has the object. -/
def endLoan (r : Registry) (h : Handle) : Except Refusal Registry :=
  match r.lookup h with
  | .error e => .error e
  | .ok entry =>
    if entry.loans = 0 then .error (.loanEndedTwice r.typeName h)
    else .ok (r.put h { entry with loans := entry.loans - 1 })

/-- Hand an object from one side to the other. -/
def transfer (r : Registry) (h : Handle) (giver taker : Side) : Except Refusal Registry :=
  match r.lookup h with
  | .error e => .error e
  | .ok entry =>
    if entry.holder ≠ giver then .error (.notHolder r.typeName h entry.holder giver)
    else if 0 < entry.loans then .error (.lent r.typeName h)
    else .ok (r.put h { entry with holder := taker })

/-- The side that holds an object. -/
def holder (r : Registry) (h : Handle) : Except Refusal Side := (r.lookup h).map Entry.holder

/-- Objects created and neither destroyed nor given back. -/
def live (r : Registry) : Nat := r.created - (r.destroyed + r.released)

end Registry

/-- One registry for each type. -/
abbrev Registries (τ : Type) := τ → Registry

/-- The registries with one of them replaced. -/
def Registries.set {τ : Type} [DecidableEq τ] (rs : Registries τ) (t : τ) (r : Registry) :
    Registries τ :=
  fun u => if u = t then r else rs u

end Causeway
