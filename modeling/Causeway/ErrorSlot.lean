import Causeway.View

/-!
# Causeway.ErrorSlot

The failure record a call leaves for its caller, and the slot it is left in.

* `Record`           — a code and a description.
* `ErrorSlot`        — absent when the caller passed none; otherwise empty or holding a record.
* `ErrorSlot.raise`  — how foreign code reports a failure: the first record stays.
* `ErrorSlot.store`  — how the host reports one: the last record stays.
* `ErrorSlot.result` — a callee's result read together with its slot.
-/

namespace Causeway

structure Record where
  code : Int
  description : OwnedText
  deriving DecidableEq, Repr

namespace Record

def ofFailure (f : Failure) : Record := ⟨f.code, .ofText f.message⟩

/-- The description, decoded forgivingly. -/
def describe (r : Record) : String := Utf8.lossy r.description.bytes

/-- The failure the host wrote. -/
def toFailure (r : Record) : Failure := Failure.ofCode r.code r.describe

/-- The failure a foreign callee meant. -/
def toCallee (r : Record) : Failure := Failure.ofCallee r.code r.describe

def debug (r : Record) : String :=
  s!"McError \x7b error_code: {r.code}, error_description: " ++ r.description.debug ++ " \x7d"

end Record

inductive ErrorSlot where
  | absent
  | empty
  | holding (record : Record)
  deriving DecidableEq, Repr

namespace ErrorSlot

def record? : ErrorSlot → Option Record
  | .holding r => some r
  | _ => none

def isRaised (s : ErrorSlot) : Bool := s.record?.isSome

/-- What a message view says: its text decoded forgivingly, or why it cannot be read. -/
def description (message : TextView) : String :=
  match message.asBytes with
  | .ok bytes => Utf8.lossy bytes
  | .error f => f.display

/-- Report a failure from foreign code. A slot that holds a record keeps it. -/
def raise (slot : ErrorSlot) (code : Int) (message : TextView) : ErrorSlot :=
  match slot with
  | .empty => .holding ⟨code, .ofText (description message)⟩
  | s => s

/-- Report a failure from the host, replacing what the slot held. -/
def store (slot : ErrorSlot) (f : Failure) : ErrorSlot :=
  match slot with
  | .absent => .absent
  | _ => .holding (.ofFailure f)

/-- A callee's value, unless it left a record. -/
def result {α : Type} (slot : ErrorSlot) (value : α) : Except Failure α :=
  match slot with
  | .holding r => .error r.toCallee
  | _ => .ok value

end ErrorSlot

/-- A failure a foreign function is to raise. -/
structure Raise where
  code : Int
  message : TextView
  deriving DecidableEq, Repr

end Causeway
