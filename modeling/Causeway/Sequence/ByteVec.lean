import Causeway.Sequence.Foreign

/-!
# Causeway.Sequence.ByteVec

A growable array of bytes in memory that its owner allocates.

* `ByteVec`         — memory, the number of bytes in use, and how many there is room for.
* `ByteVec.reserve` — room grows to what is needed, at least doubling, and never below eight.
* `ByteVec.push`    — writes after the bytes in use.
* `ByteVec.owner`   — the array behind the functions of an owner.

The allocator is a parameter, so that a request may be refused at any call.
-/

namespace Causeway

/-- An array of bytes. `memory` is the part of the allocated memory that was ever written. -/
structure ByteVec where
  memory : Array UInt8 := #[]
  length : Nat := 0
  capacity : Nat := 0
  deriving DecidableEq, Repr

namespace ByteVec

/-- The bytes in use. -/
def items (v : ByteVec) : List UInt8 := (v.memory.extract 0 v.length).toList

/-- The capacity asked for when `needed` bytes do not fit. -/
def grown (v : ByteVec) (needed : Nat) : Nat :=
  max (max needed (min (2 * v.capacity) (wordLimit - 1))) 8

/-- Make room for more bytes. -/
def reserve (grants : Nat → Bool) (v : ByteVec) (additional : Nat) : Bool × ByteVec :=
  let needed := v.length + additional
  if wordLimit ≤ needed then (false, v)
  else if needed ≤ v.capacity then (true, v)
  else if grants (v.grown needed) then (true, { v with capacity := v.grown needed })
  else (false, v)

/-- Store a byte; the place after the last one ever written is the first new one. -/
def write (memory : Array UInt8) (i : Nat) (b : UInt8) : Array UInt8 :=
  if i < memory.size then memory.setIfInBounds i b else memory.push b

/-- Append a byte. -/
def push (grants : Nat → Bool) (v : ByteVec) (b : UInt8) : Bool × ByteVec :=
  match v.reserve grants 1 with
  | (false, v') => (false, v')
  | (true, v') => (true, { v' with memory := write v'.memory v'.length b, length := v'.length + 1 })

/-- Keep at most the first `n` bytes. -/
def truncate (v : ByteVec) (n : Nat) : ByteVec := { v with length := min v.length n }

/-- Push bytes in turn, whether or not each succeeds. -/
def pushEach (grants : Nat → Bool) (v : ByteVec) (bytes : List UInt8) : ByteVec :=
  bytes.foldl (fun v b => (v.push grants b).2) v

/-- The functions of the owner. An array that never had room has no address. -/
def owner (grants : Nat → Bool) : Owner ByteVec UInt8 where
  length := length
  address v := if v.capacity = 0 then 0 else View.dataAddress
  items := items
  reserve := reserve grants
  push := push grants
  truncate := truncate

end ByteVec
end Causeway
