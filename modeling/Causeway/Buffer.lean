import Causeway.Boundary

/-!
# Causeway.Buffer

Output buffers of the other side: a view of bytes that is written to.

* `Buffer.writable` — how many bytes can be written, under the rules of every view.
* `Buffer.ofLength` — the leading part of a given length.
* `Buffer.fill`     — the buffer with its leading bytes replaced.
* `Buffer.copyOut`  — bytes copied to the front of a buffer of the foreign side.
-/

namespace Causeway

/-- A view of bytes to write to. -/
abbrev Buffer := View UInt8

namespace Buffer

/-- All of the buffer, by its length. -/
def writable (b : Buffer) : Except Failure Nat :=
  (b.read "output buffer" 1).mapError View.Refusal.failure |>.map fun _ => b.length

/-- The leading part of length `want`. A buffer that is too short is refused before it is looked
at. -/
def ofLength (b : Buffer) (want : Nat) : Except Failure Nat := do
  if b.length < want then
    throw (.invalidInput s!"buffer.len() ({b.length}) must be >= {want}")
  let _ ← b.writable
  return want

/-- The bytes after `source` is written over the leading part. -/
def fill (b : Buffer) (source : List UInt8) : Buffer :=
  { b with items := b.items.map fun old => source ++ old.drop source.length }

/-- A number of bytes as a signed word. -/
def signed (n : Nat) : Except Failure Int :=
  if n ≤ maxBufferSize then .ok n
  else .error (.invalidInput "length overflow: out of range integral type conversion attempted")

/-- Copy a byte vector of the host, or the null one, to the front of the buffer that the foreign side passed, which is
the state here. The answer is the number of bytes copied, or -1. -/
def copyOut {τ ε β : Type} (source : Option (List UInt8)) (slot : ErrorSlot) : Act τ ε β Buffer (Int × ErrorSlot) :=
  Boundary.call (Passage.plain (-1)) slot do
    let bytes := source.getD []
    let n ← Act.ofExcept ((← Act.get).ofLength bytes.length)
    Act.modify fun b => b.fill bytes
    Act.ofExcept (signed n)

end Buffer
end Causeway
