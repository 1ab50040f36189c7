import Causeway.Failure

/-!
# Causeway.Allocation

When room for more elements can be had. A request for more bytes than a buffer may hold is refused
outright; a smaller one is refused when the allocator cannot serve it. What allocates takes the allocator as a
parameter; where none is named it is `Allocation.grants`.
-/

namespace Causeway

/-- The largest size of a buffer in bytes. -/
def maxBufferSize : Nat := 0x7fffffffffffffff

/-- One more than the largest 64-bit number. -/
def wordLimit : Nat := 0x10000000000000000

namespace Allocation

/-- The address space of a process. -/
def limit : Nat := 0x800000000000

inductive Refusal where
  /-- More than any buffer may hold. -/
  | tooLarge
  /-- More than the allocator has. -/
  | exhausted
  deriving DecidableEq, Repr

def Refusal.failure : Refusal → Failure
  | .tooLarge =>
    .allocation "memory allocation failed because the computed capacity exceeded the collection's maximum"
  | .exhausted =>
    .allocation "memory allocation failed because the memory allocator returned an error"

/-- An allocator that serves every block below `limit`. -/
def grants (n : Nat) : Bool := n < limit

/-- Room for `additional` elements of `width` bytes after `length` of them, from an allocator that says which blocks it
serves. -/
def reserve (width length additional : Nat) (grants : Nat → Bool := grants) : Except Refusal Unit :=
  let bytes := (length + additional) * width
  if maxBufferSize < bytes then .error .tooLarge
  else if additional = 0 ∨ grants bytes then .ok ()
  else .error .exhausted

end Allocation
end Causeway
