/-!
# Causeway.Handle

The identifier of a registered object: a slot and the generation the slot had when the object was
registered. Generation 0 is never issued, so a handle of generation 0 names nothing.
-/

namespace Causeway

structure Handle where
  index : Nat
  generation : Nat
  deriving DecidableEq, Repr

namespace Handle

def null : Handle := ⟨0, 0⟩

def isNull (h : Handle) : Bool := h.generation = 0

/-- Slot and generation with a `v` between them. -/
def text (h : Handle) : String := s!"{h.index}v{h.generation}"

end Handle

/-- Where an object lives. Nothing lives at 0. -/
abbrev Address := Nat

end Causeway
