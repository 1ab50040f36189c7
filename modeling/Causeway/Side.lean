/-!
# Causeway.Side

The two sides of the boundary. The host runs the bridge; the foreign side is reached through it.
-/

namespace Causeway

inductive Side where
  | host
  | foreign
  deriving DecidableEq, Repr

namespace Side

def other : Side → Side
  | .host => .foreign
  | .foreign => .host

/-- The word for a side in messages and signature texts. -/
def name : Side → String
  | .host => "host"
  | .foreign => "foreign"

@[simp] theorem other_other (s : Side) : s.other.other = s := by cases s <;> rfl

theorem other_ne (s : Side) : s.other ≠ s := by cases s <;> decide

end Side
end Causeway
