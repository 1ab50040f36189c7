import Causeway.Text.Quoted

/-!
# Causeway.Failure

Every failure that can cross the boundary.

* `Failure`         — the kinds, each with the detail it carries.
* `Failure.code`    — the number a kind travels as; a callee's failure travels as its own code.
* `Failure.ofCode`  — the failure the bridge itself wrote under a code.
* `Failure.ofCallee` — the failure a foreign callee meant by a code.
* `Failure.isFatal` — a broken contract or lifetime; boundary code ends the process on it.
-/

namespace Causeway

inductive Failure where
  | unknown
  | panic (message : String)
  | invalidInput (message : String)
  | allocation (message : String)
  | encoding (message : String)
  | contract (message : String)
  | lifetime (message : String)
  | callee (code : Int) (message : String)
  deriving DecidableEq, Repr

namespace Failure

/-- The codes of the bridge's own kinds. -/
def code : Failure → Int
  | .unknown => -1
  | .panic _ => -2
  | .invalidInput _ => 100
  | .allocation _ => 101
  | .encoding _ => 102
  | .contract _ => 200
  | .lifetime _ => 201
  | .callee code _ => code

/-- The detail without the kind. -/
def message : Failure → String
  | .unknown => "Unknown"
  | .panic m => m
  | .invalidInput m => m
  | .allocation m => m
  | .encoding m => m
  | .contract m => m
  | .lifetime m => m
  | .callee _ m => m

/-- Kind and detail, as written to logs. -/
def display : Failure → String
  | .unknown => "Unknown"
  | .panic m => "Rust panicked: " ++ m
  | .invalidInput m => "Invalid input: " ++ m
  | .allocation m => "Allocation failure: " ++ m
  | .encoding m => "Encoding failure: " ++ m
  | .contract m => "Contract violation: " ++ m
  | .lifetime m => "Lifetime violation: " ++ m
  | .callee code m => s!"Callee failed with code {code}: " ++ m

/-- The name of a kind. -/
def kind : Failure → String
  | .unknown => "Unknown"
  | .panic _ => "Panic"
  | .invalidInput _ => "InvalidInput"
  | .allocation _ => "AllocationFailure"
  | .encoding _ => "EncodingFailure"
  | .contract _ => "ContractViolation"
  | .lifetime _ => "LifetimeViolation"
  | .callee _ _ => "CalleeFailure"

/-- A diagnostic that shows the detail quoted. -/
def debug : Failure → String
  | .unknown => "Unknown"
  | .callee code m =>
    s!"CalleeFailure \x7b code: {code}, message: " ++ Quoted.text m ++ " \x7d"
  | f => f.kind ++ "(" ++ Quoted.text f.message ++ ")"

/-- The failure the bridge wrote under a code. A code it does not own is a callee's. -/
def ofCode (code : Int) (message : String) : Failure :=
  if code = -1 then .unknown
  else if code = -2 then .panic message
  else if code = 100 then .invalidInput message
  else if code = 101 then .allocation message
  else if code = 102 then .encoding message
  else if code = 200 then .contract message
  else if code = 201 then .lifetime message
  else .callee code message

/-- The code a foreign callee raises when it cannot allocate. -/
def calleeAllocation : Int := -101

/-- The code a foreign callee raises when it cannot decode text. -/
def calleeEncoding : Int := -102

/-- The failure a foreign callee meant. Only its two own codes name kinds of the bridge; the
bridge's codes are the callee's when the callee raises them. -/
def ofCallee (code : Int) (message : String) : Failure :=
  if code = calleeAllocation then .allocation message
  else if code = calleeEncoding then .encoding message
  else .callee code message

def isFatal : Failure → Bool
  | .contract _ => true
  | .lifetime _ => true
  | _ => false

/-- The kind with a given name, with its detail. -/
def ofKind? (kind message : String) (code : Int) : Option Failure :=
  match kind with
  | "Unknown" => some .unknown
  | "Panic" => some (.panic message)
  | "InvalidInput" => some (.invalidInput message)
  | "AllocationFailure" => some (.allocation message)
  | "EncodingFailure" => some (.encoding message)
  | "ContractViolation" => some (.contract message)
  | "LifetimeViolation" => some (.lifetime message)
  | "CalleeFailure" => some (.callee code message)
  | _ => none

/-- Text that is not UTF-8, after `n` bytes that were. -/
def notUtf8 (n : Nat) : Failure := .encoding s!"invalid UTF-8 after {n} valid bytes"

/-- A value of a named type that no memory could be had for. -/
def noMemory (typeName : String) (size : Nat) : Failure :=
  .allocation (s!"Failed to allocate {size} bytes for " ++ typeName)

end Failure
end Causeway
