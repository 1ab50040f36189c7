import Causeway.Contracts

/-!
# Causeway.Contracts.Script

Scripts over two tables of contracts that start empty.
-/

namespace Causeway
namespace Contracts

inductive Op where
  | register (s : Signature)
  | verify (s : Signature)
  | verifyPeer (symbol : String) (fp : UInt64)
  | get (symbol : String)
  /-- Whether the two tables are equal. -/
  | equal

inductive Answer where
  | done (r : Except Failure Unit)
  | found (fp : Option UInt64)
  | flag (b : Bool)

/-- Two tables. -/
structure Tables where
  first : Contracts := {}
  second : Contracts := {}

def Tables.get (ts : Tables) (useSecond : Bool) : Contracts :=
  if useSecond then ts.second else ts.first

def Tables.set (ts : Tables) (useSecond : Bool) (t : Contracts) : Tables :=
  if useSecond then { ts with second := t } else { ts with first := t }

/-- One operation on one of the tables. A refused registration leaves the table as it was. -/
def Tables.step (ts : Tables) (useSecond : Bool) : Op → Tables × Answer
  | .register s =>
    match (ts.get useSecond).register s with
    | .ok t => (ts.set useSecond t, .done (.ok ()))
    | .error e => (ts, .done (.error e.failure))
  | .verify s => (ts, .done (((ts.get useSecond).verify s).mapError Refusal.failure))
  | .verifyPeer symbol fp =>
    (ts, .done (((ts.get useSecond).verifyPeer symbol fp).mapError Refusal.failure))
  | .get symbol => (ts, .found ((ts.get useSecond).get? symbol))
  | .equal => (ts, .flag (ts.first == ts.second))

/-- The answers of a list of operations, each with its table's size afterwards. -/
def Tables.run (ts : Tables) : List (Bool × Op) → List (Answer × Nat)
  | [] => []
  | (useSecond, op) :: rest =>
    let (ts', answer) := ts.step useSecond op
    (answer, (ts'.get useSecond).size) :: run ts' rest

end Contracts
end Causeway
