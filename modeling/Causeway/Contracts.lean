import Causeway.Failure
import Causeway.Signature

/-!
# Causeway.Contracts

The table of every function both sides agreed on.

* `Contracts`            — fingerprints by symbol.
* `Contracts.register`   — the first signature of a symbol stays.
* `Contracts.verifyPeer` — whether a symbol is known under a fingerprint.
* `Contracts.install`    — one table for the whole process.
-/

namespace Causeway

/-- Fingerprints by symbol, each symbol once, the newest first. -/
structure Contracts where
  entries : List (String × UInt64) := []
  deriving Repr

namespace Contracts

def empty : Contracts := {}

def size (t : Contracts) : Nat := t.entries.length

def isEmpty (t : Contracts) : Bool := t.entries.isEmpty

def get? (t : Contracts) (symbol : String) : Option UInt64 := t.entries.lookup symbol

/-- Tables are equal when they hold the same fingerprints, in whatever order they came. -/
def same (t u : Contracts) : Bool :=
  t.size = u.size && t.entries.all fun (symbol, fp) => u.get? symbol = some fp

instance : BEq Contracts where
  beq := same

inductive Refusal where
  /-- A symbol is already known under another fingerprint. -/
  | conflict (symbol : String)
  | missing (symbol : String)
  | differs (symbol : String) (found expected : UInt64)
  | otherTable
  deriving DecidableEq, Repr

def Refusal.failure : Refusal → Failure
  | .conflict s => .contract (s ++ " is registered with two different signatures")
  | .missing s => .contract (s ++ " is not in the contract table")
  | .differs s found expected =>
    .contract (s ++ " has fingerprint " ++ Hex.word found ++ ", expected " ++ Hex.word expected)
  | .otherTable => .contract "a different contract table is already installed"

/-- Enter a fingerprint. The same entry twice is fine; two fingerprints for one symbol are not. -/
def enter (t : Contracts) (symbol : String) (fp : UInt64) : Except Refusal Contracts :=
  match t.get? symbol with
  | none => .ok ⟨(symbol, fp) :: t.entries⟩
  | some known => if known = fp then .ok t else .error (.conflict symbol)

/-- Enter a signature. -/
def register (t : Contracts) (s : Signature) : Except Refusal Contracts :=
  t.enter s.symbol s.fingerprint

/-- Enter several signatures, up to the first that is refused. -/
def registerAll (t : Contracts) (ss : List Signature) : Except Refusal Contracts :=
  ss.foldlM register t

/-- The other side's view of a function against the table. -/
def verifyPeer (t : Contracts) (symbol : String) (fp : UInt64) : Except Refusal Unit :=
  match t.get? symbol with
  | none => .error (.missing symbol)
  | some expected => if expected = fp then .ok () else .error (.differs symbol fp expected)

def verify (t : Contracts) (s : Signature) : Except Refusal Unit :=
  t.verifyPeer s.symbol s.fingerprint

/-- The table of the process after an attempt to install one. An equal table may be installed
again. -/
def install (installed : Option Contracts) (t : Contracts) : Except Refusal Contracts :=
  match installed with
  | none => .ok t
  | some known => if t == known then .ok known else .error .otherTable

end Contracts
end Causeway
