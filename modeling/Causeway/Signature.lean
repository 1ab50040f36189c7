import Causeway.Digest.Sha256
import Causeway.Scalar
import Causeway.Side
import Causeway.Text.Hex
import Causeway.Text.Joined
import Causeway.Text.Utf8

/-!
# Causeway.Signature

What a function of the bridge takes and returns.

* `Kind`                  — the kinds of values that cross, callbacks included.
* `Signature`             — a function of one side as the other side calls it.
* `Signature.symbol`      — the name it is linked under.
* `Signature.canonical`   — the text that says everything about it.
* `Signature.fingerprint` — a digest of that text.
-/

namespace Causeway

/-- The version of the calling conventions. -/
def abiVersion : Nat := 1

/-- How a handle is passed. -/
inductive Passing where
  | value
  | reference
  | ownership
  deriving DecidableEq, Repr

def Passing.name : Passing → String
  | .value => "val"
  | .reference => "ref"
  | .ownership => "own"

/-- A kind of value that crosses the boundary. -/
inductive Kind where
  | unit
  | scalar (s : Scalar)
  | text
  | bytes
  | ownedText
  | ownedBytes
  | foreignBytes
  | handle (typeName : String) (passing : Passing)
  | shared (name : String) (fingerprint : UInt64)
  | callback (args : List Kind)
  deriving Inhabited

mutual

def Kind.display : Kind → String
  | .unit => "unit"
  | .scalar s => s.name
  | .text => "text"
  | .bytes => "bytes"
  | .ownedText => "string"
  | .ownedBytes => "vec<u8>"
  | .foreignBytes => "foreign_vec<u8>"
  | .handle t p => p.name ++ " handle<" ++ t ++ ">"
  | .shared n fp => "shared " ++ n ++ "#" ++ Hex.word fp
  | .callback args => "fn(" ++ joined ", " (Kind.displays args) ++ ")"

def Kind.displays : List Kind → List String
  | [] => []
  | k :: ks => k.display :: Kind.displays ks

end

/-- A function of one side that the other side calls. -/
structure Signature where
  namespacePath : String
  name : String
  callee : Side
  args : List (String × Kind) := []
  returns : Kind := .unit
  fallible : Bool := false

namespace Signature

/-- Every pair of colons, taken from the left, becomes one dollar sign. -/
def flatten : List Char → List Char
  | ':' :: ':' :: cs => '$' :: flatten cs
  | c :: cs => c :: flatten cs
  | [] => []

/-- The name the function is linked under. -/
def symbol (s : Signature) : String :=
  s!"mcbridge{abiVersion}$" ++ String.ofList (flatten s.namespacePath.toList) ++ "$" ++ s.name

/-- The whole signature as a text. -/
def canonical (s : Signature) : String :=
  s!"v{abiVersion} " ++ s.callee.name ++ " " ++ s.namespacePath ++ "::" ++ s.name
    ++ "(" ++ joined ", " (s.args.map fun (n, k) => n ++ ": " ++ k.display) ++ ") -> "
    ++ s.returns.display ++ (if s.fallible then " fallible" else "")

def fingerprint (s : Signature) : UInt64 := Causeway.fingerprint (utf8 s.canonical)

end Signature
end Causeway
