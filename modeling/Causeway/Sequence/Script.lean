import Causeway.Sequence.ByteVec
import Causeway.Text.Joined

/-!
# Causeway.Sequence.Script

Scripts over named sequences of one element type.

* `Bounded`     — a foreign sequence that refuses to grow past its limits.
* `Stored`      — a sequence of any owner under a name.
* `Script.Op`   — an operation, with its answer in `Script.Answer`.
* `Script.run`  — the answers of a list of operations, with the calls that owners saw.
-/

namespace Causeway

/-- A foreign sequence with limits. A push fails at `limit` elements and room is refused past `room`. -/
structure Bounded where
  elements : Array Int
  limit : Option Nat := none
  room : Option Nat := none
  /-- Whether the owner hides where the elements are. -/
  hidden : Bool := false
  deriving DecidableEq, Repr

namespace Bounded

def reserve (b : Bounded) (n : Nat) : Bool × Bounded :=
  let needed := b.elements.size + n
  (decide (needed < wordLimit ∧ needed ≤ b.room.getD (wordLimit - 1)), b)

def push (b : Bounded) (x : Int) : Bool × Bounded :=
  if b.limit.any (· ≤ b.elements.size) then (false, b)
  else (true, { b with elements := b.elements.push x })

def owner : Owner Bounded Int where
  length b := b.elements.size
  address b := if b.hidden then 0 else View.dataAddress
  items b := b.elements.toList
  reserve := reserve
  push := push
  truncate b n := { b with elements := b.elements.extract 0 n }

end Bounded

/-- A sequence under a name. -/
inductive Stored where
  | host (items : List Int)
  /-- Handed over by ownership; null before anything was put in. -/
  | owned (items : Option (List Int))
  | foreign (v : ForeignVec Bounded)
  | bytes (v : ForeignVec ByteVec)
  deriving DecidableEq, Repr

/-- What an owner saw. -/
inductive OwnerEvent where
  | call (c : Owner.Call Int)
  | drop
  deriving DecidableEq, Repr

namespace Stored

/-- Byte arrays, read and written as integers. -/
def byteOwner : Owner ByteVec Int :=
  (ByteVec.owner Allocation.grants).mapItems (fun b => (b.toNat : Int)) fun i => i.toNat.toUInt8

def view : Stored → View Int
  | .host xs => View.borrow xs
  | .owned xs => View.borrow (xs.getD [])
  | .foreign v => Bounded.owner.view v
  | .bytes v => byteOwner.view v

/-- Run an operation that grows a sequence. A sequence handed over by ownership does not grow. -/
def grow (width : Nat) (op : {σ : Type} → Growable σ Int → σ → Except Failure Unit × σ) :
    Stored → Except Failure Unit × Stored × List OwnerEvent
  | .host xs =>
    let (r, xs') := op (Growable.host Int width) xs
    (r, .host xs', [])
  | .owned xs => (.ok (), .owned xs, [])
  | .foreign v =>
    let (r, v') := op (Bounded.owner.traced.growable width) (v.map (·, []))
    let calls := (v'.map fun s => s.2.reverse).getD []
    (r, .foreign (v'.map Prod.fst), calls.map OwnerEvent.call)
  | .bytes v =>
    let (r, v') := op (byteOwner.growable width) v
    (r, .bytes v', [])

/-- What the owner sees when a sequence is given up. -/
def dropEvents : Stored → List OwnerEvent
  | .foreign (some _) => [.drop]
  | _ => []

def isByteVec : Stored → Bool
  | .bytes (some _) => true
  | _ => false

end Stored

namespace Script

inductive Op where
  | define (name : String) (s : Stored)
  /-- An empty byte array of the foreign side. -/
  | byteVec (name : String)
  /-- A foreign copy of bytes. -/
  | copyBytes (name : String) (bytes : List UInt8)
  | liveByteVecs
  | extend (name : String) (v : View Int)
  | copy (source name : String)
  | reserve (name : String) (n : Nat)
  | append (name : String) (items : List Int)
  | info (name : String)
  | view (name : String)
  | intoHost (name : String)
  | byteView (bytes : List UInt8)
  | drop (name : String)
  deriving DecidableEq, Repr

inductive Answer where
  | done (r : Except Failure Unit)
  | count (n : Nat)
  | hostInfo (items : List Int)
  | ownedInfo (isNull : Bool) (items : List Int) (debug : String)
  | foreignInfo (length : Nat) (isNull : Bool) (items : Except Failure (List Int))
  | view (length : Nat) (items : Except Failure (List Int))
  | items (xs : List Int)
  | bytes (r : Except Failure (List UInt8))
  /-- There is no such sequence. -/
  | missing

/-- Named sequences, each name once. -/
abbrev Sequences := List (String × Stored)

/-- Put a sequence under a name; what the name stood for before is given up. -/
def put (seqs : Sequences) (name : String) (s : Stored) : Sequences × List OwnerEvent :=
  ((name, s) :: seqs.filter (·.1 ≠ name), ((seqs.lookup name).map Stored.dropEvents).getD [])

def live (seqs : Sequences) : Nat := seqs.countP fun (_, s) => s.isByteVec

/-- Replace a sequence without giving it up. -/
def update (seqs : Sequences) (name : String) (s : Stored) : Sequences :=
  seqs.map fun (n, old) => if n = name then (n, s) else (n, old)

/-- Decimal numbers in brackets. -/
def debugList (xs : List Int) : String := "[" ++ joined ", " (xs.map toString) ++ "]"

def grow (width : Nat) (seqs : Sequences) (name : String)
    (op : {σ : Type} → Growable σ Int → σ → Except Failure Unit × σ) :
    Sequences × Answer × List OwnerEvent :=
  match seqs.lookup name with
  | none => (seqs, .missing, [])
  | some s =>
    let (r, s', events) := s.grow width op
    (update seqs name s', .done r, events)

def describe (width : Nat) : Stored → Answer
  | .host xs => .hostInfo xs
  | .owned xs => .ownedInfo xs.isNone (xs.getD []) (debugList (xs.getD []))
  | .foreign v =>
    .foreignInfo (Bounded.owner.size v) v.isNone ((Bounded.owner.growable width).toList v)
  | .bytes v =>
    .foreignInfo (Stored.byteOwner.size v) v.isNone ((Stored.byteOwner.growable width).toList v)

/-- One operation. -/
def step (width : Nat) (seqs : Sequences) : Op → Sequences × Answer × List OwnerEvent
  | .define name s =>
    let (seqs', events) := put seqs name s
    (seqs', .done (.ok ()), events)
  | .byteVec name =>
    let (seqs', events) := put seqs name (.bytes (some {}))
    (seqs', .count (live seqs'), events)
  | .copyBytes name bytes =>
    let (_, v) := ByteVec.reserve Allocation.grants {} bytes.length
    let (seqs', events) := put seqs name (.bytes (some (v.pushEach Allocation.grants bytes)))
    (seqs', .count (live seqs'), events)
  | .liveByteVecs => (seqs, .count (live seqs), [])
  | .extend name v => grow width seqs name fun g s => g.extend s v
  | .copy source name =>
    match seqs.lookup source with
    | none => (seqs, .missing, [])
    | some (.owned xs) => grow width seqs name fun g t => g.copyTo xs t
    | some s => grow width seqs name fun g t => g.extend t s.view
  | .reserve name n => grow width seqs name fun g s => g.reserve s n
  | .append name items => grow width seqs name fun g s => g.append s items
  | .info name => (seqs, ((seqs.lookup name).map (describe width)).getD .missing, [])
  | .view name =>
    match seqs.lookup name with
    | none => (seqs, .missing, [])
    | some s => (seqs, .view s.view.length (s.view.asSlice width), [])
  | .intoHost name =>
    match seqs.lookup name with
    | some (.owned xs) => (update seqs name (.host (xs.getD [])), .items (xs.getD []), [])
    | some s => (seqs, .items ((s.view.asSlice width).toOption.getD []), [])
    | none => (seqs, .missing, [])
  | .byteView bytes => (seqs, .bytes ((View.borrow bytes).materialize 1), [])
  | .drop name =>
    (seqs.filter (·.1 ≠ name), .done (.ok ()), ((seqs.lookup name).map Stored.dropEvents).getD [])

/-- The answers of a list of operations. -/
def run (width : Nat) (seqs : Sequences) : List Op → List (Answer × List OwnerEvent)
  | [] => []
  | op :: ops =>
    let (seqs', answer, events) := step width seqs op
    (answer, events) :: run width seqs' ops

end Script
end Causeway
