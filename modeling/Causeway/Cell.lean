/-!
# Causeway.Cell

Owning and borrowing references to one 64-bit cell.

* `Places`       — a place that owns a cell or is empty, and one whose reference may be null.
* `Places.step`  — one operation: the places after it, its answer and the values dropped.
* `Borrow.step`  — the operations of the references that only borrow.

A place that is assigned drops what it held, after the new value exists.
-/

namespace Causeway

/-- The message of a reference that must not be null and is. -/
def nullReference : String := "Pointer cannot be null"

structure Places where
  owned : Option UInt64 := none
  optional : Option UInt64 := none
  deriving DecidableEq, Repr

namespace Places

inductive Op where
  | new (n : UInt64)
  | tryNew (n : UInt64)
  | fromNull
  | rawTrip
  | read
  | write (n : UInt64)
  | drop
  | optNew (n : Option UInt64)
  | optNull
  | toOpt
  | optRawTrip
  | optRead
  | optWrite (n : UInt64)
  | optIsNull
  | intoOption
  deriving DecidableEq, Repr

inductive Answer where
  | nothing
  | flag (b : Bool)
  | value (v : Option UInt64)
  | panic (message : String)
  deriving DecidableEq, Repr

/-- One operation, with the values it drops. -/
def step (p : Places) : Op → Places × Answer × List UInt64
  | .new n => ({ p with owned := some n }, .nothing, p.owned.toList)
  | .tryNew n => ({ p with owned := some n }, .flag true, p.owned.toList)
  | .fromNull => (p, .panic nullReference, [])
  | .rawTrip => (p, .flag p.owned.isSome, [])
  | .read => (p, .value p.owned, [])
  | .write n => ({ p with owned := p.owned.map fun _ => n }, .nothing, [])
  | .drop => ({ p with owned := none }, .nothing, p.owned.toList)
  | .optNew n => ({ p with optional := n }, .nothing, p.optional.toList)
  | .optNull => ({ p with optional := none }, .nothing, p.optional.toList)
  | .toOpt =>
    match p.owned with
    | some v => (⟨none, some v⟩, .flag true, p.optional.toList)
    | none => (p, .flag false, [])
  | .optRawTrip => (p, .flag true, [])
  | .optRead => (p, .value p.optional, [])
  | .optWrite n => ({ p with optional := p.optional.map fun _ => n }, .value p.optional, [])
  | .optIsNull => (p, .flag p.optional.isNone, [])
  | .intoOption => (⟨p.optional, none⟩, .flag p.optional.isSome, p.owned.toList)

/-- The answers of a list of operations on empty places. -/
def run (p : Places) : List Op → List (Answer × List UInt64)
  | [] => []
  | op :: ops =>
    let (p', answer, dropped) := p.step op
    (answer, dropped) :: run p' ops

end Places

namespace Borrow

inductive Op where
  | refNull
  | mutNull
  | refRead
  | optRefNull
  | optRefRead
  | mutWrite (n : UInt64)
  | optMutNull
  | optMutWrite (n : UInt64)
  | debug
  | debugNonnull
  deriving DecidableEq, Repr

inductive Item where
  | flag (b : Bool)
  | value (v : UInt64)
  | null
  | text (s : String)
  deriving DecidableEq, Repr

inductive Answer where
  | items (xs : List Item)
  | panic (message : String)
  deriving DecidableEq, Repr

/-- One operation on a cell that holds `v`, with `address` the text of the address that the diagnostics
show and `isNull` whether it is null. -/
def step (address : String) (isNull : Bool) (v : UInt64) : Op → UInt64 × Answer
  | .refNull => (v, .panic nullReference)
  | .mutNull => (v, .panic nullReference)
  | .refRead => (v, .items [.value v, .value v, .value v])
  | .optRefNull => (v, .items [.flag true, .null, .flag false])
  | .optRefRead => (v, .items [.flag false, .value v, .value v])
  | .mutWrite n => (n, .items [.value v, .value n])
  | .optMutNull => (v, .items [.flag true, .null, .null])
  | .optMutWrite n => (n, .items [.flag false, .value v, .value n])
  | .debug =>
    (v, .items [.text ("FfiOptRefPtr(" ++ address ++ ")"), .text ("FfiOptMutPtr(" ++ address ++ ")")])
  | .debugNonnull =>
    if isNull then (v, .panic nullReference)
    else (v, .items [.text ("FfiRefPtr(" ++ address ++ ")"), .text ("FfiMutPtr(" ++ address ++ ")")])

/-- The answers of a list of operations on one cell. -/
def run (address : String) (isNull : Bool) (v : UInt64) : List Op → List Answer
  | [] => []
  | op :: ops =>
    let (w, answer) := step address isNull v op
    answer :: run address isNull w ops

end Borrow
end Causeway
