import Causeway.Sequence

/-!
# Causeway.Sequence.Foreign

Growable sequences that belong to the foreign side and are worked through their owner's functions.

* `Owner`           — the functions an owner provides for its objects.
* `Owner.Lawful`    — what they promise.
* `ForeignVec`      — an object of an owner, or null.
* `Owner.growable`  — appending to it, one element at a time, undone when a push fails.
* `Owner.traced`    — the same owner keeping a record of the calls it gets.
-/

namespace Causeway

/-- The functions of an owner of sequences. `reserve` and `push` say whether they succeeded. -/
structure Owner (ω α : Type) where
  length : ω → Nat
  address : ω → Nat
  items : ω → List α
  reserve : ω → Nat → Bool × ω
  push : ω → α → Bool × ω
  /-- Never called with more than the current length. -/
  truncate : ω → Nat → ω

/-- What an owner promises: making room changes no content, a push appends or does nothing, and
truncation keeps the front. -/
structure Owner.Lawful {ω α : Type} (o : Owner ω α) : Prop where
  length_eq (s : ω) : o.length s = (o.items s).length
  items_reserve (s : ω) (n : Nat) : o.items (o.reserve s n).2 = o.items s
  items_push (s : ω) (a : α) :
    o.items (o.push s a).2 = if (o.push s a).1 then o.items s ++ [a] else o.items s
  items_truncate (s : ω) (n : Nat) : n ≤ o.length s → o.items (o.truncate s n) = (o.items s).take n

/-- A sequence handed over by its owner. `none` is the answer of a call that failed. -/
abbrev ForeignVec (ω : Type) := Option ω

namespace ForeignVec

inductive Refusal where
  | null
  | noRoom (additional : Nat)
  | pushFailed (pushed total : Nat)
  deriving DecidableEq, Repr

def Refusal.failure : Refusal → Failure
  | .null => .contract "use of a null foreign vector"
  | .noRoom n => .allocation s!"foreign vector could not grow by {n} elements"
  | .pushFailed pushed total =>
    .allocation s!"foreign vector push failed after {pushed} of {total} elements"

end ForeignVec

namespace Owner

variable {ω α : Type}

/-- What is in the sequence. -/
def view (o : Owner ω α) (v : ForeignVec ω) : View α :=
  match v with
  | some s => ⟨o.address s, o.length s, some (o.items s)⟩
  | none => View.empty

def size (o : Owner ω α) (v : ForeignVec ω) : Nat :=
  match v with
  | some s => o.length s
  | none => 0

/-- Room for more elements. -/
def makeRoom (o : Owner ω α) (v : ForeignVec ω) (n : Nat) :
    Except ForeignVec.Refusal Unit × ForeignVec ω :=
  match v with
  | none => (.error .null, none)
  | some s =>
    match o.reserve s n with
    | (true, s') => (.ok (), some s')
    | (false, s') => (.error (.noRoom n), some s')

/-- Push elements up to the first that fails; the number of those pushed is counted from `done`. -/
def pushAll (o : Owner ω α) : List α → ω → Nat → Except Nat Unit × ω
  | [], s, _ => (.ok (), s)
  | a :: as, s, done =>
    match o.push s a with
    | (true, s') => pushAll o as s' (done + 1)
    | (false, s') => (.error done, s')

/-- Append elements; if a push fails those already pushed are removed again. -/
def append (o : Owner ω α) (v : ForeignVec ω) (items : List α) :
    Except ForeignVec.Refusal Unit × ForeignVec ω :=
  match v with
  | none => (.error .null, none)
  | some s =>
    match o.pushAll items s 0 with
    | (.ok (), s') => (.ok (), some s')
    | (.error pushed, s') =>
      (.error (.pushFailed pushed items.length), some (o.truncate s' (o.length s)))

/-- A foreign sequence as a target of views. -/
def growable (o : Owner ω α) (width : Nat) : Growable (ForeignVec ω) α where
  width := width
  view := o.view
  reserve v n :=
    let (r, v') := o.makeRoom v n
    (r.mapError ForeignVec.Refusal.failure, v')
  append v items :=
    let (r, v') := o.append v items
    (r.mapError ForeignVec.Refusal.failure, v')

/-- A call to a function that changes a sequence. -/
inductive Call (α : Type) where
  | reserve (n : Nat) (granted : Bool)
  | push (a : α) (granted : Bool)
  | truncate (n : Nat)
  deriving DecidableEq, Repr

/-- The owner with a record of the calls, the newest first. -/
def traced (o : Owner ω α) : Owner (ω × List (Call α)) α where
  length s := o.length s.1
  address s := o.address s.1
  items s := o.items s.1
  reserve s n :=
    let (ok, s') := o.reserve s.1 n
    (ok, (s', .reserve n ok :: s.2))
  push s a :=
    let (ok, s') := o.push s.1 a
    (ok, (s', .push a ok :: s.2))
  truncate s n := (o.truncate s.1 n, .truncate n :: s.2)

/-- An owner of elements of another type, read and written through a pair of maps. -/
def mapItems {β : Type} (o : Owner ω α) (f : α → β) (g : β → α) : Owner ω β where
  length := o.length
  address := o.address
  items s := (o.items s).map f
  reserve := o.reserve
  push s b := o.push s (g b)
  truncate := o.truncate

end Owner
end Causeway
