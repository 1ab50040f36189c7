import Causeway.View

/-!
# Causeway.Sequence

Growable sequences of either side, as something a view can be appended to.

* `Growable`        — a view of the contents, a way to make room, and a way to append.
* `Growable.extend` — append what a view shows, or nothing.
* `Growable.copyTo` — append what a vector holds that was handed over, or nothing.
* `Growable.host`   — the host's own sequences.
-/

namespace Causeway

/-- The operations of a growable sequence. An operation returns the sequence also when it fails. -/
structure Growable (σ α : Type) where
  /-- The size of an element. -/
  width : Nat
  view : σ → View α
  reserve : σ → Nat → Except Failure Unit × σ
  append : σ → List α → Except Failure Unit × σ

namespace Growable

variable {σ α : Type}

/-- Append a copy of every element a view shows. The view is read before the sequence is touched. -/
def extend (g : Growable σ α) (s : σ) (v : View α) : Except Failure Unit × σ :=
  match v.asSlice g.width with
  | .error e => (.error e, s)
  | .ok items =>
    match g.reserve s items.length with
    | (.error e, s') => (.error e, s')
    | (.ok (), s') => g.append s' items

/-- Append a copy of every element of a vector that was handed over by ownership. The null vector has none. -/
def copyTo (g : Growable σ α) (source : Option (List α)) (s : σ) : Except Failure Unit × σ :=
  g.extend s (View.borrow (source.getD []))

/-- The contents copied to a sequence of the host. -/
def toList (g : Growable σ α) (s : σ) : Except Failure (List α) :=
  (g.view s).materialize g.width

/-- Sequences of the host: lists, with room from the allocator. -/
def host (α : Type) (width : Nat) (grants : Nat → Bool := Allocation.grants) : Growable (List α) α where
  width := width
  view := View.borrow
  reserve s n := ((Allocation.reserve width s.length n grants).mapError Allocation.Refusal.failure, s)
  append s items :=
    match Allocation.reserve width s.length items.length grants with
    | .error e => (.error e.failure, s)
    | .ok () => (.ok (), s ++ items)

end Growable
end Causeway
