import Causeway.Allocation
import Causeway.Text.Hex
import Causeway.Text.Utf8

/-!
# Causeway.View

Borrowed views: an address and a number of elements that the other side vouches for.

* `View.check`       — whether a view that is not empty can be a slice of elements.
* `View.asSlice`     — its elements.
* `View.materialize` — a copy of them.
* `TextView`         — the same for bytes that claim to be UTF-8.

An empty view is readable whatever its address. Otherwise the address is not null, the elements fit a
buffer, and the address is a multiple of the element's width; the first of these that fails decides.
-/

namespace Causeway

/-- A view of elements. `items` is what the memory holds there, where that is known. -/
structure View (α : Type) where
  address : Nat
  length : Nat
  items : Option (List α)
  deriving DecidableEq, Repr

namespace View

/-- Why a view cannot be read. `what` names the view in the message. -/
inductive Refusal where
  | nullAddress (what : String) (length : Nat)
  | tooLarge (what : String) (length : Nat)
  | misaligned (what : String) (address width : Nat)
  deriving DecidableEq, Repr

def Refusal.failure : Refusal → Failure
  | .nullAddress what n => .contract (what ++ s!" of {n} elements has a null pointer")
  | .tooLarge what n => .invalidInput (what ++ s!" of {n} elements is larger than any buffer")
  | .misaligned what a width =>
    .invalidInput (what ++ " pointer " ++ Hex.address a ++ s!" is not aligned to {width} bytes")

/-- Whether a non-empty view can be a slice of elements of `width` bytes. -/
def check (what : String) (width address length : Nat) : Except Refusal Unit :=
  if address = 0 then .error (.nullAddress what length)
  else if maxBufferSize < length * width then .error (.tooLarge what length)
  else if address % width ≠ 0 then .error (.misaligned what address width)
  else .ok ()

variable {α : Type}

/-- An address where the data of this process lives: not null and aligned for every element. -/
def dataAddress : Nat := 4096

/-- A view of data of this process. -/
def borrow (items : List α) : View α := ⟨dataAddress, items.length, some items⟩

/-- A pair of numbers from the other side, with nothing known of the memory. -/
def ofAddress (address length : Nat) : View α := ⟨address, length, none⟩

/-- The view of nothing. -/
def empty : View α := ⟨0, 0, none⟩

def isEmpty (v : View α) : Bool := v.length = 0

def isNull (v : View α) : Bool := v.address = 0

/-- The elements, read as a slice. -/
def read (what : String) (width : Nat) (v : View α) : Except Refusal (List α) :=
  if v.length = 0 then .ok []
  else
    match check what width v.address v.length with
    | .ok () => .ok (v.items.getD [])
    | .error e => .error e

def asSlice (width : Nat) (v : View α) : Except Failure (List α) :=
  (v.read "view" width).mapError Refusal.failure

/-- A copy of the elements. Nothing is allocated for a view that cannot be read. -/
def materialize (width : Nat) (v : View α) (grants : Nat → Bool := Allocation.grants) : Except Failure (List α) := do
  let items ← v.asSlice width
  (Allocation.reserve width 0 items.length grants).mapError Allocation.Refusal.failure
  return items

def debug (v : View α) : String :=
  "McSlice \x7b buffer: FfiOptRefPtr(" ++ Hex.address v.address ++ s!"), len: {v.length} \x7d"

end View

/-- A view of bytes that claim to be UTF-8. -/
abbrev TextView := View UInt8

namespace TextView

def ofText (s : String) : TextView := View.borrow (utf8 s)

/-- The bytes, whatever their encoding. -/
def asBytes (v : TextView) : Except Failure (List UInt8) :=
  (v.read "text view" 1).mapError View.Refusal.failure

/-- The text, if the bytes are UTF-8. -/
def toText (v : TextView) : Except Failure String := do
  let bytes ← v.asBytes
  (Utf8.decode? bytes).mapError Failure.notUtf8

/-- A copy of the text. The encoding is checked before anything is allocated. -/
def materialize (v : TextView) (grants : Nat → Bool := Allocation.grants) : Except Failure String := do
  let text ← v.toText
  (Allocation.reserve 1 0 (utf8 text).length grants).mapError Allocation.Refusal.failure
  return text

def debug (v : TextView) : String :=
  match v.asBytes with
  | .ok bytes => "McStr(" ++ Quoted.text (Utf8.lossy bytes) ++ ")"
  | .error _ => s!"McStr(null, {v.length})"

end TextView

/-- Text handed over by ownership; null is the answer of a call that failed. -/
structure OwnedText where
  text : Option String
  deriving DecidableEq, Repr

namespace OwnedText

def ofText (s : String) : OwnedText := ⟨some s⟩

def null : OwnedText := ⟨none⟩

def isNull (o : OwnedText) : Bool := o.text.isNone

/-- The null text reads as the empty one. -/
def toText (o : OwnedText) : String := o.text.getD ""

def bytes (o : OwnedText) : List UInt8 := utf8 o.toText

def view (o : OwnedText) : TextView := TextView.ofText o.toText

def debug (o : OwnedText) : String := "McString(" ++ Quoted.text o.toText ++ ")"

end OwnedText
end Causeway
