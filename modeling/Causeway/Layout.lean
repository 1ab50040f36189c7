import Causeway.Allocation
import Causeway.Scalar

/-!
# Causeway.Layout

Structs that both sides read and write directly.

* `FieldKind`     — what a field holds: a scalar, a handle, or another struct stored inline.
* `Layout`        — a struct's fields with their offsets, its size and its alignment.
* `Layout.define` — the one layout of a list of fields.
* `Layout.verify` — comparison with what a compiler produced.

Fields stand in declaration order, each at the least multiple of its alignment that is past the
field before it, and the size is padded up to a multiple of the struct's alignment. All sums are 64-bit
sums: a definition that would leave that range is refused.
-/

namespace Causeway

mutual

/-- What a field of a shared struct holds. -/
inductive FieldKind where
  | scalar (s : Scalar)
  /-- A struct stored inline. -/
  | shared (layout : Layout)
  /-- A handle of a type. -/
  | handle (typeName : String)

/-- A placed field. -/
inductive Field where
  | mk (name : String) (kind : FieldKind) (offset size align : Nat)

/-- A struct with every field placed. -/
inductive Layout where
  | mk (name : String) (fields : List Field) (size align : Nat)

end

namespace Layout

def name : Layout → String
  | .mk n _ _ _ => n

def fields : Layout → List Field
  | .mk _ fs _ _ => fs

def size : Layout → Nat
  | .mk _ _ s _ => s

def align : Layout → Nat
  | .mk _ _ _ a => a

end Layout

namespace Field

def name : Field → String
  | .mk n _ _ _ _ => n

def kind : Field → FieldKind
  | .mk _ k _ _ _ => k

def offset : Field → Nat
  | .mk _ _ o _ _ => o

def size : Field → Nat
  | .mk _ _ _ s _ => s

def align : Field → Nat
  | .mk _ _ _ _ a => a

end Field

namespace FieldKind

/-- A handle is an index and a generation of four bytes each. -/
def size : FieldKind → Nat
  | .scalar s => s.size
  | .shared l => l.size
  | .handle _ => 8

def align : FieldKind → Nat
  | .scalar s => s.align
  | .shared l => l.align
  | .handle _ => 4

end FieldKind

mutual

/-- Whether two kinds are the same, struct by struct. -/
def FieldKind.same : FieldKind → FieldKind → Bool
  | .scalar s, .scalar t => s = t
  | .shared l, .shared m => l.same m
  | .handle s, .handle t => s = t
  | _, _ => false

def Field.same : Field → Field → Bool
  | .mk n k o s a, .mk n' k' o' s' a' =>
    n = n' && k.same k' && o = o' && s = s' && a = a'

def Field.sameAll : List Field → List Field → Bool
  | [], [] => true
  | f :: fs, g :: gs => f.same g && Field.sameAll fs gs
  | _, _ => false

/-- Whether two layouts agree in names, fields, offsets, sizes and alignments. -/
def Layout.same : Layout → Layout → Bool
  | .mk n fs s a, .mk n' fs' s' a' => n = n' && Field.sameAll fs fs' && s = s' && a = a'

end

namespace Layout

/-- Why a definition is refused. -/
inductive Refusal where
  | unnamed
  | noFields (name : String)
  | unnamedField (name : String)
  | repeatedField (name field : String)
  /-- A sum left the 64-bit range. -/
  | overflow
  deriving DecidableEq, Repr

/-- The least multiple of `align` that is not below `offset`. -/
def alignUp (offset align : Nat) : Nat := (offset + align - 1) / align * align

/-- The fields placed after `stop` bytes, the byte after the last of them, and the largest alignment
met. `seen` are the names used so far. -/
def place (name : String) :
    List (String × FieldKind) → List String → Nat → Nat → Except Refusal (List Field × Nat × Nat)
  | [], _, stop, align => .ok ([], stop, align)
  | (field, kind) :: rest, seen, stop, align =>
    if field = "" then .error (.unnamedField name)
    else if field ∈ seen then .error (.repeatedField name field)
    else if wordLimit ≤ stop + kind.align then .error .overflow
    else
      let offset := alignUp stop kind.align
      if wordLimit ≤ offset + kind.size then .error .overflow
      else
        match place name rest (field :: seen) (offset + kind.size) (max align kind.align) with
        | .error e => .error e
        | .ok (fields, stop', align') =>
          .ok (.mk field kind offset kind.size kind.align :: fields, stop', align')

/-- The layout of a named list of fields. -/
def define (name : String) (fields : List (String × FieldKind)) : Except Refusal Layout :=
  if name = "" then .error .unnamed
  else if fields = [] then .error (.noFields name)
  else
    match place name fields [] 0 1 with
    | .error e => .error e
    | .ok (placed, stop, align) =>
      if wordLimit ≤ stop + align then .error .overflow
      else .ok (.mk name placed (alignUp stop align) align)

/-- How a compiled struct differs from its layout. -/
inductive Mismatch where
  | extent (name : String) (size align expectedSize expectedAlign : Nat)
  | count (name : String) (found expected : Nat)
  | offset (name field : String) (found expected : Nat)
  deriving DecidableEq, Repr

/-- The first field whose offset differs. -/
def verifyOffsets (name : String) : List Field → List Nat → Except Mismatch Unit
  | f :: fs, o :: os =>
    if f.offset ≠ o then .error (.offset name f.name o f.offset) else verifyOffsets name fs os
  | _, _ => .ok ()

/-- Compare a compiled struct with this layout. -/
def verify (l : Layout) (size align : Nat) (offsets : List Nat) : Except Mismatch Unit :=
  if size ≠ l.size ∨ align ≠ l.align then .error (.extent l.name size align l.size l.align)
  else if offsets.length ≠ l.fields.length then
    .error (.count l.name offsets.length l.fields.length)
  else verifyOffsets l.name l.fields offsets

/-- The offsets of the fields. -/
def offsets (l : Layout) : List Nat := l.fields.map Field.offset

end Layout
end Causeway
