import Causeway.Layout.Text

/-!
# Causeway.Layout.Catalog

Lists of definitions that build on each other, and the structs the bridge's own callers share.

* `Draft`      — a definition whose inner structs are named by their place in a list.
* `Draft.all`  — every definition of a list.
* `SharedType` — the declared structs.
-/

namespace Causeway

/-- What a field of a draft holds. -/
inductive DraftKind where
  | scalar (s : Scalar)
  | handle (typeName : String)
  /-- The struct defined at a place of the list. -/
  | shared (place : Nat)
  deriving DecidableEq, Repr

structure Draft where
  name : String
  fields : List (String × DraftKind)
  deriving DecidableEq, Repr

namespace Draft

/-- The kind of a field, given the structs defined before it. -/
def kind? (defined : List (Except Layout.Refusal Layout)) : DraftKind → Option FieldKind
  | .scalar s => some (.scalar s)
  | .handle t => some (.handle t)
  | .shared i =>
    match defined[i]? with
    | some (.ok l) => some (.shared l)
    | _ => none

/-- One definition. A draft that names a struct the list does not have has no fields to define. -/
def define (defined : List (Except Layout.Refusal Layout)) (d : Draft) :
    Except Layout.Refusal Layout :=
  match d.fields.mapM fun (name, kind) => (kind? defined kind).map (name, ·) with
  | some fields => Layout.define d.name fields
  | none => .error (.noFields d.name)

/-- Every definition of a list, in order. -/
def all (drafts : List Draft) : List (Except Layout.Refusal Layout) :=
  drafts.foldl (fun defined d => defined ++ [d.define defined]) []

end Draft

/-- The structs both sides declare. -/
inductive SharedType where
  | sample
  | sharedThing
  | mixed
  | nested
  | everything
  | pair
  | nest
  deriving DecidableEq, Repr

namespace SharedType

def all : List SharedType := [sample, sharedThing, mixed, nested, everything, pair, nest]

def name : SharedType → String
  | .sample => "Sample"
  | .sharedThing => "SharedThing"
  | .mixed => "Mixed"
  | .nested => "Nested"
  | .everything => "Everything"
  | .pair => "Pair"
  | .nest => "Nest"

def ofName? (name : String) : Option SharedType := all.find? fun s => s.name = name

/-- The definitions in the order of `all`, so that an inner struct stands before its users. -/
def drafts : List Draft :=
  [ ⟨"Sample", [("id", .scalar .u32), ("weight", .scalar .f64), ("flags", .scalar .u8)]⟩,
    ⟨"SharedThing", [("z", .scalar .i32), ("y", .handle "ThingR"), ("x", .handle "ThingC")]⟩,
    ⟨"Mixed", [("flag", .scalar .bool), ("wide", .scalar .u64), ("narrow", .scalar .u16)]⟩,
    ⟨"Nested", [("tag", .scalar .u8), ("inner", .shared 2), ("ratio", .scalar .f32)]⟩,
    ⟨"Everything",
      [ ("b", .scalar .bool), ("a", .scalar .u16), ("c", .scalar .i8), ("d", .scalar .u32),
        ("e", .scalar .i16), ("f", .scalar .f64), ("g", .scalar .u8), ("h", .scalar .usize),
        ("i", .scalar .i32), ("j", .scalar .isize), ("k", .scalar .f32), ("l", .scalar .i64),
        ("m", .shared 3), ("n", .scalar .u64) ]⟩,
    ⟨"Pair", [("a", .handle "Obj"), ("n", .scalar .u32), ("b", .handle "Ext")]⟩,
    ⟨"Nest", [("tag", .scalar .u8), ("p", .shared 5), ("c", .handle "Obj")]⟩ ]

/-- The layout of a declared struct. -/
def layout (s : SharedType) : Except Layout.Refusal Layout :=
  ((all.zip (Draft.all drafts)).lookup s).getD (.error .unnamed)

/-- The fingerprint of a declared struct. -/
def fingerprint (s : SharedType) : UInt64 :=
  match s.layout with
  | .ok l => l.fingerprint
  | .error _ => 0

end SharedType
end Causeway
