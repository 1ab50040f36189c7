import Causeway.Digest.Sha256
import Causeway.Failure
import Causeway.Layout
import Causeway.Text.Joined
import Causeway.Text.Utf8

/-!
# Causeway.Layout.Text

The texts of a shared struct.

* `Layout.canonical`   — name and kinds of the fields, inner structs written out; the text the
  fingerprint is taken of.
* `Layout.declaration` — the declaration the foreign side compiles.
* The wording of refused definitions and of mismatches.
-/

namespace Causeway

mutual

/-- A scalar's name, a struct written out, or the type of a handle. -/
def FieldKind.text : FieldKind → String
  | .scalar s => s.name
  | .shared l => l.canonical
  | .handle t => "handle<" ++ t ++ ">"

def Field.text : Field → String
  | .mk name kind _ _ _ => name ++ ":" ++ kind.text

def Field.texts : List Field → List String
  | [] => []
  | f :: fs => f.text :: Field.texts fs

/-- Name and fields, with no room for two readings. -/
def Layout.canonical : Layout → String
  | .mk name fields _ _ => name ++ "\x7b" ++ joined "," (Field.texts fields) ++ "\x7d"

end

/-- The line that declares a field. -/
def Field.declaration (f : Field) : String :=
  match f.kind with
  | .scalar s => "  " ++ s.declaredAs ++ " " ++ f.name ++ ";\n"
  | .shared l => "  " ++ l.name ++ " " ++ f.name ++ ";\n"
  | .handle t => "  McRawHandle " ++ f.name ++ "; /* " ++ t ++ " */\n"

namespace Layout

def fingerprint (l : Layout) : UInt64 := Causeway.fingerprint (utf8 l.canonical)

/-- The declaration of the struct for the foreign side. -/
def declaration (l : Layout) : String :=
  "typedef struct " ++ l.name ++ " \x7b\n"
    ++ joined "" (l.fields.map Field.declaration)
    ++ "\x7d " ++ l.name ++ ";\n"

/-- A broken rule is a failure; a sum out of range is a panic with the message given as an error. -/
def Refusal.outcome : Refusal → Except String Failure
  | .unnamed => .ok (.contract "shared struct with an empty name")
  | .noFields n => .ok (.contract ("shared struct " ++ n ++ " has no fields"))
  | .unnamedField n =>
    .ok (.contract ("shared struct " ++ n ++ " has a field with an empty name"))
  | .repeatedField n f =>
    .ok (.contract ("shared struct " ++ n ++ " declares field " ++ f ++ " twice"))
  | .overflow => .error "attempt to add with overflow"

def Mismatch.failure : Mismatch → Failure
  | .extent n size align expectedSize expectedAlign =>
    .contract (n ++ s!" is {size} bytes aligned to {align}, "
      ++ s!"expected {expectedSize} bytes aligned to {expectedAlign}")
  | .count n found expected => .contract (n ++ s!" has {found} fields, expected {expected}")
  | .offset n f found expected =>
    .contract (n ++ "." ++ f ++ s!" is at offset {found}, expected {expected}")

end Layout
end Causeway
