import Causeway.Registry

/-!
# Causeway.ObjectType

The types of objects that cross the boundary as handles only.
-/

namespace Causeway

inductive ObjectType where
  /-- Made by the host, with a number. -/
  | obj
  /-- Made by the foreign side, with a number. -/
  | ext
  /-- Made by the host, with nothing in it. -/
  | unit
  /-- The demo's host object. -/
  | thingR
  /-- The demo's foreign object. -/
  | thingC
  deriving DecidableEq, Repr

namespace ObjectType

def all : List ObjectType := [obj, ext, unit, thingR, thingC]

def name : ObjectType → String
  | .obj => "Obj"
  | .ext => "Ext"
  | .unit => "Unit"
  | .thingR => "ThingR"
  | .thingC => "ThingC"

def ofName? (name : String) : Option ObjectType := all.find? fun t => t.name = name

def owner : ObjectType → Side
  | .obj | .unit | .thingR => .host
  | .ext | .thingC => .foreign

/-- The full name, as the log shows it. -/
def path (t : ObjectType) : String := "driver::session::" ++ t.name

/-- The empty registry of a type. -/
def registry (t : ObjectType) : Registry :=
  { typeName := t.name, typePath := t.path, owner := t.owner }

end ObjectType
end Causeway
