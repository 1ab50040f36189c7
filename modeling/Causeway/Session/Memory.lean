import Causeway.Session.Script

/-!
# Causeway.Session.Memory

What a session keeps: its objects, its variables, and what is on its way to the foreign side.
-/

namespace Causeway
namespace Session

/-- An object of the session's own types. -/
structure Object where
  value : Int
  onDrop : OnDrop

/-- Where the code of the destructor is that the session's foreign objects come with. -/
def objectDestructor : Address := 2

/-- The destructor that objects of a type are registered with. -/
def destructorOf : ObjectType → Destructor
  | .obj | .unit | .thingR => .native
  | .thingC => .foreign Demo.thingCDestructor
  | .ext => .foreign objectDestructor

/-- A variable. It is `owned` while the session has the host's handle. -/
structure Var where
  type : ObjectType
  raw : Handle
  owned : Bool
  deriving DecidableEq, Repr

/-- A value handed over and not yet passed on, with the variables it came from. -/
structure Sent where
  value : SharedValue ObjectType
  vars : List String

structure Memory where
  objects : List (Address × Object) := []
  vars : List (String × Var) := []
  sent : List (String × Sent) := []
  listeners : List (String × Demo.Listener) := []

/-- A computation of a session. -/
abbrev Act (α : Type) := Demo.Act Mark Undo Memory α

/-- The state of a session. -/
abbrev Process := World ObjectType Mark Undo (Demo.Store Memory)

/-- A session before its first step. -/
def Process.start (env : Environment) : Process where
  registries := ObjectType.registry
  environment := env
  state := { rest := {} }

/-- An association list with one entry replaced. -/
def replace {α : Type} (xs : List (String × α)) (name : String) (a : α) : List (String × α) :=
  (name, a) :: xs.filter (·.1 ≠ name)

def memory : Act Memory := do return (← Act.get).rest

def modifyMemory (f : Memory → Memory) : Act Unit := Act.modify fun s => { s with rest := f s.rest }

/-- Define a variable, in place of one of the same name. -/
def define (name : String) (v : Var) : Act Unit :=
  modifyMemory fun m => { m with vars := replace m.vars name v }

/-- A variable that exists. -/
def lookupVar (name : String) : Act Var := do
  match (← memory).vars.lookup name with
  | some v => return v
  | none => Act.panic ("no variable " ++ name)

/-- Say whether the session owns the handles of variables. -/
def setOwned (names : List String) (owned : Bool) : Act Unit :=
  modifyMemory fun m => { m with
    vars := m.vars.map fun (n, v) => if n ∈ names then (n, { v with owned := owned }) else (n, v) }

/-- The handle of a variable, given up by it. -/
def consume (name : String) : Act Var := do
  let v ← lookupVar name
  setOwned [name] false
  return v

/-- Type and handle of a target. -/
def Target.find : Target → Act (ObjectType × Handle)
  | .raw t h => return (t, h)
  | .var name type? => do
    let v ← lookupVar name
    return (type?.getD v.type, v.raw)

/-- Put an object of the session's own types on the heap. -/
def storeObject (o : Object) : Act Address := do
  let a ← Demo.allocate
  modifyMemory fun m => { m with objects := (a, o) :: m.objects }
  return a

/-- What is seen of the object at an address. -/
def inspect (t : ObjectType) (a : Address) : Act Shown := do
  match t with
  | .obj | .ext => return .number (((← memory).objects.lookup a).map Object.value |>.getD 0)
  | .thingR =>
    let r ← Demo.thingRAt a
    return .thing r.value r.name r.prints
  | .unit | .thingC => return .nothing

/-- A value made of the raw handles of variables. -/
def Shape.build (shape : Shape) (raws : List Handle) (value : Int) : SharedValue ObjectType :=
  let raw (i : Nat) : Handle := raws.getD i .null
  let pair : SharedValue ObjectType := .record "Pair" (.ofList
    [("a", .handle .obj (raw 0)), ("n", .scalar value), ("b", .handle .ext (raw 1))])
  match shape with
  | .one t => .handle t (raw 0)
  | .pair => pair
  | .nest => .record "Nest" (.ofList
      [("tag", .scalar value), ("p", pair), ("c", .handle .obj (raw 2))])
  | .scalar => .scalar value

end Session
end Causeway
