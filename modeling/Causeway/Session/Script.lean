import Causeway.Buffer
import Causeway.Demo.Host

/-!
# Causeway.Session.Script

Scripts of steps that exercise the bridge, and the answers of the steps.

* `Step`       — one operation; some contain further steps, which run in the middle of it.
* `Line`       — a step inside another step.
* `OnDrop`     — what an object does when it is destroyed, besides leaving a mark.
* `Reply`      — the answer of a step that did not fail.
* `Mark`       — what a script records besides log lines.
-/

namespace Causeway
namespace Session

/-- The object a step is about: that of a variable, perhaps taken for one of another type, or that of a
handle given by its numbers. -/
inductive Target where
  | var (name : String) (type? : Option ObjectType)
  | raw (t : ObjectType) (h : Handle)
  deriving DecidableEq, Repr

/-- A value made of the handles of variables. -/
inductive Shape where
  | one (t : ObjectType)
  | pair
  | nest
  | scalar
  deriving DecidableEq, Repr

/-- What to do with a value on its way to the foreign side. -/
inductive Fate where
  | pass
  | drop
  | debug
  | reclaim
  deriving DecidableEq, Repr

/-- The types a host function can return. -/
inductive ReturnType where
  | unit
  | completion
  | flag
  /-- An unsigned number; 0 after a failure. -/
  | count
  /-- A signed number; -1 after a failure. -/
  | signed
  | float
  | optionalSigned
  | optionalCount
  | optionalText
  | handle
  /-- A new object, returned by ownership. -/
  | object
  | text
  | bytes
  | view
  | cell
  deriving DecidableEq, Repr

/-- A value of a host function. -/
inductive HostValue where
  | unit
  | flag (b : Bool)
  | number (n : Int)
  | float (bits : UInt64)
  | handle (h : Handle)
  /-- The number of a new object. -/
  | object (n : Int)
  | text (s : String)
  | bytes (bs : List UInt8)
  | missing
  deriving DecidableEq, Repr

/-- How a host function ends. -/
inductive Ending (α : Type) where
  | value (a : α)
  | failure (f : Failure)
  | panic (message : String)
  deriving DecidableEq, Repr

inductive CallbackKind where
  | call
  /-- A callback without a function. -/
  | missing
  deriving DecidableEq, Repr

/-- A foreign function called directly. -/
inductive ForeignFunction where
  | sumBytes
  | copyBytes
  | apply
  | construct (c : Demo.Constructor)
  deriving DecidableEq, Repr

mutual

/-- One operation. -/
inductive Step where
  | new (t : ObjectType) (as : String) (value : Int) (name : String) (onDrop : OnDrop)
  | adopt (t : ObjectType) (as : String) (value : Option Int)
  | construct (t : ObjectType) (as : String) (value : Option Int) (raises : List Raise)
      (panics : Option String)
  | drop (var : String)
  | intoForeign (var : String)
  | fromForeign (target : Target) (as : Option String)
  | free (target : Target)
  | take (target : Target)
  | value (var : String)
  | debug (var : String)
  | ref (target : Target)
  | registry (t : ObjectType)
  | stats (t : ObjectType)
  | destroy (target : Target) (claimant : Side)
  | release (target : Target) (claimant : Side)
  | resolve (target : Target)
  | resolveRef (target : Target) (check : Bool)
  | beginLoan (target : Target)
  | endLoan (target : Target)
  | transfer (target : Target) (giver taker : Side)
  | holder (target : Target)
  | releaseFields (shape : Shape) (vars : List String) (taker : Side)
  | invoke (s : Signature) (body : List Line) (ret : String)
  | fail (f : Failure)
  | panic (message : String)
  | lend (var : String)
  | borrowSlice (bytes : List UInt8)
  | borrowText (bytes : List UInt8)
  | onFailure (tag : String) (steps : List Line) (panics : Option String)
  | callForeign (raises : List Raise) (steps : List Line) (panics : Option String) (ret : String)
  | send (shape : Shape) (vars : List String) (as : String) (value : Int)
  | sent (name : String) (fate : Fate)
  | boundary (type : ReturnType) (ending : Ending HostValue) (slot : ErrorSlot)
  | infallible (type : ReturnType) (ending : Ending HostValue)
  | catchPanic (ending : Ending String)
  | callback (kind : CallbackKind) (args : List Int) (raises : List (Int × List Raise))
  | copyTo (bytes : Option (List UInt8)) (buffer : Buffer) (slot : ErrorSlot)
  | apply (times : Int) (reactions : List (Nat × Reaction))
  | makeDemo (as : String) (name : List UInt8) (c : Demo.Constructor)
  | getName (var : String)
  | describeR (var : String)
  | doThing (z : Int) (y x : String)
  | sumBytes (bytes : List UInt8)
  | copyBytes (bytes : List UInt8)
  | liveByteVecs
  | drops
  | sample (s : Demo.Sample)
  | listen (as : String)
  | notify (listener : String) (arg : Nat)
  | unlisten (listener : String)
  | newThingR (as : String) (value : Int) (name : TextView) (slot : ErrorSlot)
  | valueOfThingR (target : Target) (slot : ErrorSlot)
  | nameOfThingR (target : Target) (slot : ErrorSlot)
  | printR (target : Target) (slot : ErrorSlot)
  | foreign (f : ForeignFunction) (v : View UInt8) (times : Int) (slot : ErrorSlot)
  | installSettings (s : Settings)
  | settings
  | installDemoContracts
  | installContracts (ss : List Signature)
  | installed
  | demoSignatures
  | checkContract (symbol : TextView) (fp : UInt64) (slot : ErrorSlot)

/-- A step inside another one, with the name it is recorded under. If it `stops`, its failure ends what
it stands in. -/
inductive Line where
  | mk (name : String) (stops : Bool) (step : Step)

/-- What an object does when it is destroyed. -/
inductive OnDrop where
  | plain
  | panics
  | runs (steps : List Line)

/-- What a callback does. -/
inductive Reaction where
  | fails (f : Failure)
  | panics (message : String)
  | runs (steps : List Line)

end

instance : Inhabited Step := ⟨.settings⟩

instance : Inhabited Line := ⟨.mk "" false default⟩

instance : Inhabited Reaction := ⟨.runs []⟩

mutual

/-- The number of steps in a step, itself included. Each of them runs at most once. -/
def Step.weight : Step → Nat
  | .new _ _ _ _ onDrop => onDrop.weight + 1
  | .invoke _ body _ => weightAll body + 1
  | .onFailure _ steps _ => weightAll steps + 1
  | .callForeign _ steps _ _ => weightAll steps + 1
  | .apply _ reactions => weightReactions reactions + 1
  | _ => 1

def Line.weight : Line → Nat
  | .mk _ _ step => step.weight

def weightAll : List Line → Nat
  | [] => 0
  | l :: ls => l.weight + weightAll ls

def OnDrop.weight : OnDrop → Nat
  | .runs steps => weightAll steps
  | _ => 0

def Reaction.weight : Reaction → Nat
  | .runs steps => weightAll steps
  | _ => 0

def weightReactions : List (Nat × Reaction) → Nat
  | [] => 0
  | (_, r) :: rest => r.weight + weightReactions rest

end

/-- What is seen of an object. -/
inductive Shown where
  | number (n : Int)
  | thing (value : Int) (name : String) (prints : Nat)
  | nothing
  deriving DecidableEq, Repr

/-- What the foreign side gets from a host function. -/
inductive Returned where
  | unit
  | flag (b : Bool)
  | number (n : Int)
  | float (bits : UInt64)
  | handle (h : Handle)
  | text (o : OwnedText)
  /-- A text as it reads, null or not. -/
  | reading (s : String)
  | bytes (bs : Option (List UInt8))
  | view (v : TextView)
  | cell (n : Option Int)
  deriving DecidableEq, Repr

/-- The answer of a step. -/
inductive Reply where
  | nothing
  | handle (h : Handle)
  | shown (s : Shown)
  /-- An object that left its registry. -/
  | object (s : Shown)
  | text (s : String)
  | bytes (bs : List UInt8)
  | number (n : Int)
  | ref (h : Handle) (debug : String) (get : Except Failure Shown) (address : Except Failure Bool)
  | registry (typeName : String) (owner : Side)
  | stats (created destroyed released live : Nat)
  | side (s : Side)
  /-- A value of the script's own. -/
  | payload (text : String)
  | lent (h : Handle) (get : Except Failure Shown)
  | returned (r : Returned) (slot : Option ErrorSlot)
  | callbacks (results : List (Except Failure Unit)) (total : Int)
  | copied (ret : Int) (slot : ErrorSlot) (after : Option (List UInt8))
  | foreignBytes (length : Nat) (bs : List UInt8)
  | sample (s : Demo.Sample) (equal : Bool) (checksum : UInt64)
  | listener (l : Demo.Listener)
  | byteVec (isNull : Bool) (bytes : Except Failure (List UInt8)) (slot : ErrorSlot)
  | built (name : Option (Except Failure (List UInt8))) (slot : ErrorSlot) (drops : Nat)
  | settings (s : Settings)
  | count (n : Option Nat)
  | signatures (ss : List Signature)

/-- What a script records. -/
inductive Mark where
  | drop (t : ObjectType) (value : Int)
  /-- A step inside another one begins. -/
  | begins (name : String)
  /-- It ended with an answer or a failure. -/
  | ended (answer : Except Failure Reply)
  | ctor
  | foreign
  | rollback (tag : String)
  | callback (n : Int)

/-- A registered rollback. -/
structure Undo where
  tag : String
  steps : List Line
  panics : Option String

end Session
end Causeway
