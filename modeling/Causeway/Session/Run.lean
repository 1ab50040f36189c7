import Causeway.Session.Memory

/-!
# Causeway.Session.Run

Running a session, step by step.

* `perform` — one step, given how the steps inside it run.
* `exec`    — one step with everything inside it.
* `run`     — the answers of a script, with what happened during each step.

A step inside another one runs with less fuel. Each step of a script runs at most once, so the number of
steps of the script is fuel enough.
-/

namespace Causeway
namespace Session

/-- How a step runs: inside the frame of an open call or outside any. -/
abbrev Runner := Option Nat → Step → Act Reply

/-- A step inside another one. Its beginning and its end are recorded; an end by panic is not. -/
def runLine (run : Runner) (frame : Option Nat) : Line → Act (Except Failure Reply)
  | .mk name _ step => do
    Act.mark (.begins name)
    let answer ← Act.attempt (run frame step)
    Act.mark (.ended answer)
    return answer

/-- Steps in turn, up to the first that stops and fails. -/
def runBody (run : Runner) (frame : Option Nat) : List Line → Act Unit
  | [] => pure ()
  | .mk name stops step :: rest => do
    match ← runLine run frame (.mk name stops step), stops with
    | .error e, true => Act.fail e
    | _, _ => runBody run frame rest

/-- Steps in turn, whatever their answers. -/
def runAll (run : Runner) (frame : Option Nat) : List Line → Act Unit
  | [] => pure ()
  | line :: rest => do
    let _ ← runLine run frame line
    runAll run frame rest

/-- Panic if asked to. -/
def panicIf : Option String → Act Unit
  | some m => Act.panic m
  | none => pure ()

/-- The destructor of an object of the session's own types. -/
def dropObject (run : Runner) (t : ObjectType) (a : Address) : Act Unit := do
  match (← memory).objects.lookup a with
  | none => pure ()
  | some o =>
    Act.mark (.drop t o.value)
    match o.onDrop with
    | .plain => pure ()
    | .panics => Act.panic "destructor panic"
    | .runs steps => runAll run none steps

/-- The destructors of all types. The host has nothing to drop of a foreign object of the demo. -/
def finalize (run : Runner) : Finalizer ObjectType Mark Undo (Demo.Store Memory)
  | .thingR, _, a => Demo.destroyThingR a
  | .thingC, .foreign _, a => Demo.destroyThingC a
  | .thingC, .native, _ => pure ()
  | t, _, a => dropObject run t a

/-- A rollback: its mark, its steps, and perhaps a panic. -/
def undo (run : Runner) (u : Undo) : Act Unit := do
  Act.mark (.rollback u.tag)
  runAll run none u.steps
  panicIf u.panics

def hooks (run : Runner) : Demo.Hooks Mark Undo Memory := ⟨finalize run, undo run⟩

/-- Make and register an object the way the host does. -/
def create (run : Runner) (t : ObjectType) (value : Int) (name : String) (onDrop : OnDrop) : Act Handle := do
  match t with
  | .thingR => Demo.createThingR (hooks run) value name
  | .ext | .thingC => Objects.create (finalize run) t (← Demo.allocate)
  | .obj | .unit => Objects.create (finalize run) t (← storeObject ⟨value, onDrop⟩)

/-- An object of a foreign constructor, or nothing. -/
def build : Option Int → Act Address
  | none => pure 0
  | some value => storeObject ⟨value, .plain⟩

/-- What is seen through a reference. -/
def inspectRef (t : ObjectType) (h : Handle) : Act (Except Failure Shown) :=
  Act.attempt (do inspect t (← h.resolveRef t))

namespace ReturnType

/-- What a failed function of this type returns. -/
def sentinel : ReturnType → Returned
  | .unit => .unit
  | .completion | .flag => .flag false
  | .count | .optionalCount => .number 0
  | .signed | .optionalSigned => .number (-1)
  | .float => .float 0
  | .handle | .object => .handle .null
  | .text | .optionalText => .text .null
  | .bytes => .bytes none
  | .view => .view .empty
  | .cell => .cell none

/-- How a value of this type leaves the host. -/
def deliver (type : ReturnType) : HostValue → Act Returned
  | .missing => pure type.sentinel
  | .unit => pure (if type = .completion then .flag true else .unit)
  | .flag b => pure (.flag b)
  | .number n => pure (if type = .cell then .cell (some n) else .number n)
  | .float bits => pure (.float bits)
  | .handle h =>
    if type = .object then do return .handle (← h.intoForeign ObjectType.obj)
    else pure (.handle h)
  | .object _ => pure type.sentinel
  | .text s => pure (.text (.ofText s))
  | .bytes bs => pure (if type = .view then .view (.borrow bs) else .bytes (some bs))

def passage (type : ReturnType) : Passage ObjectType Mark Undo (Demo.Store Memory) HostValue Returned :=
  ⟨type.sentinel, type.deliver⟩

end ReturnType

/-- The body of a host function. -/
def Ending.run {α : Type} : Ending α → Act α
  | .value a => pure a
  | .failure f => Act.fail f
  | .panic m => Act.panic m

/-- The body of a host function that may make an object. -/
def hostBody (run : Runner) (ending : Ending HostValue) : Act HostValue := do
  match ← ending.run with
  | .object n => return .handle (← create run .obj n "" .plain)
  | v => return v

/-- A returned object is known as `ret`, not owned. -/
def nameReturned (type : ReturnType) (r : Returned) : Act Unit :=
  match type, r with
  | .object, .handle h => define "ret" ⟨.obj, h, false⟩
  | _, _ => pure ()

/-- Calls of a callback, each with a slot of its own, and the sum of the numbers it took. -/
def runCallbacks (kind : CallbackKind) (raises : List (Int × List Raise)) :
    List Int → Int → Act (List (Except Failure Unit) × Int)
  | [], total => pure ([], total)
  | n :: rest, total => do
    match kind with
    | .missing =>
      let (results, total) ← runCallbacks kind raises rest total
      return (.error Call.noFunction :: results, total)
    | .call =>
      Act.mark (.callback n)
      match raises.lookup n with
      | some rs =>
        let slot ← rs.foldlM Boundary.raise .empty
        let (results, total) ← runCallbacks kind raises rest total
        return (slot.result () :: results, total)
      | none =>
        let (results, total) ← runCallbacks kind raises rest (total + n)
        return (.ok () :: results, total)

/-- A foreign function called directly. -/
def callDirectly (f : ForeignFunction) (v : View UInt8) (times : Int) (slot : ErrorSlot) : Act Reply := do
  match f with
  | .sumBytes => return .number (Demo.Foreign.sumBytes v)
  | .copyBytes =>
    let (copy, slot) ← Demo.Foreign.copyBytes v slot
    let bytes := ((ByteVec.owner Allocation.grants).growable 1).toList copy
    Demo.Foreign.dropByteVec copy
    return .byteVec copy.isNone bytes slot
  | .apply =>
    let callback : Option (Unit → Nat → ErrorSlot → Act (Unit × ErrorSlot)) := none
    let (done, _, slot) ← Demo.Foreign.apply callback times () slot
    return .returned (.flag done) (some slot)
  | .construct c =>
    let (a, slot) ← c.run v slot
    let name ← Demo.thingCAt a
    Demo.destroyThingC a
    let drops := (← Act.get).drops
    return .built (if a = 0 then none else some (.ok name)) slot drops

/-- Whether a symbol is known under a fingerprint, as the foreign side asks. -/
def contractCheck (symbol : TextView) (fp : UInt64) : Act Bool := do
  let symbol ← Act.ofExcept symbol.toText
  match ← Act.contracts with
  | none => Act.fail (.invalidInput "no contract table is installed")
  | some t =>
    match t.verifyPeer symbol fp with
    | .ok () => return true
    | .error e =>
      Act.log .warn ("foreign contract check failed: " ++ e.failure.display)
      return false

/-- The frame a step runs in. -/
def inFrame : Option Nat → Act Nat
  | some level => return level
  | none => Act.panic "no open call"

/-- What becomes of a value on its way. -/
def Sent.settle (run : Runner) (name : String) (s : Sent) (fate : Fate) : Act Reply := do
  if fate ≠ .debug then
    modifyMemory fun m => { m with sent := m.sent.filter (·.1 ≠ name) }
  match fate with
  | .pass => return .nothing
  | .drop =>
    Call.abandon (finalize run) s.value
    return .nothing
  | .debug =>
    let shown := s.value.debug ObjectType.name
    return .text ("Transferred(" ++ shown ++ ") " ++ shown)
  | .reclaim =>
    Call.reclaim s.value
    setOwned s.vars true
    match s.value with
    | .scalar n => return .number n
    | _ => return .nothing

/-- What a callback of `apply` does when it is called with `i`. -/
def react (run : Runner) (frame : Option Nat) (reactions : List (Nat × Reaction)) (i : Nat) : Act Unit := do
  Act.mark (.callback i)
  match reactions.lookup i with
  | none => pure ()
  | some (.fails f) => Act.fail f
  | some (.panics m) => Act.panic m
  | some (.runs steps) => runBody run frame steps

/-- One step. -/
def perform (run : Runner) (frame : Option Nat) : Step → Act Reply
  | .new t as value name onDrop => do
    let h ← create run t value name onDrop
    define as ⟨t, h, true⟩
    return .handle h
  | .adopt t as value => do
    let h ← Objects.adopt (finalize run) t (← build value) objectDestructor
    define as ⟨t, h, true⟩
    return .handle h
  | .construct t as value raises panics => do
    let h ← Objects.construct (finalize run) t objectDestructor fun slot => do
      Act.mark .ctor
      let slot ← raises.foldlM Boundary.raise slot
      panicIf panics
      return (← build value, slot)
    define as ⟨t, h, true⟩
    return .handle h
  | .drop var => do
    let v ← consume var
    v.raw.drop (finalize run) v.type
    return .nothing
  | .intoForeign var => do
    let v ← consume var
    return .handle (← v.raw.intoForeign v.type)
  | .fromForeign target as => do
    let (t, h) ← target.find
    h.fromForeign t
    match as, target with
    | some name, _ => define name ⟨t, h, true⟩
    | none, .var name _ => define name ⟨t, h, true⟩
    | none, .raw _ _ => pure ()
    return .handle h
  | .free target => do
    let (t, h) ← target.find
    Boundary.infallible (Passage.plain ()) (Objects.free (finalize run) t h)
    return .nothing
  | .take target => do
    let (t, h) ← target.find
    let a ← Objects.take t h
    if a = 0 then return .nothing
    let shown ← inspect t a
    finalize run t (destructorOf t) a
    return .object shown
  | .value var => do
    let v ← lookupVar var
    return .shown (← inspect v.type (← v.raw.deref v.type))
  | .debug var => do
    let v ← lookupVar var
    return .text (v.raw.debug v.type.name)
  | .ref target => do
    let (t, h) ← target.find
    let get ← inspectRef t h
    let address ← Act.attempt (do
      let _ ← h.resolveRef t
      return true)
    return .ref h ("HandleRef<" ++ t.name ++ ">(" ++ h.text ++ ")") get address
  | .registry t => Act.readRegistry t fun r => .ok (.registry r.typeName r.owner)
  | .stats t => Act.readRegistry t fun r => .ok (.stats r.created r.destroyed r.released r.live)
  | .destroy target claimant => do
    let (t, h) ← target.find
    Objects.destroy (finalize run) t h claimant
    return .nothing
  | .release target claimant => do
    let (t, h) ← target.find
    let a ← Objects.release t h claimant
    let shown ← inspect t a
    finalize run t (destructorOf t) a
    return .object shown
  | .resolve target => do
    let (t, h) ← target.find
    return .shown (← inspect t (← Act.readRegistry t fun r => r.resolve h))
  | .resolveRef target check => do
    let (t, h) ← target.find
    return .shown (← inspect t (← Act.readRegistry t fun r => r.resolveRef h check))
  | .beginLoan target => do
    let (t, h) ← target.find
    Act.updateRegistry t fun r => r.lend h
    return .nothing
  | .endLoan target => do
    let (t, h) ← target.find
    Act.updateRegistry t fun r => r.endLoan h
    return .nothing
  | .transfer target giver taker => do
    let (t, h) ← target.find
    Act.updateRegistry t fun r => r.transfer h giver taker
    return .nothing
  | .holder target => do
    let (t, h) ← target.find
    return .side (← Act.readRegistry t fun r => r.holder h)
  | .releaseFields shape vars taker => do
    let vs ← vars.mapM lookupVar
    (shape.build (vs.map Var.raw) 0).handOver taker
    return .nothing
  | .invoke s body ret =>
    Call.invoke (undo run) s fun level => do
      runBody run (some level) body
      return .payload ret
  | .fail f => Act.fail f
  | .panic m => Act.panic m
  | .lend var => do
    let level ← inFrame frame
    let v ← lookupVar var
    Call.lend level v.type v.raw
    return .lent v.raw (← inspectRef v.type v.raw)
  | .borrowSlice bytes => do
    return .bytes (← Act.ofExcept ((View.borrow bytes).materialize 1))
  | .borrowText bytes => do
    return .text (← Act.ofExcept (TextView.materialize (View.borrow bytes)))
  | .onFailure tag steps panics => do
    let level ← inFrame frame
    Call.onFailure level ⟨tag, steps, panics⟩
    return .nothing
  | .callForeign raises steps panics ret =>
    Call.callForeign fun slot => do
      Act.mark .foreign
      let slot ← raises.foldlM Boundary.raise slot
      runAll run frame steps
      panicIf panics
      return (.payload ret, slot)
  | .send shape vars as value => do
    let vs ← vars.mapM consume
    let v := shape.build (vs.map Var.raw) value
    Call.transfer (finalize run) v
    modifyMemory fun m => { m with sent := replace m.sent as ⟨v, vars⟩ }
    return .nothing
  | .sent name fate => do
    match (← memory).sent.lookup name with
    | none => Act.panic ("nothing sent as " ++ name)
    | some s => s.settle run name fate
  | .boundary type ending slot => do
    let (r, slot) ← Boundary.call type.passage slot (hostBody run ending)
    nameReturned type r
    return .returned r (some slot)
  | .infallible type ending => do
    let r ← Boundary.infallible type.passage (hostBody run ending)
    nameReturned type r
    return .returned r none
  | .catchPanic ending => do
    return .payload (← Act.catchPanic ending.run)
  | .callback kind args raises => do
    let (results, total) ← runCallbacks kind raises args 0
    return .callbacks results total
  | .copyTo bytes buffer slot => do
    let ((ret, slot), after) ← Act.within buffer (Buffer.copyOut bytes slot)
    return .copied ret slot after.items
  | .apply times reactions => do
    Demo.apply (hooks run) times (react run frame reactions)
    return .nothing
  | .makeDemo as name c => do
    let h ← Demo.makeDemo (hooks run) c name
    define as ⟨.thingC, h, true⟩
    return .handle h
  | .getName var => do
    let v ← lookupVar var
    return .text (← Demo.getName (hooks run) v.raw)
  | .describeR var => do
    let v ← lookupVar var
    Demo.describeR (hooks run) v.raw
    return .nothing
  | .doThing z y x => do
    let vy ← consume y
    let vx ← consume x
    return .bytes (← Demo.doThing (hooks run) z vy.raw vx.raw)
  | .sumBytes bytes => do
    return .number (← Demo.sumBytes (hooks run) bytes)
  | .copyBytes bytes => do
    let copy ← Demo.copyBytes (hooks run) bytes
    let length := copy.length
    return .foreignBytes length (← Demo.collect (some copy))
  | .liveByteVecs => do
    return .number (← Act.get).liveByteVecs
  | .drops => do
    return .number (← Act.get).drops
  | .sample s => do
    let echo ← Demo.sampleEcho (hooks run) s
    let checksum ← Demo.sampleChecksum (hooks run) s
    return .sample echo (echo.same s) checksum
  | .listen as => do
    let l ← Demo.listen (hooks run)
    modifyMemory fun m => { m with listeners := replace m.listeners as l }
    return .nothing
  | .notify name arg => do
    let l := ((← memory).listeners.lookup name).getD {}
    let (l, slot) := l.call arg .empty
    modifyMemory fun m => { m with listeners := replace m.listeners name l }
    Act.ofExcept (slot.result (.listener l))
  | .unlisten name => do
    let l := ((← memory).listeners.lookup name).getD {}
    modifyMemory fun m => { m with listeners := m.listeners.filter (·.1 ≠ name) }
    return .listener { l with releases := l.releases + 1 }
  | .newThingR as value name slot => do
    let (h, slot) ← Demo.newThingR (hooks run) value name slot
    define as ⟨.thingR, h, false⟩
    return .returned (.handle h) (some slot)
  | .valueOfThingR target slot => do
    let (_, h) ← target.find
    let (n, slot) ← Demo.valueOfThingR h slot
    return .returned (.number n) (some slot)
  | .nameOfThingR target slot => do
    let (_, h) ← target.find
    let (name, slot) ← Demo.nameOfThingR h slot
    return .returned (.reading name.toText) (some slot)
  | .printR target slot => do
    let (_, h) ← target.find
    let (printed, slot) ← Demo.printR h slot
    return .returned (.flag printed) (some slot)
  | .foreign f v times slot => callDirectly f v times slot
  | .installSettings s => do
    return .settings (← Act.installSettings s)
  | .settings => do
    return .settings (← Act.settings)
  | .installDemoContracts => do
    return .count (some (← Demo.installContracts).size)
  | .installContracts ss => do
    let t ← Act.ofExcept ((Contracts.empty.registerAll ss).mapError Contracts.Refusal.failure)
    return .count (some (← Act.installContracts t).size)
  | .installed => do
    return .count ((← Act.contracts).map Contracts.size)
  | .demoSignatures => return .signatures Demo.signatures
  | .checkContract symbol fp slot => do
    let (ok, slot) ← Boundary.call (Passage.plain false) slot (contractCheck symbol fp)
    return .returned (.flag ok) (some slot)

/-- One step with everything inside it. -/
def exec : Nat → Runner
  | 0 => fun _ _ => Act.panic "no fuel"
  | n + 1 => perform (exec n)

/-- The answer of a step and what happened during it, in order. -/
structure Report where
  outcome : Outcome Reply
  events : List (Event Mark)

/-- Steps in turn, up to the end of the process. -/
def runSteps (fuel : Nat) : List Step → Process → List Report
  | [], _ => []
  | step :: rest, w =>
    let (outcome, w') := exec fuel none step { w with trace := [] }
    let report : Report := ⟨outcome, w'.trace.reverse⟩
    match outcome with
    | .abort _ => [report]
    | _ => report :: runSteps fuel rest w'

/-- A whole session. -/
def run (env : Environment) (steps : List Step) : List Report :=
  runSteps (steps.foldl (fun n s => n + s.weight) 1) steps (Process.start env)

end Session
end Causeway
