import Causeway.Proofs.Acts

/-!
# Causeway.Proofs.Program

Programs that reach the registries only through their operations.

* `Note`        — what a run notes of the objects it hands over and gets rid of.
* `Point`       — the registries, the open calls and the notes at one moment.
* `Program`     — a program, with the programs that its constructors and rollbacks are.
* `Destructors` — the programs that the destructors are.
* `Program.run` — the program as a computation; its operations are those of `Objects` and `Call`.

A program may do anything else that leaves the point alone (`Act.Idle`), such as reading a registry, keeping
its own state, failing, panicking or ending the process. A program does not choose how an object is destroyed: that is
fixed when the object is handed over. Destructors run inside the operation that called them and are programs of the same
kind, so operations nest to any depth. The world a run leaves is the world of its last moment. A program may end the
process at any moment, also within a destructor or an open call, so what holds of the world every run leaves holds at
every point of every run.
-/

namespace Causeway

inductive Note (τ : Type) where
  /-- An object was handed to a registry, with its destructor. -/
  | handed (t : τ) (d : Destructor) (a : Address)
  /-- The object handed over last was registered under a handle. -/
  | registered (t : τ) (h : Handle) (a : Address)
  /-- A destructor begins on a refused object. -/
  | discarded (t : τ) (d : Destructor) (a : Address)
  /-- A destructor begins on the object that a handle named. -/
  | dropped (t : τ) (h : Handle) (d : Destructor) (a : Address)
  /-- The call that destroyed the object of a handle returned. -/
  | destroyed (t : τ) (h : Handle)
  /-- The object that a handle named was given back, and will not be destroyed by the destructor it came with. -/
  | released (t : τ) (h : Handle) (d : Destructor) (a : Address)
  deriving DecidableEq

structure Point (τ β : Type) where
  registries : Registries τ
  frames : Array (Frame τ β)
  notes : List (Note τ)

def World.point {τ β σ : Type} (w : World τ (Note τ) β σ) : Point τ β := ⟨w.registries, w.frames, w.notes⟩

namespace Act

variable {τ β σ α : Type}

/-- A computation that leaves registries, open calls and notes as they are, however it ends. -/
def Idle (x : Act τ (Note τ) β σ α) : Prop := ∀ w, (x w).2.point = w.point

theorem idle_pure (a : α) : (pure a : Act τ (Note τ) β σ α).Idle := fun _ => rfl

theorem idle_log (l : Level) (text : String) : (log l text : Act τ (Note τ) β σ Unit).Idle := fun _ => rfl

theorem idle_fail (e : Failure) : (fail e : Act τ (Note τ) β σ α).Idle := fun _ => rfl

theorem idle_abort (e : Failure) : (abort e : Act τ (Note τ) β σ α).Idle := fun _ => rfl

theorem Still.idle {x : Act τ (Note τ) β σ α} (hx : x.Still) : x.Idle := fun w =>
  congrArg (fun s : Scene τ (Note τ) β σ => (⟨s.registries, s.frames, s.notes⟩ : Point τ β)) (hx w)

theorem idle_readRegistry [DecidableEq τ] (t : τ) (f : Registry → Except Registry.Refusal α) :
    (readRegistry t f : Act τ (Note τ) β σ α).Idle := by
  intro w
  unfold readRegistry
  split <;> rfl

end Act

/-- `reach` is the number of open calls whose frames the program can lend through, the innermost first;
`direct` says whether it may count loans without a frame. -/
inductive Program (τ β σ : Type) (direct : Bool) : Nat → Type → Type 1 where
  | idle {reach : Nat} {α : Type} (x : Act τ (Note τ) β σ α) (quiet : x.Idle) :
      Program τ β σ direct reach α
  | bind {reach : Nat} {α γ : Type} (p : Program τ β σ direct reach α)
      (f : α → Program τ β σ direct reach γ) : Program τ β σ direct reach γ
  /-- Turn one ending into another. The end of the process stays what it is. -/
  | recover {reach : Nat} {α γ : Type} (g : Outcome α → Outcome γ)
      (final : ∀ e, g (.abort e) = .abort e) (p : Program τ β σ direct reach α) :
      Program τ β σ direct reach γ
  | create {reach : Nat} (t : τ) (a : Address) (lacking : Option Nat) (room : Bool) :
      Program τ β σ direct reach Handle
  | adopt {reach : Nat} (t : τ) (a : Address) (code : Address) (room : Bool) : Program τ β σ direct reach Handle
  | construct {reach : Nat} (t : τ) (code : Address) (room : Bool)
      (build : Program τ β σ direct reach (Address × ErrorSlot)) : Program τ β σ direct reach Handle
  | destroy {reach : Nat} (t : τ) (h : Handle) (claimant : Side) : Program τ β σ direct reach Unit
  | release {reach : Nat} (t : τ) (h : Handle) (claimant : Side) : Program τ β σ direct reach Address
  | transfer {reach : Nat} (t : τ) (h : Handle) (giver taker : Side) : Program τ β σ direct reach Unit
  | handOver {reach : Nat} (v : SharedValue τ) (taker : Side) : Program τ β σ direct reach Unit
  | beginLoan {reach : Nat} (t : τ) (h : Handle) (allowed : direct = true) :
      Program τ β σ direct reach Unit
  | endLoan {reach : Nat} (t : τ) (h : Handle) (allowed : direct = true) : Program τ β σ direct reach Unit
  | invoke {reach : Nat} {α : Type} (undo : β → Program τ β σ direct reach Unit) (s : Signature)
      (body : Program τ β σ direct (reach + 1) α) : Program τ β σ direct reach α
  | lend {reach : Nat} (i : Fin reach) (t : τ) (h : Handle) (room : Bool) : Program τ β σ direct reach Unit
  | onFailure {reach : Nat} (i : Fin reach) (b : β) : Program τ β σ direct reach Unit

namespace Program

variable {τ β σ : Type} {direct : Bool}

/-- Do nothing. -/
def done {reach : Nat} : Program τ β σ direct reach Unit := .idle (pure ()) (Act.idle_pure ())

/-- Ask a registry something, such as where an object is or who holds it. -/
def read [DecidableEq τ] {reach : Nat} {α : Type} (t : τ) (f : Registry → Except Registry.Refusal α) :
    Program τ β σ direct reach α :=
  .idle (Act.readRegistry t f) (Act.idle_readRegistry t f)

/-- The object handed over last. -/
def lastHanded : List (Note τ) → Address
  | .handed _ _ a :: _ => a
  | _ => 0

/-- Note that the object handed over last got a handle. -/
def noteRegistered (t : τ) (h : Handle) : Act τ (Note τ) β σ Unit := fun w =>
  Act.mark (.registered t h (lastHanded w.notes)) w

/-- The destructor that the object of a handle came with. -/
def destructorOf (t : τ) (h : Handle) : Act τ (Note τ) β σ Destructor := fun w =>
  match (w.registries t).lookup h with
  | .ok e => (.ok e.destructor, w)
  | .error _ => (.ok .native, w)

/-- A constructor whose objects are handed over as it returns them. -/
def handing (t : τ) (code : Address) (build : Act τ (Note τ) β σ (Address × ErrorSlot)) :
    Act τ (Note τ) β σ (Address × ErrorSlot) := do
  let (a, slot) ← build
  if a ≠ 0 then Act.mark (.handed t (.foreign code) a)
  return (a, slot)

/-- Destructors that note which refused objects they are run on. -/
def discarding (finalize : Finalizer τ (Note τ) β σ) : Finalizer τ (Note τ) β σ := fun t d a => do
  Act.mark (.discarded t d a)
  finalize t d a

/-- A foreign destructor cannot unwind: one that does not return ends the process. -/
def unwindless (d : Destructor) (x : Act τ (Note τ) β σ Unit) : Act τ (Note τ) β σ Unit := fun w =>
  match d, x w with
  | .foreign _, (.panic m, w') => (.abort (.panic m), w')
  | .foreign _, (.fail e, w') => (.abort e, w')
  | _, r => r

/-- Destructors that note that they are run on the object of a handle. -/
def dropping (finalize : Finalizer τ (Note τ) β σ) (h : Handle) : Finalizer τ (Note τ) β σ := fun t d a =>
  unwindless d do
    Act.mark (.dropped t h d a)
    finalize t d a

/-- The levels in reach of a body: its own, and those in reach of its call. -/
def inBody {reach : Nat} (level : Nat) (levels : Fin reach → Nat) : Fin (reach + 1) → Nat :=
  Fin.cases level levels

/-- The program as a computation. `levels` are the places of the frames in reach. -/
def run [DecidableEq τ] (finalize : Finalizer τ (Note τ) β σ) :
    {reach : Nat} → {α : Type} → Program τ β σ direct reach α → (Fin reach → Nat) → Act τ (Note τ) β σ α
  | _, _, .idle x _, _ => x
  | _, _, .bind p f, levels => do
    let a ← p.run finalize levels
    (f a).run finalize levels
  | _, _, .recover g _ p, levels => fun w =>
    let (o, w') := p.run finalize levels w
    (g o, w')
  | _, _, .create t a lacking room, _ => do
    Act.mark (.handed t .native a)
    let h ← Objects.create (discarding finalize) t a lacking room
    noteRegistered t h
    return h
  | _, _, .adopt t a code room, _ => do
    if a ≠ 0 then Act.mark (.handed t (.foreign code) a)
    let h ← Objects.adopt (discarding finalize) t a code room
    noteRegistered t h
    return h
  | _, _, .construct t code room build, levels => do
    let h ← Objects.construct (discarding finalize) t code (fun _ => handing t code (build.run finalize levels)) room
    noteRegistered t h
    return h
  | _, _, .destroy t h claimant, _ => do
    Objects.destroy (dropping finalize h) t h claimant
    Act.mark (.destroyed t h)
  | _, _, .release t h claimant, _ => do
    let d ← destructorOf t h
    let a ← Objects.release t h claimant
    Act.mark (.released t h d a)
    return a
  | _, _, .transfer t h giver taker, _ => Act.updateRegistry t fun r => r.transfer h giver taker
  | _, _, .handOver v taker, _ => v.handOver taker
  | _, _, .beginLoan t h _, _ => Act.updateRegistry t fun r => r.lend h
  | _, _, .endLoan t h _, _ => Act.updateRegistry t fun r => r.endLoan h
  | _, _, .invoke undo s body, levels =>
    Call.invoke (fun b => (undo b).run finalize levels) s fun level => body.run finalize (inBody level levels)
  | _, _, .lend i t h room, levels => Call.lend (levels i) t h room
  | _, _, .onFailure i b, levels => Call.onFailure (levels i) b

end Program

/-- The destructors of the types. -/
structure Destructors (τ β σ : Type) (direct : Bool) where
  /-- What a destructor does to an object. -/
  body : τ → Destructor → Address → Program τ β σ direct 0 Unit
  /-- How deep destructors can run inside each other before the stack is used up. -/
  depth : Nat

namespace Destructors

variable {τ β σ : Type} {direct : Bool} [DecidableEq τ]

/-- The destructors as computations, with that much of the stack left. -/
def within (D : Destructors τ β σ direct) : Nat → Finalizer τ (Note τ) β σ
  | 0 => fun _ _ _ => Act.abort (.panic "stack overflow")
  | depth + 1 => fun t d a => (D.body t d a).run (D.within depth) nofun

def finalizer (D : Destructors τ β σ direct) : Finalizer τ (Note τ) β σ := D.within D.depth

end Destructors

/-- A program run outside the reach of any open call. -/
def Program.exec [DecidableEq τ] {α : Type} {direct : Bool} (p : Program τ β σ direct 0 α)
    (D : Destructors τ β σ direct) : Act τ (Note τ) β σ α := p.run D.finalizer nofun

end Causeway
