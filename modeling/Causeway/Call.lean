import Causeway.Boundary

/-!
# Causeway.Call

Foreign functions as the host calls them.

* `Call.invoke`      — run the body of a call inside a frame.
* `Call.lend`        — lend an object to the call; the loan ends with the call.
* `Call.onFailure`   — register an action that undoes part of the call if it fails.
* `Call.callForeign` — call a foreign function and read its slot.
* `Call.transfer`    — prepare a value to be passed by ownership.
* `Call.reclaim`, `Call.abandon` — take a transferred value back, or destroy it.

When the body ends, every loan is ended, the newest first; if it failed, the registered actions run,
the newest first. A loan that cannot be ended overrides the result, and a fatal failure ends the
process.
-/

namespace Causeway
namespace Call

variable {τ ε β σ α : Type} [DecidableEq τ]

/-- Check a signature against the installed contracts. A mismatch ends the process. -/
def checkContract (settings : Settings) (s : Signature) : Act τ ε β σ Unit := do
  if settings.verifyContracts then
    match ← Act.contracts with
    | none => pure ()
    | some t =>
      match t.verify s with
      | .ok () => pure ()
      | .error e => Act.abort e.failure

/-- Open a frame; its level is its place among the open calls. -/
def openFrame : Act τ ε β σ Nat := fun w =>
  (.ok w.frames.size, { w with frames := w.frames.push {} })

/-- Take the innermost frame off. -/
def takeFrame : Act τ ε β σ (Frame τ β) := fun w =>
  (.ok (w.frames.back?.getD {}), { w with frames := w.frames.pop })

/-- Change an open frame. -/
def onFrame (level : Nat) (f : Frame τ β → Frame τ β) : Act τ ε β σ Unit := fun w =>
  (.ok (), { w with frames := w.frames.modify level f })

/-- End loans in turn. The first failure is kept and the rest are ended all the same. -/
def endLoans : List (τ × Handle) → Act τ ε β σ (Option Failure)
  | [] => pure none
  | (t, h) :: rest => do
    let here ← Act.attempt (Act.updateRegistry t fun r => r.endLoan h)
    let later ← endLoans rest
    match here with
    | .ok () => return later
    | .error e => return some e

/-- Undo what the call did, action by action. One that panics is logged and does not stop the rest. -/
def runRollbacks (undo : β → Act τ ε β σ Unit) (cause : Failure) : List β → Act τ ε β σ Unit
  | [] => pure ()
  | b :: rest => do
    if !(← Act.guarded (undo b)) then
      Act.log .error ("rollback panicked after: " ++ cause.display)
    runRollbacks undo cause rest

/-- Close the innermost frame on the result of its body. -/
def close (undo : β → Act τ ε β σ Unit) (result : Except Failure α) :
    Act τ ε β σ (Except Failure α) := do
  let frame ← takeFrame
  let loanFailure ← endLoans frame.loans
  match result with
  | .ok _ => pure ()
  | .error e => runRollbacks undo e frame.rollbacks
  match loanFailure with
  | some e => return .error e
  | none => return result

/-- Run one call. The body is given the level of its frame. -/
def invoke (undo : β → Act τ ε β σ Unit) (s : Signature) (body : Nat → Act τ ε β σ α) :
    Act τ ε β σ α := do
  let settings ← Act.settings
  checkContract settings s
  if settings.traceCalls then Act.log .trace ("calling " ++ s.canonical)
  let level ← openFrame
  let result ← Act.attempt (Act.catchPanic (body level))
  match ← close undo result with
  | .ok a => return a
  | .error e =>
    if e.isFatal then Act.abort e
    else
      if settings.traceCalls then Act.log .trace (s.symbol ++ " failed: " ++ e.display)
      Act.fail e

/-- Lend an object to an open call. Loans are counted only when references are checked. `room` says whether memory for
one more loan can be had, which is asked for before the loan is counted. -/
def lend (level : Nat) (t : τ) (h : Handle) (room : Bool := true) : Act τ ε β σ Unit := do
  let settings ← Act.settings
  if settings.refCheck.enabled then
    if room then
      Act.updateRegistry t fun r => r.lend h
      onFrame level fun f => { f with loans := (t, h) :: f.loans }
    else Act.fail Allocation.Refusal.exhausted.failure

/-- Register an action that undoes part of an open call. -/
def onFailure (level : Nat) (b : β) : Act τ ε β σ Unit :=
  onFrame level fun f => { f with rollbacks := b :: f.rollbacks }

/-- Call a foreign function with an empty slot; what it leaves there is its failure. -/
def callForeign (f : ErrorSlot → Act τ ε β σ (α × ErrorSlot)) : Act τ ε β σ α := do
  let (a, slot) ← f .empty
  Act.ofExcept (slot.result a)

/-- Hand a value to the foreign side by ownership. A refused value is dropped. -/
def transfer (finalize : Finalizer τ ε β σ) (v : SharedValue τ) : Act τ ε β σ Unit := do
  match ← Act.attempt (v.handOver .foreign) with
  | .ok () => pure ()
  | .error e =>
    v.drop finalize
    Act.fail e

/-- Take a transferred value back. -/
def reclaim (v : SharedValue τ) : Act τ ε β σ Unit := v.handOver .host

/-- Drop a transferred value that was never passed on. -/
def abandon (finalize : Finalizer τ ε β σ) (v : SharedValue τ) : Act τ ε β σ Unit := do
  Act.orAbort (v.handOver .host)
  v.drop finalize

/-- The failure of a callback that has no function. -/
def noFunction : Failure := .invalidInput "callback has no function pointer"

end Call
end Causeway
