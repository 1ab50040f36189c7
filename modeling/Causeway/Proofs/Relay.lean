import Causeway.Proofs.Acts
import Causeway.Proofs.Records
import Causeway.ObjectType
import Mathlib.Logic.Function.Iterate

/-!
# Causeway.Proofs.Relay

A failure that passes from host to foreign code and back any number of times.

* `Failure.hop` — a failure after one such passage: written to a slot by the host, read as a callee's.
* `Relay`       — a host function that fails, under layers of foreign callers and calls.
* `relayed_failure_settles` — what the outermost caller sees.

Writing and reading a slot use different codes. The two that only a callee raises come back as the kinds they
name, and those travel under codes of the bridge from then on, which a callee's reader takes for the callee's
own. So the kind changes in the first two passages at most and is the same in all later ones.
-/

namespace Causeway

namespace Failure

def hop (f : Failure) : Failure := ofCallee f.code f.message

/-- The code a failure travels under after a passage. -/
def hopCode (code : Int) : Int :=
  if code = calleeAllocation then 101 else if code = calleeEncoding then 102 else code

theorem hop_cases (f : Failure) :
    (f.code = -101 ∧ f.hop = .allocation f.message) ∨ (f.code = -102 ∧ f.hop = .encoding f.message) ∨
      hopCode f.code = f.code ∧ f.hop = .callee f.code f.message := by
  unfold hop ofCallee hopCode calleeAllocation calleeEncoding
  by_cases halloc : f.code = -101
  · exact .inl ⟨halloc, if_pos halloc⟩
  · by_cases henc : f.code = -102
    · exact .inr (.inl ⟨henc, by rw [if_neg halloc, if_pos henc]⟩)
    · refine .inr (.inr ⟨?_, ?_⟩) <;> rw [if_neg halloc, if_neg henc]

theorem isFatal_hop (f : Failure) : f.hop.isFatal = false := by
  rcases f.hop_cases with ⟨_, h⟩ | ⟨_, h⟩ | ⟨_, h⟩ <;> rw [h] <;> rfl

theorem message_hop (f : Failure) : f.hop.message = f.message := by
  rcases f.hop_cases with ⟨_, h⟩ | ⟨_, h⟩ | ⟨_, h⟩ <;> rw [h] <;> rfl

theorem code_hop (f : Failure) : f.hop.code = hopCode f.code := by
  rcases f.hop_cases with ⟨hcode, h⟩ | ⟨hcode, h⟩ | ⟨hcode, h⟩ <;> rw [h, hcode] <;> rfl

theorem hop_ne_panic (f : Failure) (m : String) : f.hop ≠ .panic m := by
  rcases f.hop_cases with ⟨_, h⟩ | ⟨_, h⟩ | ⟨_, h⟩ <;> rw [h] <;> exact nofun

theorem hopCode_hopCode (code : Int) : hopCode (hopCode code) = hopCode code := by
  unfold hopCode calleeAllocation calleeEncoding
  split
  · rfl
  · split <;> simp_all

/-- A code that is not one of the two stays the callee's. -/
theorem hop_of_hopCode {f : Failure} (h : hopCode f.code = f.code) : f.hop = .callee f.code f.message := by
  rcases f.hop_cases with ⟨hcode, _⟩ | ⟨hcode, _⟩ | ⟨_, hhop⟩
  · rw [hcode] at h
    exact absurd h (by decide)
  · rw [hcode] at h
    exact absurd h (by decide)
  · exact hhop

theorem hop_hop (f : Failure) : f.hop.hop = .callee (hopCode f.code) f.message := by
  have hcode : hopCode f.hop.code = f.hop.code := by rw [code_hop, hopCode_hopCode]
  rw [hop_of_hopCode hcode, code_hop, message_hop]

theorem message_hops (f : Failure) (n : Nat) : (hop^[n] f).message = f.message := by
  induction n with
  | zero => rfl
  | succ n ih => rw [Function.iterate_succ_apply', message_hop, ih]

theorem code_hops (f : Failure) (n : Nat) : (hop^[n + 1] f).code = hopCode f.code := by
  induction n with
  | zero => exact code_hop f
  | succ n ih => rw [Function.iterate_succ_apply', code_hop, ih, hopCode_hopCode]

/-- From the second passage on nothing changes any more. -/
theorem hops_eq (f : Failure) (n : Nat) : hop^[n + 2] f = .callee (hopCode f.code) f.message := by
  induction n with
  | zero => exact hop_hop f
  | succ n ih =>
    have hcode : hopCode (hop^[n + 2] f).code = (hop^[n + 2] f).code := by
      rw [code_hops, hopCode_hopCode]
    rw [Function.iterate_succ_apply', hop_of_hopCode hcode, ih]
    rfl

theorem isFatal_hops {f : Failure} (h : f.isFatal = false) (n : Nat) : (hop^[n] f).isFatal = false := by
  cases n with
  | zero => exact h
  | succ n => rw [Function.iterate_succ_apply', isFatal_hop]

end Failure

theorem Record.toCallee_ofFailure (f : Failure) : (Record.ofFailure f).toCallee = f.hop := by
  rw [Record.toCallee, Record.describe_ofFailure]
  rfl

variable {τ ε β σ α ρ ι : Type}

/-- A computation that fails, or panics in a way that is caught as that failure, and leaves the open calls. -/
def Act.FailsWith (e : Failure) (x : Act τ ε β σ α) (w : World τ ε β σ) : Prop :=
  ∃ w', Act.catchPanic x w = (.fail e, w') ∧ w'.frames = w.frames

namespace Act.FailsWith

variable {e : Failure} {x : Act τ ε β σ α} {w : World τ ε β σ}

theorem bind (h : x.FailsWith e w) (f : α → Act τ ε β σ ρ) : (x >>= f).FailsWith e w := by
  obtain ⟨w', hrun, hframes⟩ := h
  refine ⟨w', ?_, hframes⟩
  unfold catchPanic at hrun ⊢
  rw [bind_apply]
  rcases hx : x w with ⟨_ | _ | _ | _, w₁⟩ <;> rw [hx] at hrun <;> cases hrun <;> rfl

theorem attempt_catchPanic (h : x.FailsWith e w) :
    ∃ w', attempt (catchPanic x) w = (.ok (.error e), w') ∧ w'.frames = w.frames := by
  obtain ⟨w', hrun, hframes⟩ := h
  exact ⟨w', attempt_of_fail hrun, hframes⟩

/-- What fails with anything but a panic has failed. -/
theorem run_eq (h : x.FailsWith e w) (he : ∀ m, e ≠ .panic m) : ∃ w', x w = (.fail e, w') := by
  obtain ⟨w', hrun, _⟩ := h
  unfold catchPanic at hrun
  rcases hx : x w with ⟨_ | _ | _ | m, w₁⟩ <;> rw [hx] at hrun <;> cases hrun
  · exact ⟨w', rfl⟩
  · exact absurd rfl (he _)

theorem of_run {w' : World τ ε β σ} (hrun : x w = (.fail e, w')) (hframes : w'.frames = w.frames) :
    x.FailsWith e w := by
  refine ⟨w', ?_, hframes⟩
  unfold catchPanic
  rw [hrun]

end Act.FailsWith

/-- A host function that fails with `e`, under `n` layers, each a foreign caller that leaves its slot as it is
and whose answer the enclosing host function reads together with the slot. Any of the host functions may do so
inside a call. -/
inductive Relay (τ ε β σ : Type) (e : Failure) : Nat → Type → Type 1 where
  | origin {α : Type} (x : Act τ ε β σ α) (fails : ∀ w, x.FailsWith e w) : Relay τ ε β σ e 0 α
  | layer {n : Nat} {ρ ι α : Type} (p : Passage τ ε β σ ρ ι) (answer : ι → Act τ ε β σ α)
      (returns : ∀ i w, ∃ a w', answer i w = (.ok a, w') ∧ w'.frames = w.frames)
      (inner : Relay τ ε β σ e n ρ) : Relay τ ε β σ e (n + 1) α
  | inCall {n : Nat} {α : Type} (undo : β → Act τ ε β σ Unit) (s : Signature)
      (inner : Relay τ ε β σ e n α) : Relay τ ε β σ e n α

namespace Relay

variable {e : Failure} {n : Nat}

def run [DecidableEq τ] : {n : Nat} → {α : Type} → Relay τ ε β σ e n α → Act τ ε β σ α
  | _, _, .origin x _ => x
  | _, _, .layer p answer _ inner => Call.callForeign fun slot => do
    let (i, slot) ← Boundary.call p slot inner.run
    let a ← answer i
    return (a, slot)
  | _, _, .inCall undo s inner => Call.invoke undo s fun _ => inner.run

/-- The signatures of the calls in a relay. -/
def signatures : {n : Nat} → {α : Type} → Relay τ ε β σ e n α → List Signature
  | _, _, .origin _ _ => []
  | _, _, .layer _ _ _ inner => inner.signatures
  | _, _, .inCall _ s inner => s :: inner.signatures

end Relay

/-- A function that fails without breaking a rule leaves its failure in the slot and ends nothing. -/
theorem Boundary.call_of_failsWith (p : Passage τ ε β σ ρ ι) {e : Failure} (he : e.isFatal = false)
    {body : Act τ ε β σ ρ} {w : World τ ε β σ} (h : body.FailsWith e w) :
    ∃ w', call p .empty body w = (.ok (p.sentinel, .holding (.ofFailure e)), w') ∧ w'.frames = w.frames := by
  obtain ⟨w', hrun, hframes⟩ := (h.bind p.deliver).attempt_catchPanic
  refine ⟨w', ?_, hframes⟩
  rw [call_of_caught p hrun, he]
  rfl

/-- One layer: the failure is handed through the slot. -/
theorem Call.callForeign_failsWith (p : Passage τ ε β σ ρ ι) {e : Failure} (he : e.isFatal = false)
    {body : Act τ ε β σ ρ} {answer : ι → Act τ ε β σ α}
    (hanswer : ∀ i w, ∃ a w', answer i w = (.ok a, w') ∧ w'.frames = w.frames)
    {w : World τ ε β σ} (h : body.FailsWith e w) :
    (Call.callForeign fun slot => do
      let (i, slot) ← Boundary.call p slot body
      let a ← answer i
      return (a, slot)).FailsWith e.hop w := by
  obtain ⟨w₁, hcall, hframes₁⟩ := Boundary.call_of_failsWith p he h
  obtain ⟨a, w₂, hreturn, hframes₂⟩ := hanswer p.sentinel w₁
  have hforeign : (do
      let (i, slot) ← Boundary.call p .empty body
      let a ← answer i
      return (a, slot) : Act τ ε β σ (α × ErrorSlot)) w =
        (.ok (a, .holding (.ofFailure e)), w₂) := by
    rw [Act.bind_of_ok hcall]
    exact Act.bind_of_ok hreturn _
  have hread : (Act.ofExcept ((ErrorSlot.holding (.ofFailure e)).result a) : Act τ ε β σ α) w₂ =
      (.fail e.hop, w₂) := by
    simp only [ErrorSlot.result, Record.toCallee_ofFailure]
    rfl
  exact .of_run ((Act.bind_of_ok hforeign _).trans hread) (hframes₂.trans hframes₁)

/-- A call whose body fails without breaking a rule fails the same way. -/
theorem Call.invoke_failsWith [DecidableEq τ] (undo : β → Act τ ε β σ Unit) {e : Failure}
    (he : e.isFatal = false) {s : Signature} {body : Act τ ε β σ α} {w : World τ ε β σ}
    (haccepted : Accepted s w) (h : ∀ w', w'.scene = { w.scene with frames := w.frames.push {} } →
      body.FailsWith e w') :
    (Call.invoke undo s fun _ => body).FailsWith e w := by
  rcases preamble_cases s w with ⟨_, w₀, hscene, hrun⟩ | ⟨hrefused, _⟩
  · have hframes : w₀.frames = w.frames := congrArg Scene.frames hscene
    have hopened : ({ w₀ with frames := w₀.frames.push {} } : World τ ε β σ).scene =
        { w.scene with frames := w.frames.push {} } := by
      rw [← hscene, ← hframes]
      rfl
    obtain ⟨w₁, hbody, hframes₁⟩ := (h _ hopened).attempt_catchPanic
    have hframed : framed undo (fun _ => body) w₀ = (.ok (.error e), { w₁ with frames := w₀.frames }) :=
      framed_of_unused hbody hframes₁
    obtain ⟨w₂, hfail, hscene₂⟩ := conclude_of_harmless (α := α) w.inForce s he { w₁ with frames := w₀.frames }
    have hend : invoke undo s (fun _ => body) w = (.fail e, w₂) := by
      rw [invoke_eq, Act.bind_of_ok hrun, Act.bind_of_ok hframed, hfail]
    exact .of_run hend ((congrArg Scene.frames hscene₂).trans hframes)
  · exact absurd haccepted hrefused

/-- Whatever stands between, a relay of `n` layers fails with the failure `n` passages later. -/
theorem Relay.run_failsWith [DecidableEq τ] {e : Failure} (he : e.isFatal = false) {n : Nat}
    (r : Relay τ ε β σ e n α) (w : World τ ε β σ) (hw : ∀ s ∈ r.signatures, Call.Accepted s w) :
    r.run.FailsWith (Failure.hop^[n] e) w := by
  induction r generalizing w with
  | origin x fails => exact fails w
  | layer p answer returns inner ih =>
    rw [Function.iterate_succ_apply']
    exact Call.callForeign_failsWith p (Failure.isFatal_hops he _) returns (ih w hw)
  | inCall undo s inner ih =>
    refine Call.invoke_failsWith undo (Failure.isFatal_hops he _) (hw s List.mem_cons_self) ?_
    intro w' hscene
    -- an open call changes nothing that the calls inside it are checked against
    refine ih w' fun s' hs' => ?_
    have hforce : w'.inForce = w.inForce := congrArg Scene.settings hscene
    have hcontracts : w'.contracts = w.contracts := congrArg Scene.contracts hscene
    have haccepted := hw s' (List.mem_cons_of_mem s hs')
    unfold Call.Accepted at haccepted ⊢
    rw [hforce, hcontracts]
    exact haccepted

/-- A failure that breaks no rule, relayed through any number of layers, ends nothing and stays one that breaks no
rule. Its message and code are kept, but for the two codes that only a callee raises. After the first layer but
one it is the callee's, and further layers leave it as it is. -/
theorem relayed_failure_settles [DecidableEq τ] (e : Failure) (he : e.isFatal = false) (n : Nat) (hn : 1 ≤ n)
    (r : Relay τ ε β σ e n α) (w : World τ ε β σ) (hw : ∀ s ∈ r.signatures, Call.Accepted s w) :
    ∃ f w', r.run w = (.fail f, w') ∧ f.isFatal = false ∧ f.message = e.message ∧
      f.code = (if e.code = -101 then 101 else if e.code = -102 then 102 else e.code) ∧
      (2 ≤ n → f = .callee (if e.code = -101 then 101 else if e.code = -102 then 102 else e.code) e.message) := by
  obtain ⟨k, rfl⟩ : ∃ k, n = k + 1 := ⟨n - 1, by omega⟩
  have hpanic : ∀ m, Failure.hop^[k + 1] e ≠ .panic m := by
    rw [Function.iterate_succ_apply']
    exact Failure.hop_ne_panic _
  obtain ⟨w', hrun⟩ := (r.run_failsWith he w hw).run_eq hpanic
  refine ⟨_, w', hrun, Failure.isFatal_hops he _, Failure.message_hops e _, Failure.code_hops e k, fun htwo => ?_⟩
  obtain ⟨j, rfl⟩ : ∃ j, k = j + 1 := ⟨k - 1, by omega⟩
  exact Failure.hops_eq e j

/-- A callee that could not allocate, two layers down. -/
def exhaustedBelow : Relay ObjectType Empty Unit Unit (.callee (-101) "no room") 2 Nat :=
  .inCall (fun _ => pure ()) { namespacePath := "demo", name := "visit", callee := .foreign } <|
  .layer (.plain 0) pure (fun i w => ⟨i, w, rfl, rfl⟩) <|
  .inCall (fun _ => pure ()) { namespacePath := "demo", name := "answer", callee := .host } <|
  .layer (.plain 0) pure (fun i w => ⟨i, w, rfl, rfl⟩) <|
  .origin (Act.fail _) fun _ => .of_run rfl rfl

theorem relayed_failure_settles_below :
    let w : World ObjectType Empty Unit Unit := { registries := ObjectType.registry, state := () }
    (∀ s ∈ exhaustedBelow.signatures, Call.Accepted s w) ∧
      ∃ w', exhaustedBelow.run w = (.fail (.callee 101 "no room"), w') := by
  intro w
  have haccepted : ∀ s ∈ exhaustedBelow.signatures, Call.Accepted s w := fun _ _ _ _ ht => nomatch ht
  obtain ⟨f, w', hrun, _, _, _, hsettled⟩ :=
    relayed_failure_settles (.callee (-101) "no room") rfl 2 (by decide) exhaustedBelow w haccepted
  rw [hsettled (by decide)] at hrun
  exact ⟨haccepted, w', hrun⟩

end Causeway
