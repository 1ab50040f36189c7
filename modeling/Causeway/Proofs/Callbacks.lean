import Causeway.Demo.Host
import Causeway.Proofs.Closing
import Causeway.Proofs.Moves

/-!
# Causeway.Proofs.Callbacks

A host function called back by the foreign side does what a loop over it does.

* `Outcome.verdict`   — what a call makes of the ending of its body.
* `World.beneath`     — the world apart from log lines and from calls opened later.
* `Act.Confined`      — a computation that leaves those calls alone.
* `Act.Oblivious`     — a computation that cannot tell whether they are there.
* `Demo.Reported`     — what the foreign loop gives back, for each ending of the plain loop.

A failure goes two ways at once: it is kept beside the loop, and it is raised in the slot, which is how
the loop learns to stop. Only the first way leaves it as it was.
-/

namespace Causeway

variable {τ ε β σ α γ : Type}

/-- A panic is a failure of the call, and a fatal failure ends the process. -/
def Outcome.verdict : Outcome α → Outcome α
  | .ok a => .ok a
  | .fail e => if e.isFatal then .abort e else .fail e
  | .panic m => .fail (.panic m)
  | .abort e => .abort e

theorem Outcome.verdict_of_fatal {o : Outcome α} {e : Failure} (h : o.cause? = some e) (he : e.isFatal = true) :
    o.verdict = .abort e := by
  cases o with
  | fail f => cases h; exact if_pos he
  | panic m => cases h; cases he
  | ok a => cases h
  | abort f => cases h

theorem Outcome.verdict_of_harmless {o : Outcome α} {e : Failure} (h : o.cause? = some e)
    (he : e.isFatal = false) : o.verdict = .fail e := by
  cases o with
  | fail f =>
    cases h
    exact if_neg (by rw [he]; decide)
  | panic m => cases h; rfl
  | ok a => cases h
  | abort f => cases h

theorem Outcome.isAbort_of_verdict {o : Outcome α} (h : o.verdict.isAbort = false) : o.isAbort = false := by
  cases o with
  | abort e => cases h
  | ok a => rfl
  | fail e => rfl
  | panic m => rfl

theorem Outcome.verdict_verdict (o : Outcome α) : o.verdict.verdict = o.verdict := by
  cases o with
  | fail e =>
    cases he : e.isFatal with
    | true =>
      have h : verdict (.fail e : Outcome α) = .abort e := verdict_of_fatal rfl he
      rw [h]
      rfl
    | false =>
      have h : verdict (.fail e : Outcome α) = .fail e := verdict_of_harmless rfl he
      rw [h, h]
  | ok a => rfl
  | panic m => rfl
  | abort e => rfl

/-! ## Calls opened later -/

/-- What there is beneath the calls opened after the first `n`, and apart from log lines. -/
def World.beneath (n : Nat) (w : World τ ε β σ) : Scene τ ε β σ :=
  { w.scene with frames := w.frames.extract 0 n }

theorem World.beneath_congr (n : Nat) {w w' : World τ ε β σ} (h : w.scene = w'.scene) :
    w.beneath n = w'.beneath n := by
  have hframes : w.frames = w'.frames := congrArg Scene.frames h
  rw [beneath, beneath, h, hframes]

theorem World.beneath_of_size {n : Nat} {w : World τ ε β σ} (h : w.frames.size = n) :
    w.beneath n = w.scene := by
  rw [beneath, ← h, Array.extract_size]
  rfl

namespace Kept

variable {n : Nat} {fs fs' : Array (Frame τ β)} {top : Frame τ β}

theorem back_of_push (h : Kept (Fin.val : Fin n → Nat) (fs.push top) fs') (hn : n ≤ fs.size) :
    fs'.back? = some top := by
  have hsize : fs'.size = fs.size + 1 := h.size.trans (Array.size_push _)
  rw [Array.back?_eq_getElem?, hsize, Nat.add_sub_cancel, h.others fs.size, Array.getElem?_push_size]
  intro i
  omega

theorem pop_of_push (h : Kept (Fin.val : Fin n → Nat) (fs.push {}) fs') :
    Kept (Fin.val : Fin n → Nat) fs fs'.pop :=
  Kept.pop ⟨h.size, fun j hj => h.others j fun i => hj i.succ⟩

end Kept

theorem extract_pop {fs : Array α} {n : Nat} (hn : n < fs.size) : fs.pop.extract 0 n = fs.extract 0 n := by
  apply Array.ext_getElem?
  intro i
  simp only [Array.getElem?_extract, Array.getElem?_pop, Array.size_pop, Nat.zero_add, Nat.sub_zero]
  by_cases hi : i < n
  · rw [if_pos (by omega), if_pos (by omega), if_pos (by omega)]
  · rw [if_neg (by omega), if_neg (by omega)]

namespace Act

variable {n : Nat}

/-- The calls opened after the first `n` are left as they are, unless the process ends. -/
def Confined (n : Nat) (x : Act τ ε β σ α) : Prop :=
  ∀ w, n ≤ w.frames.size → (x w).1.isAbort = false → Kept (Fin.val : Fin n → Nat) w.frames (x w).2.frames

/-- Whether calls were opened after the first `n` makes no difference, nor does what the log says. -/
def Oblivious (n : Nat) (x : Act τ ε β σ α) : Prop :=
  ∀ w w', n ≤ w.frames.size → n ≤ w'.frames.size → w.beneath n = w'.beneath n →
    (x w).1 = (x w').1 ∧ (x w).2.beneath n = (x w').2.beneath n

theorem Still.confined {x : Act τ ε β σ α} (hx : x.Still) : x.Confined n := by
  intro w _ _
  have hframes : (x w).2.frames = w.frames := congrArg Scene.frames (hx w)
  rw [hframes]
  exact Kept.refl _ _

theorem oblivious_pure (a : α) : (pure a : Act τ ε β σ α).Oblivious n := fun _ _ _ _ h => ⟨rfl, h⟩

theorem Confined.bind {x : Act τ ε β σ α} {f : α → Act τ ε β σ γ} (hx : x.Confined n)
    (hf : ∀ a, (f a).Confined n) : (x >>= f).Confined n := by
  intro w hn hgoes
  rw [bind_apply] at hgoes ⊢
  have h := hx w hn
  rcases hrun : x w with ⟨o, w₁⟩
  rw [hrun] at h hgoes
  cases o with
  | ok a =>
    have hkept := h rfl
    have hn₁ : n ≤ w₁.frames.size := by rw [hkept.size]; exact hn
    exact hkept.trans (hf a w₁ hn₁ hgoes)
  | fail e => exact h rfl
  | panic m => exact h rfl
  | abort e => cases hgoes

theorem Oblivious.bind {x : Act τ ε β σ α} {f : α → Act τ ε β σ γ} (hx : x.Oblivious n)
    (hc : x.Confined n) (hf : ∀ a, (f a).Oblivious n) : (x >>= f).Oblivious n := by
  intro w w' hn hn' hbeneath
  obtain ⟨ho, hb⟩ := hx w w' hn hn' hbeneath
  have hk := hc w hn
  have hk' := hc w' hn'
  rw [bind_apply, bind_apply]
  rcases hrun : x w with ⟨o, w₁⟩
  rcases hrun' : x w' with ⟨o', w₁'⟩
  rw [hrun, hrun'] at ho hb
  rw [hrun] at hk
  rw [hrun'] at hk'
  cases ho
  cases o with
  | ok a =>
    have hn₁ : n ≤ w₁.frames.size := by rw [(hk rfl).size]; exact hn
    have hn₁' : n ≤ w₁'.frames.size := by rw [(hk' rfl).size]; exact hn'
    exact hf a w₁ w₁' hn₁ hn₁' hb
  | fail e => exact ⟨rfl, hb⟩
  | panic m => exact ⟨rfl, hb⟩
  | abort e => exact ⟨rfl, hb⟩

theorem Confined.forM {f : Nat → Act τ ε β σ Unit} (hf : ∀ i, (f i).Confined n) (xs : List Nat) :
    Confined n (xs.forM f) := by
  induction xs with
  | nil => exact (still_pure ()).confined
  | cons i rest ih => exact (hf i).bind fun _ => ih

theorem Oblivious.forM {f : Nat → Act τ ε β σ Unit} (hf : ∀ i, (f i).Oblivious n)
    (hc : ∀ i, (f i).Confined n) (xs : List Nat) : Oblivious n (xs.forM f) := by
  induction xs with
  | nil => exact oblivious_pure ()
  | cons i rest ih => exact (hf i).bind (hc i) fun _ => ih

end Act

/-! ## A call whose frame stays empty -/

namespace Call

variable [DecidableEq τ] {s : Signature} {w : World τ ε β σ} {n : Nat}

omit [DecidableEq τ] in
theorem conclude_of_cause (settings : Settings) (s : Signature) {o : Outcome α} {e : Failure}
    (h : o.cause? = some e) (w : World τ ε β σ) :
    ∃ w', conclude settings s (.error e : Except Failure α) w = (o.verdict, w') ∧ w'.scene = w.scene := by
  cases he : e.isFatal with
  | true =>
    rw [Outcome.verdict_of_fatal h he]
    exact conclude_of_fatal settings s he w
  | false =>
    rw [Outcome.verdict_of_harmless h he]
    exact conclude_of_harmless settings s he w

/-- A body that leaves its frame empty ends the call as it ends itself, and the frame is taken off. -/
theorem concluded_of_untouched (undo : β → Act τ ε β σ Unit) (settings : Settings) (s : Signature)
    {body : Nat → Act τ ε β σ α} {last : World τ ε β σ} {o : Outcome α}
    (hbody : body w.frames.size { w with frames := w.frames.push {} } = (o, last))
    (hback : o.isAbort = false → last.frames.back? = some {}) :
    ∃ w', (framed undo body >>= conclude settings s) w = (o.verdict, w') ∧
      (o.isAbort = false → w'.scene = { last.scene with frames := last.frames.pop }) ∧
      (o.isAbort = true → w' = last) := by
  -- a failure and a panic are the same to the call
  have hcause : ∀ e, o.cause? = some e → o.isAbort = false → ∃ w',
      (framed undo body >>= conclude settings s) w = (o.verdict, w') ∧
        (o.isAbort = false → w'.scene = { last.scene with frames := last.frames.pop }) ∧
        (o.isAbort = true → w' = last) := by
    intro e he halive
    have hframed : framed undo body w = (.ok (.error e), { last with frames := last.frames.pop }) :=
      framed_of_untouched (Act.attempt_catchPanic_of_cause hbody he) (hback halive)
    rw [Act.bind_of_ok hframed]
    obtain ⟨w', hend, hscene⟩ := conclude_of_cause settings s he { last with frames := last.frames.pop }
    exact ⟨w', hend, fun _ => hscene, fun h => by rw [halive] at h; cases h⟩
  cases o with
  | ok a =>
    have hframed : framed undo body w = (.ok (.ok a), { last with frames := last.frames.pop }) :=
      framed_of_untouched (Act.attempt_catchPanic_of_ok hbody) (hback rfl)
    rw [Act.bind_of_ok hframed]
    exact ⟨_, rfl, fun _ => rfl, fun h => by cases h⟩
  | fail e => exact hcause e rfl rfl
  | panic m => exact hcause (.panic m) rfl rfl
  | abort e =>
    have hframed : framed undo body w = (.abort e, last) :=
      framed_of_abort (Act.attempt_catchPanic_of_abort hbody)
    rw [Act.bind_of_abort hframed]
    exact ⟨last, rfl, fun h => (by cases h), fun _ => rfl⟩

/-- The body runs in the world of the call with an empty frame on top. -/
theorem invoke_of_untouched (undo : β → Act τ ε β σ Unit) (haccepted : Accepted s w)
    (body : Nat → Act τ ε β σ α) :
    ∃ w₁, w₁.scene = { w.scene with frames := w.frames.push {} } ∧
      ∀ o last, body w.frames.size w₁ = (o, last) → (o.isAbort = false → last.frames.back? = some {}) →
        ∃ w', invoke undo s body w = (o.verdict, w') ∧
          (o.isAbort = false → w'.scene = { last.scene with frames := last.frames.pop }) ∧
          (o.isAbort = true → w' = last) := by
  rcases preamble_cases s w with ⟨_, w₀, hscene, hpre⟩ | ⟨hrefused, _⟩
  · have hframes : w₀.frames = w.frames := congrArg Scene.frames hscene
    refine ⟨{ w₀ with frames := w₀.frames.push {} }, ?_, fun o last hbody hback => ?_⟩
    · show { w₀.scene with frames := w₀.frames.push {} } = _
      rw [hscene, hframes]
    · rw [← hframes] at hbody
      rw [invoke_eq, Act.bind_of_ok hpre]
      exact concluded_of_untouched undo w.inForce s hbody hback
  · exact absurd haccepted hrefused

omit [DecidableEq τ] in
theorem beneath_of_push {w₁ : World τ ε β σ} (hn : n ≤ w.frames.size)
    (hscene : w₁.scene = { w.scene with frames := w.frames.push {} }) :
    w₁.beneath n = w.beneath n ∧ w₁.frames = w.frames.push {} := by
  have hframes : w₁.frames = w.frames.push {} := congrArg Scene.frames hscene
  refine ⟨?_, hframes⟩
  rw [World.beneath, hscene, hframes, Array.extract_push, if_pos hn]
  rfl

/-- A body that leaves the open calls alone is run, and nothing is left of the call. -/
theorem invoke_of_confined (undo : β → Act τ ε β σ Unit) {x : Act τ ε β σ α} (hx : x.Confined n)
    (hn : n ≤ w.frames.size) (haccepted : Accepted s w) :
    ∃ w₁ w', w₁.scene = { w.scene with frames := w.frames.push {} } ∧
      invoke undo s (fun _ => x) w = ((x w₁).1.verdict, w') ∧ w'.beneath n = (x w₁).2.beneath n ∧
      ((x w₁).1.isAbort = false → Kept (Fin.val : Fin n → Nat) w.frames w'.frames) := by
  obtain ⟨w₁, hscene, hrun⟩ := invoke_of_untouched undo haccepted fun _ => x
  obtain ⟨hbeneath, hframes⟩ := beneath_of_push hn hscene
  have hn₁ : n ≤ w₁.frames.size := by rw [hframes, Array.size_push]; omega
  have hkept : (x w₁).1.isAbort = false → Kept (Fin.val : Fin n → Nat) (w.frames.push {}) (x w₁).2.frames := by
    intro halive
    rw [← hframes]
    exact hx w₁ hn₁ halive
  obtain ⟨w', hend, halive, hover⟩ := hrun _ _ rfl fun halive => (hkept halive).back_of_push hn
  refine ⟨w₁, w', hscene, hend, ?_, fun h => ?_⟩
  · cases ho : (x w₁).1.isAbort with
    | true => rw [hover ho]
    | false =>
      have hsize := (hkept ho).size
      rw [Array.size_push] at hsize
      have hframes' : w'.frames = (x w₁).2.frames.pop := congrArg Scene.frames (halive ho)
      rw [World.beneath, halive ho, hframes', extract_pop (by omega)]
      rfl
  · have hframes' : w'.frames = (x w₁).2.frames.pop := congrArg Scene.frames (halive h)
    rw [hframes']
    exact (hkept h).pop_of_push

theorem confined_invoke (undo : β → Act τ ε β σ Unit) (s : Signature) {x : Act τ ε β σ α}
    (hx : x.Confined n) : (invoke undo s fun _ => x).Confined n := by
  intro w hn halive
  rcases preamble_cases s w with ⟨haccepted, _⟩ | ⟨_, e, w₀, _, hpre⟩
  · obtain ⟨w₁, w', _, hend, _, hkept⟩ := invoke_of_confined undo hx hn haccepted
    rw [hend] at halive ⊢
    exact hkept (Outcome.isAbort_of_verdict halive)
  · rw [invoke_eq, Act.bind_of_abort hpre] at halive
    cases halive

omit [DecidableEq τ] in
theorem checkContract_congr (settings : Settings) (s : Signature) {w w' : World τ ε β σ}
    (h : w.contracts = w'.contracts) : (checkContract settings s w).1 = (checkContract settings s w').1 := by
  have hread : Act.contracts w = (.ok w'.contracts, w) := by rw [← h]; rfl
  have hread' : Act.contracts w' = (.ok w'.contracts, w') := rfl
  unfold checkContract
  split
  · rw [Act.bind_of_ok hread, Act.bind_of_ok hread']
    cases w'.contracts with
    | none => rfl
    | some t =>
      cases hv : t.verify s with
      | ok u => simp only [hv]; rfl
      | error e => simp only [hv]; rfl
  · rfl

omit [DecidableEq τ] in
theorem preamble_congr (s : Signature) {w w' : World τ ε β σ} (hforce : w.inForce = w'.inForce)
    (hcontracts : w.contracts = w'.contracts) : (preamble s w).1 = (preamble s w').1 := by
  obtain ⟨w₁, hset, hscene⟩ := Act.settings_run w
  obtain ⟨w₁', hset', hscene'⟩ := Act.settings_run w'
  have hread : w₁.contracts = w₁'.contracts := by
    have h : w₁.contracts = w.contracts := congrArg Scene.contracts hscene
    have h' : w₁'.contracts = w'.contracts := congrArg Scene.contracts hscene'
    rw [h, h', hcontracts]
  have hcheck := checkContract_congr w'.inForce s hread
  rw [preamble, Act.bind_of_ok hset, Act.bind_of_ok hset', hforce, Act.bind_apply, Act.bind_apply]
  revert hcheck
  rcases checkContract w'.inForce s w₁ with ⟨o, v⟩
  rcases checkContract w'.inForce s w₁' with ⟨o', v'⟩
  intro hcheck
  cases hcheck
  cases o with
  | ok u =>
    simp only
    split <;> rfl
  | fail e => rfl
  | panic m => rfl
  | abort e => rfl

theorem oblivious_invoke (undo : β → Act τ ε β σ Unit) (s : Signature) {x : Act τ ε β σ α}
    (hx : x.Confined n) (ho : x.Oblivious n) : (invoke undo s fun _ => x).Oblivious n := by
  intro w w' hn hn' hbeneath
  have hforce : w.inForce = w'.inForce := congrArg Scene.settings hbeneath
  have hcontracts : w.contracts = w'.contracts := congrArg Scene.contracts hbeneath
  have hpre := preamble_congr s hforce hcontracts
  rcases preamble_cases s w with ⟨haccepted, _⟩ | ⟨_, e, w₀, hscene, hrun⟩
  · have haccepted' : Accepted s w' := by
      unfold Accepted
      rw [← hforce, ← hcontracts]
      exact haccepted
    obtain ⟨w₁, v, hscene₁, hend, hleft, _⟩ := invoke_of_confined undo hx hn haccepted
    obtain ⟨w₁', v', hscene₁', hend', hleft', _⟩ := invoke_of_confined undo hx hn' haccepted'
    obtain ⟨hbeneath₁, hframes₁⟩ := beneath_of_push hn hscene₁
    obtain ⟨hbeneath₁', hframes₁'⟩ := beneath_of_push hn' hscene₁'
    obtain ⟨hsame, hlast⟩ := ho w₁ w₁' (by rw [hframes₁, Array.size_push]; omega)
      (by rw [hframes₁', Array.size_push]; omega) (by rw [hbeneath₁, hbeneath₁', hbeneath])
    rw [hend, hend']
    exact ⟨congrArg Outcome.verdict hsame, by rw [hleft, hleft', hlast]⟩
  · rcases hrun' : preamble s w' with ⟨o', w₀'⟩
    have hscene' : w₀'.scene = w'.scene := by
      have h := still_preamble s w'
      rw [hrun'] at h
      exact h
    rw [hrun, hrun'] at hpre
    cases hpre
    rw [invoke_eq, Act.bind_of_abort hrun, Act.bind_of_abort hrun']
    refine ⟨rfl, ?_⟩
    rw [World.beneath_congr n hscene, World.beneath_congr n hscene', hbeneath]

end Call

/-! ## The foreign loop -/

namespace Demo

variable {ρ : Type} {f : Nat → Act ε β ρ Unit} {i : Nat} {w w' : World ObjectType ε β (Store ρ)}

theorem trampoline_of_ok (h : f i w = (.ok (), w')) :
    trampoline f none i .empty w = (.ok (none, .empty), w') := by
  unfold trampoline
  rw [Act.bind_of_ok (Act.attempt_catchPanic_of_ok h)]
  rfl

theorem trampoline_of_cause {o : Outcome Unit} {e : Failure} (h : f i w = (o, w')) (ho : o.cause? = some e) :
    trampoline f none i .empty w =
      if e.isFatal then Act.abort e w' else (.ok (some e, .holding (.ofFailure e)), w') := by
  have hraised : Boundary.call (Passage.plain ()) .empty (Act.ofExcept (.error e)) w' =
      if e.isFatal then Act.abort e w' else (.ok ((), .holding (.ofFailure e)), w') :=
    Boundary.call_of_caught _ rfl
  unfold trampoline
  rw [Act.bind_of_ok (Act.attempt_catchPanic_of_cause h ho), Act.bind_apply, hraised]
  cases e.isFatal with
  | true => rfl
  | false => rfl

theorem trampoline_of_abort {e : Failure} (h : f i w = (.abort e, w')) :
    trampoline f none i .empty w = (.abort e, w') := by
  unfold trampoline
  exact Act.bind_of_abort (Act.attempt_catchPanic_of_abort h) _

/-- What the foreign loop gives back where the plain loop ends with the outcome and the world: whether all
calls were made, the failure kept beside the loop, and the slot. -/
inductive Reported (w : World ObjectType ε β (Store ρ)) : Outcome Unit →
    Outcome (Bool × Option Failure × ErrorSlot) × World ObjectType ε β (Store ρ) → Prop where
  | completed : Reported w (.ok ()) (.ok (true, none, .empty), w)
  | kept {o : Outcome Unit} {e : Failure} : o.cause? = some e → e.isFatal = false →
      Reported w o (.ok (false, some e, .holding (.ofFailure e)), w)
  | fatal {o : Outcome Unit} {e : Failure} : o.cause? = some e → e.isFatal = true →
      Reported w o (Act.abort e w)
  | ended {e : Failure} : Reported w (.abort e) (.abort e, w)

theorem applyLoop_of_cause {o : Outcome Unit} {e : Failure} (h : f i w = (o, w')) (ho : o.cause? = some e)
    (n : Nat) : Reported w' o (Foreign.applyLoop (trampoline f) (n + 1) i none .empty w) := by
  unfold Foreign.applyLoop
  rw [Act.bind_apply, trampoline_of_cause h ho]
  cases he : e.isFatal with
  | true => exact .fatal ho he
  | false => exact .kept ho he

/-- By induction on the number of calls left. Whenever `f` is called the slot is empty and nothing is
kept, because the first failure stops the loop. -/
theorem applyLoop_reports (f : Nat → Act ε β ρ Unit) (n i : Nat) (w : World ObjectType ε β (Store ρ)) :
    Reported ((List.range' i n).forM f w).2 ((List.range' i n).forM f w).1
      (Foreign.applyLoop (trampoline f) n i none .empty w) := by
  induction n generalizing i w with
  | zero => exact .completed
  | succ n ih =>
    have hloop : (List.range' i (n + 1)).forM f = f i >>= fun _ => (List.range' (i + 1) n).forM f := rfl
    rw [hloop, Act.bind_apply]
    rcases hrun : f i w with ⟨o, w₁⟩
    cases o with
    | ok u =>
      unfold Foreign.applyLoop
      rw [Act.bind_of_ok (trampoline_of_ok hrun)]
      exact ih (i + 1) w₁
    | fail e => exact applyLoop_of_cause hrun rfl n
    | panic m => exact applyLoop_of_cause hrun rfl n
    | abort e =>
      unfold Foreign.applyLoop
      rw [Act.bind_of_abort (trampoline_of_abort hrun)]
      exact .ended

/-- What `apply` does inside its frame. -/
def callBack (times : Int) (f : Nat → Act ε β ρ Unit) : Act ε β ρ Unit := do
  let (completed, kept, slot) ← Foreign.apply (some (trampoline f)) times none .empty
  match kept with
  | some e => Act.fail e
  | none => if ← Act.ofExcept (slot.result completed) then pure () else Act.fail .unknown

theorem apply_eq (hooks : Hooks ε β ρ) (times : Int) (f : Nat → Act ε β ρ Unit) :
    apply hooks times f = Call.invoke hooks.undo applySignature fun _ => callBack times f := rfl

theorem callBack_run (times : Int) (f : Nat → Act ε β ρ Unit) (w : World ObjectType ε β (Store ρ)) :
    (callBack times f w).1 = ((List.range times.toNat).forM f w).1.verdict ∧
      (callBack times f w).2.scene = ((List.range times.toNat).forM f w).2.scene := by
  have h := applyLoop_reports f times.toNat 0 w
  rw [← List.range_eq_range'] at h
  have hbody : callBack times f w = _ := Act.bind_apply _ _ w
  have hloop : Foreign.apply (some (trampoline f)) times none .empty w =
      Foreign.applyLoop (trampoline f) times.toNat 0 none .empty w := rfl
  rw [hbody, hloop]
  revert h
  generalize Foreign.applyLoop (trampoline f) times.toNat 0 none .empty w = out
  generalize (List.range times.toNat).forM f w = plain
  obtain ⟨o, last⟩ := plain
  intro h
  cases h with
  | completed => exact ⟨rfl, rfl⟩
  | kept ho he =>
    rw [Outcome.verdict_of_harmless ho he]
    exact ⟨rfl, rfl⟩
  | fatal ho he =>
    rw [Outcome.verdict_of_fatal ho he]
    exact ⟨rfl, rfl⟩
  | ended => exact ⟨rfl, rfl⟩

theorem callBack_confined {n : Nat} (times : Int) (hf : ∀ i, (f i).Confined n) : (callBack times f).Confined n := by
  intro w hn halive
  obtain ⟨ho, hscene⟩ := callBack_run times f w
  have hframes : (callBack times f w).2.frames = ((List.range times.toNat).forM f w).2.frames :=
    congrArg Scene.frames hscene
  rw [ho] at halive
  rw [hframes]
  exact Act.Confined.forM hf _ w hn (Outcome.isAbort_of_verdict halive)

end Demo

/-- With `n` calls left, `f` is called with `i` and then with the numbers after it, each call beginning
where the one before it ended, up to the first that does not return. -/
inductive Calls (f : Nat → Act τ ε β σ Unit) :
    Nat → Nat → World τ ε β σ → Outcome Unit → World τ ε β σ → Prop where
  | all {i : Nat} {w : World τ ε β σ} : Calls f i 0 w (.ok ()) w
  | next {i n : Nat} {w w₁ last : World τ ε β σ} {o : Outcome Unit} : f i w = (.ok (), w₁) →
      Calls f (i + 1) n w₁ o last → Calls f i (n + 1) w o last
  | stop {i n : Nat} {w last : World τ ε β σ} {o : Outcome Unit} : f i w = (o, last) → o ≠ .ok () →
      Calls f i (n + 1) w o last

theorem calls_of_forM (f : Nat → Act τ ε β σ Unit) (i n : Nat) (w : World τ ε β σ) :
    Calls f i n w ((List.range' i n).forM f w).1 ((List.range' i n).forM f w).2 := by
  induction n generalizing i w with
  | zero => exact .all
  | succ n ih =>
    have hloop : (List.range' i (n + 1)).forM f = f i >>= fun _ => (List.range' (i + 1) n).forM f := rfl
    rw [hloop, Act.bind_apply]
    rcases hrun : f i w with ⟨o, w₁⟩
    cases o with
    | ok u => exact .next hrun (ih (i + 1) w₁)
    | fail e => exact .stop hrun fun h => by cases h
    | panic m => exact .stop hrun fun h => by cases h
    | abort e => exact .stop hrun fun h => by cases h

/-- Where the contract is accepted, and whatever the callback does short of using the frame of this call:
it is called with 0, 1, 2, … below `times`, up to the first call that does not return. The result is the
ending of that call, where a panic counts as a failure and a fatal failure ends the process. If the
callback cannot tell that a call is open, this is what the plain loop does in the world of the caller, and
the world is left as the plain loop leaves it. -/
theorem apply_is_plain_loop {ρ : Type} (hooks : Demo.Hooks ε β ρ) (times : Int)
    (f : Nat → Demo.Act ε β ρ Unit) (w : World ObjectType ε β (Demo.Store ρ))
    (haccepted : Call.Accepted Demo.applySignature w) (hf : ∀ i, (f i).Confined w.frames.size) :
    (∃ w₁ o last w', w₁.scene = { w.scene with frames := w.frames.push {} } ∧
        Calls f 0 times.toNat w₁ o last ∧ Demo.apply hooks times f w = (o.verdict, w') ∧
        w'.beneath w.frames.size = last.beneath w.frames.size ∧
        (o.verdict.isAbort = false → w'.frames.size = w.frames.size)) ∧
      ((∀ i, (f i).Oblivious w.frames.size) →
        ∃ o last w', (List.range times.toNat).forM f w = (o, last) ∧ Calls f 0 times.toNat w o last ∧
          Demo.apply hooks times f w = (o.verdict, w') ∧
          w'.beneath w.frames.size = last.beneath w.frames.size ∧
          (o.verdict.isAbort = false → w'.scene = last.scene)) := by
  have hconfined := Act.Confined.forM hf (List.range times.toNat)
  obtain ⟨w₁, w', hscene, hend, hbeneath, hkept⟩ :=
    Call.invoke_of_confined hooks.undo (Demo.callBack_confined times hf) (Nat.le_refl _) haccepted
  obtain ⟨ho, hlast⟩ := Demo.callBack_run times f w₁
  rw [← Demo.apply_eq, ho, Outcome.verdict_verdict] at hend
  rw [World.beneath_congr _ hlast] at hbeneath
  rw [ho] at hkept
  refine ⟨⟨w₁, _, _, w', hscene, ?_, hend, hbeneath, fun halive => (hkept halive).size⟩, fun hobl => ?_⟩
  · rw [List.range_eq_range']
    exact calls_of_forM f 0 times.toNat w₁
  · obtain ⟨hbeneath₁, hframes₁⟩ := Call.beneath_of_push (Nat.le_refl _) hscene
    have hn₁ : w.frames.size ≤ w₁.frames.size := by rw [hframes₁, Array.size_push]; omega
    obtain ⟨hsame, hleft⟩ := Act.Oblivious.forM hobl hf (List.range times.toNat) w₁ w hn₁ (Nat.le_refl _) hbeneath₁
    rw [hsame] at hend hkept
    rw [hleft] at hbeneath
    refine ⟨_, _, w', rfl, ?_, hend, hbeneath, fun halive => ?_⟩
    · rw [List.range_eq_range']
      exact calls_of_forM f 0 times.toNat w
    · have hsize := (hconfined w (Nat.le_refl _) (Outcome.isAbort_of_verdict halive)).size
      rw [← World.beneath_of_size (hkept halive).size, hbeneath, World.beneath_of_size hsize]

namespace Demo

/-- A callback that makes a call of its own, writes down its argument, and panics on the third. -/
def tally (i : Nat) : Act Unit Unit (List Nat) Unit := do
  let _ ← sumBytes ⟨fun _ _ _ => pure (), fun _ => pure ()⟩ [1, 2]
  Act.modify fun s => { s with rest := i :: s.rest }
  if i = 2 then Act.panic "third" else pure ()

theorem tally_confined (n i : Nat) : (tally i).Confined n := by
  refine (Call.confined_invoke _ _ (Act.still_pure _).confined).bind fun _ => ?_
  refine Act.Confined.bind (fun w _ _ => Causeway.Kept.refl _ _) fun _ => ?_
  split
  · exact fun w _ _ => Causeway.Kept.refl _ _
  · exact (Act.still_pure ()).confined

theorem tally_oblivious (n i : Nat) : (tally i).Oblivious n := by
  refine (Call.oblivious_invoke _ _ (Act.still_pure _).confined (Act.oblivious_pure _)).bind
    (Call.confined_invoke _ _ (Act.still_pure _).confined) fun _ => ?_
  refine Act.Oblivious.bind (fun w w' _ _ h => ⟨rfl, ?_⟩) (fun w _ _ => Causeway.Kept.refl _ _) fun _ => ?_
  · show { w.beneath n with state := { (w.beneath n).state with rest := i :: (w.beneath n).state.rest } } = _
    rw [h]
    rfl
  · split
    · exact fun w w' _ _ h => ⟨rfl, h⟩
    · exact Act.oblivious_pure ()

/-- A call is open already, and nobody has asked for the settings. -/
def midway : World ObjectType Unit Unit (Store (List Nat)) :=
  { registries := ObjectType.registry, frames := #[{}], state := { rest := [] } }

theorem tally_loop :
    ((List.range (5 : Int).toNat).forM tally midway).1 = .panic "third" ∧
      ((List.range (5 : Int).toNat).forM tally midway).2.state.rest = [2, 1, 0] := by
  decide +kernel

end Demo

theorem apply_is_plain_loop_for_tally :
    Call.Accepted Demo.applySignature Demo.midway ∧
      ∃ w', Demo.apply ⟨fun _ _ _ => pure (), fun _ => pure ()⟩ 5 Demo.tally Demo.midway =
          (.fail (.panic "third"), w') ∧ w'.state.rest = [2, 1, 0] := by
  have haccepted : Call.Accepted Demo.applySignature Demo.midway := fun _ t ht => by cases ht
  obtain ⟨o, last, w', hloop, _, hend, _, hscene⟩ :=
    (apply_is_plain_loop ⟨fun _ _ _ => pure (), fun _ => pure ()⟩ 5 Demo.tally Demo.midway haccepted
      (Demo.tally_confined _)).2 (Demo.tally_oblivious _)
  obtain ⟨ho, hrest⟩ := Demo.tally_loop
  rw [hloop] at ho hrest
  cases ho
  have hstate : w'.state = last.state := congrArg Scene.state (hscene rfl)
  exact ⟨haccepted, w', hend, by rw [hstate]; exact hrest⟩

end Causeway
