import Causeway.Call

/-!
# Causeway.Proofs.Acts

How computations run, whatever the world records.

* `Act.bind_apply` and its cases — one computation after another.
* `Scene`, `Act.Still` — a world without its log lines and settings, and computations that leave it alone.
* `Objects.enterOr_cases`, `destroy_cases`, `release_cases` — what one operation on objects can do.
* `Call.close_eq`, `Call.invoke_eq` — a call as the run of its body inside a frame.
-/

namespace Causeway

variable {τ ε β σ α γ : Type}

/-- Whether the process is over. -/
def Outcome.isAbort : Outcome α → Bool
  | .abort _ => true
  | _ => false

namespace Act

theorem bind_apply (x : Act τ ε β σ α) (f : α → Act τ ε β σ γ) (w : World τ ε β σ) :
    (x >>= f) w =
      match x w with
      | (.ok a, w') => f a w'
      | (.fail e, w') => (.fail e, w')
      | (.panic m, w') => (.panic m, w')
      | (.abort e, w') => (.abort e, w') := by
  show Act.bind x f w = _
  unfold Act.bind
  cases x w with
  | mk o w' => cases o <;> rfl

theorem bind_assoc {δ : Type} (x : Act τ ε β σ α) (f : α → Act τ ε β σ γ)
    (g : γ → Act τ ε β σ δ) : (x >>= f >>= g) = (x >>= fun a => f a >>= g) := by
  funext w
  rw [bind_apply, bind_apply, bind_apply]
  rcases x w with ⟨_ | _ | _ | _, w'⟩
  · exact (bind_apply _ g w').symm
  all_goals rfl

theorem get_bind (f : σ → Act τ ε β σ α) (w : World τ ε β σ) : (get >>= f) w = f w.state w :=
  rfl

theorem bind_of_ok {x : Act τ ε β σ α} {w w' : World τ ε β σ} {a : α}
    (hx : x w = (.ok a, w')) (f : α → Act τ ε β σ γ) : (x >>= f) w = f a w' := by
  rw [bind_apply, hx]

theorem bind_of_fail {x : Act τ ε β σ α} {w w' : World τ ε β σ} {e : Failure}
    (hx : x w = (.fail e, w')) (f : α → Act τ ε β σ γ) : (x >>= f) w = (.fail e, w') := by
  rw [bind_apply, hx]

theorem bind_of_abort {x : Act τ ε β σ α} {w w' : World τ ε β σ} {e : Failure}
    (hx : x w = (.abort e, w')) (f : α → Act τ ε β σ γ) : (x >>= f) w = (.abort e, w') := by
  rw [bind_apply, hx]

/-- Only where a computation ends matters for what comes after it. -/
theorem bind_congr {x : Act τ ε β σ α} {y : Act τ ε β σ α} {w w' : World τ ε β σ}
    (hx : x w = y w') (f : α → Act τ ε β σ γ) : (x >>= f) w = (y >>= f) w' := by
  rw [bind_apply, bind_apply, hx]

/-- What does not end with a value is not continued. -/
theorem bind_of_not_ok {x : Act τ ε β σ α} {w w' : World τ ε β σ} {o : Outcome α}
    (hx : x w = (o, w')) (ho : ∀ a, o ≠ .ok a) (f : α → Act τ ε β σ γ) :
    ∃ o', (x >>= f) w = (o', w') ∧ (∀ a, o' ≠ .ok a) ∧ o'.isAbort = o.isAbort := by
  rw [bind_apply, hx]
  cases o with
  | ok a => exact absurd rfl (ho a)
  | fail e => exact ⟨_, rfl, by simp, rfl⟩
  | panic m => exact ⟨_, rfl, by simp, rfl⟩
  | abort e => exact ⟨_, rfl, by simp, rfl⟩

theorem attempt_of_ok {x : Act τ ε β σ α} {w w' : World τ ε β σ} {a : α}
    (hx : x w = (.ok a, w')) : attempt x w = (.ok (.ok a), w') := by
  simp only [attempt, hx]

theorem attempt_of_fail {x : Act τ ε β σ α} {w w' : World τ ε β σ} {e : Failure}
    (hx : x w = (.fail e, w')) : attempt x w = (.ok (.error e), w') := by
  simp only [attempt, hx]

theorem orAbort_of_ok {x : Act τ ε β σ α} {w w' : World τ ε β σ} {a : α}
    (hx : x w = (.ok a, w')) : orAbort x w = (.ok a, w') := by
  unfold orAbort
  rw [bind_of_ok (attempt_of_ok hx)]
  rfl

theorem orAbort_of_fail {x : Act τ ε β σ α} {w w' : World τ ε β σ} {e : Failure}
    (hx : x w = (.fail e, w')) : orAbort x w = abort e w' := by
  unfold orAbort
  rw [bind_of_ok (attempt_of_fail hx)]

theorem orAbort_of_abort {x : Act τ ε β σ α} {w w' : World τ ε β σ} {e : Failure}
    (hx : x w = (.abort e, w')) : orAbort x w = (.abort e, w') := by
  have hattempt : attempt x w = (.abort e, w') := by simp only [attempt, hx]
  exact bind_of_abort hattempt _

/-- With failures and panics caught, a computation gives a value or ends the process. -/
theorem attempt_catchPanic_cases (x : Act τ ε β σ α) (w : World τ ε β σ) :
    (∃ r w', attempt (catchPanic x) w = (.ok r, w')) ∨ ∃ e w', attempt (catchPanic x) w = (.abort e, w') := by
  unfold attempt catchPanic
  rcases x w with ⟨_ | _ | _ | _, w'⟩
  · exact .inl ⟨_, w', rfl⟩
  · exact .inl ⟨_, w', rfl⟩
  · exact .inl ⟨_, w', rfl⟩
  · exact .inr ⟨_, w', rfl⟩

/-- What gets rid of an object and then fails ends the process if and where getting rid of it does. -/
theorem bind_of_refused {x : Act τ ε β σ α} {d : Act τ ε β σ Unit} {e : Failure}
    {w : World τ ε β σ} (hx : x w = (d >>= fun _ => fail e) w) (f : α → Act τ ε β σ γ) :
    ((x >>= f) w).1.isAbort = (d w).1.isAbort ∧ ((x >>= f) w).2 = (d w).2 := by
  rw [bind_apply, hx, bind_apply]
  cases d w with
  | mk o w' => cases o <;> exact ⟨rfl, rfl⟩

/-! ## Reading and changing one registry -/

variable [DecidableEq τ]

/-- A change that answers with something of the registry it was made in. -/
theorem onRegistry_map_cases (t : τ) (f : Registry → Except Registry.Refusal (γ × Registry))
    (g : Registry → γ → α) (w : World τ ε β σ) :
    (∃ c r, f (w.registries t) = .ok (c, r) ∧
        onRegistry t (fun r => (f r).map fun (c, r') => (g r c, r')) w =
          (.ok (g (w.registries t) c), { w with registries := w.registries.set t r })) ∨
      ∃ e, f (w.registries t) = .error e ∧
        onRegistry t (fun r => (f r).map fun (c, r') => (g r c, r')) w = (.fail e.failure, w) := by
  unfold onRegistry
  cases h : f (w.registries t) with
  | ok cr => exact .inl ⟨cr.1, cr.2, rfl, by simp only [h]; rfl⟩
  | error e => exact .inr ⟨e, rfl, by simp only [h]; rfl⟩

theorem readRegistry_cases (t : τ) (f : Registry → Except Registry.Refusal α) (w : World τ ε β σ) :
    (∃ a, f (w.registries t) = .ok a ∧ readRegistry t f w = (.ok a, w)) ∨
      ∃ e, f (w.registries t) = .error e ∧ readRegistry t f w = (.fail e.failure, w) := by
  unfold readRegistry
  cases f (w.registries t) with
  | ok a => exact .inl ⟨a, rfl, rfl⟩
  | error e => exact .inr ⟨e, rfl, rfl⟩

theorem expectOwner_cases (t : τ) (side : Side) (w : World τ ε β σ) :
    ((w.registries t).owner = side ∧ readRegistry t (fun r => r.expectOwner side) w = (.ok (), w)) ∨
      (w.registries t).owner ≠ side ∧ ∃ e, readRegistry t (fun r => r.expectOwner side) w = (.fail e, w) := by
  unfold readRegistry Registry.expectOwner
  by_cases howner : (w.registries t).owner = side
  · exact .inl ⟨howner, by simp only [howner, ↓reduceIte]⟩
  · exact .inr ⟨howner, _, by simp only [howner, ↓reduceIte]; rfl⟩

theorem updateRegistry_cases (t : τ) (f : Registry → Except Registry.Refusal Registry)
    (w : World τ ε β σ) :
    (∃ r, f (w.registries t) = .ok r ∧
        updateRegistry t f w = (.ok (), { w with registries := w.registries.set t r })) ∨
      ∃ e, f (w.registries t) = .error e ∧ updateRegistry t f w = (.fail e.failure, w) := by
  unfold updateRegistry onRegistry
  cases h : f (w.registries t) with
  | ok r => exact .inl ⟨r, rfl, by simp only [h]; rfl⟩
  | error e => exact .inr ⟨e, rfl, by simp only [h]; rfl⟩

theorem readRegistry_of_error {t : τ} {f : Registry → Except Registry.Refusal α} {w : World τ ε β σ}
    {x : Registry.Refusal} (hx : f (w.registries t) = .error x) : readRegistry t f w = (.fail x.failure, w) := by
  simp only [readRegistry, hx]

theorem updateRegistry_of_ok {t : τ} {f : Registry → Except Registry.Refusal Registry} {w : World τ ε β σ}
    {r : Registry} (hr : f (w.registries t) = .ok r) :
    updateRegistry t f w = (.ok (), { w with registries := w.registries.set t r }) := by
  simp only [updateRegistry, onRegistry, hr, Except.map]

theorem updateRegistry_of_error {t : τ} {f : Registry → Except Registry.Refusal Registry} {w : World τ ε β σ}
    {x : Registry.Refusal} (hx : f (w.registries t) = .error x) : updateRegistry t f w = (.fail x.failure, w) := by
  simp only [updateRegistry, onRegistry, hx, Except.map]

end Act

/-! ## Computations that leave everything but log lines alone -/

structure Scene (τ ε β σ : Type) where
  registries : Registries τ
  settings : Settings
  contracts : Option Contracts
  frames : Array (Frame τ β)
  notes : List ε
  state : σ

namespace World

/-- What callers have recorded, the newest first. -/
def notes (w : World τ ε β σ) : List ε :=
  w.trace.filterMap fun
    | .mark n => some n
    | .log _ _ => none

/-- The settings that apply, whether or not something has asked for them yet. -/
def inForce (w : World τ ε β σ) : Settings :=
  match w.settings with
  | some s => s
  | none =>
    match Settings.ofEnvironment w.environment with
    | .ok s => s
    | .error _ => {}

def scene (w : World τ ε β σ) : Scene τ ε β σ :=
  ⟨w.registries, w.inForce, w.contracts, w.frames, w.notes, w.state⟩

end World

namespace Act

def Still (x : Act τ ε β σ α) : Prop := ∀ w, (x w).2.scene = w.scene

theorem still_pure (a : α) : (pure a : Act τ ε β σ α).Still := fun _ => rfl

theorem still_log (l : Level) (text : String) : (log l text : Act τ ε β σ Unit).Still := fun _ => rfl

theorem still_fail (e : Failure) : (fail e : Act τ ε β σ α).Still := fun _ => rfl

theorem still_abort (e : Failure) : (abort e : Act τ ε β σ α).Still := fun _ => rfl

theorem settings_run (w : World τ ε β σ) :
    ∃ w', settings w = (.ok w.inForce, w') ∧ w'.scene = w.scene := by
  unfold settings World.scene World.inForce
  cases hset : w.settings with
  | some s => exact ⟨w, rfl, by simp only [hset]⟩
  | none => cases hread : Settings.ofEnvironment w.environment <;> exact ⟨_, rfl, rfl⟩

theorem still_settings : (settings : Act τ ε β σ Settings).Still := by
  intro w
  obtain ⟨w', hrun, hscene⟩ := settings_run w
  rw [hrun]
  exact hscene

theorem Still.bind {x : Act τ ε β σ α} {f : α → Act τ ε β σ γ} (hx : x.Still) (hf : ∀ a, (f a).Still) :
    (x >>= f).Still := by
  intro w
  have h := hx w
  rw [bind_apply]
  cases hxw : x w with
  | mk o w' =>
    rw [hxw] at h
    cases o with
    | ok a => exact (hf a w').trans h
    | fail e => exact h
    | panic m => exact h
    | abort e => exact h

end Act

/-! ## Objects -/

namespace Objects

variable [DecidableEq τ]

/-- Enter an object that the side of its destructor made, or have it destroyed. `lacking` is its size where no memory
for it can be had. -/
def enterOr (finalize : Finalizer τ ε β σ) (t : τ) (a : Address) (d : Destructor) (lacking : Option Nat) (room : Bool) :
    Act τ ε β σ Handle := do
  match ← Act.attempt (do
    Act.readRegistry t fun r => r.expectOwner d.side
    match lacking with
    | some size => Act.readRegistry t fun r => .error (.noMemory r.typePath size)
    | none => insert t a d room) with
  | .ok h => return h
  | .error e =>
    finalize t d a
    Act.fail e

theorem create_eq (finalize : Finalizer τ ε β σ) (t : τ) (a : Address) (lacking : Option Nat) (room : Bool) :
    create finalize t a lacking room = enterOr finalize t a .native lacking room := rfl

theorem adopt_eq (finalize : Finalizer τ ε β σ) (t : τ) {a : Address} (code : Address) (room : Bool) (ha : a ≠ 0) :
    adopt finalize t a code room = enterOr finalize t a (.foreign code) none room := by
  simp only [adopt, ha, ↓reduceIte]
  rfl

theorem insert_cases (t : τ) (a : Address) (d : Destructor) (room : Bool) (w : World τ ε β σ) :
    (∃ h r w', (w.registries t).insert a d room = .ok (h, r) ∧
        w'.scene = { w.scene with registries := w.registries.set t r } ∧ insert t a d room w = (.ok h, w')) ∨
      ∃ e, (w.registries t).insert a d room = .error e ∧ insert t a d room w = (.fail e.failure, w) := by
  unfold insert
  rcases Act.onRegistry_map_cases t (fun r => r.insert a d room) (fun r h => (r.typeName, h)) w with
    ⟨h, r, hi, hrun⟩ | ⟨e, he, hrun⟩
  · rw [Act.bind_of_ok hrun]
    exact .inl ⟨h, r, _, hi, rfl, rfl⟩
  · rw [Act.bind_of_fail hrun]
    exact .inr ⟨e, he, rfl⟩

/-- Why an object is not entered. -/
inductive Unentered (r : Registry) (a : Address) (d : Destructor) (lacking : Option Nat) (room : Bool) : Prop where
  | owner (h : r.owner ≠ d.side)
  | memory (h : lacking.isSome)
  | refused (h : ∃ x, r.insert a d room = .error x)

/-- An object is entered, or it is destroyed and nothing else happens. -/
theorem enterOr_cases (finalize : Finalizer τ ε β σ) (t : τ) (a : Address) (d : Destructor) (lacking : Option Nat)
    (room : Bool) (w : World τ ε β σ) :
    (∃ h r w', (w.registries t).owner = d.side ∧ (w.registries t).insert a d room = .ok (h, r) ∧
        w'.scene = { w.scene with registries := w.registries.set t r } ∧
        enterOr finalize t a d lacking room w = (.ok h, w')) ∨
      ∃ e, Unentered (w.registries t) a d lacking room ∧
        enterOr finalize t a d lacking room w = (finalize t d a >>= fun _ => Act.fail e) w := by
  unfold enterOr
  rcases Act.expectOwner_cases t d.side w with ⟨howner, hread⟩ | ⟨howner, e, hread⟩
  · cases lacking with
    | some size =>
      refine .inr ⟨(Registry.Refusal.noMemory (w.registries t).typePath size).failure, .memory rfl, ?_⟩
      rw [Act.bind_of_ok (Act.attempt_of_fail ((Act.bind_of_ok hread _).trans (Act.readRegistry_of_error rfl)))]
    | none =>
      rcases insert_cases t a d room w with ⟨h, r, w', hi, hscene, hrun⟩ | ⟨e, he, hrun⟩
      · refine .inl ⟨h, r, w', howner, hi, hscene, ?_⟩
        rw [Act.bind_of_ok (Act.attempt_of_ok ((Act.bind_of_ok hread _).trans hrun))]
        rfl
      · refine .inr ⟨e.failure, .refused ⟨e, he⟩, ?_⟩
        rw [Act.bind_of_ok (Act.attempt_of_fail ((Act.bind_of_ok hread _).trans hrun))]
  · refine .inr ⟨e, .owner howner, ?_⟩
    rw [Act.bind_of_ok (Act.attempt_of_fail (Act.bind_of_fail hread _))]

/-- What becomes of the answer of a constructor. -/
def settle (finalize : Finalizer τ ε β σ) (t : τ) (code : Address) (room : Bool) (a : Address) (slot : ErrorSlot) :
    Act τ ε β σ Handle :=
  match slot.result a with
  | .error e => do
    if a ≠ 0 then finalize t (.foreign code) a
    Act.fail e
  | .ok a =>
    if a = 0 then Act.readRegistry t fun r => .error (.nullConstructed r.typeName)
    else adopt finalize t a code room

section Settle

variable (finalize : Finalizer τ ε β σ) (t : τ) (code : Address) (room : Bool)

theorem settle_null (slot : ErrorSlot) (w : World τ ε β σ) :
    ∃ e, settle finalize t code room 0 slot w = (.fail e, w) := by
  cases slot <;> exact ⟨_, rfl⟩

/-- An object that came without an error is entered. -/
theorem settle_unraised {a : Address} (ha : a ≠ 0) {slot : ErrorSlot} (hslot : slot.isRaised = false) :
    settle finalize t code room a slot = enterOr finalize t a (.foreign code) none room := by
  unfold settle
  cases slot with
  | holding r => cases hslot
  | absent => simp only [ErrorSlot.result, ha, ↓reduceIte, adopt_eq finalize t code room ha]
  | empty => simp only [ErrorSlot.result, ha, ↓reduceIte, adopt_eq finalize t code room ha]

/-- An object that came with an error is destroyed. -/
theorem settle_raised {a : Address} (ha : a ≠ 0) (r : Record) :
    settle finalize t code room a (.holding r) = (finalize t (.foreign code) a >>= fun _ => Act.fail r.toCallee) := by
  simp only [settle, ErrorSlot.result, ne_eq, ha, not_false_eq_true, ↓reduceIte]

theorem settle_cases {a : Address} (ha : a ≠ 0) (slot : ErrorSlot) :
    settle finalize t code room a slot = enterOr finalize t a (.foreign code) none room ∨
      ∃ e, settle finalize t code room a slot = (finalize t (.foreign code) a >>= fun _ => Act.fail e) := by
  cases slot with
  | holding r => exact .inr ⟨r.toCallee, settle_raised finalize t code room ha r⟩
  | absent => exact .inl (settle_unraised finalize t code room ha rfl)
  | empty => exact .inl (settle_unraised finalize t code room ha rfl)

theorem construct_eq (build : ErrorSlot → Act τ ε β σ (Address × ErrorSlot)) :
    construct finalize t code build room = (do
      Act.readRegistry t fun r => r.expectOwner .foreign
      let built ← Act.catchPanic (build .empty)
      settle finalize t code room built.1 built.2) := rfl

end Settle

theorem destroy_cases (finalize : Finalizer τ ε β σ) (t : τ) (h : Handle) (claimant : Side)
    (w : World τ ε β σ) :
    (∃ e r w', (w.registries t).remove h claimant = .ok (e, r) ∧
        w'.scene = { w.scene with registries := w.registries.set t r } ∧
        destroy finalize t h claimant w = (do
          finalizeRemoved finalize t (w.registries t) e
          Act.updateRegistry t fun r => .ok r.noteDestroyed : Act τ ε β σ Unit) w') ∨
      ∃ e, (w.registries t).remove h claimant = .error e ∧
        destroy finalize t h claimant w = (.fail e.failure, w) := by
  unfold destroy
  rcases Act.onRegistry_map_cases t (fun r => r.remove h claimant) (fun r e => (e, r)) w with
    ⟨e, r, hr, hrun⟩ | ⟨e, hr, hrun⟩
  · rw [Act.bind_of_ok hrun]
    exact .inl ⟨e, r, _, hr, rfl, rfl⟩
  · rw [Act.bind_of_fail hrun]
    exact .inr ⟨e, hr, rfl⟩

omit [DecidableEq τ] in
/-- The destructor of a removed object returns, or the process ends. A foreign one has to, since what it throws would go
through; what the host's own throw is logged. -/
theorem finalizeRemoved_cases (finalize : Finalizer τ ε β σ) (t : τ) (r : Registry) (e : Entry) (w : World τ ε β σ)
    (hreturns : e.destructor.side = .foreign → (finalize t e.destructor e.address w).1 = .ok () ∨
      (finalize t e.destructor e.address w).1.isAbort = true) :
    ∃ w', w'.scene = (finalize t e.destructor e.address w).2.scene ∧
      ((finalizeRemoved finalize t r e w = (.ok (), w') ∧
          (finalize t e.destructor e.address w).1.isAbort = false) ∨
        ∃ f, finalizeRemoved finalize t r e w = (.abort f, w') ∧
          (finalize t e.destructor e.address w).1 = .abort f) := by
  obtain ⟨a, d, holder, loans⟩ := e
  unfold finalizeRemoved
  cases d with
  | foreign code =>
    have hends := hreturns rfl
    revert hends
    simp only
    rcases finalize t (.foreign code) a w with ⟨_ | _ | _ | _, w'⟩ <;> intro hends
    · exact ⟨w', rfl, .inl ⟨rfl, rfl⟩⟩
    · simp [Outcome.isAbort] at hends
    · simp [Outcome.isAbort] at hends
    · exact ⟨w', rfl, .inr ⟨_, rfl, rfl⟩⟩
  | native =>
    simp only [Act.bind_apply, Act.guarded]
    rcases finalize t .native a w with ⟨_ | _ | _ | _, w'⟩
    · exact ⟨w', rfl, .inl ⟨rfl, rfl⟩⟩
    · exact ⟨w', rfl, .inl ⟨rfl, rfl⟩⟩
    · exact ⟨_, by rfl, .inl ⟨rfl, rfl⟩⟩
    · exact ⟨w', rfl, .inr ⟨_, rfl, rfl⟩⟩

/-- Destroying an object that may be destroyed, and whose destructor returns, ends with its being counted. -/
theorem destroy_ends {finalize : Finalizer τ ε β σ} {t : τ} (h : Handle) (claimant : Side) (w : World τ ε β σ)
    (hreturns : ∀ e r w₁, (w.registries t).remove h claimant = .ok (e, r) →
      w₁.scene = { w.scene with registries := w.registries.set t r } → e.destructor.side = .foreign →
      (finalize t e.destructor e.address w₁).1 = .ok () ∨
        (finalize t e.destructor e.address w₁).1.isAbort = true) :
    (∃ e r w₁, (w.registries t).remove h claimant = .ok (e, r) ∧
        w₁.scene = { w.scene with registries := w.registries.set t r } ∧
        ∃ w₂, w₂.scene = (finalize t e.destructor e.address w₁).2.scene ∧
          (((finalize t e.destructor e.address w₁).1.isAbort = false ∧
              destroy finalize t h claimant w =
                (.ok (), { w₂ with registries := w₂.registries.set t (w₂.registries t).noteDestroyed })) ∨
            ∃ f, (finalize t e.destructor e.address w₁).1 = .abort f ∧
              destroy finalize t h claimant w = (.abort f, w₂))) ∨
      ∃ x, (w.registries t).remove h claimant = .error x ∧
        destroy finalize t h claimant w = (.fail x.failure, w) := by
  rcases destroy_cases finalize t h claimant w with ⟨e, r, w₁, hremove, hscene, hrun⟩ | hrefused
  · obtain ⟨w₂, hscene₂, ⟨hok, hreturned⟩ | ⟨f, habort, hended⟩⟩ :=
      finalizeRemoved_cases finalize t (w.registries t) e w₁ (hreturns e r w₁ hremove hscene)
    · refine .inl ⟨e, r, w₁, hremove, hscene, w₂, hscene₂, .inl ⟨hreturned, ?_⟩⟩
      rw [hrun, Act.bind_of_ok hok]
      rfl
    · refine .inl ⟨e, r, w₁, hremove, hscene, w₂, hscene₂, .inr ⟨f, hended, ?_⟩⟩
      rw [hrun, Act.bind_of_abort habort]
  · exact .inr hrefused

theorem release_cases (t : τ) (h : Handle) (claimant : Side) (w : World τ ε β σ) :
    (∃ a r w', (w.registries t).release h claimant = .ok (a, r) ∧
        w'.scene = { w.scene with registries := w.registries.set t r } ∧
        release t h claimant w = (.ok a, w')) ∨
      ∃ e, (w.registries t).release h claimant = .error e ∧ release t h claimant w = (.fail e.failure, w) := by
  unfold release
  rcases Act.onRegistry_map_cases t (fun r => r.release h claimant) (fun r a => (a, r.typeName)) w with
    ⟨a, r, hr, hrun⟩ | ⟨e, hr, hrun⟩
  · rw [Act.bind_of_ok hrun]
    exact .inl ⟨a, r, _, hr, rfl, rfl⟩
  · rw [Act.bind_of_fail hrun]
    exact .inr ⟨e, hr, rfl⟩

theorem destroy_of_error {finalize : Finalizer τ ε β σ} {t : τ} {h : Handle} {claimant : Side} {w : World τ ε β σ}
    {x : Registry.Refusal} (hx : (w.registries t).remove h claimant = .error x) :
    destroy finalize t h claimant w = (.fail x.failure, w) := by
  rcases destroy_cases finalize t h claimant w with ⟨e, r, w', hok, _⟩ | ⟨x', hx', hrun⟩
  · rw [hx] at hok
    cases hok
  · rw [hx] at hx'
    cases hx'
    exact hrun

theorem release_of_error {t : τ} {h : Handle} {claimant : Side} {w : World τ ε β σ} {x : Registry.Refusal}
    (hx : (w.registries t).release h claimant = .error x) : release t h claimant w = (.fail x.failure, w) := by
  rcases release_cases t h claimant w with ⟨a, r, w', hok, _⟩ | ⟨x', hx', hrun⟩
  · rw [hx] at hok
    cases hok
  · rw [hx] at hx'
    cases hx'
    exact hrun

end Objects

/-! ## Calls -/

/-- End loans in turn, leaving out those that cannot be ended. -/
def Registries.endLoans [DecidableEq τ] : List (τ × Handle) → Registries τ → Registries τ
  | [], rs => rs
  | (t, h) :: rest, rs =>
    match (rs t).endLoan h with
    | .ok r => endLoans rest (rs.set t r)
    | .error _ => endLoans rest rs

/-- What the first loan that cannot be ended fails with. -/
def Registries.loanFailure? [DecidableEq τ] : List (τ × Handle) → Registries τ → Option Failure
  | [], _ => none
  | (t, h) :: rest, rs =>
    match (rs t).endLoan h with
    | .ok r => loanFailure? rest (rs.set t r)
    | .error e => some e.failure

namespace Call

variable [DecidableEq τ]

theorem endLoans_eq (loans : List (τ × Handle)) (w : World τ ε β σ) :
    endLoans loans w =
      (.ok (w.registries.loanFailure? loans), { w with registries := w.registries.endLoans loans }) := by
  induction loans generalizing w with
  | nil => rfl
  | cons th rest ih =>
    obtain ⟨t, h⟩ := th
    unfold endLoans Registries.endLoans Registries.loanFailure?
    rcases Act.updateRegistry_cases t (fun r => r.endLoan h) w with ⟨r, hr, hrun⟩ | ⟨e, hr, hrun⟩
    · rw [Act.bind_of_ok (Act.attempt_of_ok hrun), Act.bind_of_ok (ih _), hr]
      rfl
    · rw [Act.bind_of_ok (Act.attempt_of_fail hrun), Act.bind_of_ok (ih w), hr]
      rfl

/-- What is left of closing a frame once it is taken off and its loans are ended. -/
def undoFailed (undo : β → Act τ ε β σ Unit) (result : Except Failure α) (rollbacks : List β)
    (loanFailure : Option Failure) : Act τ ε β σ (Except Failure α) := do
  match result with
  | .ok _ => pure ()
  | .error e => runRollbacks undo e rollbacks
  match loanFailure with
  | some e => return .error e
  | none => return result

theorem close_eq (undo : β → Act τ ε β σ Unit) (result : Except Failure α) (w : World τ ε β σ) :
    close undo result w =
      undoFailed undo result (w.frames.back?.getD {}).rollbacks
        (w.registries.loanFailure? (w.frames.back?.getD {}).loans) { w with
          registries := w.registries.endLoans (w.frames.back?.getD {}).loans
          frames := w.frames.pop } := by
  have htake : takeFrame w = (.ok (w.frames.back?.getD {}), { w with frames := w.frames.pop }) := rfl
  unfold close
  rw [Act.bind_of_ok htake, Act.bind_of_ok (endLoans_eq _ _)]
  rfl

/-- A body run inside a frame of its own. -/
def framed (undo : β → Act τ ε β σ Unit) (body : Nat → Act τ ε β σ α) :
    Act τ ε β σ (Except Failure α) := do
  let level ← openFrame
  let result ← Act.attempt (Act.catchPanic (body level))
  close undo result

theorem framed_of_result {undo : β → Act τ ε β σ Unit} {body : Nat → Act τ ε β σ α} {w w' : World τ ε β σ}
    {result : Except Failure α}
    (hrun : Act.attempt (Act.catchPanic (body w.frames.size)) { w with frames := w.frames.push {} } =
      (.ok result, w')) :
    framed undo body w =
      undoFailed undo result (w'.frames.back?.getD {}).rollbacks
        (w'.registries.loanFailure? (w'.frames.back?.getD {}).loans) { w' with
          registries := w'.registries.endLoans (w'.frames.back?.getD {}).loans
          frames := w'.frames.pop } := by
  have hopen : openFrame w = (.ok w.frames.size, { w with frames := w.frames.push {} }) := rfl
  unfold framed
  rw [Act.bind_of_ok hopen, Act.bind_of_ok hrun, close_eq]

theorem framed_of_abort {undo : β → Act τ ε β σ Unit} {body : Nat → Act τ ε β σ α} {w w' : World τ ε β σ}
    {e : Failure}
    (hrun : Act.attempt (Act.catchPanic (body w.frames.size)) { w with frames := w.frames.push {} } =
      (.abort e, w')) :
    framed undo body w = (.abort e, w') := by
  have hopen : openFrame w = (.ok w.frames.size, { w with frames := w.frames.push {} }) := rfl
  unfold framed
  rw [Act.bind_of_ok hopen, Act.bind_of_abort hrun]

/-- A body that used its frame for nothing has its own result. -/
theorem framed_of_untouched {undo : β → Act τ ε β σ Unit} {body : Nat → Act τ ε β σ α} {w w' : World τ ε β σ}
    {result : Except Failure α}
    (hrun : Act.attempt (Act.catchPanic (body w.frames.size)) { w with frames := w.frames.push {} } =
      (.ok result, w'))
    (hback : w'.frames.back? = some {}) :
    framed undo body w = (.ok result, { w' with frames := w'.frames.pop }) := by
  rw [framed_of_result hrun, hback]
  cases result <;> rfl

theorem framed_of_unused {undo : β → Act τ ε β σ Unit} {body : Nat → Act τ ε β σ α} {w w' : World τ ε β σ}
    {result : Except Failure α}
    (hrun : Act.attempt (Act.catchPanic (body w.frames.size)) { w with frames := w.frames.push {} } =
      (.ok result, w'))
    (hframes : w'.frames = w.frames.push {}) :
    framed undo body w = (.ok result, { w' with frames := w.frames }) := by
  rw [framed_of_untouched hrun (by rw [hframes, Array.back?_push]), hframes, Array.pop_push]

/-- The result of a body as the result of its call. -/
def conclude (settings : Settings) (s : Signature) : Except Failure α → Act τ ε β σ α
  | .ok a => return a
  | .error e => do
    if e.isFatal then Act.abort e
    else
      if settings.traceCalls then Act.log .trace (s.symbol ++ " failed: " ++ e.display)
      Act.fail e

/-- What a call does before its body runs. -/
def preamble (s : Signature) : Act τ ε β σ Settings := do
  let settings ← Act.settings
  checkContract settings s
  if settings.traceCalls then Act.log .trace ("calling " ++ s.canonical)
  return settings

theorem invoke_eq (undo : β → Act τ ε β σ Unit) (s : Signature) (body : Nat → Act τ ε β σ α) :
    invoke undo s body = (do
      let settings ← preamble s
      let result ← framed undo body
      conclude settings s result) := by
  have hflat : invoke undo s body = (do
      let settings ← Act.settings
      checkContract settings s
      if settings.traceCalls then Act.log .trace ("calling " ++ s.canonical)
      let result ← framed undo body
      conclude settings s result) := by
    simp only [framed, Act.bind_assoc]
    rfl
  rw [hflat]
  -- the log line is under a condition, so what follows it is the same in both branches
  simp only [preamble, Act.bind_assoc]
  refine congrArg (Act.settings >>= ·) (funext fun settings => ?_)
  refine congrArg (checkContract settings s >>= ·) (funext fun _ => ?_)
  split <;> rfl

/-- Whether a call under a signature gets past the contracts. -/
def Accepted (s : Signature) (w : World τ ε β σ) : Prop :=
  w.inForce.verifyContracts = true → ∀ t, w.contracts = some t → t.verify s = .ok ()

omit [DecidableEq τ] in
theorem Accepted.of_scene {s : Signature} {w w' : World τ ε β σ} (h : Accepted s w)
    (hscene : w'.scene = w.scene) : Accepted s w' := by
  have hforce : w'.inForce = w.inForce := congrArg Scene.settings hscene
  have hcontracts : w'.contracts = w.contracts := congrArg Scene.contracts hscene
  unfold Accepted
  rw [hforce, hcontracts]
  exact h

omit [DecidableEq τ] in
theorem checkContract_cases (s : Signature) (w : World τ ε β σ) :
    (Accepted s w ∧ checkContract w.inForce s w = (.ok (), w)) ∨
      ¬ Accepted s w ∧ ∃ e, checkContract w.inForce s w = Act.abort e w := by
  unfold checkContract Accepted
  by_cases hverify : w.inForce.verifyContracts = true
  · have hread : Act.contracts w = (.ok w.contracts, w) := rfl
    rw [if_pos hverify, Act.bind_of_ok hread]
    cases ht : w.contracts with
    | none => exact .inl ⟨fun _ t h => absurd h nofun, rfl⟩
    | some t =>
      cases hv : t.verify s with
      | ok u => exact .inl ⟨fun _ t' h => Option.some.inj h ▸ hv, by simp only [hv]; rfl⟩
      | error e =>
        refine .inr ⟨fun h => ?_, e.failure, by simp only [hv]⟩
        rw [h hverify t rfl] at hv
        cases hv
  · rw [if_neg hverify]
    exact .inl ⟨fun h => absurd h hverify, rfl⟩

omit [DecidableEq τ] in
/-- A call gets to its body, or the contracts refuse it and the process ends. Nothing has happened by then. -/
theorem preamble_cases (s : Signature) (w : World τ ε β σ) :
    (Accepted s w ∧ ∃ w₀, w₀.scene = w.scene ∧ preamble s w = (.ok w.inForce, w₀)) ∨
      ¬ Accepted s w ∧ ∃ e w', w'.scene = w.scene ∧ preamble s w = (.abort e, w') := by
  obtain ⟨w₁, hset, hscene⟩ := Act.settings_run w
  have hforce : w₁.inForce = w.inForce := congrArg Scene.settings hscene
  unfold preamble
  rw [Act.bind_of_ok hset]
  rcases checkContract_cases s w₁ with ⟨haccepted, hcheck⟩ | ⟨hrefused, e, hcheck⟩
  · rw [hforce] at hcheck
    rw [Act.bind_of_ok hcheck]
    refine .inl ⟨haccepted.of_scene hscene.symm, ?_⟩
    split
    · exact ⟨_, by exact hscene, rfl⟩
    · exact ⟨w₁, hscene, rfl⟩
  · rw [hforce] at hcheck
    exact .inr ⟨fun h => hrefused (h.of_scene hscene), e, _, by exact hscene, Act.bind_of_abort hcheck _⟩

omit [DecidableEq τ] in
theorem still_preamble (s : Signature) : (preamble s : Act τ ε β σ Settings).Still := by
  intro w
  rcases preamble_cases s w with ⟨_, w₀, hscene, hrun⟩ | ⟨_, e, w₀, hscene, hrun⟩ <;> rw [hrun] <;> exact hscene

omit [DecidableEq τ] in
theorem still_conclude (settings : Settings) (s : Signature) (result : Except Failure α) :
    (conclude settings s result : Act τ ε β σ α).Still := by
  cases result with
  | ok a => exact Act.still_pure a
  | error e =>
    simp only [conclude]
    split
    · exact Act.still_abort e
    · split
      · exact (Act.still_log _ _).bind fun _ => Act.still_fail e
      · exact Act.still_fail e

omit [DecidableEq τ] in
theorem conclude_of_fatal (settings : Settings) (s : Signature) {e : Failure} (he : e.isFatal = true)
    (w : World τ ε β σ) :
    ∃ w', conclude settings s (.error e : Except Failure α) w = (.abort e, w') ∧ w'.scene = w.scene := by
  refine ⟨_, ?_, still_conclude settings s (.error e : Except Failure α) w⟩
  simp only [conclude, he, ↓reduceIte]
  rfl

omit [DecidableEq τ] in
theorem conclude_of_harmless (settings : Settings) (s : Signature) {e : Failure} (he : e.isFatal = false)
    (w : World τ ε β σ) :
    ∃ w', conclude settings s (.error e : Except Failure α) w = (.fail e, w') ∧ w'.scene = w.scene := by
  refine ⟨_, ?_, still_conclude settings s (.error e : Except Failure α) w⟩
  simp only [conclude, he, Bool.false_eq_true, ↓reduceIte]
  split <;> rfl

end Call

/-- The world in which a failure was reported to the holder of `slot`. -/
def Boundary.reported (slot : ErrorSlot) (e : Failure) (w : World τ ε β σ) : World τ ε β σ :=
  if slot = .absent then { w with trace := .log .error (errorLine e) :: w.trace } else w

theorem Boundary.state_reported (slot : ErrorSlot) (e : Failure) (w : World τ ε β σ) :
    (reported slot e w).state = w.state := by
  cases slot <;> rfl

/-- A function that fails leaves its failure in the slot, or in the log where there is no slot, unless the process ends
on it. -/
theorem Boundary.call_of_cause {ρ ι : Type} (p : Passage τ ε β σ ρ ι) (slot : ErrorSlot) {body : Act τ ε β σ ρ}
    {e : Failure} {w w' : World τ ε β σ}
    (h : Act.attempt (Act.catchPanic (body >>= p.deliver)) w = (.ok (.error e), w')) :
    call p slot body w =
      if e.isFatal then Act.abort e w' else (.ok (p.sentinel, slot.store e), reported slot e w') := by
  have hprotect : protect (body >>= p.deliver) w =
      (if e.isFatal then Act.abort e else pure (.error e) : Act τ ε β σ (Except Failure ι)) w' := by
    unfold protect
    rw [Act.bind_of_ok h]
  unfold call
  rw [Act.bind_apply, hprotect]
  cases e.isFatal with
  | true => rfl
  | false => cases slot <;> rfl

theorem Boundary.call_of_caught {ρ ι : Type} (p : Passage τ ε β σ ρ ι) {body : Act τ ε β σ ρ} {e : Failure}
    {w w' : World τ ε β σ} (h : Act.attempt (Act.catchPanic (body >>= p.deliver)) w = (.ok (.error e), w')) :
    call p .empty body w =
      if e.isFatal then Act.abort e w' else (.ok (p.sentinel, .holding (.ofFailure e)), w') :=
  call_of_cause p .empty h

theorem Boundary.protect_of_ok {x : Act τ ε β σ α} {a : α} {w w' : World τ ε β σ} (hx : x w = (.ok a, w')) :
    protect x w = (.ok (.ok a), w') := by
  have hcaught : Act.catchPanic x w = (.ok a, w') := by simp only [Act.catchPanic, hx]
  unfold protect
  rw [Act.bind_of_ok (Act.attempt_of_ok hcaught)]
  rfl

/-- A function that succeeds leaves the slot alone. -/
theorem Boundary.call_of_ok {ρ ι : Type} (p : Passage τ ε β σ ρ ι) (slot : ErrorSlot) {body : Act τ ε β σ ρ} {i : ι}
    {w w' : World τ ε β σ} (h : (body >>= p.deliver) w = (.ok i, w')) :
    call p slot body w = (.ok (i, slot), w') := by
  unfold call
  rw [Act.bind_of_ok (protect_of_ok h)]
  rfl

theorem Boundary.infallible_of_ok {x : Act τ ε β σ α} (sentinel : α) {a : α} {w w' : World τ ε β σ}
    (hx : x w = (.ok a, w')) : infallible (Passage.plain sentinel) x w = (.ok a, w') := by
  have hbody : (x >>= (Passage.plain sentinel : Passage τ ε β σ α α).deliver) w = (.ok a, w') :=
    Act.bind_of_ok hx _
  unfold infallible
  rw [Act.bind_of_ok (protect_of_ok hbody)]
  rfl

end Causeway
