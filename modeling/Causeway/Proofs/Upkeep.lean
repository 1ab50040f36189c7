import Causeway.Proofs.Books
import Causeway.Proofs.Closing
import Causeway.Proofs.Transfer
import Causeway.Demo.Host

/-!
# Causeway.Proofs.Upkeep

Reasoning about computations of the demo bridge by what they do to its books.

* `Demo.Sheet` — the books, the open calls and the readings taken so far, at one moment.
* `Demo.Spec`  — what a computation leaves if it does not end the process.
* `Demo.Quiet` — computations that leave all of it alone.

There is a rule for each way to put computations together, and one for each way to change the books.
-/

namespace Causeway
namespace Demo

variable {β ρ α γ : Type}

structure Sheet (β : Type) extends Books where
  frames : Array (Frame ObjectType β)
  /-- The books as they were at earlier moments, the newest first. -/
  readings : List Books

def Sheet.of (s : Scene ObjectType Books β (Store (Ledger × ρ))) : Sheet β where
  registries := s.registries
  drops := s.state.drops
  liveByteVecs := s.state.liveByteVecs
  nextAddress := s.state.nextAddress
  ledger := s.state.rest.1
  frames := s.frames
  readings := s.notes

def sheet (w : World ObjectType Books β (Store (Ledger × ρ))) : Sheet β := .of w.scene

/-- An ending and what is left: a value as `good` says, a failure or a panic as `bad` says. -/
def Meets (good : α → Sheet β → Prop) (bad : Sheet β → Prop) : Outcome α → Sheet β → Prop
  | .ok a, S => good a S
  | .fail _, S => bad S
  | .panic _, S => bad S
  | .abort _, _ => True

theorem Meets.of_bad {good : α → Sheet β → Prop} {bad : Sheet β → Prop} {o : Outcome α} {S : Sheet β}
    (ho : ∀ a, o ≠ .ok a) (h : bad S) : Meets good bad o S := by
  cases o with
  | ok a => exact absurd rfl (ho a)
  | fail e => exact h
  | panic m => exact h
  | abort e => trivial

theorem Meets.ok_or_abort {good : α → Sheet β → Prop} {o : Outcome α} {S : Sheet β}
    (h : Meets good (fun _ => False) o S) : (∃ a, o = .ok a ∧ good a S) ∨ o.isAbort = true := by
  cases o with
  | ok a => exact .inl ⟨a, rfl, h⟩
  | fail e => exact h.elim
  | panic m => exact h.elim
  | abort e => exact .inr rfl

/-- From the sheet `S`, a computation ends the process or leaves what `good` and `bad` say. -/
def Spec (S : Sheet β) (x : Act Books β (Ledger × ρ) α) (good : α → Sheet β → Prop)
    (bad : Sheet β → Prop) : Prop :=
  ∀ w, sheet w = S → Meets good bad (x w).1 (sheet (x w).2)

def Quiet (x : Act Books β (Ledger × ρ) α) : Prop := ∀ S, Spec S x (fun _ S' => S' = S) (· = S)

namespace Spec

variable {S : Sheet β} {x : Act Books β (Ledger × ρ) α} {f : α → Act Books β (Ledger × ρ) γ}
  {good : α → Sheet β → Prop} {bad : Sheet β → Prop} {good' : γ → Sheet β → Prop} {bad' : Sheet β → Prop}

theorem mono {good₂ : α → Sheet β → Prop} {bad₂ : Sheet β → Prop} (hx : Spec S x good bad)
    (hgood : ∀ a S', good a S' → good₂ a S') (hbad : ∀ S', bad S' → bad₂ S') : Spec S x good₂ bad₂ := by
  intro w hw
  have h := hx w hw
  revert h
  cases (x w).1 with
  | ok a => exact hgood a _
  | fail e => exact hbad _
  | panic m => exact hbad _
  | abort e => exact id

theorem of_value {a : α} (h : good a S) : Spec S (pure a : Act Books β (Ledger × ρ) α) good bad := by
  rintro w rfl
  exact h

theorem of_failure (e : Failure) (h : bad S) : Spec S (Act.fail e : Act Books β (Ledger × ρ) α) good bad := by
  rintro w rfl
  exact h

theorem of_end (e : Failure) : Spec S (Act.abort e : Act Books β (Ledger × ρ) α) good bad :=
  fun _ _ => trivial

theorem of_except {r : Except Failure α} (hgood : ∀ a, r = .ok a → good a S)
    (hbad : ∀ e, r = .error e → bad S) :
    Spec S (Act.ofExcept r : Act Books β (Ledger × ρ) α) good bad := by
  cases r with
  | ok a => exact of_value (hgood a rfl)
  | error e => exact of_failure e (hbad e rfl)

theorem bind (hx : Spec S x good bad) (hf : ∀ a S', good a S' → Spec S' (f a) good' bad')
    (hbad : ∀ S', bad S' → bad' S') : Spec S (x >>= f) good' bad' := by
  intro w hw
  have h := hx w hw
  rw [Act.bind_apply]
  cases hrun : x w with
  | mk o w' =>
    rw [hrun] at h
    cases o with
    | ok a => exact hf a _ h w' rfl
    | fail e => exact hbad _ h
    | panic m => exact hbad _ h
    | abort e => trivial

theorem catchPanic (hx : Spec S x good bad) : Spec S (Act.catchPanic x) good bad := by
  intro w hw
  have h := hx w hw
  unfold Act.catchPanic
  cases hrun : x w with
  | mk o w' =>
    rw [hrun] at h
    cases o <;> exact h

/-- With failures and panics caught, a computation gives a value or ends the process. -/
theorem caught (hx : Spec S x good bad) :
    Spec S (Act.attempt (Act.catchPanic x))
      (fun r S' => match r with | .ok a => good a S' | .error _ => bad S') (fun _ => False) := by
  intro w hw
  have h := hx w hw
  unfold Act.attempt Act.catchPanic
  cases hrun : x w with
  | mk o w' =>
    rw [hrun] at h
    cases o <;> exact h

theorem protect (hx : Spec S x good bad) :
    Spec S (Boundary.protect x)
      (fun r S' => match r with | .ok a => good a S' | .error _ => bad S') (fun _ => False) := by
  unfold Boundary.protect
  refine hx.caught.bind (fun r S' hr => ?_) fun _ h => h
  cases r with
  | ok a => exact of_value hr
  | error e =>
    simp only
    split
    · exact of_end e
    · exact of_value hr

/-- A function of the host returns to the foreign side, with a value or with what stands for one. -/
theorem call {ι : Type} {p : Passage ObjectType Books β (Store (Ledger × ρ)) α ι} {slot : ErrorSlot}
    {good' : ι → Sheet β → Prop} (hx : Spec S (x >>= p.deliver) good' bad) :
    Spec S (Boundary.call p slot x)
      (fun r S' => (r.2 = slot ∧ good' r.1 S') ∨ ((∃ e, r = (p.sentinel, slot.store e)) ∧ bad S'))
      (fun _ => False) := by
  unfold Boundary.call
  refine hx.protect.bind (fun r S' hr => ?_) fun _ h => h
  cases r with
  | ok i => exact of_value (.inl ⟨rfl, hr⟩)
  | error e =>
    simp only
    split
    · rintro w rfl
      exact .inr ⟨⟨e, rfl⟩, hr⟩
    · exact of_value (.inr ⟨⟨e, rfl⟩, hr⟩)

theorem infallible (hx : Spec S x good (fun _ => False)) (sentinel : α) :
    Spec S (Boundary.infallible (Passage.plain sentinel) x) good (fun _ => False) := by
  have hdeliver : Spec S (x >>= (Passage.plain sentinel).deliver) good (fun _ => False) :=
    hx.bind (fun _ _ h => of_value h) fun _ h => h
  unfold Boundary.infallible
  refine hdeliver.protect.bind (fun r S' hr => ?_) fun _ h => h
  cases r with
  | ok i => exact of_value hr
  | error e => exact hr.elim

theorem callForeign {g : ErrorSlot → Act Books β (Ledger × ρ) (α × ErrorSlot)}
    {good' : α × ErrorSlot → Sheet β → Prop} (hg : Spec S (g .empty) good' bad)
    (hgood : ∀ a slot S', good' (a, slot) S' → slot.result a = .ok a → good a S')
    (hbad : ∀ a slot e S', good' (a, slot) S' → slot.result a = .error e → bad S') :
    Spec S (Call.callForeign g) good bad := by
  unfold Call.callForeign
  refine hg.bind (fun r S' hr => ?_) fun _ h => h
  refine of_except (fun a ha => ?_) fun e he => hbad r.1 r.2 e S' hr he
  have hsame : a = r.1 := by
    revert ha
    cases r.2 <;> intro ha <;> cases ha <;> rfl
  subst hsame
  exact hgood r.1 r.2 S' hr ha

/-- A call has its body's ending. Its loans end with it, and where nothing was registered to be undone, nothing
else happens. -/
theorem invoke {undo : β → Act Books β (Ledger × ρ) Unit} {s : Signature}
    {body : Nat → Act Books β (Ledger × ρ) α} {good' : α → Sheet β → Prop} {bad' : Sheet β → Prop}
    (hbody : Spec { S with frames := S.frames.push {} } (body S.frames.size) good' bad')
    (hgood : ∀ a S', good' a S' → ∃ loans, S'.frames = S.frames.push ⟨loans, []⟩ ∧
      good a { S' with registries := S'.registries.endLoans loans, frames := S.frames })
    (hbad : ∀ S', bad' S' → ∃ loans, S'.frames = S.frames.push ⟨loans, []⟩ ∧
      bad { S' with registries := S'.registries.endLoans loans, frames := S.frames }) :
    Spec S (Call.invoke undo s body) good bad := by
  rintro w rfl
  rcases Call.preamble_cases s w with ⟨_, w₀, hscene, hpre⟩ | ⟨_, e, w', _, hpre⟩
  · have hcloses := Call.invoke_closes undo body hpre
    have hsheet : sheet w₀ = sheet w := congrArg Sheet.of hscene
    have hopen : sheet { w₀ with frames := w₀.frames.push {} } =
        { sheet w with frames := (sheet w).frames.push {} } := by
      rw [← hsheet]
      rfl
    have hlevel : w₀.frames.size = (sheet w).frames.size := by
      rw [← hsheet]
      rfl
    have hrun := hbody _ hopen
    rw [← hlevel] at hrun
    revert hcloses hrun
    generalize body w₀.frames.size { w₀ with frames := w₀.frames.push {} } = ending
    generalize Call.invoke undo s body w = result
    obtain ⟨o, w₁⟩ := ending
    obtain ⟨r, w'⟩ := result
    intro hcloses hrun
    -- the frame on top is the one of this call, and holds no rollbacks
    have hfinish : ∀ P : Sheet β → Prop, r.isAbort = false →
        (∃ loans, (sheet w₁).frames = (sheet w).frames.push ⟨loans, []⟩ ∧
          P { sheet w₁ with
            registries := (sheet w₁).registries.endLoans loans
            frames := (sheet w).frames }) →
        P (sheet w') ∧ ∀ a, r = .ok a ↔ o = .ok a := by
      rintro P hover ⟨loans, hframes, hP⟩
      have hw₁ : w₁.frames = (sheet w).frames.push ⟨loans, []⟩ := hframes
      simp only [hw₁, Array.back?_push, Option.getD_some] at hcloses
      obtain ⟨hleft, _, hsame⟩ := hcloses.of_no_rollbacks hover
      have hsheet' : sheet w' = { sheet w₁ with
          registries := (sheet w₁).registries.endLoans loans
          frames := (sheet w).frames } := by
        have hpop : w₁.frames.pop = (sheet w).frames := by rw [hw₁, Array.pop_push]
        have hof : sheet w' = sheet (Call.unframed loans w₁) := congrArg Sheet.of hleft
        rw [hof, ← hpop]
        rfl
      rw [hsheet']
      exact ⟨hP, hsame⟩
    by_cases hover : r.isAbort = false
    · cases o with
      | ok a =>
        obtain ⟨hleft, hsame⟩ := hfinish (good a) hover (hgood a _ hrun)
        rw [(hsame a).mpr rfl]
        exact hleft
      | fail e =>
        obtain ⟨hleft, hsame⟩ := hfinish bad hover (hbad _ hrun)
        refine .of_bad (fun a ha => ?_) hleft
        cases (hsame a).mp ha
      | panic m =>
        obtain ⟨hleft, hsame⟩ := hfinish bad hover (hbad _ hrun)
        refine .of_bad (fun a ha => ?_) hleft
        cases (hsame a).mp ha
      | abort e =>
        rw [hcloses.of_ended.1]
        trivial
    · cases r with
      | abort e => trivial
      | _ => exact absurd rfl hover
  · have hrun : Call.invoke undo s body w = (.abort e, w') := by
      rw [Call.invoke_eq]
      exact Act.bind_of_abort hpre _
    rw [hrun]
    trivial

/-- The same, where the body leaves its frame alone. -/
theorem invoke_frame {undo : β → Act Books β (Ledger × ρ) Unit} {s : Signature}
    {body : Nat → Act Books β (Ledger × ρ) α}
    (hbody : Spec { S with frames := S.frames.push {} } (body S.frames.size)
      (fun a S' => S'.frames = S.frames.push {} ∧ good a { S' with frames := S.frames })
      (fun S' => S'.frames = S.frames.push {} ∧ bad { S' with frames := S.frames })) :
    Spec S (Call.invoke undo s body) good bad :=
  hbody.invoke (fun _ _ h => ⟨[], h⟩) fun _ h => ⟨[], h⟩

end Spec

/-! ## Computations that leave the books alone -/

namespace Quiet

variable {x : Act Books β (Ledger × ρ) α} {f : α → Act Books β (Ledger × ρ) γ}

theorem of_sheet (h : ∀ w, sheet (x w).2 = sheet w) : Quiet x := by
  rintro _ w rfl
  rw [h w]
  cases (x w).1 <;> trivial

/-- What held before holds after. -/
theorem leaves {S : Sheet β} (hx : Quiet x) {P : Sheet β → Prop} (hS : P S) : Spec S x (fun _ => P) P := by
  refine (hx S).mono ?_ ?_
  · rintro _ _ rfl
    exact hS
  · rintro _ rfl
    exact hS

theorem of_still (hx : x.Still) : Quiet x := of_sheet fun w => congrArg Sheet.of (hx w)

theorem bind (hx : Quiet x) (hf : ∀ a, Quiet (f a)) : Quiet (x >>= f) := by
  intro S
  refine (hx S).bind (fun a S' h => ?_) fun _ h => h
  rw [h]
  exact hf a S

theorem ofExcept (r : Except Failure α) : Quiet (Act.ofExcept r : Act Books β (Ledger × ρ) α) :=
  fun _ => Spec.of_except (fun _ _ => rfl) fun _ _ => rfl

theorem call {ι : Type} {p : Passage ObjectType Books β (Store (Ledger × ρ)) α ι} (slot : ErrorSlot)
    (hx : Quiet (x >>= p.deliver)) : Quiet (Boundary.call p slot x) := fun S =>
  (hx S).call.mono (fun _ _ h => h.elim (·.2) (·.2)) fun _ h => h.elim

theorem callForeign {g : ErrorSlot → Act Books β (Ledger × ρ) (α × ErrorSlot)} (hg : ∀ slot, Quiet (g slot)) :
    Quiet (Call.callForeign g) := fun S =>
  Spec.callForeign (hg .empty S) (fun _ _ _ h _ => h) fun _ _ _ _ h _ => h

theorem readRegistry (t : ObjectType) (g : Registry → Except Registry.Refusal α) :
    Quiet (Act.readRegistry t g : Act Books β (Ledger × ρ) α) := by
  refine of_sheet fun w => ?_
  rcases Act.readRegistry_cases t g w with ⟨a, _, hrun⟩ | ⟨e, _, hrun⟩ <;> rw [hrun]

theorem resolveRef (t : ObjectType) (h : Handle) :
    Quiet (h.resolveRef t : Act Books β (Ledger × ρ) Address) :=
  (of_still Act.still_settings).bind fun _ => readRegistry t _

theorem thingCAt (a : Address) : Quiet (Demo.thingCAt a : Act Books β (Ledger × ρ) (List UInt8)) :=
  of_sheet fun _ => rfl

/-- The times an object was printed are not in the books. -/
theorem print (a : Address) : Quiet (Demo.print a : Act Books β (Ledger × ρ) Unit) :=
  of_sheet fun _ => rfl

end Quiet

/-! ## One change to the books -/

namespace Spec

variable {S : Sheet β}

theorem lend (level : Nat) (t : ObjectType) (h : Handle) (room : Bool) :
    Spec S (Call.lend level t h room : Act Books β (Ledger × ρ) Unit)
      (fun _ S' => S' = S ∨ ∃ r, (S.registries t).lend h = .ok r ∧
        S' = { S with
          registries := S.registries.set t r
          frames := S.frames.modify level fun f => { f with loans := (t, h) :: f.loans } })
      (· = S) := by
  refine Spec.bind (Quiet.of_still Act.still_settings S) (fun settings S' hS => ?_) fun _ h => h
  subst hS
  split
  · cases room with
    | true =>
      rw [if_pos rfl]
      rintro w rfl
      rcases Act.updateRegistry_cases t (fun r => r.lend h) w with ⟨r, hr, hrun⟩ | ⟨e, _, hrun⟩
      · rw [Act.bind_of_ok hrun]
        exact .inr ⟨r, hr, rfl⟩
      · rw [Act.bind_of_fail hrun]
        exact rfl
    | false => exact of_failure _ rfl
  · exact of_value (.inl rfl)

theorem storeThingR (thing : ThingR) :
    Spec S (Demo.storeThingR thing : Act Books β (Ledger × ρ) Address)
      (fun a S' => a = S.nextAddress ∧ S' = { S with nextAddress := S.nextAddress + 1 }) (fun _ => False) := by
  rintro w rfl
  exact ⟨rfl, rfl⟩

theorem storeThingC (name : List UInt8) :
    Spec S (Demo.storeThingC name : Act Books β (Ledger × ρ) Address)
      (fun a S' => a = S.nextAddress ∧ S' = { S with nextAddress := S.nextAddress + 1 }) (fun _ => False) := by
  rintro w rfl
  exact ⟨rfl, rfl⟩

theorem dropByteVec (v : ByteVec) :
    Spec S (Foreign.dropByteVec (some v) : Act Books β (Ledger × ρ) Unit)
      (fun _ S' => S' = { S with liveByteVecs := S.liveByteVecs - 1 }) (fun _ => False) := by
  rintro w rfl
  exact rfl

theorem newByteVec (n : Nat) :
    Spec S (Foreign.newByteVec n : Act Books β (Ledger × ρ) (ForeignVec ByteVec))
      (fun v S' => (v = none ∧ S' = S) ∨ ∃ b, v = some b ∧ S' = { S with liveByteVecs := S.liveByteVecs + 1 })
      (fun _ => False) := by
  unfold Foreign.newByteVec
  split
  · exact of_value (.inl ⟨rfl, rfl⟩)
  · rintro w rfl
    exact .inr ⟨_, rfl, rfl⟩

/-- The object that a destructor is run on is counted. -/
def Counted (x : Act Books β (Ledger × ρ) Unit) : Prop :=
  ∀ S, Spec S x (fun _ S' => S' = { S with drops := S.drops + 1 }) (fun _ => False)

theorem counted_destroyThingR (a : Address) :
    Counted (Demo.destroyThingR a : Act Books β (Ledger × ρ) Unit) := by
  rintro _ w rfl
  exact rfl

theorem counted_destroyThingC {a : Address} (ha : a ≠ 0) :
    Counted (Demo.destroyThingC a : Act Books β (Ledger × ρ) Unit) := by
  rintro _ w rfl
  simp only [Demo.destroyThingC, ha, ↓reduceIte]
  exact rfl

variable {t : ObjectType} {h : Handle}

/-- An object is entered, or it is refused and destroyed. -/
theorem enterOr {finalize : Finalizer ObjectType Books β (Store (Ledger × ρ))} (t : ObjectType) (a : Address)
    (d : Destructor) (hdiscard : Counted (finalize t d a)) :
    Spec S (Objects.enterOr finalize t a d none true)
      (fun h S' => ∃ r, (S.registries t).insert a d true = .ok (h, r) ∧
        S' = { S with registries := S.registries.set t r })
      (fun S' => Objects.Unentered (S.registries t) a d none true ∧ S' = { S with drops := S.drops + 1 }) := by
  rintro w rfl
  rcases Objects.enterOr_cases finalize t a d none true w with ⟨h, r, w', _, hi, hscene, hrun⟩ | ⟨e, hwhy, hrun⟩
  · rw [hrun]
    exact ⟨r, hi, congrArg Sheet.of hscene⟩
  · rw [hrun]
    refine (hdiscard (sheet w)).bind (fun _ S' hS => ?_) (fun _ h => h.elim) w rfl
    exact of_failure e ⟨hwhy, hS⟩

/-- An object is destroyed, or the process ends. -/
theorem destroy {finalize : Finalizer ObjectType Books β (Store (Ledger × ρ))}
    (hfinalize : ∀ d a, a ≠ 0 → Counted (finalize t d a)) (hsound : (S.registries t).Sound) (h : Handle)
    (claimant : Side) :
    Spec S (Act.orAbort (Objects.destroy finalize t h claimant))
      (fun _ S' => ∃ e r, (S.registries t).remove h claimant = .ok (e, r) ∧
        S' = { S with
          registries := S.registries.set t r.noteDestroyed
          drops := S.drops + 1 })
      (fun _ => False) := by
  rintro w rfl
  have hcounted : ∀ e r w₁, (w.registries t).remove h claimant = .ok (e, r) →
      w₁.scene = { w.scene with registries := w.registries.set t r } →
      Meets (fun _ S' => S' = { sheet w with
          registries := w.registries.set t r
          drops := (sheet w).drops + 1 })
        (fun _ => False) (finalize t e.destructor e.address w₁).1
        (sheet (finalize t e.destructor e.address w₁).2) := by
    intro e r w₁ hremove hscene
    have haddress : e.address ≠ 0 := hsound.address_ne_zero (Registry.remove_eq_ok.mp hremove).1
    exact hfinalize e.destructor e.address haddress _ w₁ (congrArg Sheet.of hscene)
  have hreturns : ∀ e r w₁, (w.registries t).remove h claimant = .ok (e, r) →
      w₁.scene = { w.scene with registries := w.registries.set t r } → e.destructor.side = .foreign →
      (finalize t e.destructor e.address w₁).1 = .ok () ∨
        (finalize t e.destructor e.address w₁).1.isAbort = true := by
    intro e r w₁ hremove hscene _
    exact (hcounted e r w₁ hremove hscene).ok_or_abort.imp (fun ⟨_, hok, _⟩ => hok) id
  rcases Objects.destroy_ends h claimant w hreturns with
    ⟨e, r, w₁, hremove, hscene, w₂, hscene₂, ⟨hover, hrun⟩ | ⟨f, _, hrun⟩⟩ | ⟨x, _, hrun⟩
  · rw [Act.orAbort_of_ok hrun]
    obtain ⟨_, _, hend⟩ := (hcounted e r w₁ hremove hscene).ok_or_abort.resolve_right (by simp [hover])
    have hsheet : sheet w₂ = { sheet w with
        registries := w.registries.set t r
        drops := (sheet w).drops + 1 } := (congrArg Sheet.of hscene₂).trans hend
    have hregs : w₂.registries = w.registries.set t r := congrArg (·.registries) hsheet
    refine ⟨e, r, hremove, ?_⟩
    have hset : w₂.registries.set t (w₂.registries t).noteDestroyed = w.registries.set t r.noteDestroyed := by
      rw [hregs, Registries.set_same, Registries.set_set]
    calc sheet { w₂ with registries := w₂.registries.set t (w₂.registries t).noteDestroyed }
        = { sheet w₂ with registries := w.registries.set t r.noteDestroyed } := by rw [hset]; rfl
      _ = _ := by rw [hsheet]; rfl
  · rw [Act.orAbort_of_abort hrun]
    trivial
  · rw [Act.orAbort_of_fail hrun]
    trivial

theorem take (hnull : h.isNull = false) :
    Spec S (Objects.take t h : Act Books β (Ledger × ρ) Address)
      (fun a S' => ∃ r, (S.registries t).release h .foreign = .ok (a, r) ∧
        S' = { S with registries := S.registries.set t r })
      (fun _ => False) := by
  rintro w rfl
  simp only [Objects.take, hnull, Bool.false_eq_true, ↓reduceIte]
  rcases Objects.release_cases t h .foreign w with ⟨a, r, w', hr, hscene, hrun⟩ | ⟨x, _, hrun⟩
  · rw [Act.orAbort_of_ok hrun]
    exact ⟨r, hr, congrArg Sheet.of hscene⟩
  · rw [Act.orAbort_of_fail hrun]
    trivial

theorem intoForeign (t : ObjectType) (h : Handle) :
    Spec S (h.intoForeign t : Act Books β (Ledger × ρ) Handle)
      (fun k S' => k = h ∧ ∃ r, (S.registries t).transfer h .host .foreign = .ok r ∧
        S' = { S with registries := S.registries.set t r })
      (fun _ => False) := by
  rintro w rfl
  unfold Handle.intoForeign
  rcases Act.updateRegistry_cases t (fun r => r.transfer h .host .foreign) w with ⟨r, hr, hrun⟩ | ⟨x, _, hrun⟩
  · rw [Act.bind_of_ok (Act.orAbort_of_ok hrun)]
    exact ⟨rfl, r, hr, rfl⟩
  · rw [Act.bind_of_abort (Act.orAbort_of_fail hrun)]
    trivial

end Spec

theorem modify_push (frames : Array (Frame ObjectType β)) (frame : Frame ObjectType β)
    (g : Frame ObjectType β → Frame ObjectType β) :
    (frames.push frame).modify frames.size g = frames.push (g frame) := by
  refine Array.ext_getElem? fun i => ?_
  rw [Array.getElem?_modify, Array.getElem?_push, Array.getElem?_push]
  by_cases hi : i = frames.size
  · simp [hi]
  · simp [hi, Ne.symm hi]

/-- A call that lends an object and changes nothing leaves everything as it was. -/
theorem Quiet.invoke_lent {undo : β → Act Books β (Ledger × ρ) Unit} {s : Signature} (t : ObjectType)
    (h : Handle) {rest : Act Books β (Ledger × ρ) α} (hrest : Quiet rest) :
    Quiet (Call.invoke undo s fun level => Call.lend level t h >>= fun _ => rest) := by
  intro S
  let Returned := fun S' : Sheet β => ∃ loans, S'.frames = S.frames.push ⟨loans, []⟩ ∧
    { S' with registries := S'.registries.endLoans loans, frames := S.frames } = S
  have hbody : Spec { S with frames := S.frames.push {} } (Call.lend S.frames.size t h >>= fun _ => rest)
      (fun _ => Returned) Returned := by
    refine (Spec.lend S.frames.size t h true).bind (fun _ S' hS => ?_) fun S' hS => ?_
    · have hreturned : Returned S' := by
        rcases hS with rfl | ⟨r, hr, rfl⟩
        · exact ⟨[], rfl, rfl⟩
        · refine ⟨[(t, h)], ?_, ?_⟩
          · exact modify_push S.frames {} fun f => { f with loans := (t, h) :: f.loans }
          · have hended : (S.registries.set t r).endLoans [(t, h)] = S.registries := by
              simp only [Registries.endLoans, Registries.set_same, Registry.endLoan_lend hr, Registries.set_set]
              exact Registries.set_self S.registries t
            simp only [hended]
      exact hrest.leaves hreturned
    · rw [hS]
      exact ⟨[], rfl, rfl⟩
  exact hbody.invoke (fun _ _ h => h) fun _ h => h

end Demo
end Causeway
