import Causeway.Proofs.Closing
import Causeway.Proofs.Locality

/-!
# Causeway.Proofs.Asides

What is written to the log beside the prints, and runs that are told to the last log line.

* `World.Aside`, `Act.Muted` — log lines that no print wrote, and computations that do nothing else.
* `Call.invoke_of_unused`    — a call is its body between such lines.
* `Objects.destroy_run`, `Objects.release_run` — an object that may leave its registry leaves it.
-/

namespace Causeway

variable {τ ε β σ α γ : Type}

/-! ## Log lines beside the prints -/

/-- A log line, at another level than prints have. -/
def Event.isAside : Event ε → Bool
  | .log level _ => level ≠ .info
  | .mark _ => false

/-- From one world to another by such lines alone. -/
structure World.Aside (w w' : World τ ε β σ) : Prop where
  scene : w'.scene = w.scene
  lines : ∃ lines : List (Event ε), w'.trace = lines ++ w.trace ∧ ∀ e ∈ lines, e.isAside = true

theorem World.Aside.refl (w : World τ ε β σ) : w.Aside w := ⟨rfl, [], rfl, by simp⟩

theorem World.Aside.trans {w w₁ w₂ : World τ ε β σ} (h₁ : w.Aside w₁) (h₂ : w₁.Aside w₂) : w.Aside w₂ := by
  obtain ⟨lines₁, htrace₁, hall₁⟩ := h₁.lines
  obtain ⟨lines₂, htrace₂, hall₂⟩ := h₂.lines
  refine ⟨h₂.scene.trans h₁.scene, lines₂ ++ lines₁, by rw [htrace₂, htrace₁, List.append_assoc], ?_⟩
  intro e he
  exact (List.mem_append.mp he).elim (hall₂ e) (hall₁ e)

/-- Such lines have nothing to do with registries and open calls. -/
theorem World.Aside.replaced {w w₁ : World τ ε β σ} (h : w.Aside w₁) (rs : Registries τ)
    (frames : Array (Frame τ β)) :
    ({ w with registries := rs, frames := frames } : World τ ε β σ).Aside
      { w₁ with registries := rs, frames := frames } := by
  refine ⟨?_, h.lines⟩
  show ({ w₁.scene with registries := rs, frames := frames } : Scene τ ε β σ) =
    { w.scene with registries := rs, frames := frames }
  rw [h.scene]

namespace Act

/-- A computation that does nothing but write such lines. -/
def Muted (x : Act τ ε β σ α) : Prop := ∀ w : World τ ε β σ, w.Aside (x w).2

theorem muted_pure (a : α) : (pure a : Act τ ε β σ α).Muted := fun w => .refl w

theorem muted_fail (e : Failure) : (fail e : Act τ ε β σ α).Muted := fun w => .refl w

theorem muted_log {l : Level} (h : l ≠ .info) (text : String) : (log l text : Act τ ε β σ Unit).Muted :=
  fun _ => ⟨rfl, [.log l text], rfl, by simpa [Event.isAside] using h⟩

theorem muted_abort (e : Failure) : (abort e : Act τ ε β σ α).Muted :=
  fun _ => ⟨rfl, [.log .crit (lastWords e)], rfl, by simp [Event.isAside]⟩

theorem Muted.bind {x : Act τ ε β σ α} {f : α → Act τ ε β σ γ} (hx : x.Muted) (hf : ∀ a, (f a).Muted) :
    (x >>= f).Muted := by
  intro w
  have h := hx w
  rw [bind_apply]
  cases hxw : x w with
  | mk o w' =>
    rw [hxw] at h
    cases o with
    | ok a => exact h.trans (hf a w')
    | fail e => exact h
    | panic m => exact h
    | abort e => exact h

theorem muted_settings : (settings : Act τ ε β σ Settings).Muted := by
  intro w
  refine ⟨still_settings w, ?_⟩
  unfold settings
  cases w.settings with
  | some s => exact ⟨[], rfl, by simp⟩
  | none =>
    cases Settings.ofEnvironment w.environment with
    | ok s => exact ⟨[], rfl, by simp⟩
    | error e => exact ⟨[_], rfl, by simp [Event.isAside]⟩

theorem settings_aside (w : World τ ε β σ) : ∃ w', w.Aside w' ∧ settings w = (.ok w.inForce, w') := by
  obtain ⟨w', hrun, _⟩ := settings_run w
  have haside := muted_settings w
  rw [hrun] at haside
  exact ⟨w', haside, hrun⟩

end Act

namespace Call

variable [DecidableEq τ]

omit [DecidableEq τ] in
theorem muted_preamble (s : Signature) : (preamble s : Act τ ε β σ Settings).Muted := by
  have hcheck : ∀ settings : Settings, (checkContract settings s : Act τ ε β σ Unit).Muted := by
    intro settings
    unfold checkContract
    split
    · refine Act.Muted.bind (fun w => .refl w) fun t => ?_
      cases t with
      | none => exact Act.muted_pure ()
      | some t =>
        cases hv : t.verify s with
        | ok u => simpa only [hv] using Act.muted_pure ()
        | error e => simpa only [hv] using Act.muted_abort e.failure
    · exact Act.muted_pure ()
  refine Act.muted_settings.bind fun settings => (hcheck settings).bind fun _ => ?_
  split
  · exact (Act.muted_log (by decide) _).bind fun _ => Act.muted_pure _
  · exact Act.muted_pure _

omit [DecidableEq τ] in
theorem muted_conclude (settings : Settings) (s : Signature) (result : Except Failure α) :
    (conclude settings s result : Act τ ε β σ α).Muted := by
  cases result with
  | ok a => exact Act.muted_pure a
  | error e =>
    simp only [conclude]
    split
    · exact Act.muted_abort e
    · split
      · exact (Act.muted_log (by decide) _).bind fun _ => Act.muted_fail e
      · exact Act.muted_fail e

/-- A call whose body leaves the frames alone is its body between log lines. -/
theorem invoke_of_unused (undo : β → Act τ ε β σ Unit) {s : Signature} {w : World τ ε β σ}
    (haccepted : Accepted s w) (body : Nat → Act τ ε β σ α) :
    ∃ w₁, w.Aside w₁ ∧ ∀ result last,
      Act.attempt (Act.catchPanic (body w₁.frames.size)) { w₁ with frames := w₁.frames.push {} } =
          (.ok result, last) → last.frames = w₁.frames.push {} →
        invoke undo s body w = conclude w.inForce s result { last with frames := w₁.frames } := by
  rcases preamble_cases s w with ⟨_, w₁, _, hpre⟩ | ⟨hrefused, _⟩
  · have haside := muted_preamble s w
    rw [hpre] at haside
    refine ⟨w₁, haside, fun result last hbody hframes => ?_⟩
    rw [invoke_eq, Act.bind_of_ok hpre, Act.bind_of_ok (framed_of_unused hbody hframes)]
  · exact absurd haccepted hrefused

end Call

/-! ## Objects that leave their registries -/

namespace Objects

variable [DecidableEq τ] {finalize : Finalizer τ ε β σ} {t : τ} {h : Handle} {e : Entry}
  {claimant : Side} {w : World τ ε β σ}

omit [DecidableEq τ] in
theorem finalizeRemoved_of_ok {r : Registry} {w' : World τ ε β σ}
    (hrun : finalize t e.destructor e.address w = (.ok (), w')) :
    finalizeRemoved finalize t r e w = (.ok (), w') := by
  obtain ⟨a, d, holder, loans⟩ := e
  unfold finalizeRemoved
  cases d with
  | foreign code => exact hrun
  | native =>
    have hguarded : Act.guarded (finalize t .native a) w = (.ok true, w') := by simp only [Act.guarded, hrun]
    exact Act.bind_of_ok hguarded _

theorem destroy_run (hl : (w.registries t).lookup h = .ok e) (hholder : e.holder = claimant)
    (hloans : e.loans = 0) {w' : World τ ε β σ}
    (hfinal : finalize t e.destructor e.address { w with
      registries := w.registries.set t ((w.registries t).vacate h)
      trace := .log .trace ("destroying " ++ (w.registries t).typeName ++ " " ++ h.text) :: w.trace } =
        (.ok (), w'))
    (hregs : w'.registries = w.registries.set t ((w.registries t).vacate h)) :
    destroy finalize t h claimant w =
      (.ok (), { w' with registries := w.registries.set t ((w.registries t).vacate h).noteDestroyed }) := by
  have hremove := Registry.remove_eq_ok.mpr ⟨hl, hholder, hloans, rfl⟩
  have hcounted : Act.updateRegistry t (fun r => .ok r.noteDestroyed) w' =
      (.ok (), { w' with registries := w.registries.set t ((w.registries t).vacate h).noteDestroyed }) := by
    rw [Act.updateRegistry_of_ok (f := fun r => .ok r.noteDestroyed) rfl, hregs, Registries.set_same,
      Registries.set_set]
  unfold destroy
  rcases Act.onRegistry_map_cases t (fun r => r.remove h claimant) (fun r e => (e, r)) w with
    ⟨e', r, hr, hrun⟩ | ⟨x, hx, _⟩
  · rw [hremove] at hr
    cases hr
    refine (Act.bind_of_ok hrun _).trans ?_
    refine (Act.bind_of_ok (finalizeRemoved_of_ok hfinal) _).trans ?_
    exact hcounted
  · rw [hremove] at hx
    cases hx

theorem release_run (hl : (w.registries t).lookup h = .ok e) (hholder : e.holder = claimant)
    (hloans : e.loans = 0) :
    release t h claimant w = (.ok e.address, { w with
      registries := w.registries.set t
        { (w.registries t).vacate h with released := (w.registries t).released + 1 }
      trace := .log .trace ("releasing " ++ (w.registries t).typeName ++ " " ++ h.text) :: w.trace }) := by
  have hrelease := Registry.release_of_lookup hl hholder hloans
  unfold release
  rcases Act.onRegistry_map_cases t (fun r => r.release h claimant) (fun r a => (a, r.typeName)) w with
    ⟨a, r, hr, hrun⟩ | ⟨x, hx, _⟩
  · rw [hrelease] at hr
    cases hr
    rw [Act.bind_of_ok hrun]
    rfl
  · rw [hrelease] at hx
    cases hx

end Objects

/-- A reference to an object that the foreign side holds is good, whether or not references are checked. -/
theorem Handle.resolveRef_run [DecidableEq τ] {t : τ} {h : Handle} {e : Entry} {w : World τ ε β σ}
    (hl : (w.registries t).lookup h = .ok e) (hholder : e.holder = .foreign) :
    ∃ w₁, w.Aside w₁ ∧ h.resolveRef t w = (.ok e.address, w₁) := by
  obtain ⟨w₁, haside, hset⟩ := Act.settings_aside w
  have hregs : w₁.registries = w.registries := congrArg Scene.registries haside.scene
  have hresolve : (w₁.registries t).resolveRef h w.inForce.refCheck.enabled = .ok e.address := by
    simp [Registry.resolveRef, hregs, hl, hholder]
  refine ⟨w₁, haside, ?_⟩
  unfold resolveRef
  rw [Act.bind_of_ok hset]
  simp only [Act.readRegistry, hresolve]

theorem Call.callForeign_of_ok [DecidableEq τ] {f : ErrorSlot → Act τ ε β σ (α × ErrorSlot)} {a : α}
    {slot : ErrorSlot} {w w' : World τ ε β σ} (hf : f .empty w = (.ok (a, slot), w')) :
    callForeign f w = Act.ofExcept (slot.result a) w' :=
  Act.bind_of_ok hf _

end Causeway
