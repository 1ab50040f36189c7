import Causeway.Proofs.Moves
import Causeway.Proofs.Slots

/-!
# Causeway.Proofs.Runs

Every run of a program is a course of moves.

* `Act.Behaves`        — a computation whose runs are courses.
* `Objects.behaves_create`, `behaves_construct`, `behaves_destroy`, `Call.behaves_invoke` — one operation.
* `Program.run_behaves`, `Destructors.within_behaves` — programs behave, and their destructors.
-/

namespace Causeway

variable {τ β σ α γ : Type}

namespace Act

/-- From every world in which the frames in reach are open, the run is a course. -/
def Behaves [DecidableEq τ] (direct : Bool) {reach : Nat} (levels : Fin reach → Nat)
    (x : Act τ (Note τ) β σ α) : Prop :=
  ∀ w, (∀ i, levels i < w.frames.size) → Course direct levels (x w).1.isAbort w.point (x w).2.point

variable [DecidableEq τ] {direct : Bool} {reach : Nat} {levels : Fin reach → Nat}

theorem Idle.behaves {x : Act τ (Note τ) β σ α} (hx : x.Idle) : x.Behaves direct levels := by
  intro w _
  rw [hx w]
  exact Course.refl ..

theorem Behaves.bind {x : Act τ (Note τ) β σ α} {f : α → Act τ (Note τ) β σ γ}
    (hx : x.Behaves direct levels) (hf : ∀ a, (f a).Behaves direct levels) :
    (x >>= f).Behaves direct levels := by
  intro w hw
  have h := hx w hw
  rw [bind_apply]
  cases hxw : x w with
  | mk o w' =>
    rw [hxw] at h
    cases o with
    | ok a =>
      refine h.trans (hf a w' fun i => ?_)
      exact Nat.lt_of_lt_of_eq (hw i) (h.settled rfl).2.size.symm
    | fail e => exact h
    | panic m => exact h
    | abort e => exact h

/-- Another ending of the same run, if it does not hide the end of the process. -/
theorem Behaves.ending {x : Act τ (Note τ) β σ α} {y : Act τ (Note τ) β σ γ}
    (hx : x.Behaves direct levels)
    (hy : ∀ w, (y w).2.point = (x w).2.point ∧ ((y w).1.isAbort = false → (x w).1.isAbort = false)) :
    y.Behaves direct levels := by
  intro w hw
  rw [(hy w).1]
  exact (hx w hw).weaken (hy w).2

theorem Behaves.attempt {x : Act τ (Note τ) β σ α} (hx : x.Behaves direct levels) :
    (Act.attempt x).Behaves direct levels := by
  refine hx.ending fun w => ?_
  unfold Act.attempt
  cases x w with
  | mk o w' => cases o <;> exact ⟨rfl, id⟩

theorem Behaves.catchPanic {x : Act τ (Note τ) β σ α} (hx : x.Behaves direct levels) :
    (Act.catchPanic x).Behaves direct levels := by
  refine hx.ending fun w => ?_
  unfold Act.catchPanic
  cases x w with
  | mk o w' => cases o <;> exact ⟨rfl, id⟩

theorem Behaves.guarded {x : Act τ (Note τ) β σ Unit} (hx : x.Behaves direct levels) :
    (Act.guarded x).Behaves direct levels := by
  refine hx.ending fun w => ?_
  unfold Act.guarded
  cases x w with
  | mk o w' => cases o <;> exact ⟨rfl, id⟩

/-! ## Changes of one registry -/

/-- A change that is one move, and leaves the frames and the notes. -/
theorem behaves_updateRegistry (t : τ) (f : Registry → Except Registry.Refusal Registry)
    (hm : ∀ (s : Point τ β) r, f (s.registries t) = .ok r →
      Move direct s { s with registries := s.registries.set t r }) :
    (updateRegistry t f : Act τ (Note τ) β σ Unit).Behaves direct levels := by
  intro w _
  rcases updateRegistry_cases t f w with ⟨r, hr, hrun⟩ | ⟨e, _, hrun⟩
  · rw [hrun]
    exact Course.step (hm w.point r hr) (fun _ => rfl) (Kept.refl levels _)
  · rw [hrun]
    exact Course.refl ..

end Act

/-! ## Registration -/

/-- The world with one more note. -/
def World.note (w : World τ (Note τ) β σ) (n : Note τ) : World τ (Note τ) β σ :=
  { w with trace := .mark n :: w.trace }

theorem World.point_of_scene {w : World τ (Note τ) β σ} {s : Scene τ (Note τ) β σ} (h : w.scene = s) :
    w.point = ⟨s.registries, s.frames, s.notes⟩ :=
  congrArg (fun s : Scene τ (Note τ) β σ => (⟨s.registries, s.frames, s.notes⟩ : Point τ β)) h

theorem World.point_note (w : World τ (Note τ) β σ) (n : Note τ) :
    (w.note n).point = { w.point with notes := n :: w.point.notes } := rfl

namespace Objects

variable [DecidableEq τ] {direct : Bool} {reach : Nat} {levels : Fin reach → Nat} {outside : Fin 0 → Nat}

variable {finalize : Finalizer τ (Note τ) β σ}

/-- The object handed over last is refused, and its destructor runs. -/
theorem discard_course (hf : ∀ t d a, (finalize t d a).Behaves direct outside) (t : τ) (d : Destructor) (a : Address)
    (w : World τ (Note τ) β σ) :
    let r := Program.discarding finalize t d a (w.note (.handed t d a))
    Course direct levels r.1.isAbort w.point r.2.point := by
  have hmove : Course direct levels false w.point ((w.note (.handed t d a)).note (.discarded t d a)).point :=
    Course.step (.discard t d a) (fun _ => rfl) (Kept.refl levels _)
  exact hmove.trans (hf t d a _ nofun).widen

/-- The object handed over last is entered, and the handle noted, or it is refused and destroyed. -/
theorem enterOr_course (hf : ∀ t d a, (finalize t d a).Behaves direct outside) (t : τ) (a : Address) (d : Destructor)
    (lacking : Option Nat) (room : Bool) (w : World τ (Note τ) β σ) :
    let r := (do
      let h ← enterOr (Program.discarding finalize) t a d lacking room
      Program.noteRegistered t h
      return h : Act τ (Note τ) β σ Handle) (w.note (.handed t d a))
    Course direct levels r.1.isAbort w.point r.2.point := by
  intro r
  rcases enterOr_cases (Program.discarding finalize) t a d lacking room (w.note (.handed t d a))
    with ⟨h, r', w', howner, hi, hscene, hrun⟩ | ⟨e, _, hrun⟩
  · have hpoint := World.point_of_scene hscene
    have hr : r = (.ok h, w'.note (.registered t h a)) := by
      show (_ >>= _ : Act τ (Note τ) β σ Handle) _ = _
      rw [Act.bind_of_ok hrun]
      have hnotes : w'.notes = .handed t d a :: w.notes := congrArg Point.notes hpoint
      show (Outcome.ok h, w'.note (.registered t h (Program.lastHanded w'.notes))) = _
      rw [hnotes]
      rfl
    rw [hr]
    rw [World.point_note, hpoint]
    exact Course.step (Move.register howner hi) (fun _ => rfl) (Kept.refl levels _)
  · obtain ⟨habort, hworld⟩ := Act.bind_of_refused hrun fun h => do
      Program.noteRegistered t h
      return h
    rw [show r.1.isAbort = _ from habort, show r.2 = _ from hworld]
    exact discard_course hf t d a w

theorem behaves_create (hf : ∀ t d a, (finalize t d a).Behaves direct outside) (t : τ) (a : Address)
    (lacking : Option Nat) (room : Bool) :
    (do
      Act.mark (.handed t .native a)
      let h ← create (Program.discarding finalize) t a lacking room
      Program.noteRegistered t h
      return h : Act τ (Note τ) β σ Handle).Behaves direct levels := by
  rw [create_eq]
  exact fun w _ => enterOr_course hf t a .native lacking room w

theorem behaves_adopt (hf : ∀ t d a, (finalize t d a).Behaves direct outside) (t : τ) (a code : Address)
    (room : Bool) :
    (do
      if a ≠ 0 then Act.mark (.handed t (.foreign code) a)
      let h ← adopt (Program.discarding finalize) t a code room
      Program.noteRegistered t h
      return h : Act τ (Note τ) β σ Handle).Behaves direct levels := by
  by_cases ha : a = 0
  · subst ha
    intro w _
    exact Course.refl ..
  · simp only [ne_eq, ha, not_false_eq_true, ↓reduceIte, adopt_eq _ t code room ha]
    exact fun w _ => enterOr_course hf t a (.foreign code) none room w

omit [DecidableEq τ] in
theorem handing_cases (t : τ) (code : Address) (build : Act τ (Note τ) β σ (Address × ErrorSlot))
    (w : World τ (Note τ) β σ) :
    (∃ a slot w', build w = (.ok (a, slot), w') ∧
        Act.catchPanic (Program.handing t code build) w =
          (.ok (a, slot), if a = 0 then w' else w'.note (.handed t (.foreign code) a))) ∨
      ∃ o, Act.catchPanic (Program.handing t code build) w = (o, (build w).2) ∧ (∀ a, o ≠ .ok a) ∧
        o.isAbort = (build w).1.isAbort := by
  unfold Act.catchPanic Program.handing
  rw [Act.bind_apply]
  rcases hrun : build w with ⟨_ | _ | _ | _, w'⟩
  · rename_i built
    refine .inl ⟨built.1, built.2, w', rfl, ?_⟩
    by_cases ha : built.1 = 0 <;> simp only [ha, ne_eq, not_true_eq_false, not_false_eq_true, ↓reduceIte] <;>
      rfl
  all_goals exact .inr ⟨_, rfl, by simp, rfl⟩

theorem construct_cases (finalize : Finalizer τ (Note τ) β σ) (t : τ) (code : Address)
    (build : Act τ (Note τ) β σ (Address × ErrorSlot)) (room : Bool) (w : World τ (Note τ) β σ) :
    ((w.registries t).owner ≠ .foreign ∧
        ∃ e, construct finalize t code (fun _ => Program.handing t code build) room w = (.fail e, w)) ∨
      ((w.registries t).owner = .foreign ∧ ∃ a slot w', build w = (.ok (a, slot), w') ∧
        construct finalize t code (fun _ => Program.handing t code build) room w =
          settle finalize t code room a slot (if a = 0 then w' else w'.note (.handed t (.foreign code) a))) ∨
      ((w.registries t).owner = .foreign ∧
        ∃ o, construct finalize t code (fun _ => Program.handing t code build) room w = (o, (build w).2) ∧
          (∀ h, o ≠ .ok h) ∧ o.isAbort = (build w).1.isAbort) := by
  rw [construct_eq]
  rcases Act.expectOwner_cases t .foreign w with ⟨howner, hread⟩ | ⟨howner, e, hread⟩
  · rw [Act.bind_of_ok hread]
    rcases handing_cases t code build w with ⟨a, slot, w', hrun, hbuilt⟩ | ⟨o, hbuilt, ho, habort⟩
    · exact .inr (.inl ⟨howner, a, slot, w', hrun, by rw [Act.bind_of_ok hbuilt]⟩)
    · obtain ⟨o', hrun, ho', habort'⟩ :=
        Act.bind_of_not_ok hbuilt ho fun built => settle finalize t code room built.1 built.2
      exact .inr (.inr ⟨howner, o', hrun, ho', habort'.trans habort⟩)
  · exact .inl ⟨howner, e, Act.bind_of_fail hread _⟩

/-- What a constructor made is entered or destroyed, out of reach of any frame. -/
theorem construct_course (hf : ∀ t d a, (finalize t d a).Behaves direct outside) (t : τ) (code : Address) (room : Bool)
    (build : Act τ (Note τ) β σ (Address × ErrorSlot)) (w : World τ (Note τ) β σ) :
    let r := (do
      let h ← construct (Program.discarding finalize) t code (fun _ => Program.handing t code build) room
      Program.noteRegistered t h
      return h : Act τ (Note τ) β σ Handle) w
    ((w.registries t).owner ≠ .foreign ∧ ∃ e, r = (.fail e, w)) ∨
      ((w.registries t).owner = .foreign ∧
        (((build w).1.isAbort = false ∧ Course direct outside r.1.isAbort (build w).2.point r.2.point) ∨
          (r.1.isAbort = (build w).1.isAbort ∧ r.2 = (build w).2))) := by
  intro r
  rcases construct_cases (Program.discarding finalize) t code build room w with
    ⟨howner, e, hrun⟩ | ⟨howner, a, slot, w', hbuilt, hrun⟩ | ⟨howner, o, hrun, ho, habort⟩
  · exact .inl ⟨howner, e, Act.bind_of_fail hrun _⟩
  · refine .inr ⟨howner, .inl ?_⟩
    rw [show r = _ from Act.bind_congr hrun _, hbuilt]
    refine ⟨rfl, ?_⟩
    by_cases ha : a = 0
    · subst ha
      obtain ⟨e, hnull⟩ := settle_null (Program.discarding finalize) t code room slot w'
      rw [if_pos rfl, Act.bind_of_fail hnull]
      exact Course.refl ..
    · rw [if_neg ha]
      rcases settle_cases (Program.discarding finalize) t code room ha slot with henter | ⟨e, hrefuse⟩
      · rw [henter]
        exact enterOr_course hf t a (.foreign code) none room w'
      · obtain ⟨habort, hworld⟩ :=
          Act.bind_of_refused (congrFun hrefuse (w'.note (.handed t (.foreign code) a))) fun h => do
            Program.noteRegistered t h
            return h
        rw [habort, hworld]
        exact discard_course hf t (.foreign code) a w'
  · obtain ⟨o', hrun', _, habort'⟩ := Act.bind_of_not_ok hrun ho fun h => do
      Program.noteRegistered t h
      return h
    refine .inr ⟨howner, .inr ?_⟩
    rw [show r = _ from hrun']
    exact ⟨habort'.trans habort, rfl⟩

theorem behaves_construct (hf : ∀ t d a, (finalize t d a).Behaves direct outside) (t : τ) (code : Address)
    (room : Bool) {build : Act τ (Note τ) β σ (Address × ErrorSlot)} (hb : build.Behaves direct levels) :
    (do
      let h ← construct (Program.discarding finalize) t code (fun _ => Program.handing t code build) room
      Program.noteRegistered t h
      return h : Act τ (Note τ) β σ Handle).Behaves direct levels := by
  intro w hw
  have hcourse := hb w hw
  rcases construct_course hf t code room build w with ⟨_, e, hrun⟩ | ⟨_, ⟨hbuilt, hrest⟩ | ⟨habort, hworld⟩⟩
  · rw [hrun]
    exact Course.refl ..
  · rw [hbuilt] at hcourse
    exact hcourse.trans hrest.widen
  · rw [habort, hworld]
    exact hcourse

/-! ## Destruction -/

omit [DecidableEq τ] in
theorem unwindless_run (d : Destructor) (x : Act τ (Note τ) β σ Unit) (w : World τ (Note τ) β σ) :
    (Program.unwindless d x w).2 = (x w).2 ∧
      ((Program.unwindless d x w).1.isAbort = false → (x w).1.isAbort = false) ∧
      (d.side = .foreign →
        (Program.unwindless d x w).1 = .ok () ∨ (Program.unwindless d x w).1.isAbort = true) := by
  unfold Program.unwindless
  cases d <;> rcases x w with ⟨_ | _ | _ | _, w'⟩ <;> simp [Outcome.isAbort, Destructor.side]

theorem behaves_destroy (hf : ∀ t d a, (finalize t d a).Behaves direct outside) (t : τ) (h : Handle)
    (claimant : Side) :
    (do
      destroy (Program.dropping finalize h) t h claimant
      Act.mark (.destroyed t h) : Act τ (Note τ) β σ Unit).Behaves direct levels := by
  intro w _
  rcases destroy_cases (Program.dropping finalize h) t h claimant w with
    ⟨e, r, w₁, hremove, hscene, hrun⟩ | ⟨e, _, hrun⟩
  · have hpoint := World.point_of_scene hscene
    obtain ⟨hworld, hends, hreturns⟩ := unwindless_run e.destructor
      (do Act.mark (.dropped t h e.destructor e.address); finalize t e.destructor e.address) w₁
    obtain ⟨w₂, hscene₂, hfinal⟩ :=
      finalizeRemoved_cases (Program.dropping finalize h) t (w.registries t) e w₁ hreturns
    have hpoint₂ : w₂.point =
        (finalize t e.destructor e.address (w₁.note (.dropped t h e.destructor e.address))).2.point :=
      World.point_of_scene (hscene₂.trans (congrArg World.scene hworld))
    have hcourse : Course direct outside _ (w₁.note (.dropped t h e.destructor e.address)).point w₂.point :=
      hpoint₂ ▸ hf t e.destructor e.address (w₁.note (.dropped t h e.destructor e.address)) nofun
    rw [World.point_note, hpoint] at hcourse
    rw [Act.bind_congr hrun]
    rcases hfinal with ⟨hok, hreturned⟩ | ⟨e', habort, _⟩
    · rw [Act.bind_congr (Act.bind_of_ok hok _)]
      have hclosed := hcourse.weaken fun _ : false = false => hends hreturned
      exact Course.destruction (s := w.point) hremove hclosed
    · have hend : ∀ f : Unit → Act τ (Note τ) β σ Unit,
          (finalizeRemoved (Program.dropping finalize h) t (w.registries t) e >>= f) w₁ = (.abort e', w₂) :=
        fun f => by rw [Act.bind_apply, habort]
      rw [Act.bind_apply, hend]
      exact Course.destruction_ended hremove hcourse
  · rw [Act.bind_of_fail hrun]
    exact Course.refl ..

theorem behaves_release (t : τ) (h : Handle) (claimant : Side) :
    (do
      let d ← Program.destructorOf t h
      let a ← release t h claimant
      Act.mark (.released t h d a)
      return a : Act τ (Note τ) β σ Address).Behaves direct levels := by
  intro w _
  rcases release_cases t h claimant w with ⟨a, r, w', hr, hscene, hrun⟩ | ⟨x, hr, hrun⟩
  · obtain ⟨e, hl, hholder, hloans, rfl, rfl⟩ := Registry.release_eq_ok hr
    have hremove := Registry.remove_eq_ok.mpr ⟨hl, hholder, hloans, rfl⟩
    have hd : Program.destructorOf t h w = (.ok e.destructor, w) := by
      simp only [Program.destructorOf, hl]
    have hend : (do
        let d ← Program.destructorOf t h
        let a ← release t h claimant
        Act.mark (.released t h d a)
        return a : Act τ (Note τ) β σ Address) w =
          (.ok e.address, w'.note (.released t h e.destructor e.address)) :=
      (Act.bind_of_ok hd _).trans (Act.bind_of_ok hrun _)
    rw [hend, World.point_note, World.point_of_scene hscene]
    exact Course.step (Move.release hremove) (fun _ => rfl) (Kept.refl levels _)
  · obtain ⟨d, hd⟩ : ∃ d, Program.destructorOf t h w = (.ok d, w) := by
      unfold Program.destructorOf
      split <;> exact ⟨_, rfl⟩
    rw [Act.bind_of_ok hd, Act.bind_of_fail hrun]
    exact Course.refl ..

end Objects

/-! ## Handing over -/

mutual

theorem SharedValue.moves_releaseTo [DecidableEq τ] (direct : Bool) (v : SharedValue τ) (taker : Side)
    (s : Point τ β) : Moves direct s { s with registries := (v.releaseTo taker s.registries).2 } := by
  cases v with
  | scalar n => exact .refl
  | handle t h =>
    simp only [SharedValue.releaseTo]
    cases hr : (s.registries t).transfer h taker.other taker with
    | error e => exact .refl
    | ok r => exact .single (.transfer hr)
  | record name fields => exact fields.moves_releaseTo direct taker s

theorem SharedFields.moves_releaseTo [DecidableEq τ] (direct : Bool) (fields : SharedFields τ)
    (taker : Side) (s : Point τ β) :
    Moves direct s { s with registries := (fields.releaseTo taker s.registries).2 } := by
  cases fields with
  | nil => exact .refl
  | cons name v rest =>
    have hv := v.moves_releaseTo direct taker s
    simp only [SharedFields.releaseTo]
    rcases hfirst : v.releaseTo taker s.registries with ⟨e | u, rs⟩
    · rw [hfirst] at hv
      exact hv
    · rw [hfirst] at hv
      have hrest := rest.moves_releaseTo direct taker { s with registries := rs }
      rcases hlater : rest.releaseTo taker rs with ⟨e | u, rs'⟩ <;> simp only [hlater] at hrest ⊢
      · exact (hv.trans hrest).trans (v.moves_releaseTo direct taker.other { s with registries := rs' })
      · exact hv.trans hrest

end

theorem SharedValue.behaves_handOver [DecidableEq τ] {direct : Bool} {reach : Nat} {levels : Fin reach → Nat}
    (v : SharedValue τ) (taker : Side) :
    (v.handOver taker : Act τ (Note τ) β σ Unit).Behaves direct levels := by
  intro w _
  have hmoves := v.moves_releaseTo direct taker w.point
  have hrun : (v.handOver taker w).1.isAbort = false ∧
      (v.handOver taker w).2.point =
        { w.point with registries := (v.releaseTo taker w.registries).2 } := by
    unfold SharedValue.handOver
    rcases v.releaseTo taker w.registries with ⟨e | u, rs⟩ <;> exact ⟨rfl, rfl⟩
  rw [hrun.1, hrun.2]
  exact ⟨hmoves, fun _ => Int.le_refl _, fun _ => ⟨fun _ => rfl, Kept.refl levels _⟩⟩

/-! ## Calls -/

/-- The frames in reach of a body are open once its own is. -/
theorem Program.inBody_lt_size {reach : Nat} {levels : Fin reach → Nat} {fs : Array (Frame τ β)}
    (h : ∀ i, levels i < fs.size) (i : Fin (reach + 1)) : inBody fs.size levels i < (fs.push {}).size := by
  rw [Array.size_push]
  refine Fin.cases (Nat.lt_succ_self _) (fun i => ?_) i
  exact Nat.lt_succ_of_lt (h i)

namespace Call

variable [DecidableEq τ] {direct : Bool} {reach : Nat} {levels : Fin reach → Nat}

theorem behaves_runRollbacks {undo : β → Act τ (Note τ) β σ Unit}
    (hu : ∀ b, (undo b).Behaves direct levels) (cause : Failure) (rollbacks : List β) :
    (runRollbacks undo cause rollbacks).Behaves direct levels := by
  induction rollbacks with
  | nil => exact (Act.idle_pure ()).behaves
  | cons b rest ih =>
    refine (hu b).guarded.bind fun fine => ?_
    cases fine with
    | true => exact ih
    | false => exact (Act.idle_log _ _).behaves.bind fun _ => ih

theorem behaves_undoFailed {undo : β → Act τ (Note τ) β σ Unit}
    (hu : ∀ b, (undo b).Behaves direct levels) (result : Except Failure α) (rollbacks : List β)
    (loanFailure : Option Failure) :
    (undoFailed undo result rollbacks loanFailure).Behaves direct levels := by
  have hpure : ∀ r : Except Failure α, (pure r : Act τ (Note τ) β σ _).Behaves direct levels :=
    fun r => (Act.idle_pure r).behaves
  cases result with
  | ok a => cases loanFailure <;> exact hpure _
  | error e =>
    refine (behaves_runRollbacks hu e rollbacks).bind fun _ => ?_
    cases loanFailure <;> exact hpure _

theorem behaves_framed {undo : β → Act τ (Note τ) β σ Unit} {body : Nat → Act τ (Note τ) β σ α}
    (hu : ∀ b, (undo b).Behaves direct levels)
    (hb : ∀ level, (body level).Behaves direct (Program.inBody level levels)) :
    (framed undo body).Behaves direct levels := by
  intro w hw
  have hbody := (hb w.frames.size).catchPanic.attempt { w with frames := w.frames.push {} }
    (Program.inBody_lt_size hw)
  rcases Act.attempt_catchPanic_cases (body w.frames.size) { w with frames := w.frames.push {} } with
    ⟨result, w', hrun⟩ | ⟨e, w', hrun⟩
  · rw [hrun] at hbody
    rw [framed_of_result hrun]
    have hkept := (hbody.settled rfl).2.pop
    refine Course.call hbody (behaves_undoFailed hu result _ _ _ fun i => ?_)
    exact Nat.lt_of_lt_of_eq (hw i) hkept.size.symm
  · rw [hrun] at hbody
    rw [framed_of_abort hrun]
    exact Course.call_ended hbody

theorem behaves_invoke {undo : β → Act τ (Note τ) β σ Unit} (s : Signature)
    {body : Nat → Act τ (Note τ) β σ α} (hu : ∀ b, (undo b).Behaves direct levels)
    (hb : ∀ level, (body level).Behaves direct (Program.inBody level levels)) :
    (invoke undo s body).Behaves direct levels := by
  rw [invoke_eq]
  refine (still_preamble s).idle.behaves.bind fun settings => ?_
  exact (behaves_framed hu hb).bind fun result => (still_conclude settings s result).idle.behaves

theorem behaves_lend (i : Fin reach) (t : τ) (h : Handle) (room : Bool) :
    (lend (levels i) t h room : Act τ (Note τ) β σ Unit).Behaves direct levels := by
  refine Act.still_settings.idle.behaves.bind fun settings => ?_
  split
  · split
    · intro w hw
      rcases Act.updateRegistry_cases t (fun r => r.lend h) w with ⟨r, hr, hrun⟩ | ⟨e, _, hrun⟩
      · rw [Act.bind_of_ok hrun]
        have hkept := Kept.modify levels i w.frames fun f => { f with loans := (t, h) :: f.loans }
        exact Course.step (Move.lend (hw i) hr) (fun _ => rfl) hkept
      · rw [Act.bind_of_fail hrun]
        exact Course.refl ..
    · exact (Act.idle_fail _).behaves
  · exact (Act.idle_pure ()).behaves

theorem behaves_onFailure (i : Fin reach) (b : β) :
    (onFailure (levels i) b : Act τ (Note τ) β σ Unit).Behaves direct levels := by
  intro w _
  have hkept := Kept.modify levels i w.frames fun f => { f with rollbacks := b :: f.rollbacks }
  exact Course.step (.onFailure (levels i) b) (fun _ => rfl) hkept

end Call

/-! ## Programs -/

/-- Every run of a program is a course, as long as those of the destructors are. -/
theorem Program.run_behaves [DecidableEq τ] {direct : Bool} {finalize : Finalizer τ (Note τ) β σ}
    (hf : ∀ t d a, (finalize t d a).Behaves direct (nofun : Fin 0 → Nat)) {reach : Nat}
    (p : Program τ β σ direct reach α) : ∀ levels, (p.run finalize levels).Behaves direct levels := by
  induction p with
  | idle x quiet => exact fun _ => quiet.behaves
  | bind p f ihp ihf => exact fun levels => (ihp levels).bind fun a => ihf a levels
  | recover g final p ih =>
    refine fun levels => (ih levels).ending fun w => ⟨rfl, fun h => ?_⟩
    simp only [run] at h
    cases ho : (p.run finalize levels w).1 with
    | abort e => rw [ho, final] at h; exact h
    | _ => rfl
  | create t a lacking room => exact fun _ => Objects.behaves_create hf t a lacking room
  | adopt t a code room => exact fun _ => Objects.behaves_adopt hf t a code room
  | construct t code room build ih => exact fun levels => Objects.behaves_construct hf t code room (ih levels)
  | destroy t h claimant => exact fun _ => Objects.behaves_destroy hf t h claimant
  | release t h claimant => exact fun _ => Objects.behaves_release t h claimant
  | transfer t h giver taker =>
    exact fun _ => Act.behaves_updateRegistry t _ fun _ _ hr => Move.transfer hr
  | handOver v taker => exact fun _ => v.behaves_handOver taker
  | beginLoan t h allowed =>
    exact fun _ => Act.behaves_updateRegistry t _ fun _ _ hr => Move.beginLoan allowed hr
  | endLoan t h allowed =>
    exact fun _ => Act.behaves_updateRegistry t _ fun _ _ hr => Move.endLoan allowed hr
  | invoke undo s body ihu ihb =>
    exact fun levels => Call.behaves_invoke s (fun b => ihu b levels) fun level => ihb (inBody level levels)
  | lend i t h room => exact fun _ => Call.behaves_lend i t h room
  | onFailure i b => exact fun _ => Call.behaves_onFailure i b

/-- With more of the stack left, destructors run destructors with less. -/
theorem Destructors.within_behaves [DecidableEq τ] {direct : Bool} (D : Destructors τ β σ direct) (depth : Nat)
    (t : τ) (d : Destructor) (a : Address) : (D.within depth t d a).Behaves direct (nofun : Fin 0 → Nat) := by
  induction depth generalizing t d a with
  | zero => exact (Act.idle_abort _).behaves
  | succ depth ih => exact (D.body t d a).run_behaves ih nofun

/-- A program run outside the reach of any call, from any world. -/
theorem Program.exec_course [DecidableEq τ] {direct : Bool} (p : Program τ β σ direct 0 α)
    (D : Destructors τ β σ direct) (w : World τ (Note τ) β σ) :
    Course direct (nofun : Fin 0 → Nat) (p.exec D w).1.isAbort w.point (p.exec D w).2.point :=
  p.run_behaves (D.within_behaves D.depth) nofun w nofun

end Causeway
