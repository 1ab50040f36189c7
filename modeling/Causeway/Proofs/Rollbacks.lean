import Causeway.Proofs.Closing
import Causeway.Proofs.Changes

/-!
# Causeway.Proofs.Rollbacks

Which rollbacks a call runs, in which order.

* `Program.deeds`        — what a program lends and registers, in the order in which it does.
* `Program.run_grown`    — the frames in reach hold just that, the newest first.
* `rollbacks_run_on_failure_only` — calls of programs, nested to any depth.

Calls inside a body lend and register through its frame too, and so does what undoes them. A destructor has no
frame in reach.
-/

namespace Causeway

variable {τ ε β σ α : Type}

inductive Deed (τ β : Type) where
  | lent (level : Nat) (t : τ) (h : Handle)
  | registered (level : Nat) (b : β)

namespace Deed

/-- What was lent to the call at a level, in order of lending. -/
def lentAt (level : Nat) (deeds : List (Deed τ β)) : List (τ × Handle) :=
  deeds.filterMap fun
    | .lent l t h => if l = level then some (t, h) else none
    | .registered _ _ => none

/-- The rollbacks of the call at a level, in order of registration. -/
def registeredAt (level : Nat) (deeds : List (Deed τ β)) : List β :=
  deeds.filterMap fun
    | .lent _ _ _ => none
    | .registered l b => if l = level then some b else none

end Deed

/-- A frame once some deeds are done. -/
def Frame.after (level : Nat) (deeds : List (Deed τ β)) (f : Frame τ β) : Frame τ β :=
  ⟨(Deed.lentAt level deeds).reverse ++ f.loans, (Deed.registeredAt level deeds).reverse ++ f.rollbacks⟩

theorem Frame.after_append (level : Nat) (ds ds' : List (Deed τ β)) (f : Frame τ β) :
    f.after level (ds ++ ds') = (f.after level ds).after level ds' := by
  simp only [after, Deed.lentAt, Deed.registeredAt, List.filterMap_append, List.reverse_append,
    List.append_assoc]

theorem Frame.after_empty (level : Nat) (ds : List (Deed τ β)) :
    ({} : Frame τ β).after level ds =
      ⟨(Deed.lentAt level ds).reverse, (Deed.registeredAt level ds).reverse⟩ := by
  simp only [after, List.append_nil]

/-- From some open calls to the same ones with deeds done to their frames. -/
structure Grown (ds : List (Deed τ β)) (fs fs' : Array (Frame τ β)) : Prop where
  size : fs'.size = fs.size
  frames : ∀ (l : Nat) (f : Frame τ β), fs[l]? = some f → fs'[l]? = some (f.after l ds)

namespace Grown

variable {ds ds' : List (Deed τ β)} {fs fs' fs'' : Array (Frame τ β)}

theorem refl (fs : Array (Frame τ β)) : Grown [] fs fs := ⟨rfl, fun _ _ h => h⟩

theorem trans (h : Grown ds fs fs') (h' : Grown ds' fs' fs'') : Grown (ds ++ ds') fs fs'' := by
  refine ⟨h'.size.trans h.size, fun l f hf => ?_⟩
  rw [Frame.after_append]
  exact h'.frames l _ (h.frames l f hf)

theorem of_modify (d : Deed τ β) (level : Nat) (g : Frame τ β → Frame τ β) (fs : Array (Frame τ β))
    (hhere : ∀ f, Frame.after level [d] f = g f) (haway : ∀ l f, l ≠ level → Frame.after l [d] f = f) :
    Grown [d] fs (fs.modify level g) := by
  refine ⟨Array.size_modify, fun l f hf => ?_⟩
  rw [Array.getElem?_modify, hf]
  by_cases hl : level = l
  · subst hl
    rw [if_pos rfl, hhere]
    rfl
  · rw [if_neg hl, haway l f (Ne.symm hl)]

theorem lend (level : Nat) (t : τ) (h : Handle) (fs : Array (Frame τ β)) :
    Grown [.lent level t h] fs (fs.modify level fun f => { f with loans := (t, h) :: f.loans }) := by
  refine of_modify _ level _ fs (fun f => ?_) fun l f hl => ?_
  · simp [Frame.after, Deed.lentAt, Deed.registeredAt]
  · simp [Frame.after, Deed.lentAt, Deed.registeredAt, Ne.symm hl]

theorem register (level : Nat) (b : β) (fs : Array (Frame τ β)) :
    Grown [.registered level b] fs
      (fs.modify level fun f => { f with rollbacks := b :: f.rollbacks }) := by
  refine of_modify _ level _ fs (fun f => ?_) fun l f hl => ?_
  · simp [Frame.after, Deed.lentAt, Deed.registeredAt]
  · simp [Frame.after, Deed.lentAt, Deed.registeredAt, Ne.symm hl]

/-- The frame of a body at its end. -/
theorem back (h : Grown ds (fs.push {}) fs') : fs'.back?.getD {} = ({} : Frame τ β).after fs.size ds := by
  have hsize : fs'.size = fs.size + 1 := h.size.trans (Array.size_push _)
  have hlast := h.frames fs.size {} (by rw [Array.getElem?_push, if_pos rfl])
  rw [Array.back?, hsize, Nat.add_sub_cancel, hlast]
  rfl

/-- The other frames once the frame of a body is taken off. -/
theorem pop (h : Grown ds (fs.push {}) fs') : Grown ds fs fs'.pop := by
  have hsize : fs'.size = fs.size + 1 := h.size.trans (Array.size_push _)
  refine ⟨by rw [Array.size_pop, hsize, Nat.add_sub_cancel], fun l f hf => ?_⟩
  have hlt : l < fs.size := (Array.getElem?_eq_some_iff.mp hf).1
  have hl := h.frames l f (by rw [Array.getElem?_push, if_neg (Nat.ne_of_lt hlt), hf])
  rw [Array.getElem?_pop, hsize, Nat.add_sub_cancel, if_pos hlt, hl]

end Grown

/-- What rollbacks do to the frames in reach, one after another. -/
def Call.rollbackDeeds (undo : β → Act τ ε β σ Unit) (deeds : β → World τ ε β σ → List (Deed τ β))
    (cause : Failure) : List β → World τ ε β σ → List (Deed τ β)
  | [], _ => []
  | b :: rest, w =>
    let (o, w₁) := undo b w
    deeds b w ++ if o.isAbort then [] else rollbackDeeds undo deeds cause rest (afterRollback cause o w₁)

namespace Program

variable [DecidableEq τ] {direct : Bool}

/-- What a program lends and registers, in order. -/
def deeds (D : Destructors τ β σ direct) : {reach : Nat} → {α : Type} → Program τ β σ direct reach α →
    (Fin reach → Nat) → World τ (Note τ) β σ → List (Deed τ β)
  | _, _, .bind p f, levels, w =>
    p.deeds D levels w ++
      match p.run D.finalizer levels w with
      | (.ok a, w') => (f a).deeds D levels w'
      | _ => []
  | _, _, .recover _ _ p, levels, w => p.deeds D levels w
  | _, _, .construct t _ _ build, levels, w =>
    if (w.registries t).owner = .foreign then build.deeds D levels w else []
  | _, _, .invoke undo s body, levels, w =>
    match Call.preamble s w with
    | (.ok _, w₀) =>
      let inner := inBody w₀.frames.size levels
      let opened := { w₀ with frames := w₀.frames.push {} }
      let (o, w₁) := body.run D.finalizer inner opened
      let frame := w₁.frames.back?.getD {}
      body.deeds D inner opened ++
        match o.cause? with
        | some e => Call.rollbackDeeds (fun b => (undo b).run D.finalizer levels) (fun b => (undo b).deeds D levels) e
            frame.rollbacks (Call.unframed frame.loans w₁)
        | none => []
    | _ => []
  | _, _, .lend i t h room, levels, w =>
    if w.inForce.refCheck.enabled ∧ room then
      match (w.registries t).lend h with
      | .ok _ => [.lent (levels i) t h]
      | .error _ => []
    else []
  | _, _, .onFailure i b, levels, _ => [.registered (levels i) b]
  | _, _, _, _, _ => []

end Program

/-- Rollbacks do to the frames in reach what each of them does, in turn. -/
theorem Call.Undone.grown {undo : β → Act τ ε β σ Unit} {deeds : β → World τ ε β σ → List (Deed τ β)}
    {reach : Nat} {levels : Fin reach → Nat} {cause : Failure} {bs : List β} {w w' : World τ ε β σ}
    (hundo : ∀ b w, (∀ i, levels i < w.frames.size) → (undo b w).1.isAbort = false →
      Grown (deeds b w) w.frames (undo b w).2.frames)
    (h : Undone undo cause bs w w') (hw : ∀ i, levels i < w.frames.size) :
    Grown (rollbackDeeds undo deeds cause bs w) w.frames w'.frames := by
  induction h with
  | nil w => exact .refl _
  | @cons b rest o w w₁ w' ran alive later ih =>
    have hfirst := hundo b w hw (by rw [ran]; exact alive)
    rw [ran] at hfirst
    have hframes : (afterRollback cause o w₁).frames = w₁.frames := by cases o <;> rfl
    have hrest := ih fun i => by
      rw [hframes, hfirst.size]
      exact hw i
    rw [hframes] at hrest
    unfold rollbackDeeds
    rw [ran]
    simp only [alive, Bool.false_eq_true, ↓reduceIte]
    exact hfirst.trans hrest

namespace Program

variable [DecidableEq τ] {direct : Bool} {D : Destructors τ β σ direct} {reach : Nat}

/-- What no frame is in reach of leaves the frames alone. -/
theorem exec_frames (D : Destructors τ β σ direct) (p : Program τ β σ direct 0 α) {w : World τ (Note τ) β σ}
    (hover : (p.exec D w).1.isAbort = false) : Grown [] w.frames (p.exec D w).2.frames := by
  have hframes : (p.exec D w).2.frames = w.frames := ((p.exec_course D w).settled hover).2.eq_of_none
  rw [hframes]
  exact .refl _

theorem construct_grown (t : τ) (code : Address) (room : Bool)
    {build : Program τ β σ direct reach (Address × ErrorSlot)} {levels : Fin reach → Nat}
    {w : World τ (Note τ) β σ}
    (hbuild : (build.run D.finalizer levels w).1.isAbort = false →
      Grown (build.deeds D levels w) w.frames (build.run D.finalizer levels w).2.frames)
    (hover : ((construct t code room build).run D.finalizer levels w).1.isAbort = false) :
    Grown ((construct t code room build).deeds D levels w) w.frames
      ((construct t code room build).run D.finalizer levels w).2.frames := by
  unfold deeds
  rcases Objects.construct_course (D.within_behaves D.depth) t code room (build.run D.finalizer levels) w with
    ⟨howner, e, hrun⟩ | ⟨howner, ⟨hbuilt, hrest⟩ | ⟨habort, hworld⟩⟩
  · rw [if_neg howner]
    rw [show (construct t code room build).run D.finalizer levels w = _ from hrun]
    exact .refl _
  · rw [if_pos howner]
    have hframes : ((construct t code room build).run D.finalizer levels w).2.frames =
        (build.run D.finalizer levels w).2.frames := (hrest.settled hover).2.eq_of_none
    rw [hframes]
    exact hbuild hbuilt
  · rw [if_pos howner]
    rw [show ((construct t code room build).run D.finalizer levels w).2 = _ from hworld]
    exact hbuild (habort.symm.trans hover)

theorem lend_grown (i : Fin reach) (t : τ) (h : Handle) (room : Bool) (levels : Fin reach → Nat)
    (w : World τ (Note τ) β σ) :
    Grown ((lend i t h room : Program τ β σ direct reach Unit).deeds D levels w) w.frames
      ((lend i t h room : Program τ β σ direct reach Unit).run D.finalizer levels w).2.frames := by
  obtain ⟨w₁, hset, hscene⟩ := Act.settings_run w
  have hframes : w₁.frames = w.frames := congrArg Scene.frames hscene
  have hregs : w₁.registries = w.registries := congrArg Scene.registries hscene
  unfold deeds run Call.lend
  rw [Act.bind_of_ok hset, ← hframes, ← hregs]
  by_cases hcheck : w.inForce.refCheck.enabled = true
  · cases room with
    | false =>
      simp only [hcheck, Bool.false_eq_true, and_false, ↓reduceIte]
      exact .refl _
    | true =>
      simp only [hcheck, and_self, ↓reduceIte]
      rcases Act.updateRegistry_cases t (fun r => r.lend h) w₁ with ⟨r, hr, hrun⟩ | ⟨e, hr, hrun⟩
      · rw [Act.bind_of_ok hrun, hr]
        exact Grown.lend (levels i) t h w₁.frames
      · rw [Act.bind_of_fail hrun, hr]
        exact .refl _
  · simp only [hcheck, Bool.false_eq_true, false_and, ↓reduceIte]
    exact .refl _

theorem invoke_grown {undo : β → Program τ β σ direct reach Unit} (s : Signature)
    {body : Program τ β σ direct (reach + 1) α} {levels : Fin reach → Nat} {w : World τ (Note τ) β σ}
    (hw : ∀ i, levels i < w.frames.size)
    (hundo : ∀ b w, (∀ i, levels i < w.frames.size) → ((undo b).run D.finalizer levels w).1.isAbort = false →
      Grown ((undo b).deeds D levels w) w.frames ((undo b).run D.finalizer levels w).2.frames)
    (hbody : ∀ levels w, (∀ i, levels i < w.frames.size) → (body.run D.finalizer levels w).1.isAbort = false →
      Grown (body.deeds D levels w) w.frames (body.run D.finalizer levels w).2.frames)
    (hover : ((invoke undo s body).run D.finalizer levels w).1.isAbort = false) :
    Grown ((invoke undo s body).deeds D levels w) w.frames
      ((invoke undo s body).run D.finalizer levels w).2.frames := by
  rcases Call.preamble_cases s w with ⟨_, w₀, hscene, hpre⟩ | ⟨_, e, w₀, _, hpre⟩
  · have hframes : w₀.frames = w.frames := congrArg Scene.frames hscene
    have hcloses := Call.invoke_closes (fun b => (undo b).run D.finalizer levels)
      (fun level => body.run D.finalizer (inBody level levels)) hpre
    have hinner := hbody (inBody w₀.frames.size levels) { w₀ with frames := w₀.frames.push {} }
      (inBody_lt_size (by rw [hframes]; exact hw))
    unfold deeds
    rw [hpre, ← hframes]
    simp only at hcloses ⊢
    revert hcloses hinner hover
    simp only [run]
    generalize body.run D.finalizer (inBody w₀.frames.size levels) { w₀ with frames := w₀.frames.push {} } = ending
    generalize Call.invoke (fun b => (undo b).run D.finalizer levels) s
      (fun level => body.run D.finalizer (inBody level levels)) w = result
    intro hover hcloses hinner
    -- a call that is not over has a body that is not over
    cases hcloses with
    | @returned a w₁ w' settled left =>
      have hend : w'.frames = w₁.frames.pop := congrArg Scene.frames left
      simp only [Outcome.cause?, List.append_nil, hend]
      exact (hinner rfl).pop
    | @failed o e w₁ w₂ w' cause undone settled harmless left =>
      have hend : w'.frames = w₂.frames := congrArg Scene.frames left
      have hgrown := (hinner (by cases o <;> first | rfl | cases cause)).pop
      have hreach : ∀ i, levels i < (Call.unframed (w₁.frames.back?.getD {}).loans w₁).frames.size := by
        intro i
        exact Nat.lt_of_lt_of_eq (hw i) (hframes ▸ hgrown.size).symm
      simp only [cause, hend]
      exact hgrown.trans (undone.grown hundo hreach)
    | _ => cases hover
  · have hrun : (invoke undo s body).run D.finalizer levels w = (.abort e, w₀) := by
      unfold run
      rw [Call.invoke_eq, Act.bind_of_abort hpre]
    rw [hrun] at hover
    cases hover

/-- After a run, each frame that was open is what it was with the program's deeds put on top. -/
theorem run_grown (p : Program τ β σ direct reach α) :
    ∀ levels w, (∀ i, levels i < w.frames.size) → (p.run D.finalizer levels w).1.isAbort = false →
      Grown (p.deeds D levels w) w.frames (p.run D.finalizer levels w).2.frames := by
  induction p with
  | idle x quiet =>
    intro levels w _ _
    have hframes : ((idle x quiet : Program τ β σ direct _ _).run D.finalizer levels w).2.frames = w.frames :=
      congrArg Point.frames (quiet w)
    rw [hframes]
    exact .refl _
  | bind p f ihp ihf =>
    intro levels w hw hover
    simp only [run, deeds] at hover ⊢
    have hfirst := ihp levels w hw
    rw [Act.bind_apply] at hover ⊢
    cases hrun : p.run D.finalizer levels w with
    | mk o w₁ =>
      rw [hrun] at hover hfirst
      cases o with
      | ok a =>
        have hgrown := hfirst rfl
        refine hgrown.trans (ihf a levels w₁ (fun i => ?_) hover)
        exact Nat.lt_of_lt_of_eq (hw i) hgrown.size.symm
      | fail e => simpa using hfirst rfl
      | panic m => simpa using hfirst rfl
      | abort e => cases hover
  | recover g final p ih =>
    intro levels w hw hover
    refine ih levels w hw ?_
    simp only [run] at hover
    cases ho : (p.run D.finalizer levels w).1 with
    | abort e => rw [ho, final] at hover; exact hover
    | _ => rfl
  | create t a lacking room =>
    exact fun _ _ _ hover => exec_frames D (create t a lacking room : Program τ β σ direct 0 Handle) hover
  | adopt t a code room =>
    exact fun _ _ _ hover => exec_frames D (adopt t a code room : Program τ β σ direct 0 Handle) hover
  | construct t code room build ih =>
    exact fun levels w hw hover => construct_grown t code room (ih levels w hw) hover
  | destroy t h claimant =>
    exact fun _ _ _ hover => exec_frames D (destroy t h claimant : Program τ β σ direct 0 Unit) hover
  | release t h claimant =>
    exact fun _ _ _ hover => exec_frames D (release t h claimant : Program τ β σ direct 0 Address) hover
  | transfer t h giver taker =>
    exact fun _ _ _ hover => exec_frames D (transfer t h giver taker : Program τ β σ direct 0 Unit) hover
  | handOver v taker =>
    exact fun _ _ _ hover => exec_frames D (handOver v taker : Program τ β σ direct 0 Unit) hover
  | beginLoan t h allowed => exact fun _ _ _ hover => exec_frames D (beginLoan t h allowed) hover
  | endLoan t h allowed => exact fun _ _ _ hover => exec_frames D (endLoan t h allowed) hover
  | invoke undo s body ihu ihb =>
    exact fun levels w hw hover => invoke_grown s hw (fun b => ihu b levels) ihb hover
  | lend i t h room => exact fun levels w _ _ => lend_grown i t h room levels w
  | onFailure i b => exact fun levels w _ _ => Grown.register (levels i) b w.frames

end Program

namespace Call.Closes

variable [DecidableEq τ] {undo : β → Act τ ε β σ Unit} {loans : List (τ × Handle)} {rollbacks : List β}
  {o : Outcome α} {w w' : World τ ε β σ}

theorem of_ok {a : α} (h : Closes undo loans rollbacks (o, w) (.ok a, w')) : o = .ok a := by
  cases h
  rfl

theorem of_fail {e : Failure} (h : Closes undo loans rollbacks (o, w) (.fail e, w')) :
    e.isFatal = false ∧ (o = .fail e ∨ ∃ m, o = .panic m ∧ e = .panic m) := by
  cases h with
  | failed cause undone settled harmless left =>
    refine ⟨harmless, ?_⟩
    cases o <;> cases cause
    · exact .inl rfl
    · exact .inr ⟨_, rfl, rfl⟩

theorem of_abort {r : Outcome α} (h : Closes undo loans rollbacks (o, w) (r, w')) (ho : o.isAbort = true)
    {loans' : List (τ × Handle)} {rollbacks' : List β} : Closes undo loans' rollbacks' (o, w) (r, w') := by
  cases o with
  | abort e =>
    obtain ⟨rfl, rfl⟩ := h.of_ended
    exact .ended
  | _ => cases ho

theorem not_panic {m : String} : ¬ Closes undo loans rollbacks (o, w) (.panic m, w') := nofun

/-- A loan that cannot be ended ends the process. -/
theorem of_unsettled {f : Failure} {r : Outcome α} (h : Closes undo loans rollbacks (o, w) (r, w'))
    (hf : w.registries.loanFailure? loans = some f) : r.isAbort = true := by
  cases h with
  | returned settled left => rw [settled] at hf; cases hf
  | failed cause undone settled harmless left => rw [settled] at hf; cases hf
  | _ => rfl

end Call.Closes

/-- A call of a program, wherever it is made, ends the process because the contracts refuse it, or runs its body
and ends as `Call.Closes` says: on what the body lent, ended with the newest loan first, and then, exactly if the
body failed or panicked, on what it registered, run with the newest first. What a call returns is what its body
ended with and never fatal, and a loan that cannot be ended ends the process. -/
theorem rollbacks_run_on_failure_only [DecidableEq τ] {direct : Bool} {reach : Nat} (D : Destructors τ β σ direct)
    (undo : β → Program τ β σ direct reach Unit) (s : Signature) (body : Program τ β σ direct (reach + 1) α)
    (levels : Fin reach → Nat) (w : World τ (Note τ) β σ) (hw : ∀ i, levels i < w.frames.size) :
    let call := (Program.invoke undo s body).run D.finalizer levels w
    (¬ Call.Accepted s w ∧ ∃ e w', call = (.abort e, w') ∧ w'.scene = w.scene) ∨
      ∃ w₀ : World τ (Note τ) β σ, w₀.scene = { w.scene with frames := w.frames.push {} } ∧
        let inner := Program.inBody w.frames.size levels
        let ending := body.run D.finalizer inner w₀
        let lent := Deed.lentAt w.frames.size (body.deeds D inner w₀)
        let registered := Deed.registeredAt w.frames.size (body.deeds D inner w₀)
        Call.Closes (fun b => (undo b).run D.finalizer levels) lent.reverse registered.reverse ending call ∧
          (∀ a w', call = (.ok a, w') → ending.1 = .ok a) ∧
          (∀ e w', call = (.fail e, w') →
            e.isFatal = false ∧ (ending.1 = .fail e ∨ ∃ m, ending.1 = .panic m ∧ e = .panic m)) ∧
          (∀ m w', call ≠ (.panic m, w')) ∧
          (∀ f, ending.2.registries.loanFailure? lent.reverse = some f → call.1.isAbort = true) := by
  intro call
  rcases Call.preamble_cases s w with ⟨_, w₀, hscene, hpre⟩ | ⟨hrefused, e, w', hscene, hpre⟩
  · have hframes : w₀.frames = w.frames := congrArg Scene.frames hscene
    refine .inr ⟨{ w₀ with frames := w₀.frames.push {} }, ?_, ?_⟩
    · rw [← hscene, ← hframes]
      rfl
    rw [← hframes] at hw ⊢
    intro inner ending lent registered
    have hbody : Call.Closes (fun b => (undo b).run D.finalizer levels) (ending.2.frames.back?.getD {}).loans
        (ending.2.frames.back?.getD {}).rollbacks ending call :=
      Call.invoke_closes (fun b => (undo b).run D.finalizer levels)
        (fun level => body.run D.finalizer (Program.inBody level levels)) hpre
    have hcloses : Call.Closes (fun b => (undo b).run D.finalizer levels) lent.reverse registered.reverse
        ending call := by
      cases hover : ending.1.isAbort with
      | true => exact hbody.of_abort hover
      | false =>
        have hgrown := body.run_grown inner { w₀ with frames := w₀.frames.push {} }
          (Program.inBody_lt_size hw) hover
        have hback : ending.2.frames.back?.getD {} = ⟨lent.reverse, registered.reverse⟩ :=
          hgrown.back.trans (Frame.after_empty _ _)
        rw [hback] at hbody
        exact hbody
    refine ⟨hcloses, fun a w' hcall => ?_, fun e w' hcall => ?_, fun m w' hcall => ?_, fun f hf => ?_⟩
    · rw [hcall] at hcloses
      exact hcloses.of_ok
    · rw [hcall] at hcloses
      exact hcloses.of_fail
    · rw [hcall] at hcloses
      exact hcloses.not_panic
    · exact hcloses.of_unsettled hf
  · refine .inl ⟨hrefused, e, w', ?_, hscene⟩
    show Call.invoke _ s _ w = _
    rw [Call.invoke_eq, Act.bind_of_abort hpre]

/-- Rollbacks that write down their number. The second one panics. -/
def writeNumber (n : Nat) : Program ObjectType Nat (List Nat) false 0 Unit :=
  .idle (fun w => (if n = 2 then .panic "stuck" else .ok (), { w with state := n :: w.state })) fun _ => rfl

/-- A body that registers two rollbacks, lends an object in between, and fails. -/
def lendAndFail : Program ObjectType Nat (List Nat) false 1 Unit :=
  .bind (.create .obj 8 none true) fun h =>
  .bind (.onFailure 0 1) fun _ =>
  .bind (.lend 0 .obj h true) fun _ =>
  .bind (.onFailure 0 2) fun _ =>
  .idle (Act.fail (.callee 7 "no")) (Act.idle_fail _)

def visit : Program ObjectType Nat (List Nat) false 0 Unit :=
  .invoke writeNumber { namespacePath := "demo", name := "visit", callee := .foreign } lendAndFail

def unvisited : World ObjectType (Note ObjectType) Nat (List Nat) :=
  { registries := ObjectType.registry, state := [] }

/-- The object of the body has a destructor that does nothing. -/
def visited : Destructors ObjectType Nat (List Nat) false := ObjectType.destructors

theorem visit_ends : (visit.run visited.finalizer Fin.elim0 unvisited).1 = .fail (.callee 7 "no") ∧
    (visit.run visited.finalizer Fin.elim0 unvisited).2.state = [1, 2] := by
  decide +kernel

theorem rollbacks_run_on_failure_only_in_visit :
    (visit.run visited.finalizer Fin.elim0 unvisited).2.state = [1, 2] ∧ (Failure.callee 7 "no").isFatal = false ∧
      ∃ w', visit.run visited.finalizer Fin.elim0 unvisited = (.fail (.callee 7 "no"), w') := by
  obtain ⟨hcall, hstate⟩ := visit_ends
  have hrun := rollbacks_run_on_failure_only visited writeNumber
    { namespacePath := "demo", name := "visit", callee := .foreign } lendAndFail Fin.elim0 unvisited fun i => i.elim0
  revert hrun hcall hstate
  unfold visit
  generalize Program.run visited.finalizer (.invoke writeNumber
    { namespacePath := "demo", name := "visit", callee := .foreign } lendAndFail) Fin.elim0 unvisited = call
  rcases call with ⟨o, w'⟩
  rintro rfl hstate (⟨_, e, w'', habort, _⟩ | ⟨_, _, _, _, hfail, _⟩)
  · cases habort
  · exact ⟨hstate, (hfail _ _ rfl).1, w', rfl⟩

end Causeway
