import Causeway.Proofs.Acts
import Causeway.Proofs.Slots

/-!
# Causeway.Proofs.Closing

What happens at the end of a call.

* `Call.Undone`        — rollbacks run one after another.
* `Call.Closes`        — how a call ends, given how its body ended and what stood in its frame.
* `Call.invoke_closes` — every call that gets to its body ends in one of these ways.
-/

namespace Causeway

variable {τ ε β σ α : Type}

/-- The failure that a body's ending is to its call. -/
def Outcome.cause? : Outcome α → Option Failure
  | .fail e => some e
  | .panic m => some (.panic m)
  | _ => none

theorem Act.attempt_catchPanic_of_cause {x : Act τ ε β σ α} {w w' : World τ ε β σ} {o : Outcome α} {e : Failure}
    (hx : x w = (o, w')) (ho : o.cause? = some e) : attempt (catchPanic x) w = (.ok (.error e), w') := by
  unfold attempt catchPanic
  rw [hx]
  cases o <;> cases ho <;> rfl

theorem Act.attempt_catchPanic_of_ok {x : Act τ ε β σ α} {w w' : World τ ε β σ} {a : α}
    (hx : x w = (.ok a, w')) : attempt (catchPanic x) w = (.ok (.ok a), w') := by
  unfold attempt catchPanic
  rw [hx]

theorem Act.attempt_catchPanic_of_abort {x : Act τ ε β σ α} {w w' : World τ ε β σ} {e : Failure}
    (hx : x w = (.abort e, w')) : attempt (catchPanic x) w = (.abort e, w') := by
  unfold attempt catchPanic
  rw [hx]

namespace Call

/-- The world after a rollback: a panic is written to the log. -/
def afterRollback (cause : Failure) (o : Outcome Unit) (w : World τ ε β σ) : World τ ε β σ :=
  match o with
  | .panic _ => { w with trace := .log .error ("rollback panicked after: " ++ cause.display) :: w.trace }
  | _ => w

/-- Rollbacks have run, each once and in the order of the list, and each returned or panicked. -/
inductive Undone (undo : β → Act τ ε β σ Unit) (cause : Failure) :
    List β → World τ ε β σ → World τ ε β σ → Prop where
  | nil (w : World τ ε β σ) : Undone undo cause [] w w
  | cons {b : β} {rest : List β} {o : Outcome Unit} {w w₁ w' : World τ ε β σ} (ran : undo b w = (o, w₁))
      (alive : o.isAbort = false) (later : Undone undo cause rest (afterRollback cause o w₁) w') :
      Undone undo cause (b :: rest) w w'

theorem runRollbacks_cons_of_returned {undo : β → Act τ ε β σ Unit} {cause : Failure} {b : β} {rest : List β}
    {o : Outcome Unit} {w w₁ : World τ ε β σ} (ran : undo b w = (o, w₁)) (alive : o.isAbort = false) :
    runRollbacks undo cause (b :: rest) w = runRollbacks undo cause rest (afterRollback cause o w₁) := by
  show (Act.guarded (undo b) >>= _) w = _
  rw [Act.bind_apply, Act.guarded, ran]
  cases o with
  | ok u => rfl
  | fail f => rfl
  | panic m => rfl
  | abort e => cases alive

/-- Rollbacks run to the last one, or one of them ends the process. -/
theorem runRollbacks_cases (undo : β → Act τ ε β σ Unit) (cause : Failure) (bs : List β) (w : World τ ε β σ) :
    (∃ w', Undone undo cause bs w w' ∧ runRollbacks undo cause bs w = (.ok (), w')) ∨
      ∃ pre b post w₁ e w', bs = pre ++ b :: post ∧ Undone undo cause pre w w₁ ∧
        undo b w₁ = (.abort e, w') ∧ runRollbacks undo cause bs w = (.abort e, w') := by
  induction bs generalizing w with
  | nil => exact .inl ⟨w, .nil w, rfl⟩
  | cons b rest ih =>
    rcases hrun : undo b w with ⟨o, w₁⟩
    by_cases hover : o.isAbort = false
    · rw [runRollbacks_cons_of_returned hrun hover]
      rcases ih (afterRollback cause o w₁) with
        ⟨w', hlater, hend⟩ | ⟨pre, c, post, w₂, e, w', rfl, hlater, hlast, hend⟩
      · exact .inl ⟨w', .cons hrun hover hlater, hend⟩
      · exact .inr ⟨b :: pre, c, post, w₂, e, w', rfl, .cons hrun hover hlater, hlast, hend⟩
    · cases o with
      | abort e =>
        refine .inr ⟨[], b, rest, w, e, w₁, rfl, .nil w, hrun, ?_⟩
        have hguarded : Act.guarded (undo b) w = (.abort e, w₁) := by
          unfold Act.guarded
          rw [hrun]
        exact Act.bind_of_abort hguarded _
      | _ => exact absurd rfl hover

variable [DecidableEq τ]

/-- The world in which a frame is taken off and its loans have been ended, as far as they could be. -/
def unframed (loans : List (τ × Handle)) (w : World τ ε β σ) : World τ ε β σ :=
  { w with registries := w.registries.endLoans loans, frames := w.frames.pop }

/-- How a call ends whose body ended as given, with these loans and rollbacks in its frame. -/
inductive Closes (undo : β → Act τ ε β σ Unit) (loans : List (τ × Handle)) (rollbacks : List β) :
    Outcome α × World τ ε β σ → Outcome α × World τ ε β σ → Prop where
  /-- The process ended in the body. -/
  | ended {e : Failure} {w : World τ ε β σ} : Closes undo loans rollbacks (.abort e, w) (.abort e, w)
  | returned {a : α} {w w' : World τ ε β σ} (settled : w.registries.loanFailure? loans = none)
      (left : w'.scene = (unframed loans w).scene) : Closes undo loans rollbacks (.ok a, w) (.ok a, w')
  | failed {o : Outcome α} {e : Failure} {w w₁ w' : World τ ε β σ} (cause : o.cause? = some e)
      (undone : Undone undo e rollbacks (unframed loans w) w₁)
      (settled : w.registries.loanFailure? loans = none) (harmless : e.isFatal = false)
      (left : w'.scene = w₁.scene) : Closes undo loans rollbacks (o, w) (.fail e, w')
  | fatal {o : Outcome α} {e : Failure} {w w₁ w' : World τ ε β σ} (cause : o.cause? = some e)
      (undone : Undone undo e rollbacks (unframed loans w) w₁)
      (settled : w.registries.loanFailure? loans = none) (fatal : e.isFatal = true)
      (left : w'.scene = w₁.scene) : Closes undo loans rollbacks (o, w) (.abort e, w')
  /-- A loan could not be ended, after a body that gave a value. -/
  | overruled {a : α} {e : Failure} {w w' : World τ ε β σ}
      (unsettled : w.registries.loanFailure? loans = some e) (left : w'.scene = (unframed loans w).scene) :
      Closes undo loans rollbacks (.ok a, w) (.abort e, w')
  /-- A loan could not be ended, after a body that failed. -/
  | doublyFailed {o : Outcome α} {e f : Failure} {w w₁ w' : World τ ε β σ} (cause : o.cause? = some e)
      (undone : Undone undo e rollbacks (unframed loans w) w₁)
      (unsettled : w.registries.loanFailure? loans = some f) (left : w'.scene = w₁.scene) :
      Closes undo loans rollbacks (o, w) (.abort f, w')
  /-- The process ended in a rollback. -/
  | cutShort {o : Outcome α} {e f : Failure} {b : β} {pre post : List β} {w w₁ w' : World τ ε β σ}
      (cause : o.cause? = some e) (split : rollbacks = pre ++ b :: post)
      (undone : Undone undo e pre (unframed loans w) w₁) (last : undo b w₁ = (.abort f, w')) :
      Closes undo loans rollbacks (o, w) (.abort f, w')

end Call

theorem Registry.endLoan_error_failure {r : Registry} {h : Handle} {x : Refusal}
    (hx : r.endLoan h = .error x) : ∃ m, x.failure = .lifetime m := by
  unfold endLoan at hx
  split at hx
  · rename_i hl
    cases hx
    exact lookup_error_failure hl
  · split at hx <;> cases hx
    exact ⟨_, rfl⟩

/-- A loan that cannot be ended breaks a lifetime. -/
theorem Registries.isFatal_of_loanFailure? [DecidableEq τ] {loans : List (τ × Handle)} {rs : Registries τ}
    {f : Failure} (h : rs.loanFailure? loans = some f) : f.isFatal = true := by
  induction loans generalizing rs with
  | nil => cases h
  | cons x rest ih =>
    obtain ⟨t, k⟩ := x
    unfold loanFailure? at h
    cases hend : (rs t).endLoan k with
    | ok r =>
      rw [hend] at h
      exact ih h
    | error e =>
      rw [hend] at h
      cases h
      obtain ⟨m, hm⟩ := Registry.endLoan_error_failure hend
      rw [hm]
      rfl

namespace Call

variable [DecidableEq τ] {undo : β → Act τ ε β σ Unit} {loans : List (τ × Handle)} {rollbacks : List β}

theorem closes_of_value (undo : β → Act τ ε β σ Unit) (settings : Settings) (s : Signature) (a : α)
    (loans : List (τ × Handle)) (rollbacks : List β) (w : World τ ε β σ) :
    Closes undo loans rollbacks (.ok a, w)
      ((undoFailed undo (.ok a) rollbacks (w.registries.loanFailure? loans) >>= conclude settings s)
        (unframed loans w)) := by
  cases hloans : w.registries.loanFailure? loans with
  | none => exact .returned hloans rfl
  | some f =>
    obtain ⟨w', hrun, hscene⟩ := conclude_of_fatal (α := α) settings s
      (Registries.isFatal_of_loanFailure? hloans) (unframed loans w)
    have hend : (undoFailed undo (.ok a) rollbacks (some f) >>= conclude settings s) (unframed loans w) =
        (.abort f, w') := hrun
    rw [hend]
    exact .overruled hloans hscene

theorem closes_of_cause (undo : β → Act τ ε β σ Unit) (settings : Settings) (s : Signature) {o : Outcome α}
    {e : Failure} (ho : o.cause? = some e) (loans : List (τ × Handle)) (rollbacks : List β)
    (w : World τ ε β σ) :
    Closes undo loans rollbacks (o, w)
      ((undoFailed undo (.error e) rollbacks (w.registries.loanFailure? loans) >>= conclude settings s)
        (unframed loans w)) := by
  -- the rollbacks run on the body's own failure; only then may that of a loan take its place
  rcases runRollbacks_cases undo e rollbacks (unframed loans w) with
    ⟨w₁, hundone, hrun⟩ | ⟨pre, b, post, w₁, f, w', hsplit, hundone, hlast, hrun⟩
  · have hundo : ∀ f, undoFailed undo (.error e : Except Failure α) rollbacks f (unframed loans w) =
        (.ok (.error (f.getD e)), w₁) := by
      intro f
      cases f with
      | none => exact Act.bind_of_ok hrun _
      | some f => exact Act.bind_of_ok hrun _
    rw [Act.bind_of_ok (hundo _)]
    cases hloans : w.registries.loanFailure? loans with
    | some f =>
      obtain ⟨w', hend, hscene⟩ := conclude_of_fatal (α := α) settings s
        (Registries.isFatal_of_loanFailure? hloans) w₁
      rw [Option.getD_some, hend]
      exact .doublyFailed ho hundone hloans hscene
    | none =>
      rw [Option.getD_none]
      cases hfatal : e.isFatal with
      | true =>
        obtain ⟨w', hend, hscene⟩ := conclude_of_fatal (α := α) settings s hfatal w₁
        rw [hend]
        exact .fatal ho hundone hloans hfatal hscene
      | false =>
        obtain ⟨w', hend, hscene⟩ := conclude_of_harmless (α := α) settings s hfatal w₁
        rw [hend]
        exact .failed ho hundone hloans hfatal hscene
  · have hundo : undoFailed undo (.error e : Except Failure α) rollbacks (w.registries.loanFailure? loans)
        (unframed loans w) = (.abort f, w') := Act.bind_of_abort hrun _
    rw [Act.bind_of_abort hundo]
    exact .cutShort ho hsplit hundone hlast

/-- A call that gets to its body ends as its body and its frame make it end. -/
theorem invoke_closes (undo : β → Act τ ε β σ Unit) {s : Signature} (body : Nat → Act τ ε β σ α)
    {w w₀ : World τ ε β σ} (hpre : preamble s w = (.ok w.inForce, w₀)) :
    let ending := body w₀.frames.size { w₀ with frames := w₀.frames.push {} }
    let frame := ending.2.frames.back?.getD {}
    Closes undo frame.loans frame.rollbacks ending (invoke undo s body w) := by
  intro ending frame
  rw [invoke_eq, Act.bind_of_ok hpre]
  rcases hbody : ending with ⟨o, w₁⟩
  have hframe : frame = w₁.frames.back?.getD {} := by simp only [frame, hbody]
  rw [hframe]
  cases o with
  | ok a =>
    rw [Act.bind_congr (framed_of_result (Act.attempt_catchPanic_of_ok hbody))]
    exact closes_of_value undo w.inForce s a _ _ w₁
  | fail e =>
    rw [Act.bind_congr (framed_of_result (Act.attempt_catchPanic_of_cause hbody rfl))]
    exact closes_of_cause undo w.inForce s rfl _ _ w₁
  | panic m =>
    rw [Act.bind_congr (framed_of_result (Act.attempt_catchPanic_of_cause hbody rfl))]
    exact closes_of_cause undo w.inForce s rfl _ _ w₁
  | abort e =>
    rw [Act.bind_of_abort (framed_of_abort (Act.attempt_catchPanic_of_abort hbody))]
    exact .ended

theorem Closes.of_ended {e : Failure} {r : Outcome α} {w w' : World τ ε β σ}
    (h : Closes undo loans rollbacks (.abort e, w) (r, w')) : r = .abort e ∧ w' = w := by
  cases h with
  | ended => exact ⟨rfl, rfl⟩
  | failed cause | fatal cause | doublyFailed cause | cutShort cause => cases cause

/-- Where nothing was registered, only the loans end. -/
theorem Closes.of_no_rollbacks {o r : Outcome α} {w w' : World τ ε β σ}
    (h : Closes undo loans [] (o, w) (r, w')) (hover : r.isAbort = false) :
    w'.scene = (unframed loans w).scene ∧ o.isAbort = false ∧ ∀ a, r = .ok a ↔ o = .ok a := by
  cases h with
  | returned settled left => exact ⟨left, rfl, fun _ => Iff.rfl⟩
  | failed cause undone settled harmless left =>
    cases undone
    refine ⟨left, ?_, fun a => ⟨nofun, ?_⟩⟩
    · cases o <;> first | rfl | cases cause
    · rintro rfl
      cases cause
  | _ => cases hover

end Call
end Causeway
