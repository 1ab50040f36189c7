import Causeway.ObjectType
import Causeway.Proofs.Runs

/-!
# Causeway.Proofs.Changes

The part of one type in a run.

* `Change`        — one change of the registry of a type, together with the notes.
* `Change.sound`  — a change keeps the registry sound.
* `Move.changes`  — a move changes each registry step by step.
* `World.Start`   — a world in which nothing was registered or noted.
* `Program.keeps` — what every change of a sound registry keeps holds after every run.
-/

namespace Causeway

variable {τ β σ α : Type}

/-- The type a note is about. -/
def Note.type : Note τ → τ
  | .handed t _ _ | .registered t _ _ | .discarded t _ _ | .dropped t _ _ _ | .destroyed t _ | .released t _ _ _ => t

inductive Change (t : τ) : Registry × List (Note τ) → Registry × List (Note τ) → Prop where
  /-- A note about another type. -/
  | elsewhere {r : Registry} {notes : List (Note τ)} (n : Note τ) (hn : n.type ≠ t) :
      Change t (r, notes) (r, n :: notes)
  | register {r r' : Registry} {notes : List (Note τ)} {a : Address} {d : Destructor} {room : Bool} {h : Handle}
      (howner : r.owner = d.side) (hi : r.insert a d room = .ok (h, r')) :
      Change t (r, notes) (r', .registered t h a :: .handed t d a :: notes)
  | discard {r : Registry} {notes : List (Note τ)} (d : Destructor) (a : Address) :
      Change t (r, notes) (r, .discarded t d a :: .handed t d a :: notes)
  | drop {r : Registry} {notes : List (Note τ)} {h : Handle} {e : Entry} (hl : r.lookup h = .ok e) :
      Change t (r, notes) (r.vacate h, .dropped t h e.destructor e.address :: notes)
  | destroyed {r : Registry} {notes : List (Note τ)} (h : Handle) :
      Change t (r, notes) (r.noteDestroyed, .destroyed t h :: notes)
  | release {r : Registry} {notes : List (Note τ)} {h : Handle} {e : Entry} (hl : r.lookup h = .ok e) :
      Change t (r, notes)
        ({ r.vacate h with released := r.released + 1 }, .released t h e.destructor e.address :: notes)
  /-- Another holder or number of loans. -/
  | put {r : Registry} {notes : List (Note τ)} {h : Handle} {e e' : Entry} (hl : r.lookup h = .ok e)
      (ha : e'.address = e.address) (hd : e'.destructor = e.destructor) : Change t (r, notes) (r.put h e', notes)

abbrev Changes (t : τ) : Registry × List (Note τ) → Registry × List (Note τ) → Prop :=
  Relation.ReflTransGen (Change t)

theorem Change.sound {t : τ} {r r' : Registry} {notes notes' : List (Note τ)}
    (hc : Change t (r, notes) (r', notes')) (hs : r.Sound) : r'.Sound := by
  cases hc with
  | elsewhere n hn => exact hs
  | register howner hi => exact hs.insert hi
  | discard d a => exact hs
  | drop hl => exact hs.vacate hl
  | destroyed h => exact hs.congr rfl rfl
  | release hl => exact (hs.vacate hl).congr rfl rfl
  | put hl ha hd => exact hs.put hl ha

theorem Changes.sound {t : τ} {x y : Registry × List (Note τ)} (h : Changes t x y) (hs : x.1.Sound) :
    y.1.Sound := by
  induction h with
  | refl => exact hs
  | tail _ step ih => exact step.sound ih

/-- What every change of a sound registry keeps is kept by any number of them. -/
theorem Changes.keep {t : τ} {Inv : Registry → List (Note τ) → Prop} {x y : Registry × List (Note τ)}
    (hchange : ∀ r notes r' notes', r.Sound → Change t (r, notes) (r', notes') → Inv r notes →
      Inv r' notes')
    (h : Changes t x y) (hs : x.1.Sound) (hx : Inv x.1 x.2) : Inv y.1 y.2 := by
  induction h with
  | refl => exact hx
  | tail before step ih => exact hchange _ _ _ _ (Changes.sound before hs) step ih

variable [DecidableEq τ]

/-- Only the registry of the type that is set changes. -/
theorem changes_set {t u : τ} {rs : Registries τ} {r : Registry} {notes notes' : List (Note τ)}
    (here : u = t → Changes t (rs t, notes) (r, notes'))
    (away : u ≠ t → Changes t (rs t, notes) (rs t, notes')) :
    Changes t (rs t, notes) (rs.set u r t, notes') := by
  by_cases hu : u = t
  · rw [hu, Registries.set_same]
    exact here hu
  · rw [Registries.set_other rs r (Ne.symm hu)]
    exact away hu

theorem changes_set_put {t u : τ} {rs : Registries τ} {notes : List (Note τ)} {h : Handle} {e e' : Entry}
    (hl : (rs u).lookup h = .ok e) (ha : e'.address = e.address) (hd : e'.destructor = e.destructor) :
    Changes t (rs t, notes) (rs.set u ((rs u).put h e') t, notes) := by
  refine changes_set (fun hu => ?_) fun _ => .refl
  subst hu
  exact .single (.put hl ha hd)

theorem changes_endLoans (t : τ) (loans : List (τ × Handle)) (rs : Registries τ)
    (notes : List (Note τ)) : Changes t (rs t, notes) (rs.endLoans loans t, notes) := by
  induction loans generalizing rs with
  | nil => exact .refl
  | cons uh rest ih =>
    obtain ⟨u, h⟩ := uh
    unfold Registries.endLoans
    cases hr : (rs u).endLoan h with
    | ok r =>
      obtain ⟨e, hl, _, rfl⟩ := Registry.endLoan_eq_ok.mp hr
      have hput : Changes t (rs t, notes)
          (rs.set u ((rs u).put h { e with loans := e.loans - 1 }) t, notes) := changes_set_put hl rfl rfl
      exact hput.trans (ih _)
    | error _ => exact ih rs

theorem Move.changes {direct : Bool} {s s' : Point τ β} (hm : Move direct s s') (t : τ) :
    Changes t (s.registries t, s.notes) (s'.registries t, s'.notes) := by
  cases hm with
  | @register u a d room h r howner hi =>
    refine changes_set (fun hu => ?_) fun hu => ?_
    · subst hu
      exact .single (.register howner hi)
    · exact .tail (.single (.elsewhere (.handed u d a) hu)) (.elsewhere _ hu)
  | discard u d a =>
    by_cases hu : u = t
    · subst hu
      exact .single (.discard d a)
    · exact .tail (.single (.elsewhere (.handed u d a) hu)) (.elsewhere _ hu)
  | @drop u h claimant e r hr =>
    obtain ⟨hl, _, _, rfl⟩ := Registry.remove_eq_ok.mp hr
    refine changes_set (fun hu => ?_) fun hu => .single (.elsewhere _ hu)
    subst hu
    exact .single (.drop hl)
  | destroyed u h =>
    refine changes_set (fun hu => ?_) fun hu => .single (.elsewhere _ hu)
    subst hu
    exact .single (.destroyed h)
  | @release u h claimant e r hr =>
    obtain ⟨hl, _, _, rfl⟩ := Registry.remove_eq_ok.mp hr
    refine changes_set (fun hu => ?_) fun hu => .single (.elsewhere _ hu)
    subst hu
    exact .single (.release hl)
  | transfer hr =>
    obtain ⟨e, hl, _, _, rfl⟩ := Registry.transfer_eq_ok.mp hr
    exact changes_set_put hl rfl rfl
  | beginLoan allowed hr =>
    obtain ⟨e, hl, rfl⟩ := Registry.lend_eq_ok hr
    exact changes_set_put hl rfl rfl
  | endLoan allowed hr =>
    obtain ⟨e, hl, _, rfl⟩ := Registry.endLoan_eq_ok.mp hr
    exact changes_set_put hl rfl rfl
  | openFrame => exact .refl
  | lend hlevel hr =>
    obtain ⟨e, hl, rfl⟩ := Registry.lend_eq_ok hr
    exact changes_set_put hl rfl rfl
  | onFailure level b => exact .refl
  | closeFrame => exact changes_endLoans t _ s.registries s.notes

theorem Moves.changes {direct : Bool} {s s' : Point τ β} (hm : Moves direct s s') (t : τ) :
    Changes t (s.registries t, s.notes) (s'.registries t, s'.notes) := by
  induction hm with
  | refl => exact .refl
  | tail _ step ih => exact ih.trans (step.changes t)

theorem Moves.sound {direct : Bool} {s s' : Point τ β} (hm : Moves direct s s')
    (hs : ∀ t, (s.registries t).Sound) : ∀ t, (s'.registries t).Sound :=
  fun t => Changes.sound (Moves.changes hm t) (hs t)

/-- Every registry is empty and nothing is noted. -/
structure World.Start (w : World τ (Note τ) β σ) : Prop where
  registries : ∀ t, w.registries t =
    { typeName := (w.registries t).typeName, typePath := (w.registries t).typePath
      owner := (w.registries t).owner }
  notes : w.notes = []

omit [DecidableEq τ] in
theorem World.Start.sound {w : World τ (Note τ) β σ} (hw : w.Start) (t : τ) : (w.registries t).Sound := by
  rw [hw.registries t]
  exact Registry.sound_of_empty rfl rfl

theorem Program.exec_sound {direct : Bool} (p : Program τ β σ direct 0 α) (D : Destructors τ β σ direct)
    {w : World τ (Note τ) β σ} (hw : w.Start) (t : τ) : ((p.exec D w).2.registries t).Sound :=
  (p.exec_course D w).moves.sound hw.sound t

/-- What holds of an empty registry and is kept by every change holds after every run. -/
theorem Program.keeps {direct : Bool} (p : Program τ β σ direct 0 α) (D : Destructors τ β σ direct)
    {w : World τ (Note τ) β σ} (hw : w.Start) (t : τ) {Inv : Registry → List (Note τ) → Prop}
    (hstart : ∀ name path owner, Inv { typeName := name, typePath := path, owner := owner } [])
    (hchange : ∀ r notes r' notes', r.Sound → Change t (r, notes) (r', notes') → Inv r notes →
      Inv r' notes') :
    Inv ((p.exec D w).2.registries t) (p.exec D w).2.notes := by
  have hinv : Inv (w.registries t) w.notes := by
    rw [hw.registries t, hw.notes]
    exact hstart ..
  exact Changes.keep hchange ((p.exec_course D w).moves.changes t) (hw.sound t) hinv

/-- The world of the object types before anything happened in it. -/
def ObjectType.world : World ObjectType (Note ObjectType) Unit Unit :=
  { registries := ObjectType.registry, state := () }

theorem ObjectType.start_world : ObjectType.world.Start := ⟨fun _ => rfl, rfl⟩

/-- Destructors that do nothing to the objects. -/
def ObjectType.destructors {β σ : Type} {direct : Bool} : Destructors ObjectType β σ direct :=
  ⟨fun _ _ _ => .done, 1⟩

end Causeway
