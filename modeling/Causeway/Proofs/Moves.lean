import Causeway.Proofs.Program
import Mathlib.Logic.Relation

/-!
# Causeway.Proofs.Moves

What a program can do to registries, open calls and notes, one step at a time.

* `Move`   — one change of the point.
* `Moves`  — any number of them.
* `Course` — from one moment of a run to a later one: the moves made, and, unless the process ended, that the
  calls in between were closed and the destructions in between completed.

Every run of a program is a course (`Program.run_behaves`). What every program keeps is then shown move by
move, without looking at programs again.
-/

namespace Causeway

variable {τ β σ α γ : Type}

inductive Move [DecidableEq τ] (direct : Bool) : Point τ β → Point τ β → Prop where
  | register {s : Point τ β} {t : τ} {a : Address} {d : Destructor} {room : Bool} {h : Handle} {r : Registry}
      (howner : (s.registries t).owner = d.side) (hi : (s.registries t).insert a d room = .ok (h, r)) :
      Move direct s { s with
        registries := s.registries.set t r
        notes := .registered t h a :: .handed t d a :: s.notes }
  | discard {s : Point τ β} (t : τ) (d : Destructor) (a : Address) :
      Move direct s { s with notes := .discarded t d a :: .handed t d a :: s.notes }
  | drop {s : Point τ β} {t : τ} {h : Handle} {claimant : Side} {e : Entry} {r : Registry}
      (hr : (s.registries t).remove h claimant = .ok (e, r)) :
      Move direct s { s with
        registries := s.registries.set t r
        notes := .dropped t h e.destructor e.address :: s.notes }
  | destroyed {s : Point τ β} (t : τ) (h : Handle) :
      Move direct s { s with
        registries := s.registries.set t (s.registries t).noteDestroyed
        notes := .destroyed t h :: s.notes }
  | release {s : Point τ β} {t : τ} {h : Handle} {claimant : Side} {e : Entry} {r : Registry}
      (hr : (s.registries t).remove h claimant = .ok (e, r)) :
      Move direct s { s with
        registries := s.registries.set t { r with released := r.released + 1 }
        notes := .released t h e.destructor e.address :: s.notes }
  | transfer {s : Point τ β} {t : τ} {h : Handle} {giver taker : Side} {r : Registry}
      (hr : (s.registries t).transfer h giver taker = .ok r) :
      Move direct s { s with registries := s.registries.set t r }
  | beginLoan {s : Point τ β} {t : τ} {h : Handle} {r : Registry} (allowed : direct = true)
      (hr : (s.registries t).lend h = .ok r) :
      Move direct s { s with registries := s.registries.set t r }
  | endLoan {s : Point τ β} {t : τ} {h : Handle} {r : Registry} (allowed : direct = true)
      (hr : (s.registries t).endLoan h = .ok r) :
      Move direct s { s with registries := s.registries.set t r }
  | openFrame {s : Point τ β} : Move direct s { s with frames := s.frames.push {} }
  | lend {s : Point τ β} {level : Nat} {t : τ} {h : Handle} {r : Registry}
      (hlevel : level < s.frames.size) (hr : (s.registries t).lend h = .ok r) :
      Move direct s { s with
        registries := s.registries.set t r
        frames := s.frames.modify level fun f => { f with loans := (t, h) :: f.loans } }
  | onFailure {s : Point τ β} (level : Nat) (b : β) :
      Move direct s { s with
        frames := s.frames.modify level fun f => { f with rollbacks := b :: f.rollbacks } }
  | closeFrame {s : Point τ β} :
      Move direct s { s with
        registries := s.registries.endLoans (s.frames.back?.getD {}).loans
        frames := s.frames.pop }

abbrev Moves [DecidableEq τ] (direct : Bool) : Point τ β → Point τ β → Prop :=
  Relation.ReflTransGen (Move direct)

/-- The open calls are the same, and only frames in reach may have changed. -/
structure Kept {reach : Nat} (levels : Fin reach → Nat) (fs fs' : Array (Frame τ β)) : Prop where
  size : fs'.size = fs.size
  others : ∀ j, (∀ i, levels i ≠ j) → fs'[j]? = fs[j]?

namespace Kept

variable {reach : Nat} {levels : Fin reach → Nat} {fs fs' fs'' : Array (Frame τ β)}

theorem refl (levels : Fin reach → Nat) (fs : Array (Frame τ β)) : Kept levels fs fs :=
  ⟨rfl, fun _ _ => rfl⟩

theorem trans (h : Kept levels fs fs') (h' : Kept levels fs' fs'') : Kept levels fs fs'' :=
  ⟨h'.size.trans h.size, fun j hj => (h'.others j hj).trans (h.others j hj)⟩

theorem eq_of_none {levels : Fin 0 → Nat} (h : Kept levels fs fs') : fs' = fs :=
  Array.ext_getElem? fun j => h.others j nofun

theorem modify (levels : Fin reach → Nat) (i : Fin reach) (fs : Array (Frame τ β))
    (f : Frame τ β → Frame τ β) : Kept levels fs (fs.modify (levels i) f) := by
  refine ⟨Array.size_modify, fun j hj => ?_⟩
  rw [Array.getElem?_modify, if_neg (hj i)]

/-- Once its own frame is closed, a body has left all but the frames in reach of its call. -/
theorem pop (h : Kept (Program.inBody fs.size levels) (fs.push {}) fs') : Kept levels fs fs'.pop := by
  have hsize : fs'.size = fs.size + 1 := h.size.trans (Array.size_push _)
  refine ⟨by rw [Array.size_pop, hsize, Nat.add_sub_cancel], fun j hj => ?_⟩
  rw [Array.getElem?_pop, hsize, Nat.add_sub_cancel]
  split
  · rename_i hlt
    rw [h.others j, Array.getElem?_push, if_neg (Nat.ne_of_lt hlt)]
    intro i
    refine Fin.cases ?_ (fun i => hj i) i
    exact Ne.symm (Nat.ne_of_lt hlt)
  · rename_i hge
    exact (Array.getElem?_eq_none (Nat.le_of_not_lt hge)).symm

end Kept

namespace Note

variable [DecidableEq τ]

/-- Destructors that a destruction has begun to run. -/
def begun (notes : List (Note τ)) (t : τ) : Nat :=
  notes.countP fun
    | .dropped u _ _ _ => u = t
    | _ => false

/-- Destructions that returned. -/
def returned (notes : List (Note τ)) (t : τ) : Nat :=
  notes.countP fun
    | .destroyed u _ => u = t
    | _ => false

/-- Destructions under way. -/
def underway (notes : List (Note τ)) (t : τ) : Int := (begun notes t : Int) - returned notes t

theorem begun_dropped (notes : List (Note τ)) (t : τ) (h : Handle) (d : Destructor) (a : Address) (u : τ) :
    begun (.dropped t h d a :: notes) u = begun notes u + if t = u then 1 else 0 := by
  by_cases htu : t = u <;> simp [begun, htu]

theorem returned_destroyed (notes : List (Note τ)) (t : τ) (h : Handle) (u : τ) :
    returned (.destroyed t h :: notes) u = returned notes u + if t = u then 1 else 0 := by
  by_cases htu : t = u <;> simp [returned, htu]

theorem underway_dropped (notes : List (Note τ)) (t : τ) (h : Handle) (d : Destructor) (a : Address) (u : τ) :
    underway (.dropped t h d a :: notes) u = underway notes u + if t = u then 1 else 0 := by
  have hreturned : returned (.dropped t h d a :: notes) u = returned notes u := rfl
  rw [underway, underway, begun_dropped, hreturned]
  split <;> omega

theorem underway_destroyed (notes : List (Note τ)) (t : τ) (h : Handle) (u : τ) :
    underway (.destroyed t h :: notes) u = underway notes u - if t = u then 1 else 0 := by
  have hbegun : begun (.destroyed t h :: notes) u = begun notes u := rfl
  rw [underway, underway, returned_destroyed, hbegun]
  split <;> omega

end Note

/-- From a moment of a run to a later one. -/
structure Course [DecidableEq τ] (direct : Bool) {reach : Nat} (levels : Fin reach → Nat) (ended : Bool)
    (s s' : Point τ β) : Prop where
  moves : Moves direct s s'
  underway : ∀ t, Note.underway s.notes t ≤ Note.underway s'.notes t
  settled : ended = false →
    (∀ t, Note.underway s'.notes t = Note.underway s.notes t) ∧ Kept levels s.frames s'.frames

namespace Course

variable [DecidableEq τ] {direct ended ended' : Bool} {reach : Nat} {levels : Fin reach → Nat}
  {s s' s'' : Point τ β}

theorem refl (direct : Bool) (levels : Fin reach → Nat) (ended : Bool) (s : Point τ β) :
    Course direct levels ended s s :=
  ⟨.refl, fun _ => Int.le_refl _, fun _ => ⟨fun _ => rfl, Kept.refl levels _⟩⟩

theorem trans (h : Course direct levels false s s') (h' : Course direct levels ended s' s'') :
    Course direct levels ended s s'' := by
  refine ⟨h.moves.trans h'.moves, fun t => Int.le_trans (h.underway t) (h'.underway t), fun hended => ?_⟩
  obtain ⟨hu, hk⟩ := h.settled rfl
  obtain ⟨hu', hk'⟩ := h'.settled hended
  exact ⟨fun t => (hu' t).trans (hu t), hk.trans hk'⟩

/-- A program with no frame in reach leaves every frame alone. -/
theorem widen {outside : Fin 0 → Nat} (h : Course direct outside ended s s') : Course direct levels ended s s' := by
  refine ⟨h.moves, h.underway, fun hended => ?_⟩
  obtain ⟨hu, hk⟩ := h.settled hended
  exact ⟨hu, by rw [hk.eq_of_none]; exact Kept.refl levels _⟩

/-- Where the process ends nothing has to be settled. -/
theorem weaken (h : Course direct levels ended s s') (hended : ended' = false → ended = false) :
    Course direct levels ended' s s' :=
  ⟨h.moves, h.underway, fun hended' => h.settled (hended hended')⟩

/-- One move that neither begins nor ends a destruction and leaves the frames out of reach. -/
theorem step (hm : Move direct s s') (hu : ∀ t, Note.underway s'.notes t = Note.underway s.notes t)
    (hk : Kept levels s.frames s'.frames) : Course direct levels ended s s' :=
  ⟨.single hm, fun t => Int.le_of_eq (hu t).symm, fun _ => ⟨hu, hk⟩⟩

/-- A destruction: the object leaves its registry, its destructor runs, and the call returns. -/
theorem destruction {outside : Fin 0 → Nat} {t : τ} {h : Handle} {claimant : Side} {e : Entry} {r : Registry}
    (hr : (s.registries t).remove h claimant = .ok (e, r))
    (hc : Course direct outside false { s with
      registries := s.registries.set t r
      notes := .dropped t h e.destructor e.address :: s.notes } s') :
    Course direct levels false s { s' with
      registries := s'.registries.set t (s'.registries t).noteDestroyed
      notes := .destroyed t h :: s'.notes } := by
  obtain ⟨hunder, hframes⟩ := hc.settled rfl
  have hback : ∀ u, Note.underway (.destroyed t h :: s'.notes) u = Note.underway s.notes u := by
    intro u
    rw [Note.underway_destroyed, hunder u, Note.underway_dropped, Int.add_sub_cancel]
  refine ⟨(hc.moves.head (Move.drop hr)).tail (Move.destroyed t h), fun u => ?_, fun _ => ⟨hback, ?_⟩⟩
  · exact Int.le_of_eq (hback u).symm
  · rw [hframes.eq_of_none]
    exact Kept.refl levels _

/-- A destruction in which the process ends. -/
theorem destruction_ended {outside : Fin 0 → Nat} {t : τ} {h : Handle} {claimant : Side} {e : Entry}
    {r : Registry} (hr : (s.registries t).remove h claimant = .ok (e, r))
    (hc : Course direct outside ended { s with
      registries := s.registries.set t r
      notes := .dropped t h e.destructor e.address :: s.notes } s') :
    Course direct levels true s s' := by
  refine ⟨hc.moves.head (Move.drop hr), fun u => ?_, fun hended => by cases hended⟩
  have hunder := hc.underway u
  rw [Note.underway_dropped] at hunder
  split at hunder <;> omega

/-- A call: a frame is opened, the body runs in it, it is closed, and what undoes the call runs. -/
theorem call
    (hbody : Course direct (Program.inBody s.frames.size levels) false
      { s with frames := s.frames.push {} } s')
    (hundo : Course direct levels ended { s' with
      registries := s'.registries.endLoans (s'.frames.back?.getD {}).loans
      frames := s'.frames.pop } s'') :
    Course direct levels ended s s'' := by
  obtain ⟨hunder, hframes⟩ := hbody.settled rfl
  have hmoves := (hbody.moves.head Move.openFrame).tail Move.closeFrame
  refine ⟨hmoves.trans hundo.moves, fun u => Int.le_trans (hbody.underway u) (hundo.underway u), ?_⟩
  intro hended
  obtain ⟨hunder', hframes'⟩ := hundo.settled hended
  exact ⟨fun u => (hunder' u).trans (hunder u), hframes.pop.trans hframes'⟩

/-- A call in whose body the process ends. -/
theorem call_ended {levels' : Fin (reach + 1) → Nat}
    (hbody : Course direct levels' ended { s with frames := s.frames.push {} } s') :
    Course direct levels true s s' :=
  ⟨hbody.moves.head Move.openFrame, hbody.underway, fun hended => by cases hended⟩

end Course
end Causeway
