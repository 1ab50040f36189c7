import Causeway.Proofs.Changes

/-!
# Causeway.Proofs.Freshness

Handles are never issued twice, and the handle of an object that is gone names nothing again.

* `Note.issued`, `Note.Removed` — what a run has issued and what it has taken out.
* `Registry.Recorded` — the registry resolves what was issued and not taken out, and nothing else.
* `Names`             — the operations that name a handle.
* `handles_never_reissued` — the statement for every run from empty registries.
-/

namespace Causeway

variable {τ β σ α : Type}

namespace Note

/-- The handles issued for a type, the newest first. -/
def issued [DecidableEq τ] (t : τ) (notes : List (Note τ)) : List Handle :=
  notes.filterMap fun
    | .registered u h _ => if u = t then some h else none
    | _ => none

/-- The object of a handle was taken out, to be destroyed or to be given back. -/
def Removed (t : τ) (h : Handle) (notes : List (Note τ)) : Prop :=
  ∃ d a, .dropped t h d a ∈ notes ∨ .released t h d a ∈ notes

/-- A note that says nothing of handles of a type. -/
def Silent (t : τ) : Note τ → Prop
  | .registered u _ _ | .dropped u _ _ _ | .released u _ _ _ => u ≠ t
  | .handed _ _ _ | .discarded _ _ _ | .destroyed _ _ => True

theorem silent_of_type_ne {t : τ} {n : Note τ} (hn : n.type ≠ t) : n.Silent t := by
  cases n <;> first | exact hn | trivial

theorem mem_issued [DecidableEq τ] {t : τ} {h : Handle} {notes : List (Note τ)} :
    h ∈ issued t notes ↔ ∃ a, .registered t h a ∈ notes := by
  unfold issued
  rw [List.mem_filterMap]
  constructor
  · rintro ⟨n, hn, hh⟩
    cases n with
    | registered u k a =>
      simp only [Option.ite_none_right_eq_some, Option.some.injEq] at hh
      obtain ⟨rfl, rfl⟩ := hh
      exact ⟨a, hn⟩
    | _ => cases hh
  · rintro ⟨a, ha⟩
    exact ⟨_, ha, by simp⟩

variable {t : τ} {n : Note τ} {notes : List (Note τ)}

theorem Silent.issued [DecidableEq τ] (hn : n.Silent t) : issued t (n :: notes) = issued t notes := by
  cases n with
  | registered u h a => exact List.filterMap_cons_none (if_neg hn)
  | _ => rfl

theorem Silent.registered_mem (hn : n.Silent t) {h : Handle} {a : Address} :
    .registered t h a ∈ n :: notes ↔ .registered t h a ∈ notes := by
  rw [List.mem_cons, or_iff_right]
  rintro rfl
  exact hn rfl

theorem removed_cons {h : Handle} :
    Removed t h (n :: notes) ↔
      (∃ d a, n = .dropped t h d a ∨ n = .released t h d a) ∨ Removed t h notes := by
  unfold Removed
  rw [← exists_or]
  refine exists_congr fun d => ?_
  rw [← exists_or]
  refine exists_congr fun a => ?_
  rw [List.mem_cons, List.mem_cons, eq_comm, eq_comm (a := Note.released t h d a)]
  exact or_or_or_comm

theorem Silent.removed (hn : n.Silent t) {h : Handle} : Removed t h (n :: notes) ↔ Removed t h notes := by
  rw [removed_cons, or_iff_right]
  rintro ⟨d, a, rfl | rfl⟩ <;> exact hn rfl

end Note

namespace Registry

theorem resolve_eq_ok {r : Registry} {h : Handle} {a : Address} :
    r.resolve h = .ok a ↔ ∃ e, r.lookup h = .ok e ∧ e.address = a := by
  unfold resolve
  cases r.lookup h with
  | error x => simp [Except.map]
  | ok e => simp [Except.map]

/-- The registry of a type agrees with what was noted of it. -/
structure Recorded [DecidableEq τ] (t : τ) (r : Registry) (notes : List (Note τ)) : Prop where
  nodup : (Note.issued t notes).Nodup
  nonnull : ∀ h ∈ Note.issued t notes, h.generation ≠ 0
  resolves : ∀ h a, r.resolve h = .ok a ↔ .registered t h a ∈ notes ∧ ¬ Note.Removed t h notes
  past : ∀ h, Note.Removed t h notes → r.Past h

namespace Recorded

variable [DecidableEq τ] {t : τ} {r r' : Registry} {notes : List (Note τ)}

theorem of_blank (name path : String) (owner : Side) :
    Recorded t { typeName := name, typePath := path, owner := owner } [] := by
  refine ⟨List.nodup_nil, ?_, ?_, ?_⟩
  · intro h hh
    cases hh
  · intro h a
    rw [resolve_eq_ok]
    constructor
    · rintro ⟨e, he, _⟩
      have hslot := (lookup_eq_ok.mp he).2
      simp at hslot
    · rintro ⟨hreg, _⟩
      cases hreg
  · rintro h ⟨d, a, hrem | hrem⟩ <;> cases hrem

/-- A note that says nothing of the type's handles. -/
theorem note {n : Note τ} (hr : Recorded t r notes) (hn : n.Silent t) : Recorded t r (n :: notes) := by
  refine ⟨?_, ?_, ?_, ?_⟩
  · rw [hn.issued]; exact hr.nodup
  · rw [hn.issued]; exact hr.nonnull
  · intro h a
    rw [hn.registered_mem, hn.removed]
    exact hr.resolves h a
  · intro h
    rw [hn.removed]
    exact hr.past h

/-- A change of the registry that nothing needs to be noted of. -/
theorem registry (hr : Recorded t r notes) (hres : ∀ k, r'.resolve k = r.resolve k)
    (hpast : ∀ k, r.Past k → r'.Past k) : Recorded t r' notes := by
  refine ⟨hr.nodup, hr.nonnull, ?_, fun h hrem => hpast h (hr.past h hrem)⟩
  intro h a
  rw [hres h]
  exact hr.resolves h a

/-- The handle of a new object was not issued before. -/
theorem fresh {a : Address} {d : Destructor} {room : Bool} {h : Handle} (hr : Recorded t r notes) (hs : r.Sound)
    (hi : r.insert a d room = .ok (h, r')) : h ∉ Note.issued t notes ∧ ¬ Note.Removed t h notes := by
  obtain ⟨hpast, hlook⟩ := hs.insert_fresh hi
  have hnot : ¬ Note.Removed t h notes := fun hrem => hpast (hr.past h hrem)
  refine ⟨fun hmem => ?_, hnot⟩
  obtain ⟨a', ha'⟩ := Note.mem_issued.mp hmem
  obtain ⟨e, he, _⟩ := resolve_eq_ok.mp ((hr.resolves h a').mpr ⟨ha', hnot⟩)
  exact hlook e he

theorem insert {a : Address} {d : Destructor} {room : Bool} {h : Handle} (hr : Recorded t r notes) (hs : r.Sound)
    (hi : r.insert a d room = .ok (h, r')) : Recorded t r' (.registered t h a :: notes) := by
  obtain ⟨hnew, hnot⟩ := hr.fresh hs hi
  have hissued : Note.issued t (.registered t h a :: notes) = h :: Note.issued t notes :=
    List.filterMap_cons_some (if_pos rfl)
  have hremoved : ∀ k, Note.Removed t k (.registered t h a :: notes) ↔ Note.Removed t k notes := by
    intro k
    simp [Note.removed_cons]
  refine ⟨?_, ?_, ?_, ?_⟩
  · rw [hissued]
    exact List.nodup_cons.mpr ⟨hnew, hr.nodup⟩
  · intro k hk
    rw [hissued, List.mem_cons] at hk
    rcases hk with rfl | hk
    · exact (hs.insert_vacant hi).1
    · exact hr.nonnull k hk
  · intro k a'
    rw [hremoved k, resolve_eq_ok, lookup_insert hs hi k, List.mem_cons]
    by_cases hk : k = h
    · subst hk
      have hnone : .registered t k a' ∉ notes := fun hmem => hnew (Note.mem_issued.mpr ⟨a', hmem⟩)
      simp [hnot, hnone, eq_comm]
    · rw [if_neg hk, ← resolve_eq_ok, hr.resolves k a']
      simp [hk]
  · intro k hk
    exact (hr.past k ((hremoved k).mp hk)).insert hs hi

/-- Taking an object out, with a note that says so. -/
theorem vacate {h : Handle} {e : Entry} {n : Note τ} (hr : Recorded t r notes)
    (hs : r.Sound) (hl : r.lookup h = .ok e)
    (hn : n = .dropped t h e.destructor e.address ∨ n = .released t h e.destructor e.address) :
    Recorded t (r.vacate h) (n :: notes) := by
  have hreg : ∀ k a, .registered t k a ∈ n :: notes ↔ .registered t k a ∈ notes := by
    intro k a
    rcases hn with rfl | rfl <;> simp
  have hissued : Note.issued t (n :: notes) = Note.issued t notes := by
    rcases hn with rfl | rfl <;> rfl
  have hremoved : ∀ k, Note.Removed t k (n :: notes) ↔ k = h ∨ Note.Removed t k notes := by
    intro k
    rw [Note.removed_cons]
    rcases hn with rfl | rfl <;> simp [eq_comm]
  refine ⟨?_, ?_, ?_, ?_⟩
  · rw [hissued]; exact hr.nodup
  · rw [hissued]; exact hr.nonnull
  · intro k a
    rw [hreg k a, hremoved k, resolve_eq_ok, lookup_vacate hl k]
    by_cases hk : k = h
    · simp [hk]
    · rw [if_neg hk, ← resolve_eq_ok, hr.resolves k a]
      simp [hk]
  · intro k hk
    rcases (hremoved k).mp hk with rfl | hk
    · exact hs.past_of_vacate hl
    · exact (hr.past k hk).vacate hs hl

/-- Every change keeps the registry in agreement with the notes. -/
theorem change {notes' : List (Note τ)} (hr : Recorded t r notes) (hs : r.Sound)
    (hc : Change t (r, notes) (r', notes')) : Recorded t r' notes' := by
  cases hc with
  | elsewhere n hn => exact hr.note (Note.silent_of_type_ne hn)
  | @register _ _ _ a d room h howner hi =>
    have hhanded : Recorded t r (.handed t d a :: notes) := hr.note trivial
    exact hhanded.insert hs hi
  | discard d a =>
    have hhanded : Recorded t r (.handed t d a :: notes) := hr.note trivial
    exact hhanded.note trivial
  | drop hl => exact hr.vacate hs hl (.inl rfl)
  | destroyed h =>
    have hcounted : Recorded t r.noteDestroyed notes :=
      hr.registry (fun _ => rfl) fun _ hk => hk
    exact hcounted.note trivial
  | release hl =>
    have hout := hr.vacate hs hl (.inr rfl)
    exact hout.registry (fun _ => rfl) fun _ hk => hk
  | @put _ _ h e e' hl ha hd =>
    refine hr.registry (fun k => ?_) fun k hk => hk.put hl e'
    unfold resolve
    rw [lookup_put hl e' k]
    split
    · rename_i hk
      rw [hk, hl]
      exact congrArg Except.ok ha
    · rfl

end Recorded
end Registry

/-- The operations that name a handle. -/
inductive Names [DecidableEq τ] (t : τ) (h : Handle) : {γ : Type} → Act τ (Note τ) β σ γ → Prop where
  | destroy (finalize : Finalizer τ (Note τ) β σ) (claimant : Side) :
      Names t h (Objects.destroy finalize t h claimant)
  | release (claimant : Side) : Names t h (Objects.release t h claimant)
  | resolve : Names t h (Act.readRegistry t fun r => r.resolve h)
  | resolveRef (check : Bool) : Names t h (Act.readRegistry t fun r => r.resolveRef h check)
  | lend : Names t h (Act.updateRegistry t fun r => r.lend h)
  | endLoan : Names t h (Act.updateRegistry t fun r => r.endLoan h)
  | transfer (giver taker : Side) : Names t h (Act.updateRegistry t fun r => r.transfer h giver taker)
  | holder : Names t h (Act.readRegistry t fun r => r.holder h)

/-- An operation that names a handle without an object is refused for that, and does nothing. -/
theorem Names.refused [DecidableEq τ] {t : τ} {h : Handle} {γ : Type} {x : Act τ (Note τ) β σ γ}
    (hx : Names t h x) {w : World τ (Note τ) β σ} (hl : ∀ e, (w.registries t).lookup h ≠ .ok e) :
    ∃ m, x w = (.fail (.lifetime m), w) := by
  cases hlook : (w.registries t).lookup h with
  | ok e => exact absurd hlook (hl e)
  | error e =>
    obtain ⟨m, hm⟩ := Registry.lookup_error_failure hlook
    refine ⟨m, ?_⟩
    rw [← hm]
    cases hx with
    | destroy finalize claimant => exact Objects.destroy_of_error (by simp only [Registry.remove, hlook])
    | release claimant =>
      exact Objects.release_of_error (by simp only [Registry.release, Registry.remove, hlook])
    | resolve => exact Act.readRegistry_of_error (by simp only [Registry.resolve, hlook, Except.map])
    | resolveRef check => exact Act.readRegistry_of_error (by simp only [Registry.resolveRef, hlook])
    | lend => exact Act.updateRegistry_of_error (by simp only [Registry.lend, hlook])
    | endLoan => exact Act.updateRegistry_of_error (by simp only [Registry.endLoan, hlook])
    | transfer giver taker => exact Act.updateRegistry_of_error (by simp only [Registry.transfer, hlook])
    | holder => exact Act.readRegistry_of_error (by simp only [Registry.holder, hlook, Except.map])

/-- After every run from empty registries: no handle was issued twice and none is null; the handle of a
registered object resolves to that object; and an operation that names a handle whose object was destroyed or
given back, or a handle never issued, fails with a broken lifetime and does nothing. -/
theorem handles_never_reissued [DecidableEq τ] {direct : Bool} (p : Program τ β σ direct 0 α)
    (D : Destructors τ β σ direct) (w₀ : World τ (Note τ) β σ) (hw₀ : w₀.Start) (t : τ) :
    let w := (p.exec D w₀).2
    (Note.issued t w.notes).Nodup ∧
      (∀ h ∈ Note.issued t w.notes, h.generation ≠ 0) ∧
      (∀ h a, .registered t h a ∈ w.notes → ¬ Note.Removed t h w.notes →
        (w.registries t).resolve h = .ok a) ∧
      ∀ h, h ∉ Note.issued t w.notes ∨ Note.Removed t h w.notes →
        ∀ {γ : Type} (x : Act τ (Note τ) β σ γ), Names t h x → ∃ m, x w = (.fail (.lifetime m), w) := by
  intro w
  have hrec : Registry.Recorded t (w.registries t) w.notes :=
    p.keeps D hw₀ t Registry.Recorded.of_blank fun _ _ _ _ hs hc hr => hr.change hs hc
  refine ⟨hrec.nodup, hrec.nonnull, fun h a hreg hnot => (hrec.resolves h a).mpr ⟨hreg, hnot⟩, ?_⟩
  intro h hgone γ x hx
  refine hx.refused fun e he => ?_
  obtain ⟨hreg, hnot⟩ := (hrec.resolves h e.address).mp (Registry.resolve_eq_ok.mpr ⟨e, he, rfl⟩)
  rcases hgone with hnever | hremoved
  · exact hnever (Note.mem_issued.mpr ⟨_, hreg⟩)
  · exact hnot hremoved

/-- Two objects in one slot, one after the other. -/
def reuse : Program ObjectType Unit Unit false 0 Address :=
  .bind (.create .obj 8 none true) fun h =>
  .bind (.destroy .obj h .host) fun _ =>
  .bind (.create .obj 16 none true) fun k =>
  .read .obj fun r => r.resolve k

theorem reuse_notes : (reuse.exec ObjectType.destructors ObjectType.world).2.notes =
    [.registered .obj ⟨0, 2⟩ 16, .handed .obj .native 16, .destroyed .obj ⟨0, 1⟩, .dropped .obj ⟨0, 1⟩ .native 8,
      .registered .obj ⟨0, 1⟩ 8, .handed .obj .native 8] := by
  decide +kernel

theorem handles_never_reissued_in_one_slot :
    let w := (reuse.exec ObjectType.destructors ObjectType.world).2
    Note.issued .obj w.notes = [⟨0, 2⟩, ⟨0, 1⟩] ∧ (w.registries .obj).resolve ⟨0, 2⟩ = .ok 16 ∧
      ∃ m, Objects.release .obj ⟨0, 1⟩ .host w = (.fail (.lifetime m), w) := by
  have hrun :=
    handles_never_reissued reuse ObjectType.destructors ObjectType.world ObjectType.start_world .obj
  revert hrun
  generalize hw : (reuse.exec ObjectType.destructors ObjectType.world).2 = w
  have hnotes := reuse_notes
  rw [hw] at hnotes
  rintro ⟨_, _, hlive, hgone⟩
  rw [hnotes] at hlive hgone
  refine ⟨by rw [hnotes]; rfl, hlive ⟨0, 2⟩ 16 List.mem_cons_self (by simp [Note.Removed]), ?_⟩
  exact hgone ⟨0, 1⟩ (.inr ⟨.native, 8, .inl (by decide)⟩) _ (.release .host)

end Causeway
