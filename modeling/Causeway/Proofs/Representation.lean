import Causeway.Proofs.Changes

/-!
# Causeway.Proofs.Representation

The slots of a registry and its list of vacant slots, after every run.

* `Registry.Sound`      — the invariant, kept by every change (`Change.sound`).
* `Registry.Sound.length_free_le`, `Registry.Sound.length_free_lt` — the list is no longer than the slots are many, and
  shorter while a slot is occupied.
* `Registry.Insertable` — what registering relies on, and `Registry.Removable`, what taking out relies on.
* `Note.roomAsked`      — the room that was asked for the list whenever a slot was added.

Taking an object out must not fail for want of memory, so room in the list is asked for when a slot is added. The list
then has room for every slot.
-/

namespace Causeway

variable {τ β σ α : Type}

/-! ## How long the list is -/

namespace Registry

variable {r r' : Registry} {h : Handle} {e : Entry}

theorem Sound.lt_size (hs : r.Sound) {i : Nat} (hi : i ∈ r.free) : i < r.slots.size := by
  obtain ⟨g, hslot, _⟩ := (hs.free_iff i).mp hi
  exact (Array.getElem?_eq_some_iff.mp hslot).1

theorem Sound.not_mem_free (hs : r.Sound) (hl : r.lookup h = .ok e) : h.index ∉ r.free := by
  intro hmem
  obtain ⟨g, hslot, _⟩ := (hs.free_iff h.index).mp hmem
  rw [(lookup_eq_ok.mp hl).2] at hslot
  cases hslot

/-- Different places among the slots are no more than the slots. -/
theorem length_le_size {places : List Nat} (hnodup : places.Nodup) (hlt : ∀ i ∈ places, i < r.slots.size) :
    places.length ≤ r.slots.size := by
  have hsub : places ⊆ List.range r.slots.size := fun i hi => List.mem_range.mpr (hlt i hi)
  simpa using hnodup.length_le_of_subset hsub

theorem Sound.length_free_le (hs : r.Sound) : r.free.length ≤ r.slots.size :=
  length_le_size hs.free_nodup fun _ hi => hs.lt_size hi

theorem Sound.length_free_lt (hs : r.Sound) (hl : r.lookup h = .ok e) : r.free.length < r.slots.size := by
  -- the occupied slot is one more place beside those in the list
  have hnodup : (h.index :: r.free).Nodup := List.nodup_cons.mpr ⟨hs.not_mem_free hl, hs.free_nodup⟩
  refine length_le_size hnodup fun i hi => ?_
  rcases List.mem_cons.mp hi with rfl | hi
  · exact index_lt_of_lookup hl
  · exact hs.lt_size hi

/-! ## What registering relies on -/

/-- How many more vacant slots the list is given room for when a slot is added. -/
def spare (r : Registry) : Nat := r.slots.size + 1 - r.free.length

structure Insertable (r : Registry) : Prop where
  /-- The slot that is used again exists and is vacant, and registering in it succeeds. -/
  reused : ∀ (i : Nat) (rest : List Nat), r.free = i :: rest → ∀ a ≠ 0, ∀ d room,
    i < r.slots.size ∧ ∃ g r', r.slots[i]? = some ⟨g, none⟩ ∧ r.insert a d room = .ok (⟨i, g⟩, r')
  /-- No registration changes a slot that is occupied. -/
  occupied : ∀ a d room h r', r.insert a d room = .ok (h, r') →
    ∀ (i g : Nat) (e : Entry), r.slots[i]? = some ⟨g, some e⟩ → r'.slots[i]? = some ⟨g, some e⟩
  /-- The room asked for is not negative, and with it the list can hold every slot and the new one. -/
  spare : r.free.length ≤ r.slots.size + 1 ∧ r.free.length + r.spare = r.slots.size + 1

theorem Sound.insert_reused (hs : r.Sound) {i : Nat} {rest : List Nat} (hfree : r.free = i :: rest) {a : Address}
    (ha : a ≠ 0) (d : Destructor) (room : Bool) :
    ∃ g r', r.slots[i]? = some ⟨g, none⟩ ∧ r.insert a d room = .ok (⟨i, g⟩, r') := by
  obtain ⟨g, hslot, _⟩ := (hs.free_iff i).mp (by rw [hfree]; exact List.mem_cons_self)
  simp only [Registry.insert, if_neg ha, hfree, hslot]
  exact ⟨g, _, rfl, rfl⟩

theorem Sound.insert_keeps_occupied (hs : r.Sound) {a : Address} {d : Destructor} {room : Bool}
    (hi : r.insert a d room = .ok (h, r')) {i g : Nat} (hslot : r.slots[i]? = some ⟨g, some e⟩) :
    r'.slots[i]? = some ⟨g, some e⟩ := by
  obtain ⟨_, _, _, hvacant, _, hother⟩ := hs.insert_vacant hi
  rw [hother i, hslot]
  rintro rfl
  rcases hvacant with hvacant | hvacant <;> rw [hvacant] at hslot <;> cases hslot

theorem Sound.insertable (hs : r.Sound) : r.Insertable := by
  have hle := hs.length_free_le
  constructor
  · intro i rest hfree a ha d room
    exact ⟨hs.lt_size (by rw [hfree]; exact List.mem_cons_self), hs.insert_reused hfree ha d room⟩
  · intro a d room h r' hi i g e hslot
    exact hs.insert_keeps_occupied hi hslot
  · unfold Registry.spare
    omega

/-! ## What taking out relies on -/

/-- `room` is how many vacant slots the list can hold without more memory. -/
structure Removable (r : Registry) (room : Nat) : Prop where
  /-- The slot of a handle that names an object exists and holds that object. -/
  found : ∀ h e, r.lookup h = .ok e → h.index < r.slots.size ∧ r.slots[h.index]? = some ⟨h.generation, some e⟩
  /-- A slot that can be used again is listed, in a list that is not yet as long as the slots are many. -/
  listed : ∀ h claimant e r', r.remove h claimant = .ok (e, r') →
    (h.generation + 1 = lastGeneration ∧ r'.free = r.free) ∨
      (h.generation + 1 < lastGeneration ∧ r'.free = h.index :: r.free ∧ r.free.length < r.slots.size ∧
        r'.free.length ≤ room)

theorem Sound.removable (hs : r.Sound) {room : Nat} (hroom : r.slots.size ≤ room) : r.Removable room := by
  constructor
  · intro h e hl
    exact ⟨index_lt_of_lookup hl, (lookup_eq_ok.mp hl).2⟩
  · intro h claimant e r' hr
    obtain ⟨hl, _, _, rfl⟩ := remove_eq_ok.mp hr
    obtain ⟨hmod, hle⟩ := hs.next_generation hl
    have hlt := hs.length_free_lt hl
    have hfree : (r.vacate h).free = if h.generation + 1 = lastGeneration then r.free else h.index :: r.free := by
      rw [← hmod]; rfl
    rw [hfree]
    by_cases hlast : h.generation + 1 = lastGeneration
    · rw [if_pos hlast]
      exact .inl ⟨hlast, rfl⟩
    · rw [if_neg hlast, List.length_cons]
      exact .inr ⟨by omega, rfl, hlt, by omega⟩

end Registry

/-! ## The room asked for in a run -/

/-- How many vacant slots the list of a type was given room for. The first handle of a slot is issued when the slot is
added, and room is asked for it and all slots before it. -/
def Note.roomAsked [DecidableEq τ] (t : τ) : List (Note τ) → Nat
  | [] => 0
  | .registered u h _ :: notes =>
    if u = t ∧ h.generation = 1 then max (h.index + 1) (roomAsked t notes) else roomAsked t notes
  | _ :: notes => roomAsked t notes

namespace Registry

variable [DecidableEq τ] {t : τ} {r r' : Registry} {notes notes' : List (Note τ)}

/-- Only a new slot makes the slots more, and room is asked for it. -/
theorem size_le_roomAsked (hc : Change t (r, notes) (r', notes')) (hr : r.slots.size ≤ Note.roomAsked t notes) :
    r'.slots.size ≤ Note.roomAsked t notes' := by
  cases hc with
  | elsewhere n hn =>
    cases n with
    | registered u h a =>
      have hu : ¬ (u = t ∧ h.generation = 1) := fun hu => hn hu.1
      simpa [Note.roomAsked, hu] using hr
    | _ => exact hr
  | @register _ _ _ a d room h howner hi =>
    rcases (insert_eq_ok hi).2 with ⟨rest, slot, _, _, _, rfl⟩ | ⟨_, rfl, rfl⟩
    · simp only [Note.roomAsked, Array.size_setIfInBounds]
      split <;> omega
    · simp only [Note.roomAsked, Array.size_push, and_self, ↓reduceIte]
      exact Nat.le_max_left _ _
  | discard d a => exact hr
  | drop hl =>
    simpa [vacate, Note.roomAsked] using hr
  | destroyed h => exact hr
  | release hl =>
    simpa [vacate, Note.roomAsked] using hr
  | put hl ha hd =>
    simpa [Registry.put] using hr

end Registry

/-- After every run from empty registries the list of vacant slots lists, once each, the vacant slots that have
generations left, generations are in range, and every occupied slot has a generation left and an object that is not
null. Hence registering finds the slot it uses again vacant and touches no other that is occupied, and taking out finds
the slot occupied and lists it within the room that was asked for before. -/
theorem slots_agree_with_vacancies [DecidableEq τ] {direct : Bool} (p : Program τ β σ direct 0 α)
    (D : Destructors τ β σ direct) (w₀ : World τ (Note τ) β σ) (hw₀ : w₀.Start) (t : τ) :
    let w := (p.exec D w₀).2
    let r := w.registries t
    r.Sound ∧ r.Insertable ∧ r.Removable (Note.roomAsked t w.notes) := by
  intro w r
  have hsound : r.Sound := p.exec_sound D hw₀ t
  have hroom : r.slots.size ≤ Note.roomAsked t w.notes :=
    p.keeps D hw₀ t (fun _ _ _ => Nat.le_refl 0) fun _ _ _ _ _ hc hr => Registry.size_le_roomAsked hc hr
  exact ⟨hsound, hsound.insertable, hsound.removable hroom⟩

/-- Two objects in two slots, of which the first is destroyed. -/
def halfVacant : Program ObjectType Unit Unit false 0 Unit :=
  .bind (.create .obj 8 none true) fun h =>
  .bind (.create .obj 16 none true) fun _ =>
  .destroy .obj h .host

theorem halfVacant_registry :
    let r := (halfVacant.exec ObjectType.destructors ObjectType.world).2.registries .obj
    r.slots = #[⟨2, none⟩, ⟨1, some ⟨16, .native, .host, 0⟩⟩] ∧ r.free = [0] := by
  decide +kernel

/-- The vacant slot is used again with its next generation, and the slot of the other object is listed before it. -/
theorem slots_agree_with_vacancies_in_halfVacant :
    let r := (halfVacant.exec ObjectType.destructors ObjectType.world).2.registries .obj
    r.free = [0] ∧ (∃ r', r.insert 24 .native = .ok (⟨0, 2⟩, r')) ∧
      ∃ r', r.remove ⟨1, 1⟩ .host = .ok (⟨16, .native, .host, 0⟩, r') ∧ r'.free = [1, 0] := by
  intro r
  obtain ⟨_, hinsert, hremove⟩ :=
    slots_agree_with_vacancies halfVacant ObjectType.destructors ObjectType.world ObjectType.start_world .obj
  obtain ⟨hslots, hfree⟩ := halfVacant_registry
  refine ⟨hfree, ?_, ?_⟩
  · obtain ⟨_, g, r', hslot, hi⟩ := hinsert.reused 0 [] hfree 24 (by decide) .native true
    rw [hslots] at hslot
    cases hslot
    exact ⟨r', hi⟩
  · have hlookup : r.lookup ⟨1, 1⟩ = .ok ⟨16, .native, .host, 0⟩ := by
      refine Registry.lookup_eq_ok.mpr ⟨by decide, ?_⟩
      rw [hslots]
      rfl
    have hr := Registry.remove_eq_ok.mpr ⟨hlookup, rfl, rfl, rfl⟩
    refine ⟨_, hr, ?_⟩
    rcases hremove.listed _ _ _ _ hr with ⟨hlast, _⟩ | ⟨_, hlisted, _⟩
    · exact absurd hlast (by decide)
    · rw [hlisted]
      exact congrArg (1 :: ·) hfree

end Causeway
