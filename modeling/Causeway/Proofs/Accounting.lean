import Causeway.Proofs.Changes

/-!
# Causeway.Proofs.Accounting

Every object that is handed over is held, destroyed once, or given back once.

* `Registry.census` — how many registered objects there are of a kind.
* `Note.timesHanded`, `timesFinalized`, `timesGivenBack` — what happened to the object at an address, by the destructor
  it came with.
* `Registry.Accounted` — slots, counters and notes are in step.
* `every_object_accounted_for` — the statement for every run from empty registries.
-/

namespace Causeway

variable {τ β σ α : Type}

namespace Registry

/-- The number of registered objects whose entries pass a test. -/
def census (r : Registry) (q : Entry → Bool) : Nat := r.slots.countP fun s => s.entry.any q

/-- The number of slots that hold the object at an address with a destructor. -/
def holding (r : Registry) (d : Destructor) (a : Address) : Nat := r.census fun e => e.destructor = d ∧ e.address = a

/-- The number of occupied slots. -/
def occupied (r : Registry) : Nat := r.census fun _ => true

theorem countP_setIfInBounds {slots : Array Slot} {i : Nat} {s : Slot} (p : Slot → Bool) (s' : Slot)
    (hs : slots[i]? = some s) :
    (slots.setIfInBounds i s').countP p + (if p s then 1 else 0) =
      slots.countP p + (if p s' then 1 else 0) := by
  obtain ⟨hi, rfl⟩ := Array.getElem?_eq_some_iff.mp hs
  have hle : (if p slots[i] then 1 else 0) ≤ slots.countP p := by
    split
    · rename_i hp
      exact Array.countP_pos_iff.mpr ⟨_, Array.getElem_mem hi, hp⟩
    · exact Nat.zero_le _
  rw [Array.setIfInBounds_def, dif_pos hi, Array.countP_set hi]
  omega

theorem census_put {r : Registry} {h : Handle} {e e' : Entry} (hl : r.lookup h = .ok e)
    {q : Entry → Bool} (hq : q e' = q e) : (r.put h e').census q = r.census q := by
  have hcount := countP_setIfInBounds (fun s => s.entry.any q) ⟨h.generation, some e'⟩
    (lookup_eq_ok.mp hl).2
  simp only [Option.any_some, hq] at hcount
  exact Nat.add_right_cancel hcount

theorem census_vacate {r : Registry} {h : Handle} {e : Entry} (hl : r.lookup h = .ok e)
    (q : Entry → Bool) : (r.vacate h).census q + (if q e then 1 else 0) = r.census q :=
  countP_setIfInBounds (fun s => s.entry.any q) _ (lookup_eq_ok.mp hl).2

theorem Sound.census_insert {r r' : Registry} {a : Address} {d : Destructor} {room : Bool} {h : Handle} (hs : r.Sound)
    (hi : r.insert a d room = .ok (h, r')) (q : Entry → Bool) :
    r'.census q = r.census q + if q ⟨a, d, .host, 0⟩ then 1 else 0 := by
  obtain ⟨_, _, _, hvac, _, _⟩ := hs.insert_vacant hi
  rcases (insert_eq_ok hi).2 with ⟨rest, slot, hf, hslot, hg, rfl⟩ | ⟨_, rfl, rfl⟩
  · rcases hvac with hv | hv
    · rw [hslot] at hv; cases hv
    · exact countP_setIfInBounds (fun s => s.entry.any q) _ hv
  · exact Array.countP_push

end Registry

namespace Note

variable [DecidableEq τ]

/-- How often the object at an address was handed to a registry with a destructor. -/
def timesHanded (t : τ) (d : Destructor) (a : Address) (notes : List (Note τ)) : Nat :=
  notes.countP fun
    | .handed u c b => u = t ∧ c = d ∧ b = a
    | _ => false

/-- How often that destructor was run on it. -/
def timesFinalized (t : τ) (d : Destructor) (a : Address) (notes : List (Note τ)) : Nat :=
  notes.countP fun
    | .discarded u c b | .dropped u _ c b => u = t ∧ c = d ∧ b = a
    | _ => false

/-- How often it was given back. -/
def timesGivenBack (t : τ) (d : Destructor) (a : Address) (notes : List (Note τ)) : Nat :=
  notes.countP fun
    | .released u _ c b => u = t ∧ c = d ∧ b = a
    | _ => false

/-- Registrations that gave a handle. -/
def registrations (t : τ) (notes : List (Note τ)) : Nat :=
  notes.countP fun
    | .registered u _ _ => u = t
    | _ => false

/-- Releases that gave an object back. -/
def releases (t : τ) (notes : List (Note τ)) : Nat :=
  notes.countP fun
    | .released u _ _ _ => u = t
    | _ => false

variable {t : τ} (d c : Destructor) (a b : Address) (h : Handle) (notes : List (Note τ))

theorem timesHanded_handed :
    timesHanded t c b (.handed t d a :: notes) = timesHanded t c b notes + if d = c ∧ a = b then 1 else 0 := by
  by_cases hab : d = c ∧ a = b <;> simp [timesHanded, hab]

theorem timesFinalized_discarded :
    timesFinalized t c b (.discarded t d a :: notes) =
      timesFinalized t c b notes + if d = c ∧ a = b then 1 else 0 := by
  by_cases hab : d = c ∧ a = b <;> simp [timesFinalized, hab]

theorem timesFinalized_dropped :
    timesFinalized t c b (.dropped t h d a :: notes) =
      timesFinalized t c b notes + if d = c ∧ a = b then 1 else 0 := by
  by_cases hab : d = c ∧ a = b <;> simp [timesFinalized, hab]

theorem timesGivenBack_released :
    timesGivenBack t c b (.released t h d a :: notes) =
      timesGivenBack t c b notes + if d = c ∧ a = b then 1 else 0 := by
  by_cases hab : d = c ∧ a = b <;> simp [timesGivenBack, hab]

theorem registrations_registered :
    registrations t (.registered t h a :: notes) = registrations t notes + 1 := by
  simp [registrations]

theorem releases_released : releases t (.released t h d a :: notes) = releases t notes + 1 := by
  simp [releases]

omit [DecidableEq τ] in
/-- A note about another type does not count. -/
theorem countP_elsewhere {p : Note τ → Bool} (hp : ∀ n, p n = true → n.type = t) {n : Note τ}
    (hn : n.type ≠ t) : (n :: notes).countP p = notes.countP p :=
  List.countP_cons_of_neg fun hpn => hn (hp n hpn)

end Note

/-- Slots, counters and notes of a type are in step. -/
structure Registry.Accounted [DecidableEq τ] (t : τ) (r : Registry) (notes : List (Note τ)) : Prop where
  objects : ∀ d a, Note.timesHanded t d a notes =
    r.holding d a + Note.timesFinalized t d a notes + Note.timesGivenBack t d a notes
  created : r.created = Note.registrations t notes
  destroyed : r.destroyed = Note.returned notes t
  released : r.released = Note.releases t notes
  occupied : r.created = r.occupied + Note.begun notes t + Note.releases t notes

namespace Registry.Accounted

variable [DecidableEq τ] {t : τ} {r r' : Registry} {notes : List (Note τ)}

theorem of_blank (name path : String) (owner : Side) :
    Accounted t { typeName := name, typePath := path, owner := owner } [] :=
  ⟨fun _ _ => rfl, rfl, rfl, rfl, rfl⟩

theorem elsewhere {n : Note τ} (hr : Accounted t r notes) (hn : n.type ≠ t) :
    Accounted t r (n :: notes) := by
  have hhanded : ∀ c b, Note.timesHanded t c b (n :: notes) = Note.timesHanded t c b notes := fun c b =>
    Note.countP_elsewhere notes (by rintro ⟨⟩ <;> simp +contextual [Note.type]) hn
  have hfinal : ∀ c b, Note.timesFinalized t c b (n :: notes) = Note.timesFinalized t c b notes := fun c b =>
    Note.countP_elsewhere notes (by rintro ⟨⟩ <;> simp +contextual [Note.type]) hn
  have hback : ∀ c b, Note.timesGivenBack t c b (n :: notes) = Note.timesGivenBack t c b notes := fun c b =>
    Note.countP_elsewhere notes (by rintro ⟨⟩ <;> simp +contextual [Note.type]) hn
  have hreg : Note.registrations t (n :: notes) = Note.registrations t notes :=
    Note.countP_elsewhere notes (by rintro ⟨⟩ <;> simp [Note.type]) hn
  have hgone : Note.releases t (n :: notes) = Note.releases t notes :=
    Note.countP_elsewhere notes (by rintro ⟨⟩ <;> simp [Note.type]) hn
  have hbegun : Note.begun (n :: notes) t = Note.begun notes t :=
    Note.countP_elsewhere notes (by rintro ⟨⟩ <;> simp [Note.type]) hn
  have hret : Note.returned (n :: notes) t = Note.returned notes t :=
    Note.countP_elsewhere notes (by rintro ⟨⟩ <;> simp [Note.type]) hn
  refine ⟨fun c b => ?_, ?_, ?_, ?_, ?_⟩
  · rw [hhanded, hfinal, hback]; exact hr.objects c b
  · rw [hreg]; exact hr.created
  · rw [hret]; exact hr.destroyed
  · rw [hgone]; exact hr.released
  · rw [hbegun, hgone]; exact hr.occupied

theorem register {a : Address} {d : Destructor} {room : Bool} {h : Handle} (hr : Accounted t r notes)
    (hs : r.Sound) (hi : r.insert a d room = .ok (h, r')) :
    Accounted t r' (.registered t h a :: .handed t d a :: notes) := by
  obtain ⟨hcreated, hdestroyed, hreleased⟩ := created_insert hi
  have hreg : Note.registrations t (.registered t h a :: .handed t d a :: notes) =
      Note.registrations t notes + 1 := Note.registrations_registered a h (.handed t d a :: notes)
  have hocc : r'.occupied = r.occupied + 1 := hs.census_insert hi fun _ => true
  refine ⟨fun c b => ?_, ?_, hdestroyed.trans hr.destroyed, hreleased.trans hr.released, ?_⟩
  · have hhanded : Note.timesHanded t c b (.registered t h a :: .handed t d a :: notes) =
        Note.timesHanded t c b notes + if d = c ∧ a = b then 1 else 0 := Note.timesHanded_handed d c a b notes
    have hheld : r'.holding c b = r.holding c b + if d = c ∧ a = b then 1 else 0 := by
      simpa [holding] using hs.census_insert hi fun e => e.destructor = c ∧ e.address = b
    have hkept : Note.timesFinalized t c b (.registered t h a :: .handed t d a :: notes) =
        Note.timesFinalized t c b notes ∧
        Note.timesGivenBack t c b (.registered t h a :: .handed t d a :: notes) =
          Note.timesGivenBack t c b notes := ⟨rfl, rfl⟩
    rw [hhanded, hheld, hkept.1, hkept.2, hr.objects c b]
    omega
  · rw [hcreated, hreg, hr.created]
  · have hkept : Note.begun (.registered t h a :: .handed t d a :: notes) t = Note.begun notes t ∧
        Note.releases t (.registered t h a :: .handed t d a :: notes) = Note.releases t notes := ⟨rfl, rfl⟩
    rw [hcreated, hocc, hkept.1, hkept.2, hr.occupied]
    omega

theorem discard (hr : Accounted t r notes) (d : Destructor) (a : Address) :
    Accounted t r (.discarded t d a :: .handed t d a :: notes) := by
  refine ⟨fun c b => ?_, hr.created, hr.destroyed, hr.released, hr.occupied⟩
  have hhanded : Note.timesHanded t c b (.discarded t d a :: .handed t d a :: notes) =
      Note.timesHanded t c b notes + if d = c ∧ a = b then 1 else 0 := Note.timesHanded_handed d c a b notes
  have hfinal : Note.timesFinalized t c b (.discarded t d a :: .handed t d a :: notes) =
      Note.timesFinalized t c b notes + if d = c ∧ a = b then 1 else 0 :=
    Note.timesFinalized_discarded d c a b (.handed t d a :: notes)
  have hback : Note.timesGivenBack t c b (.discarded t d a :: .handed t d a :: notes) =
      Note.timesGivenBack t c b notes := rfl
  rw [hhanded, hfinal, hback, hr.objects c b]
  omega

/-- What is left in the slots when an object is taken out. -/
theorem holding_vacate {h : Handle} {e : Entry} (hl : r.lookup h = .ok e) (c : Destructor) (b : Address) :
    (r.vacate h).holding c b + (if e.destructor = c ∧ e.address = b then 1 else 0) = r.holding c b := by
  simpa [holding] using census_vacate hl fun e => e.destructor = c ∧ e.address = b

theorem drop {h : Handle} {e : Entry} (hr : Accounted t r notes) (hl : r.lookup h = .ok e) :
    Accounted t (r.vacate h) (.dropped t h e.destructor e.address :: notes) := by
  refine ⟨fun c b => ?_, hr.created, hr.destroyed, hr.released, ?_⟩
  · have hhanded : Note.timesHanded t c b (.dropped t h e.destructor e.address :: notes) =
        Note.timesHanded t c b notes := rfl
    have hback : Note.timesGivenBack t c b (.dropped t h e.destructor e.address :: notes) =
        Note.timesGivenBack t c b notes := rfl
    rw [hhanded, hback, Note.timesFinalized_dropped, hr.objects c b, ← holding_vacate hl c b]
    omega
  · have hocc : (r.vacate h).occupied + 1 = r.occupied := census_vacate hl fun _ => true
    have hgone : Note.releases t (.dropped t h e.destructor e.address :: notes) = Note.releases t notes := rfl
    have hcreated : (r.vacate h).created = r.created := rfl
    rw [hcreated, hgone, Note.begun_dropped, if_pos rfl, hr.occupied, ← hocc]
    omega

theorem returned (hr : Accounted t r notes) (h : Handle) :
    Accounted t r.noteDestroyed (.destroyed t h :: notes) := by
  refine ⟨hr.objects, hr.created, ?_, hr.released, hr.occupied⟩
  rw [Note.returned_destroyed, if_pos rfl, ← hr.destroyed]
  rfl

theorem release {h : Handle} {e : Entry} (hr : Accounted t r notes) (hl : r.lookup h = .ok e) :
    Accounted t { r.vacate h with released := r.released + 1 }
      (.released t h e.destructor e.address :: notes) := by
  refine ⟨fun c b => ?_, hr.created, hr.destroyed, ?_, ?_⟩
  · have hhanded : Note.timesHanded t c b (.released t h e.destructor e.address :: notes) =
        Note.timesHanded t c b notes := rfl
    have hfinal : Note.timesFinalized t c b (.released t h e.destructor e.address :: notes) =
        Note.timesFinalized t c b notes := rfl
    have hheld : ({ r.vacate h with released := r.released + 1 } : Registry).holding c b =
        (r.vacate h).holding c b := rfl
    rw [hhanded, hfinal, hheld, Note.timesGivenBack_released, hr.objects c b, ← holding_vacate hl c b]
    omega
  · rw [Note.releases_released, ← hr.released]
  · have hocc : (r.vacate h).occupied + 1 = r.occupied := census_vacate hl fun _ => true
    have hleft : ({ r.vacate h with released := r.released + 1 } : Registry).occupied =
        (r.vacate h).occupied := rfl
    have hbegun : Note.begun (.released t h e.destructor e.address :: notes) t = Note.begun notes t := rfl
    have hcreated : (r.vacate h).created = r.created := rfl
    rw [hcreated, hleft, hbegun, Note.releases_released, hr.occupied, ← hocc]
    omega

theorem put {h : Handle} {e e' : Entry} (hr : Accounted t r notes) (hl : r.lookup h = .ok e)
    (ha : e'.address = e.address) (hd : e'.destructor = e.destructor) : Accounted t (r.put h e') notes := by
  have hheld : ∀ c b, (r.put h e').holding c b = r.holding c b := fun c b => census_put hl (by simp only [ha, hd])
  have hocc : (r.put h e').occupied = r.occupied := census_put hl rfl
  refine ⟨fun c b => ?_, hr.created, hr.destroyed, hr.released, ?_⟩
  · rw [hheld c b]; exact hr.objects c b
  · rw [hocc]; exact hr.occupied

/-- Every change keeps slots, counters and notes in step. -/
theorem change {notes' : List (Note τ)} (hr : Accounted t r notes) (hs : r.Sound)
    (hc : Change t (r, notes) (r', notes')) : Accounted t r' notes' := by
  cases hc with
  | elsewhere n hn => exact hr.elsewhere hn
  | register howner hi => exact hr.register hs hi
  | discard d a => exact hr.discard d a
  | drop hl => exact hr.drop hl
  | destroyed h => exact hr.returned h
  | release hl => exact hr.release hl
  | put hl ha hd => exact hr.put hl ha hd

end Registry.Accounted

/-- After every run from empty registries: an object was handed over with its destructor as often as it is held, that
destructor was run on it and it was given back, so one handed over once is in one slot, or its destructor has run
once, or it was given back once, and no destructor runs on an object that did not come with it. The counters count the
registrations, destructions and releases that succeeded, and the live objects are those in the slots and those whose
destruction is under way, of which there are none once the run has returned. -/
theorem every_object_accounted_for [DecidableEq τ] {direct : Bool} (p : Program τ β σ direct 0 α)
    (D : Destructors τ β σ direct) (w₀ : World τ (Note τ) β σ) (hw₀ : w₀.Start) (t : τ) :
    let w := (p.exec D w₀).2
    let r := w.registries t
    (∀ d a, Note.timesHanded t d a w.notes =
        r.holding d a + Note.timesFinalized t d a w.notes + Note.timesGivenBack t d a w.notes) ∧
      (∀ d a, Note.timesHanded t d a w.notes = 1 →
        (r.holding d a = 1 ∧ Note.timesFinalized t d a w.notes = 0 ∧ Note.timesGivenBack t d a w.notes = 0) ∨
        (r.holding d a = 0 ∧ Note.timesFinalized t d a w.notes = 1 ∧ Note.timesGivenBack t d a w.notes = 0) ∨
        (r.holding d a = 0 ∧ Note.timesFinalized t d a w.notes = 0 ∧ Note.timesGivenBack t d a w.notes = 1)) ∧
      (∀ d a, Note.timesHanded t d a w.notes = 0 →
        r.holding d a = 0 ∧ Note.timesFinalized t d a w.notes = 0 ∧ Note.timesGivenBack t d a w.notes = 0) ∧
      r.created = Note.registrations t w.notes ∧
      r.destroyed = Note.returned w.notes t ∧
      r.released = Note.releases t w.notes ∧
      r.live + r.destroyed + r.released = r.created ∧
      Note.returned w.notes t ≤ Note.begun w.notes t ∧
      r.live = r.occupied + (Note.begun w.notes t - Note.returned w.notes t) ∧
      ((p.exec D w₀).1.isAbort = false → r.live = r.occupied) := by
  intro w r
  have hacc : Registry.Accounted t r w.notes :=
    p.keeps D hw₀ t Registry.Accounted.of_blank fun _ _ _ _ hs hc hr => hr.change hs hc
  have hcourse := p.exec_course D w₀
  have hnone : Note.underway w₀.point.notes t = 0 := by
    rw [show w₀.point.notes = [] from hw₀.notes]
    rfl
  have hunder : 0 ≤ Note.underway w.notes t := hnone ▸ hcourse.underway t
  have hle : Note.returned w.notes t ≤ Note.begun w.notes t := by
    unfold Note.underway at hunder
    omega
  have hcre := hacc.created
  have hocc := hacc.occupied
  have hlive : r.live = r.occupied + (Note.begun w.notes t - Note.returned w.notes t) := by
    rw [Registry.live, hocc, hacc.destroyed, hacc.released]
    omega
  refine ⟨hacc.objects, fun d a ha => ?_, fun d a ha => ?_, hcre, hacc.destroyed, hacc.released, ?_, hle, hlive,
    fun hended => ?_⟩
  · have hsum := hacc.objects d a
    omega
  · have hsum := hacc.objects d a
    omega
  · rw [hlive, hacc.destroyed, hacc.released, hocc]
    omega
  · have hsettled : Note.underway w.notes t = 0 := ((hcourse.settled hended).1 t).trans hnone
    unfold Note.underway at hsettled
    omega

/-- Go on after a refusal. -/
def ignore : Outcome Handle → Outcome Unit
  | .ok _ | .fail _ => .ok ()
  | .panic m => .panic m
  | .abort e => .abort e

/-- The function at 7 destroys the object that the second handle names. -/
def chained : Destructors ObjectType Unit Unit false where
  body _ d _ := if d = .foreign 7 then .destroy .obj ⟨1, 1⟩ .host else .done
  depth := 2

/-- One object is adopted on the wrong side, one comes from a constructor that raises an error and for one there is no
memory. Of the others one is given back, and one is destroyed by the destructor of another. -/
def ledger : Program ObjectType Unit Unit false 0 Unit :=
  .bind (.recover ignore (fun _ => rfl) (.adopt .obj 8 5 true)) fun _ =>
  .bind (.recover ignore (fun _ => rfl) (.construct .ext 5 true
    (.idle (pure (16, .holding ⟨1, .ofText "refused"⟩)) (Act.idle_pure _)))) fun _ =>
  .bind (.recover ignore (fun _ => rfl) (.create .obj 20 (some 4) true)) fun _ =>
  .bind (.create .obj 24 none true) fun h =>
  .bind (.create .obj 32 none true) fun _ =>
  .bind (.adopt .ext 40 7 true) fun k =>
  .bind (.release .obj h .host) fun _ =>
  .destroy .ext k .host

theorem ledger_notes : (ledger.exec chained ObjectType.world).2.notes =
    [.destroyed .ext ⟨0, 1⟩, .destroyed .obj ⟨1, 1⟩, .dropped .obj ⟨1, 1⟩ .native 32,
      .dropped .ext ⟨0, 1⟩ (.foreign 7) 40, .released .obj ⟨0, 1⟩ .native 24, .registered .ext ⟨0, 1⟩ 40,
      .handed .ext (.foreign 7) 40, .registered .obj ⟨1, 1⟩ 32, .handed .obj .native 32,
      .registered .obj ⟨0, 1⟩ 24, .handed .obj .native 24, .discarded .obj .native 20, .handed .obj .native 20,
      .discarded .ext (.foreign 5) 16, .handed .ext (.foreign 5) 16, .discarded .obj (.foreign 5) 8,
      .handed .obj (.foreign 5) 8] := by
  decide +kernel

theorem every_object_accounted_for_in_ledger :
    let w := (ledger.exec chained ObjectType.world).2
    (w.registries .obj).holding (.foreign 5) 8 = 0 ∧ (w.registries .obj).holding .native 20 = 0 ∧
      (w.registries .obj).holding .native 24 = 0 ∧ (w.registries .obj).holding .native 32 = 0 ∧
      (w.registries .ext).holding (.foreign 5) 16 = 0 ∧ Note.timesFinalized .ext (.foreign 5) 40 w.notes = 0 ∧
      (w.registries .obj).created = 2 ∧ (w.registries .obj).destroyed = 1 ∧ (w.registries .obj).released = 1 := by
  have hobj := every_object_accounted_for ledger chained ObjectType.world ObjectType.start_world .obj
  have hext := every_object_accounted_for ledger chained ObjectType.world ObjectType.start_world .ext
  have hnotes := ledger_notes
  revert hobj hext hnotes
  generalize (ledger.exec chained ObjectType.world).2 = w
  rintro ⟨hobj, _, _, hcre, hdes, hrel, _⟩ ⟨hext, _, hnever, _⟩ hnotes
  rw [hnotes] at hobj hext hnever hcre hdes hrel
  have h8 : 1 = (w.registries .obj).holding (.foreign 5) 8 + 1 + 0 := hobj (.foreign 5) 8
  have h20 : 1 = (w.registries .obj).holding .native 20 + 1 + 0 := hobj .native 20
  have h24 : 1 = (w.registries .obj).holding .native 24 + 0 + 1 := hobj .native 24
  have h32 : 1 = (w.registries .obj).holding .native 32 + 1 + 0 := hobj .native 32
  have h16 : 1 = (w.registries .ext).holding (.foreign 5) 16 + 1 + 0 := hext (.foreign 5) 16
  refine ⟨by omega, by omega, by omega, by omega, by omega, ?_, hcre, hdes, hrel⟩
  rw [hnotes]
  exact (hnever (.foreign 5) 40 rfl).2.1

end Causeway
