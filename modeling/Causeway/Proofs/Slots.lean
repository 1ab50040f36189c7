import Causeway.Registry

/-!
# Causeway.Proofs.Slots

What the operations of a registry do to its slots, seen through `lookup`.

* `Registry.Sound`  — the invariant that ties the slots to the list of vacant ones.
* `Registry.Past`   — the slot of a handle has moved on to a later generation.
* `Registry.vacate` — the registry after an object was taken out.
* `lookup_put`, `lookup_vacate`, `lookup_insert` — what each change means for every handle.

A handle carries the generation its slot has when it is issued, and no operation lowers the generation of
a slot. A handle that is past stays past, and `insert` never returns one that is past or names an object.
-/

namespace Causeway

@[simp] theorem Registries.set_same {τ : Type} [DecidableEq τ] (rs : Registries τ) (t : τ)
    (r : Registry) : rs.set t r t = r := by
  simp [Registries.set]

@[simp] theorem Registries.set_other {τ : Type} [DecidableEq τ] (rs : Registries τ) {t u : τ}
    (r : Registry) (h : u ≠ t) : rs.set t r u = rs u := by
  simp [Registries.set, h]

theorem Registries.set_set {τ : Type} [DecidableEq τ] (rs : Registries τ) (t : τ) (r r' : Registry) :
    (rs.set t r).set t r' = rs.set t r' := by
  funext u
  by_cases hu : u = t
  · subst hu
    rw [Registries.set_same, Registries.set_same]
  · rw [Registries.set_other _ _ hu, Registries.set_other _ _ hu, Registries.set_other _ _ hu]

theorem Registries.set_self {τ : Type} [DecidableEq τ] (rs : Registries τ) (t : τ) : rs.set t (rs t) = rs := by
  funext u
  by_cases hu : u = t
  · subst hu
    rw [Registries.set_same]
  · rw [Registries.set_other _ _ hu]

namespace Registry

/-- The representation invariant. The vacant slots that have generations left are listed once each, and an
occupied slot has at least one generation left. -/
structure Sound (r : Registry) : Prop where
  free_nodup : r.free.Nodup
  free_iff : ∀ i : Nat, i ∈ r.free ↔ ∃ g, r.slots[i]? = some ⟨g, none⟩ ∧ g ≠ lastGeneration
  generation : ∀ (i : Nat) (s : Slot), r.slots[i]? = some s →
    0 < s.generation ∧ s.generation ≤ lastGeneration
  occupied : ∀ (i g : Nat) (e : Entry), r.slots[i]? = some ⟨g, some e⟩ →
    g < lastGeneration ∧ e.address ≠ 0

/-- The slot of the handle is at a later generation. -/
def Past (r : Registry) (h : Handle) : Prop :=
  ∃ s, r.slots[h.index]? = some s ∧ h.generation < s.generation

/-- The registry after the object of a handle was taken out. -/
def vacate (r : Registry) (h : Handle) : Registry :=
  let generation := (h.generation + 1) % counterLimit
  { r with
    slots := r.slots.setIfInBounds h.index ⟨generation, none⟩
    free := if generation = lastGeneration then r.free else h.index :: r.free }

/-! ## Looking up -/

theorem lookup_eq_ok {r : Registry} {h : Handle} {e : Entry} :
    r.lookup h = .ok e ↔ h.generation ≠ 0 ∧ r.slots[h.index]? = some ⟨h.generation, some e⟩ := by
  unfold lookup
  by_cases hn : h.generation = 0
  · simp [Handle.isNull, hn]
  · simp only [Handle.isNull, hn, decide_false, Bool.false_eq_true, ↓reduceIte, ne_eq, not_false_eq_true,
      true_and]
    split
    · rename_i g e' hs
      rw [hs]
      by_cases hg : g = h.generation <;> simp [hg]
    · rename_i hs
      simp only [reduceCtorEq, false_iff]
      exact hs _ _

theorem isNull_of_lookup {r : Registry} {h : Handle} {e : Entry} (hl : r.lookup h = .ok e) : h.isNull = false := by
  simpa [Handle.isNull] using (lookup_eq_ok.mp hl).1

theorem Sound.address_ne_zero {r : Registry} (hs : r.Sound) {h : Handle} {e : Entry} (hl : r.lookup h = .ok e) :
    e.address ≠ 0 :=
  (hs.occupied _ _ _ (lookup_eq_ok.mp hl).2).2

/-- A handle that names nothing is refused as null or as stale. -/
theorem lookup_eq_error {r : Registry} {h : Handle} {x : Refusal} (hx : r.lookup h = .error x) :
    x = .null r.typeName ∨ x = .stale r.typeName h := by
  unfold lookup at hx
  split at hx
  · cases hx; exact .inl rfl
  · split at hx
    · split at hx <;> cases hx
      exact .inr rfl
    · cases hx; exact .inr rfl

theorem lookup_error_failure {r : Registry} {h : Handle} {x : Refusal} (hx : r.lookup h = .error x) :
    ∃ m, x.failure = .lifetime m := by
  rcases lookup_eq_error hx with rfl | rfl <;> exact ⟨_, rfl⟩

theorem lookup_congr {r r' : Registry} {h : Handle} (hn : r'.typeName = r.typeName)
    (hs : r'.slots[h.index]? = r.slots[h.index]?) : r'.lookup h = r.lookup h := by
  unfold lookup
  rw [hn, hs]

theorem lookup_stale {r : Registry} {h : Handle} (hg : h.generation ≠ 0)
    (hs : ∀ e, r.slots[h.index]? ≠ some ⟨h.generation, some e⟩) :
    r.lookup h = .error (.stale r.typeName h) := by
  cases hl : r.lookup h with
  | ok e => exact absurd (lookup_eq_ok.mp hl).2 (hs e)
  | error x =>
    rcases lookup_eq_error hl with rfl | rfl
    · unfold lookup at hl
      simp only [Handle.isNull, hg, decide_false, Bool.false_eq_true, ↓reduceIte] at hl
      split at hl
      · split at hl <;> cases hl
      · cases hl
    · rfl

theorem lookup_null {r : Registry} {h : Handle} (hg : h.generation = 0) :
    r.lookup h = .error (.null r.typeName) := by
  simp [lookup, Handle.isNull, hg]

/-- Two handles that name nothing in registries of one name are refused alike. -/
theorem lookup_refused_congr {r r' : Registry} {h : Handle} (hn : r'.typeName = r.typeName)
    (hs : ∀ e, r.slots[h.index]? ≠ some ⟨h.generation, some e⟩)
    (hs' : ∀ e, r'.slots[h.index]? ≠ some ⟨h.generation, some e⟩) : r'.lookup h = r.lookup h := by
  by_cases hg : h.generation = 0
  · rw [lookup_null hg, lookup_null hg, hn]
  · rw [lookup_stale hg hs, lookup_stale hg hs', hn]

/-! ## What each operation does when it is not refused -/

theorem insert_eq_ok {r r' : Registry} {a : Address} {d : Destructor} {room : Bool} {h : Handle}
    (hi : r.insert a d room = .ok (h, r')) :
    a ≠ 0 ∧
    ((∃ rest slot, r.free = h.index :: rest ∧ r.slots[h.index]? = some slot ∧
        h.generation = slot.generation ∧
        r' = { r with
          slots := r.slots.setIfInBounds h.index ⟨h.generation, some ⟨a, d, .host, 0⟩⟩
          free := rest
          created := r.created + 1 }) ∨
      (r.free = [] ∧ h = ⟨r.slots.size, 1⟩ ∧
        r' = { r with
          slots := r.slots.push ⟨1, some ⟨a, d, .host, 0⟩⟩
          created := r.created + 1 })) := by
  simp only [insert] at hi
  split at hi
  · cases hi
  · rename_i ha
    refine ⟨ha, ?_⟩
    split at hi
    · rename_i i rest hf
      split at hi
      · rename_i slot hs
        cases hi
        exact .inl ⟨rest, slot, hf, hs, rfl, rfl⟩
      · cases hi
    · rename_i hf
      split at hi
      · cases hi
      · split at hi
        · cases hi
          exact .inr ⟨hf, rfl, rfl⟩
        · cases hi

theorem created_insert {r r' : Registry} {a : Address} {d : Destructor} {room : Bool} {h : Handle}
    (hi : r.insert a d room = .ok (h, r')) :
    r'.created = r.created + 1 ∧ r'.destroyed = r.destroyed ∧ r'.released = r.released := by
  rcases (insert_eq_ok hi).2 with ⟨_, _, _, _, _, rfl⟩ | ⟨_, _, rfl⟩ <;> exact ⟨rfl, rfl, rfl⟩

theorem owner_insert {r r' : Registry} {a : Address} {d : Destructor} {room : Bool} {h : Handle}
    (hi : r.insert a d room = .ok (h, r')) : r'.owner = r.owner := by
  rcases (insert_eq_ok hi).2 with ⟨_, _, _, _, _, rfl⟩ | ⟨_, _, rfl⟩ <;> rfl

theorem remove_eq_ok {r r' : Registry} {h : Handle} {claimant : Side} {e : Entry} :
    r.remove h claimant = .ok (e, r') ↔
      r.lookup h = .ok e ∧ e.holder = claimant ∧ e.loans = 0 ∧ r' = r.vacate h := by
  unfold remove
  cases hl : r.lookup h with
  | error x => simp
  | ok entry =>
    by_cases hh : entry.holder = claimant
    · by_cases hn : entry.loans = 0
      · simp only
        rw [if_neg (by simp [hh]), if_neg (by omega), Except.ok.injEq, Prod.mk.injEq]
        constructor
        · rintro ⟨rfl, rfl⟩
          exact ⟨rfl, hh, hn, rfl⟩
        · rintro ⟨he, _, _, rfl⟩
          cases he
          exact ⟨rfl, rfl⟩
      · have hpos : 0 < entry.loans := Nat.pos_of_ne_zero hn
        simp only [hh, ne_eq, not_true_eq_false, ↓reduceIte, hpos, reduceCtorEq, Except.ok.injEq, false_iff]
        rintro ⟨rfl, _, h0, _⟩
        exact hn h0
    · simp only [ne_eq, hh, not_false_eq_true, ↓reduceIte, reduceCtorEq, Except.ok.injEq, false_iff]
      rintro ⟨rfl, hc, _⟩
      exact hh hc

theorem release_eq_ok {r r' : Registry} {h : Handle} {claimant : Side} {a : Address}
    (hr : r.release h claimant = .ok (a, r')) :
    ∃ e, r.lookup h = .ok e ∧ e.holder = claimant ∧ e.loans = 0 ∧ a = e.address ∧
      r' = { r.vacate h with released := r.released + 1 } := by
  unfold release at hr
  split at hr
  · cases hr
  · rename_i e r₁ hm
    cases hr
    obtain ⟨hl, hh, hn, rfl⟩ := remove_eq_ok.mp hm
    exact ⟨e, hl, hh, hn, rfl, rfl⟩

theorem lend_eq_ok {r r' : Registry} {h : Handle} (hr : r.lend h = .ok r') :
    ∃ e, r.lookup h = .ok e ∧ r' = r.put h { e with loans := e.loans + 1 } := by
  unfold lend at hr
  split at hr
  · cases hr
  · rename_i e hl
    split at hr <;> cases hr
    exact ⟨e, hl, rfl⟩

theorem endLoan_eq_ok {r r' : Registry} {h : Handle} :
    r.endLoan h = .ok r' ↔
      ∃ e, r.lookup h = .ok e ∧ e.loans ≠ 0 ∧ r' = r.put h { e with loans := e.loans - 1 } := by
  unfold endLoan
  cases hl : r.lookup h with
  | error x => simp
  | ok entry =>
    by_cases hn : entry.loans = 0
    · simp [hn]
    · simp only [hn, ↓reduceIte, Except.ok.injEq]
      constructor
      · rintro rfl
        exact ⟨entry, rfl, hn, rfl⟩
      · rintro ⟨e, rfl, _, rfl⟩
        rfl

theorem transfer_eq_ok {r r' : Registry} {h : Handle} {giver taker : Side} :
    r.transfer h giver taker = .ok r' ↔
      ∃ e, r.lookup h = .ok e ∧ e.holder = giver ∧ e.loans = 0 ∧
        r' = r.put h { e with holder := taker } := by
  unfold transfer
  cases hl : r.lookup h with
  | error x => simp
  | ok entry =>
    by_cases hh : entry.holder = giver
    · by_cases hn : entry.loans = 0
      · simp only
        rw [if_neg (by simp [hh]), if_neg (by omega), Except.ok.injEq]
        constructor
        · rintro rfl
          exact ⟨entry, rfl, hh, hn, rfl⟩
        · rintro ⟨e, he, _, _, rfl⟩
          cases he
          rfl
      · have hpos : 0 < entry.loans := Nat.pos_of_ne_zero hn
        simp only [hh, ne_eq, not_true_eq_false, ↓reduceIte, hpos, reduceCtorEq, Except.ok.injEq, false_iff]
        rintro ⟨e, rfl, _, h0, _⟩
        exact hn h0
    · simp only [ne_eq, hh, not_false_eq_true, ↓reduceIte, reduceCtorEq, Except.ok.injEq, false_iff]
      rintro ⟨e, rfl, hc, _⟩
      exact hh hc

/-! ## Each change seen through `lookup` -/

theorem index_lt_of_lookup {r : Registry} {h : Handle} {e : Entry} (hl : r.lookup h = .ok e) :
    h.index < r.slots.size :=
  (Array.getElem?_eq_some_iff.mp (lookup_eq_ok.mp hl).2).1

/-- A change of the slot of `h` that keeps other handles of that slot unnamed is a change of `h` only. -/
theorem lookup_other {r r' : Registry} {h k : Handle} (hk : k ≠ h) (hn : r'.typeName = r.typeName)
    (hslot : ∀ i, i ≠ h.index → r'.slots[i]? = r.slots[i]?)
    (hr : ∀ g e, r.slots[h.index]? = some ⟨g, some e⟩ → g = h.generation)
    (hr' : ∀ g e, r'.slots[h.index]? = some ⟨g, some e⟩ → g = h.generation) :
    r'.lookup k = r.lookup k := by
  by_cases hi : k.index = h.index
  · -- one slot, so the generations differ and neither registry knows `k`
    have hg : k.generation ≠ h.generation := by
      intro hg
      cases h; cases k
      exact hk (by simp_all)
    refine lookup_refused_congr hn ?_ ?_
    · intro e he
      exact hg (hr _ e (hi ▸ he))
    · intro e he
      exact hg (hr' _ e (hi ▸ he))
  · exact lookup_congr hn (hslot _ hi)

theorem getElem?_put {r : Registry} {h : Handle} {e : Entry} (hl : r.lookup h = .ok e) (e' : Entry) :
    (r.put h e').slots[h.index]? = some ⟨h.generation, some e'⟩ :=
  Array.getElem?_setIfInBounds_self_of_lt (index_lt_of_lookup hl)

theorem getElem?_put_ne {r : Registry} {h : Handle} (e' : Entry) (i : Nat) (hi : i ≠ h.index) :
    (r.put h e').slots[i]? = r.slots[i]? :=
  Array.getElem?_setIfInBounds_ne (Ne.symm hi)

theorem getElem?_vacate {r : Registry} {h : Handle} {e : Entry} (hl : r.lookup h = .ok e) :
    (r.vacate h).slots[h.index]? = some ⟨(h.generation + 1) % counterLimit, none⟩ :=
  Array.getElem?_setIfInBounds_self_of_lt (index_lt_of_lookup hl)

theorem getElem?_vacate_ne {r : Registry} {h : Handle} (i : Nat) (hi : i ≠ h.index) :
    (r.vacate h).slots[i]? = r.slots[i]? :=
  Array.getElem?_setIfInBounds_ne (Ne.symm hi)

theorem lookup_put {r : Registry} {h : Handle} {e : Entry} (hl : r.lookup h = .ok e) (e' : Entry)
    (k : Handle) : (r.put h e').lookup k = if k = h then .ok e' else r.lookup k := by
  obtain ⟨hg, hs⟩ := lookup_eq_ok.mp hl
  split
  · rename_i hk
    subst hk
    exact lookup_eq_ok.mpr ⟨hg, getElem?_put hl e'⟩
  · rename_i hk
    refine lookup_other hk rfl (getElem?_put_ne e') ?_ ?_
    · intro g x hx
      rw [hs] at hx; cases hx; rfl
    · intro g x hx
      rw [getElem?_put hl e'] at hx; cases hx; rfl

theorem put_lookup {r : Registry} {h : Handle} {e : Entry} (hl : r.lookup h = .ok e) : r.put h e = r := by
  have hslots : r.slots.setIfInBounds h.index ⟨h.generation, some e⟩ = r.slots := by
    refine Array.ext_getElem? fun i => ?_
    by_cases hi : i = h.index
    · rw [hi, Array.getElem?_setIfInBounds_self_of_lt (index_lt_of_lookup hl)]
      exact (lookup_eq_ok.mp hl).2.symm
    · rw [Array.getElem?_setIfInBounds_ne (Ne.symm hi)]
  unfold put
  rw [hslots]

theorem put_put (r : Registry) (h : Handle) (e e' : Entry) : (r.put h e).put h e' = r.put h e' := by
  unfold put
  rw [Array.setIfInBounds_setIfInBounds]

/-- Ending a loan right after it was made undoes it. -/
theorem endLoan_lend {r r' : Registry} {h : Handle} (hr : r.lend h = .ok r') : r'.endLoan h = .ok r := by
  obtain ⟨e, hl, rfl⟩ := lend_eq_ok hr
  have hlent : (r.put h { e with loans := e.loans + 1 }).lookup h = .ok { e with loans := e.loans + 1 } := by
    rw [lookup_put hl, if_pos rfl]
  refine endLoan_eq_ok.mpr ⟨_, hlent, Nat.succ_ne_zero _, ?_⟩
  rw [put_put]
  exact (put_lookup hl).symm

theorem lookup_vacate {r : Registry} {h : Handle} {e : Entry} (hl : r.lookup h = .ok e) (k : Handle) :
    (r.vacate h).lookup k = if k = h then .error (.stale r.typeName h) else r.lookup k := by
  obtain ⟨hg, hs⟩ := lookup_eq_ok.mp hl
  split
  · rename_i hk
    subst hk
    exact lookup_stale hg (fun x => by rw [getElem?_vacate hl]; simp)
  · rename_i hk
    refine lookup_other hk rfl getElem?_vacate_ne ?_ ?_
    · intro g x hx
      rw [hs] at hx; cases hx; rfl
    · intro g x hx
      rw [getElem?_vacate hl] at hx; cases hx

/-- What `insert` finds in the slot it uses: nothing that a handle could name. -/
theorem Sound.insert_vacant {r r' : Registry} {a : Address} {d : Destructor} {room : Bool} {h : Handle} (hs : r.Sound)
    (hi : r.insert a d room = .ok (h, r')) :
    h.generation ≠ 0 ∧ h.generation < lastGeneration ∧ r'.typeName = r.typeName ∧
      (r.slots[h.index]? = none ∨ r.slots[h.index]? = some ⟨h.generation, none⟩) ∧
      r'.slots[h.index]? = some ⟨h.generation, some ⟨a, d, .host, 0⟩⟩ ∧
      ∀ i, i ≠ h.index → r'.slots[i]? = r.slots[i]? := by
  rcases (insert_eq_ok hi).2 with ⟨rest, slot, hf, hslot, hg, rfl⟩ | ⟨_, rfl, rfl⟩
  · obtain ⟨g, hfree, hlast⟩ := (hs.free_iff h.index).mp (by rw [hf]; exact List.mem_cons_self)
    rw [hslot] at hfree
    cases hfree
    have hpos := hs.generation _ _ hslot
    simp only at hg hpos
    refine ⟨by omega, by omega, rfl, .inr (by rw [hslot, hg]), ?_, ?_⟩
    · exact Array.getElem?_setIfInBounds_self_of_lt (Array.getElem?_eq_some_iff.mp hslot).1
    · intro i hne
      exact Array.getElem?_setIfInBounds_ne (Ne.symm hne)
  · refine ⟨Nat.one_ne_zero, (by decide : 1 < lastGeneration), rfl, .inl (by simp), by simp, ?_⟩
    intro i hne
    rw [Array.getElem?_push, if_neg hne]

theorem lookup_insert {r r' : Registry} {a : Address} {d : Destructor} {room : Bool} {h : Handle} (hs : r.Sound)
    (hi : r.insert a d room = .ok (h, r')) (k : Handle) :
    r'.lookup k = if k = h then .ok ⟨a, d, .host, 0⟩ else r.lookup k := by
  obtain ⟨hg, _, hn, hvac, hnew, hother⟩ := hs.insert_vacant hi
  split
  · rename_i hk
    subst hk
    exact lookup_eq_ok.mpr ⟨hg, hnew⟩
  · rename_i hk
    refine lookup_other hk hn hother ?_ ?_
    · intro g x hx
      rcases hvac with hv | hv <;> rw [hv] at hx <;> cases hx
    · intro g x hx
      rw [hnew] at hx; cases hx; rfl

/-! ## The invariant -/

/-- The invariant is about slots and vacant slots only. -/
theorem Sound.congr {r r' : Registry} (hs : r.Sound) (hslots : r'.slots = r.slots)
    (hfree : r'.free = r.free) : r'.Sound := by
  constructor
  · rw [hfree]; exact hs.free_nodup
  · intro i; rw [hslots, hfree]; exact hs.free_iff i
  · intro i s; rw [hslots]; exact hs.generation i s
  · intro i g e; rw [hslots]; exact hs.occupied i g e

theorem sound_of_empty {r : Registry} (hslots : r.slots = #[]) (hfree : r.free = []) : r.Sound := by
  constructor <;> simp [hslots, hfree]

/-- A change of one slot keeps the invariant if that slot is well formed and listed as it should be. -/
theorem Sound.of_slot {r r' : Registry} {i : Nat} {s : Slot} (hs : r.Sound)
    (hslot : r'.slots[i]? = some s) (hother : ∀ j, j ≠ i → r'.slots[j]? = r.slots[j]?)
    (hnodup : r'.free.Nodup) (hfree : ∀ j, j ≠ i → (j ∈ r'.free ↔ j ∈ r.free))
    (hlisted : i ∈ r'.free ↔ s.entry = none ∧ s.generation ≠ lastGeneration)
    (hgen : 0 < s.generation ∧ s.generation ≤ lastGeneration)
    (hocc : ∀ e, s.entry = some e → s.generation < lastGeneration ∧ e.address ≠ 0) : r'.Sound := by
  constructor
  · exact hnodup
  · intro j
    by_cases hj : j = i
    · subst hj
      rw [hlisted, hslot]
      constructor
      · rintro ⟨he, hg⟩
        exact ⟨s.generation, by rw [← he], hg⟩
      · rintro ⟨g, hg, hne⟩
        cases hg
        exact ⟨rfl, hne⟩
    · rw [hfree j hj, hother j hj]; exact hs.free_iff j
  · intro j s' hj'
    by_cases hj : j = i
    · subst hj
      rw [hslot] at hj'; cases hj'; exact hgen
    · rw [hother j hj] at hj'; exact hs.generation j s' hj'
  · intro j g e hj'
    by_cases hj : j = i
    · subst hj
      rw [hslot] at hj'; cases hj'; exact hocc e rfl
    · rw [hother j hj] at hj'; exact hs.occupied j g e hj'

theorem Sound.put {r : Registry} {h : Handle} {e : Entry} (hs : r.Sound) (hl : r.lookup h = .ok e)
    {e' : Entry} (ha : e'.address = e.address) : (r.put h e').Sound := by
  have hslot := (lookup_eq_ok.mp hl).2
  have hocc := hs.occupied _ _ _ hslot
  have hgen := hs.generation _ _ hslot
  refine hs.of_slot (getElem?_put hl e') (getElem?_put_ne e') hs.free_nodup (fun _ _ => Iff.rfl) ?_
    hgen ?_
  · have hlisted := hs.free_iff h.index
    rw [hslot] at hlisted
    simpa [Registry.put] using hlisted
  · intro x hx
    cases hx
    rw [ha]; exact hocc

/-- An occupied slot has a generation left, so counting it up does not wrap. -/
theorem Sound.next_generation {r : Registry} {h : Handle} {e : Entry} (hs : r.Sound)
    (hl : r.lookup h = .ok e) :
    (h.generation + 1) % counterLimit = h.generation + 1 ∧ h.generation + 1 ≤ lastGeneration := by
  have hlt := (hs.occupied _ _ _ (lookup_eq_ok.mp hl).2).1
  have hlimit : lastGeneration < counterLimit := by decide
  exact ⟨Nat.mod_eq_of_lt (by omega), hlt⟩

theorem Sound.vacate {r : Registry} {h : Handle} {e : Entry} (hs : r.Sound) (hl : r.lookup h = .ok e) :
    (r.vacate h).Sound := by
  obtain ⟨hmod, hle⟩ := hs.next_generation hl
  have hfree : (r.vacate h).free =
      if h.generation + 1 = lastGeneration then r.free else h.index :: r.free := by
    rw [← hmod]; rfl
  have hnotfree : h.index ∉ r.free := by
    rw [hs.free_iff, (lookup_eq_ok.mp hl).2]; simp
  refine hs.of_slot (getElem?_vacate hl) getElem?_vacate_ne ?_ ?_ ?_ ?_ (fun _ hx => by cases hx)
  · rw [hfree]
    split
    · exact hs.free_nodup
    · exact List.nodup_cons.mpr ⟨hnotfree, hs.free_nodup⟩
  · intro j hj
    rw [hfree]
    split <;> simp [hj]
  · rw [hfree, hmod]
    split
    · rename_i hlast
      simp [hnotfree, hlast]
    · rename_i hlast
      simp [hlast]
  · rw [hmod]
    exact ⟨Nat.succ_pos _, hle⟩

theorem Sound.insert {r r' : Registry} {a : Address} {d : Destructor} {room : Bool} {h : Handle} (hs : r.Sound)
    (hi : r.insert a d room = .ok (h, r')) : r'.Sound := by
  obtain ⟨hg, hlast, _, _, hnew, hother⟩ := hs.insert_vacant hi
  -- the slot in use is the head of the list, or the list is empty and the slot is new
  have hfree : r'.free.Nodup ∧ ∀ i, i ∈ r'.free ↔ i ∈ r.free ∧ i ≠ h.index := by
    have hnd := hs.free_nodup
    rcases (insert_eq_ok hi).2 with ⟨rest, slot, hf, _, _, rfl⟩ | ⟨hf, rfl, rfl⟩
    · rw [hf] at hnd ⊢
      obtain ⟨hnotin, hrest⟩ := List.nodup_cons.mp hnd
      refine ⟨hrest, fun i => ⟨fun hm => ?_, fun ⟨hm, hne⟩ => ?_⟩⟩
      · exact ⟨List.mem_cons_of_mem _ hm, fun heq => hnotin (heq ▸ hm)⟩
      · exact (List.mem_cons.mp hm).resolve_left hne
    · simp [hf]
  refine hs.of_slot hnew hother hfree.1 (fun j hj => ?_) ?_ ?_ ?_
  · simp [hfree.2 j, hj]
  · simp [hfree.2]
  · exact ⟨Nat.pos_of_ne_zero hg, Nat.le_of_lt hlast⟩
  · intro x hx
    cases hx
    exact ⟨hlast, (insert_eq_ok hi).1⟩

/-! ## Generations only go up -/

/-- A change of one slot that does not lower its generation leaves past handles past. -/
theorem Past.of_slot {r r' : Registry} {k : Handle} {i : Nat} {s : Slot} (hp : r.Past k)
    (hslot : r'.slots[i]? = some s) (hother : ∀ j, j ≠ i → r'.slots[j]? = r.slots[j]?)
    (hge : ∀ s₀, r.slots[i]? = some s₀ → s₀.generation ≤ s.generation) : r'.Past k := by
  obtain ⟨s₀, hk, hlt⟩ := hp
  by_cases hi : k.index = i
  · subst hi
    exact ⟨s, hslot, Nat.lt_of_lt_of_le hlt (hge s₀ hk)⟩
  · exact ⟨s₀, by rw [hother _ hi]; exact hk, hlt⟩

theorem Past.put {r : Registry} {h k : Handle} {e : Entry} (hp : r.Past k) (hl : r.lookup h = .ok e)
    (e' : Entry) : (r.put h e').Past k := by
  refine hp.of_slot (getElem?_put hl e') (getElem?_put_ne e') ?_
  intro s₀ hs₀
  rw [(lookup_eq_ok.mp hl).2] at hs₀
  cases hs₀
  exact Nat.le_refl _

theorem Past.vacate {r : Registry} {h k : Handle} {e : Entry} (hp : r.Past k) (hs : r.Sound)
    (hl : r.lookup h = .ok e) : (r.vacate h).Past k := by
  refine hp.of_slot (getElem?_vacate hl) getElem?_vacate_ne ?_
  intro s₀ hs₀
  rw [(lookup_eq_ok.mp hl).2] at hs₀
  cases hs₀
  rw [(hs.next_generation hl).1]
  exact Nat.le_succ _

theorem Past.insert {r r' : Registry} {a : Address} {d : Destructor} {room : Bool} {h k : Handle} (hp : r.Past k)
    (hs : r.Sound) (hi : r.insert a d room = .ok (h, r')) : r'.Past k := by
  obtain ⟨_, _, _, hvac, hnew, hother⟩ := hs.insert_vacant hi
  refine hp.of_slot hnew hother ?_
  intro s₀ hs₀
  rcases hvac with hv | hv <;> rw [hv] at hs₀ <;> cases hs₀
  exact Nat.le_refl _

/-- The handle of an object that was taken out is past. -/
theorem Sound.past_of_vacate {r : Registry} {h : Handle} {e : Entry} (hs : r.Sound)
    (hl : r.lookup h = .ok e) : (r.vacate h).Past h := by
  refine ⟨_, getElem?_vacate hl, ?_⟩
  rw [(hs.next_generation hl).1]
  exact Nat.lt_succ_self _

/-- `insert` returns a handle that names nothing and is not past. -/
theorem Sound.insert_fresh {r r' : Registry} {a : Address} {d : Destructor} {room : Bool} {h : Handle} (hs : r.Sound)
    (hi : r.insert a d room = .ok (h, r')) : ¬ r.Past h ∧ ∀ e, r.lookup h ≠ .ok e := by
  obtain ⟨_, _, _, hvac, _, _⟩ := hs.insert_vacant hi
  constructor
  · rintro ⟨s, hslot, hlt⟩
    rcases hvac with hv | hv <;> rw [hv] at hslot <;> cases hslot
    exact Nat.lt_irrefl _ hlt
  · intro e hl
    have hslot := (lookup_eq_ok.mp hl).2
    rcases hvac with hv | hv <;> rw [hv] at hslot <;> cases hslot

end Registry
end Causeway
