import Causeway.Proofs.Slots
import Causeway.ObjectType
import Causeway.Sequence.ByteVec

/-!
# Causeway.Proofs.Books

What the counters of the demo bridge say, and what its callers hold.

* `Demo.Ledger`  — the handles and byte arrays that are out, as its callers know.
* `Demo.Books`   — the ledger beside what the bridge itself counts.
* `Demo.InOrder` — they agree.
* `InOrder.enter`, `destroy`, … — what keeps them in agreement, one change at a time.
-/

namespace Causeway

/-- A registry in which just the listed handles name objects, none of them lent, and whose counters say so. -/
structure Registry.Tallied (r : Registry) (held : List Handle) : Prop where
  sound : r.Sound
  unlent : ∀ h e, r.lookup h = .ok e → e.loans = 0
  named : ∀ h, h ∈ held ↔ ∃ e, r.lookup h = .ok e
  nodup : held.Nodup
  counted : r.created = held.length + (r.destroyed + r.released)

namespace Registry.Tallied

variable {r r' : Registry} {held : List Handle} {h : Handle} {e : Entry}

theorem of_blank (name path : String) (owner : Side) :
    Tallied { typeName := name, typePath := path, owner := owner } [] := by
  have hempty : ∀ h e, Registry.lookup { typeName := name, typePath := path, owner := owner } h ≠ .ok e := by
    intro h e hl
    have hslot := (lookup_eq_ok.mp hl).2
    simp at hslot
  refine ⟨sound_of_empty rfl rfl, fun h e hl => absurd hl (hempty h e), fun h => ?_, List.nodup_nil, rfl⟩
  exact iff_of_false List.not_mem_nil fun ⟨e, hl⟩ => hempty h e hl

theorem insert (hr : r.Tallied held) {a : Address} {d : Destructor} {room : Bool}
    (hi : r.insert a d room = .ok (h, r')) : r'.Tallied (h :: held) := by
  have hfresh : h ∉ held := by
    intro hmem
    obtain ⟨e, hl⟩ := (hr.named h).mp hmem
    exact (hr.sound.insert_fresh hi).2 e hl
  obtain ⟨hcreated, hdestroyed, hreleased⟩ := created_insert hi
  refine ⟨hr.sound.insert hi, fun k e hl => ?_, fun k => ?_, List.nodup_cons.mpr ⟨hfresh, hr.nodup⟩, ?_⟩
  · rw [lookup_insert hr.sound hi] at hl
    split at hl
    · cases hl
      rfl
    · exact hr.unlent k e hl
  · rw [List.mem_cons, lookup_insert hr.sound hi]
    by_cases hk : k = h
    · simp [hk]
    · simp only [hk, false_or, ↓reduceIte]
      exact hr.named k
  · rw [hcreated, hdestroyed, hreleased, hr.counted, List.length_cons]
    omega

theorem transfer (hr : r.Tallied held) {giver taker : Side} (ht : r.transfer h giver taker = .ok r') :
    r'.Tallied held := by
  obtain ⟨e, hl, _, hloans, rfl⟩ := transfer_eq_ok.mp ht
  refine ⟨hr.sound.put hl rfl, fun k e' hl' => ?_, fun k => ?_, hr.nodup, hr.counted⟩
  · rw [lookup_put hl] at hl'
    split at hl'
    · cases hl'
      exact hloans
    · exact hr.unlent k e' hl'
  · rw [hr.named k, lookup_put hl]
    by_cases hk : k = h
    · subst hk
      simp [hl]
    · rw [if_neg hk]

/-- An object leaves, and is counted on the way out. -/
theorem vacate (hr : r.Tallied held) (hl : r.lookup h = .ok e) (hslots : r'.slots = (r.vacate h).slots)
    (hfree : r'.free = (r.vacate h).free) (hname : r'.typeName = r.typeName) (hcreated : r'.created = r.created)
    (hgone : r'.destroyed + r'.released = r.destroyed + r.released + 1) : r'.Tallied (held.erase h) := by
  have hlookup : ∀ k, r'.lookup k = if k = h then .error (.stale r.typeName h) else r.lookup k := by
    intro k
    rw [← lookup_vacate hl]
    exact lookup_congr hname (by rw [hslots])
  have hmem : h ∈ held := (hr.named h).mpr ⟨e, hl⟩
  refine ⟨(hr.sound.vacate hl).congr hslots hfree, fun k e' hl' => ?_, fun k => ?_, hr.nodup.erase h, ?_⟩
  · rw [hlookup] at hl'
    split at hl'
    · cases hl'
    · exact hr.unlent k e' hl'
  · rw [hr.nodup.mem_erase_iff, hlookup, hr.named k]
    by_cases hk : k = h <;> simp [hk]
  · have hlength := List.length_erase_of_mem hmem
    have hpos := List.length_pos_of_mem hmem
    rw [hcreated, hgone, hlength, hr.counted]
    omega

theorem destroy (hr : r.Tallied held) {claimant : Side} (hremove : r.remove h claimant = .ok (e, r')) :
    r'.noteDestroyed.Tallied (held.erase h) := by
  obtain ⟨hl, _, _, rfl⟩ := remove_eq_ok.mp hremove
  refine hr.vacate hl rfl rfl rfl rfl ?_
  simp only [noteDestroyed, Registry.vacate]
  omega

theorem release (hr : r.Tallied held) {claimant : Side} {a : Address}
    (hrelease : r.release h claimant = .ok (a, r')) : r'.Tallied (held.erase h) := by
  obtain ⟨e, hl, _, _, _, rfl⟩ := release_eq_ok hrelease
  exact hr.vacate hl rfl rfl rfl rfl rfl

/-- Only a full registry has no room for an object where there is memory. -/
theorem full_of_refused (hr : r.Tallied held) {a : Address} {d : Destructor} {x : Refusal} (ha : a ≠ 0)
    (hi : r.insert a d true = .error x) : counterLimit ≤ r.slots.size := by
  simp only [Registry.insert, ha, ↓reduceIte] at hi
  split at hi
  · rename_i i rest hf
    obtain ⟨g, hslot, _⟩ := (hr.sound.free_iff i).mp (by rw [hf]; exact List.mem_cons_self)
    rw [hslot] at hi
    cases hi
  · split at hi
    · assumption
    · cases hi

end Registry.Tallied

theorem Registry.size_le_of_insert {r r' : Registry} {a : Address} {d : Destructor} {room : Bool} {h : Handle}
    (hi : r.insert a d room = .ok (h, r')) : r.slots.size ≤ r'.slots.size := by
  rcases (insert_eq_ok hi).2 with ⟨_, _, _, _, _, rfl⟩ | ⟨_, _, rfl⟩ <;> simp

namespace Demo

structure Ledger where
  /-- The handles of a type that are out, on either side. -/
  held : ObjectType → List Handle := fun _ => []
  /-- The foreign byte arrays that are out. -/
  arrays : List ByteVec := []
  /-- How often the constructor was called that refuses every name. -/
  rejections : Nat := 0
  /-- How many objects were built for callers who got no handle, as the registry had no room for it. -/
  turnedAway : Nat := 0

/-- The ledger with other handles of a type out. -/
def Ledger.hold (l : Ledger) (t : ObjectType) (hs : List Handle) : Ledger :=
  { l with held := fun u => if u = t then hs else l.held u }

/-- The ledger with one more handle out. -/
def Ledger.enter (l : Ledger) (t : ObjectType) (h : Handle) : Ledger := l.hold t (h :: l.held t)

/-- The ledger with a handle out no more. -/
def Ledger.leave (l : Ledger) (t : ObjectType) (h : Handle) : Ledger := l.hold t ((l.held t).erase h)

/-- The ledger with one more object turned away. -/
def Ledger.turnAway (l : Ledger) : Ledger := { l with turnedAway := l.turnedAway + 1 }

theorem Ledger.hold_self (l : Ledger) (t : ObjectType) : l.hold t (l.held t) = l := by
  have hheld : (fun u => if u = t then l.held t else l.held u) = l.held := by
    funext u
    split
    · rename_i hu
      rw [hu]
    · rfl
  unfold hold
  rw [hheld]

structure Books where
  registries : Registries ObjectType
  /-- How many objects of either kind were destroyed. -/
  drops : Nat
  liveByteVecs : Nat
  nextAddress : Address
  ledger : Ledger

/-- Objects that a registry has counted as gone. -/
def gone (r : Registry) : Nat := r.destroyed + r.released

/-- The same, with what keeps it so. A registry without room for another handle destroys what it is handed, and no
counter of its own says so. -/
structure InOrder (b : Books) : Prop where
  ownerR : (b.registries .thingR).owner = .host
  ownerC : (b.registries .thingC).owner = .foreign
  address : b.nextAddress ≠ 0
  tallied : ∀ t, (b.registries t).Tallied (b.ledger.held t)
  releasedR : (b.registries .thingR).released = 0
  arrays : b.liveByteVecs = b.ledger.arrays.length
  drops : b.drops =
    gone (b.registries .thingR) + gone (b.registries .thingC) + b.ledger.rejections + b.ledger.turnedAway
  room : (b.registries .thingR).slots.size < Registry.counterLimit →
    (b.registries .thingC).slots.size < Registry.counterLimit → b.ledger.turnedAway = 0

namespace InOrder

variable {b : Books} {t : ObjectType} {r : Registry} {h : Handle} {e : Entry} {a : Address}

/-- One registry changes, and the callers and the destructors with it. -/
theorem set (hb : InOrder b) (ht : t = .thingR ∨ t = .thingC) {held : List Handle} {drops : Nat}
    (hr : r.Tallied held) (howner : r.owner = (b.registries t).owner)
    (hsize : (b.registries t).slots.size ≤ r.slots.size) (hreleased : t = .thingR → r.released = 0)
    (hdrops : drops + gone (b.registries t) = b.drops + gone r) :
    InOrder { b with
      registries := b.registries.set t r
      drops := drops
      ledger := b.ledger.hold t held } := by
  have htallied : ∀ u, (b.registries.set t r u).Tallied ((b.ledger.hold t held).held u) := by
    intro u
    by_cases hu : u = t
    · subst hu
      simpa [Ledger.hold] using hr
    · simpa [Ledger.hold, hu] using hb.tallied u
  have hbefore := hb.drops
  rcases ht with rfl | rfl
  · refine ⟨?_, hb.ownerC, hb.address, htallied, ?_, hb.arrays, ?_, fun hroomR hroomC => ?_⟩
    · simpa using howner.trans hb.ownerR
    · simpa using hreleased rfl
    · simp only [Registries.set_same, ne_eq, reduceCtorEq, not_false_eq_true, Registries.set_other, Ledger.hold]
      omega
    · simp only [Registries.set_same] at hroomR
      exact hb.room (Nat.lt_of_le_of_lt hsize hroomR) hroomC
  · refine ⟨hb.ownerR, ?_, hb.address, htallied, hb.releasedR, hb.arrays, ?_, fun hroomR hroomC => ?_⟩
    · simpa using howner.trans hb.ownerC
    · simp only [Registries.set_same, ne_eq, reduceCtorEq, not_false_eq_true, Registries.set_other, Ledger.hold]
      omega
    · simp only [Registries.set_same] at hroomC
      exact hb.room hroomR (Nat.lt_of_le_of_lt hsize hroomC)

theorem allocate (hb : InOrder b) : InOrder { b with nextAddress := b.nextAddress + 1 } :=
  { hb with address := Nat.succ_ne_zero _ }

theorem releasedR_eq (hb : InOrder b) (h : r.released = (b.registries t).released) :
    t = .thingR → r.released = 0 := by
  rintro rfl
  exact h.trans hb.releasedR

theorem enter (hb : InOrder b) (ht : t = .thingR ∨ t = .thingC) {d : Destructor} {room : Bool}
    (hi : (b.registries t).insert a d room = .ok (h, r)) :
    InOrder { b with
      registries := b.registries.set t r
      ledger := b.ledger.enter t h } := by
  obtain ⟨_, hdestroyed, hreleased⟩ := Registry.created_insert hi
  refine hb.set ht ((hb.tallied t).insert hi) (Registry.owner_insert hi) (Registry.size_le_of_insert hi)
    (hb.releasedR_eq hreleased) ?_
  unfold gone
  rw [hdestroyed, hreleased]

/-- An object that a registry has no room for is destroyed. -/
theorem turnedAway (hb : InOrder b) (ht : t = .thingR ∨ t = .thingC) {d : Destructor} {x : Registry.Refusal}
    (ha : a ≠ 0) (hi : (b.registries t).insert a d true = .error x) :
    InOrder { b with
      drops := b.drops + 1
      ledger := b.ledger.turnAway } := by
  have hfull := (hb.tallied t).full_of_refused ha hi
  have hdrops := hb.drops
  refine { hb with drops := ?_, room := fun hroomR hroomC => ?_ }
  · simp only [Ledger.turnAway]
    omega
  · rcases ht with rfl | rfl
    · exact absurd hroomR (Nat.not_lt.mpr hfull)
    · exact absurd hroomC (Nat.not_lt.mpr hfull)

theorem transfer (hb : InOrder b) (ht : t = .thingR ∨ t = .thingC) {giver taker : Side}
    (hr : (b.registries t).transfer h giver taker = .ok r) :
    InOrder { b with registries := b.registries.set t r } := by
  have hkept : r.owner = (b.registries t).owner ∧ r.slots.size = (b.registries t).slots.size ∧
      r.released = (b.registries t).released ∧ gone r = gone (b.registries t) := by
    obtain ⟨e, _, _, _, rfl⟩ := Registry.transfer_eq_ok.mp hr
    exact ⟨rfl, Array.size_setIfInBounds, rfl, rfl⟩
  obtain ⟨howner, hsize, hreleased, hgone⟩ := hkept
  have hset : InOrder { b with
      registries := b.registries.set t r
      ledger := b.ledger.hold t (b.ledger.held t) } :=
    hb.set ht ((hb.tallied t).transfer hr) howner (Nat.le_of_eq hsize.symm) (hb.releasedR_eq hreleased)
      (by rw [hgone])
  rw [Ledger.hold_self] at hset
  exact hset

theorem destroy (hb : InOrder b) (ht : t = .thingR ∨ t = .thingC) {claimant : Side}
    (hr : (b.registries t).remove h claimant = .ok (e, r)) :
    InOrder { b with
      registries := b.registries.set t r.noteDestroyed
      drops := b.drops + 1
      ledger := b.ledger.leave t h } := by
  have htallied := (hb.tallied t).destroy hr
  obtain ⟨_, _, _, rfl⟩ := Registry.remove_eq_ok.mp hr
  refine hb.set ht htallied rfl (Nat.le_of_eq Array.size_setIfInBounds.symm) (hb.releasedR_eq rfl) ?_
  simp only [gone, Registry.noteDestroyed, Registry.vacate]
  omega

theorem release (hb : InOrder b) {claimant : Side}
    (hr : (b.registries .thingC).release h claimant = .ok (a, r)) :
    InOrder { b with
      registries := b.registries.set .thingC r
      drops := b.drops + 1
      ledger := b.ledger.leave .thingC h } := by
  have htallied := (hb.tallied .thingC).release hr
  obtain ⟨e, _, _, _, _, rfl⟩ := Registry.release_eq_ok hr
  refine hb.set (.inr rfl) htallied rfl (Nat.le_of_eq Array.size_setIfInBounds.symm) nofun ?_
  simp only [gone, Registry.vacate]
  omega

theorem reject (hb : InOrder b) :
    InOrder { b with
      drops := b.drops + 1
      ledger := { b.ledger with rejections := b.ledger.rejections + 1 } } := by
  have hdrops := hb.drops
  refine { hb with drops := ?_ }
  simp only
  omega

theorem reserve (hb : InOrder b) (v : ByteVec) :
    InOrder { b with
      liveByteVecs := b.liveByteVecs + 1
      ledger := { b.ledger with arrays := v :: b.ledger.arrays } } := by
  refine { hb with arrays := ?_ }
  simp only [List.length_cons, hb.arrays]

theorem free (hb : InOrder b) {v : ByteVec} (hv : v ∈ b.ledger.arrays) :
    InOrder { b with
      liveByteVecs := b.liveByteVecs - 1
      ledger := { b.ledger with arrays := b.ledger.arrays.erase v } } := by
  refine { hb with arrays := ?_ }
  simp only [List.length_erase_of_mem hv, hb.arrays]

end InOrder
end Demo
end Causeway
