import Causeway.Proofs.Upkeep

/-!
# Causeway.Proofs.Operations

The operations of the demo bridge keep its books.

* `Demo.Operation`         — what callers of either side can ask for.
* `Demo.Operation.account` — what its answer says about the handles and byte arrays that are out.
* `Demo.Settles`           — the books are in order under a ledger, and nothing else has changed.
* `Demo.Operation.settles` — after each operation they are, under the ledger that accounts for it.
-/

namespace Causeway
namespace Demo

variable {β ρ α : Type}

/-- The destructors of the demo's types are its own. -/
structure Hooks.Regular (hooks : Hooks Books β (Ledger × ρ)) : Prop where
  thingR : ∀ d, hooks.finalize .thingR d = destroyThingR
  thingC : ∀ d, hooks.finalize .thingC d = destroyThingC

/-- Since `S₀`, the books have changed so that they are in order under a ledger `l`, and all else is as it was. -/
structure Settles (S₀ : Sheet β) (l : Ledger) (S : Sheet β) : Prop where
  frames : S.frames = S₀.frames
  readings : S.readings = S₀.readings
  ledger : S.ledger = S₀.ledger
  inOrder : InOrder { S.toBooks with ledger := l }

section Functions

variable {S₀ S : Sheet β} {l : Ledger} {t : ObjectType} {d : Destructor} {a : Address}
  {hooks : Hooks Books β (Ledger × ρ)}

theorem Settles.invoke {good : α → Ledger} {bad : Ledger} {undo : β → Act Books β (Ledger × ρ) Unit}
    {s : Signature} {body : Nat → Act Books β (Ledger × ρ) α}
    (hbody : Spec { S with frames := S.frames.push {} } (body S.frames.size)
      (fun a => Settles { S with frames := S.frames.push {} } (good a))
      (Settles { S with frames := S.frames.push {} } bad)) :
    Spec S (Call.invoke undo s body) (fun a => Settles S (good a)) (Settles S bad) :=
  (hbody.mono (fun _ _ h => ⟨h.frames, rfl, h.readings, h.ledger, h.inOrder⟩)
    fun _ h => ⟨h.frames, rfl, h.readings, h.ledger, h.inOrder⟩).invoke_frame

/-- The books are in order inside a call that has just begun. -/
theorem Settles.opened (hS : Settles S S.ledger S) :
    Settles { S with frames := S.frames.push {} } S.ledger { S with frames := S.frames.push {} } :=
  ⟨rfl, rfl, rfl, hS.inOrder⟩

theorem Hooks.Regular.counted (hh : hooks.Regular) (ht : t = .thingR ∨ t = .thingC) (ha : a ≠ 0) :
    Spec.Counted (hooks.finalize t d a) := by
  rcases ht with rfl | rfl
  · rw [hh.thingR]
    exact Spec.counted_destroyThingR a
  · rw [hh.thingC]
    exact Spec.counted_destroyThingC ha

/-- The books change, and are in order under another ledger. -/
theorem Settles.booked (hS : Settles S₀ l S) {b : Books} {l' : Ledger} (hb : InOrder { b with ledger := l' })
    (hledger : b.ledger = S.ledger) : Settles S₀ l' { S with toBooks := b } :=
  ⟨hS.frames, hS.readings, hledger.trans hS.ledger, hb⟩

theorem Settles.allocated (hS : Settles S₀ l S) : Settles S₀ l { S with nextAddress := S.nextAddress + 1 } :=
  hS.booked hS.inOrder.allocate rfl

/-- A handle is out for an object that is entered, and the others are turned away. -/
theorem Settles.enterOr (hS : Settles S₀ l S) (hh : hooks.Regular) (ht : t = .thingR ∨ t = .thingC) (ha : a ≠ 0)
    (howner : (S.registries t).owner = d.side) :
    Spec S (Objects.enterOr hooks.finalize t a d none true) (fun h => Settles S₀ (l.enter t h))
      (Settles S₀ l.turnAway) := by
  refine (Spec.enterOr t a d (hh.counted ht ha)).mono ?_ ?_
  · rintro h _ ⟨r, hi, rfl⟩
    exact hS.booked (hS.inOrder.enter ht hi) rfl
  · rintro _ ⟨hwhy, rfl⟩
    refine hS.booked ?_ rfl
    cases hwhy with
    | owner h => exact absurd howner h
    | memory h => cases h
    | refused h =>
      obtain ⟨x, hx⟩ := h
      exact hS.inOrder.turnedAway ht ha hx

theorem Settles.destroy (hS : Settles S₀ l S) (hh : hooks.Regular) (ht : t = .thingR ∨ t = .thingC) (h : Handle)
    (claimant : Side) :
    Spec S (Act.orAbort (Objects.destroy hooks.finalize t h claimant)) (fun _ => Settles S₀ (l.leave t h))
      (fun _ => False) := by
  have hsound : (S.registries t).Sound := (hS.inOrder.tallied t).sound
  refine (Spec.destroy (fun d a ha => hh.counted ht ha) hsound h claimant).mono ?_ fun _ h => h
  rintro _ _ ⟨e, r, hr, rfl⟩
  exact hS.booked (hS.inOrder.destroy ht hr) rfl

/-- What is handed over is still out. -/
theorem Settles.transfer (hS : Settles S₀ l S) (ht : t = .thingR ∨ t = .thingC) {h : Handle} {r : Registry}
    {giver taker : Side} (hr : (S.registries t).transfer h giver taker = .ok r) :
    Settles S₀ l { S with registries := S.registries.set t r } :=
  hS.booked (hS.inOrder.transfer ht hr) rfl

/-! ## Host objects -/

theorem Settles.createThingR (hS : Settles S₀ l S) (hh : hooks.Regular) (value : Int) (name : String) :
    Spec S (Demo.createThingR hooks value name) (fun h => Settles S₀ (l.enter .thingR h))
      (Settles S₀ l.turnAway) := by
  unfold Demo.createThingR
  refine (Spec.storeThingR _).bind ?_ fun _ h => h.elim
  rintro a _ ⟨rfl, rfl⟩
  rw [Objects.create_eq]
  exact hS.allocated.enterOr hh (.inl rfl) hS.inOrder.address hS.inOrder.ownerR

theorem Settles.freeThingR (hS : Settles S₀ l S) (hh : hooks.Regular) (h : Handle) :
    Spec S (Demo.freeThingR hooks h) (fun _ => Settles S₀ (l.leave .thingR h)) (fun _ => False) := by
  refine Spec.infallible ?_ ()
  unfold Objects.free
  split
  · rename_i hnull
    -- the null handle names nothing, and is not out
    have hout : h ∉ l.held .thingR := by
      intro hmem
      obtain ⟨e, hl⟩ := ((hS.inOrder.tallied .thingR).named h).mp hmem
      rw [Registry.isNull_of_lookup hl] at hnull
      cases hnull
    refine Spec.of_value ?_
    unfold Ledger.leave
    rw [List.erase_of_not_mem hout, Ledger.hold_self]
    exact hS
  · exact hS.destroy hh (.inl rfl) h .foreign

/-- A print that was done leaves the slot alone. -/
theorem printR_spec (h : Handle) (slot : ErrorSlot) :
    Spec S (printR h slot : Act Books β (Ledger × ρ) (Bool × ErrorSlot))
      (fun r S' => S' = S ∧ (r.1 = true → r.2 = slot)) (fun _ => False) := by
  have hprinted : Quiet ((do print (← h.resolveRef .thingR)) >>= Passage.completion.deliver :
      Act Books β (Ledger × ρ) Bool) :=
    ((Quiet.resolveRef .thingR h).bind fun a => Quiet.print a).bind fun _ => Quiet.of_still (Act.still_pure true)
  refine (hprinted S).call.mono ?_ fun _ h => h
  rintro r S' (⟨hslot, hS'⟩ | ⟨⟨e, rfl⟩, hS'⟩)
  · exact ⟨hS', fun _ => hslot⟩
  · exact ⟨hS', nofun⟩

theorem printR_quiet (h : Handle) (slot : ErrorSlot) :
    Quiet (printR h slot : Act Books β (Ledger × ρ) (Bool × ErrorSlot)) :=
  fun _ => (printR_spec h slot).mono (fun _ _ h => h.1) fun _ h => h.elim

/-- The ledger after an export that made no object. Where the name could be read, there was one to turn away. -/
def Ledger.unmade (l : Ledger) (name : TextView) : Ledger := if name.materialize.isOk then l.turnAway else l

/-- A handle that a failed export returns is null. -/
theorem Settles.newThingR (hS : Settles S₀ l S) (hh : hooks.Regular) (value : Int) (name : TextView)
    (slot : ErrorSlot) :
    Spec S (Demo.newThingR hooks value name slot)
      (fun r => Settles S₀ (if r.1.isNull then l.unmade name else l.enter .thingR r.1)) (fun _ => False) := by
  have hmade : Spec S (do let name ← Act.ofExcept name.materialize; Demo.createThingR hooks value name)
      (fun h => Settles S₀ (l.enter .thingR h)) (Settles S₀ (l.unmade name)) := by
    unfold Ledger.unmade
    cases name.materialize with
    | ok text => exact hS.createThingR hh value text
    | error e => exact Spec.of_failure e hS
  have hgiven : Spec S ((do let name ← Act.ofExcept name.materialize; Demo.createThingR hooks value name) >>=
        (Passage.ownership .thingR).deliver)
      (fun h S' => h.isNull = false ∧ Settles S₀ (l.enter .thingR h) S') (Settles S₀ (l.unmade name)) := by
    refine hmade.bind (fun h S' hS' => ?_) fun _ h => h
    refine (Spec.intoForeign .thingR h).mono ?_ fun _ h => h.elim
    rintro _ _ ⟨rfl, r, hr, rfl⟩
    obtain ⟨e, hl, _⟩ := Registry.transfer_eq_ok.mp hr
    exact ⟨Registry.isNull_of_lookup hl, hS'.transfer (.inl rfl) hr⟩
  refine hgiven.call.mono ?_ fun _ h => h
  rintro r S' (⟨_, hnull, hentered⟩ | ⟨⟨e, rfl⟩, hfailed⟩)
  · simpa [hnull] using hentered
  · exact hfailed

/-! ## Foreign objects -/

/-- With memory for a copy of its name, an object is built. -/
theorem buildThingC_served {name : List UInt8} (hserved : Allocation.grants (max name.length 1) = true) :
    Spec S (Foreign.buildThingC (View.borrow name) : Act Books β (Ledger × ρ) Address)
      (fun a S' => a = S.nextAddress ∧ S' = { S with nextAddress := S.nextAddress + 1 }) (fun _ => False) := by
  have hlength : name.length ≤ maxBufferSize := by
    have hsmall : max name.length 1 < Allocation.limit := of_decide_eq_true hserved
    simp only [Allocation.limit] at hsmall
    simp only [maxBufferSize]
    omega
  have hread : ∃ bytes, TextView.asBytes (View.borrow name) = .ok bytes := by
    unfold TextView.asBytes View.read
    split
    · exact ⟨_, rfl⟩
    · have hcheck : View.check "text view" 1 (View.borrow name).address (View.borrow name).length = .ok () := by
        simp [View.check, View.borrow, View.dataAddress, Nat.not_lt.mpr hlength, Nat.mod_one]
      rw [hcheck]
      exact ⟨_, rfl⟩
  obtain ⟨bytes, hbytes⟩ := hread
  have hgranted : Allocation.grants (max (View.borrow name).length 1) = true := hserved
  simp only [Foreign.buildThingC, hbytes, hgranted, ↓reduceIte]
  exact Spec.storeThingC bytes

theorem buildThingC_unserved {name : List UInt8} (hserved : Allocation.grants (max name.length 1) = false) :
    Spec S (Foreign.buildThingC (View.borrow name) : Act Books β (Ledger × ρ) Address)
      (fun a S' => a = 0 ∧ S' = S) (fun _ => False) := by
  have hrefused : Allocation.grants (max (View.borrow name).length 1) = false := hserved
  unfold Foreign.buildThingC
  split
  · exact Spec.of_value ⟨rfl, rfl⟩
  · simp only [hrefused, Bool.false_eq_true, ↓reduceIte]
    exact Spec.of_value ⟨rfl, rfl⟩

/-- A constructor is called, and what becomes of its answer decides. -/
theorem Settles.construct (hS : Settles S₀ l S) {good : Handle → Sheet β → Prop} {bad : Sheet β → Prop}
    {built : Address × ErrorSlot → Sheet β → Prop} {build : ErrorSlot → Act Books β (Ledger × ρ) (Address × ErrorSlot)}
    (hbuilt : Spec S (build .empty) built (fun _ => False))
    (hsettle : ∀ r S', built r S' →
      Spec S' (Objects.settle hooks.finalize .thingC thingCDestructor true r.1 r.2) good bad) :
    Spec S (Objects.construct hooks.finalize .thingC thingCDestructor build) good bad := by
  have hexpected : Spec S (Act.readRegistry .thingC (fun r => r.expectOwner .foreign) : Act Books β (Ledger × ρ) Unit)
      (fun _ S' => S' = S) (fun _ => False) := by
    rintro w rfl
    rcases Act.expectOwner_cases .thingC .foreign w with ⟨_, hrun⟩ | ⟨howner, _⟩
    · rw [hrun]
      exact rfl
    · exact absurd hS.inOrder.ownerC howner
  rw [Objects.construct_eq]
  refine hexpected.bind (fun _ S' hS' => ?_) fun _ h => h.elim
  subst hS'
  exact hbuilt.catchPanic.bind hsettle fun _ h => h.elim

/-- Nothing was built, and nothing is out. -/
theorem Settles.settle_null (hS : Settles S₀ l S) (hooks : Hooks Books β (Ledger × ρ)) (slot : ErrorSlot)
    {good : Handle → Sheet β → Prop} :
    Spec S (Objects.settle hooks.finalize .thingC thingCDestructor true 0 slot) good (Settles S₀ l) := by
  rintro w rfl
  obtain ⟨e, hrun⟩ := Objects.settle_null hooks.finalize .thingC thingCDestructor true slot w
  rw [hrun]
  exact hS

/-- Where there is memory for the name, an object is built, which is entered or turned away. -/
theorem Settles.construct_plain (hS : Settles S₀ l S) (hh : hooks.Regular) (name : List UInt8) :
    Spec S (Objects.construct hooks.finalize .thingC thingCDestructor (Constructor.plain.run (View.borrow name)))
      (fun h => Settles S₀ (l.enter .thingC h))
      (Settles S₀ (if Allocation.grants (max name.length 1) then l.turnAway else l)) := by
  cases hserved : Allocation.grants (max name.length 1) with
  | true =>
    have hbuilt : Spec S (Constructor.plain.run (View.borrow name) .empty : Act Books β (Ledger × ρ) _)
        (fun r S' => r.1 ≠ 0 ∧ r.2 = .empty ∧ Settles S₀ l S') (fun _ => False) := by
      refine (buildThingC_served hserved).bind ?_ fun _ h => h
      rintro a _ ⟨rfl, rfl⟩
      have ha := hS.inOrder.address
      exact Spec.of_value ⟨ha, if_neg ha, hS.allocated⟩
    refine hS.construct hbuilt ?_
    rintro ⟨a, _⟩ S' ⟨ha, rfl, hS'⟩
    rw [Objects.settle_unraised hooks.finalize .thingC thingCDestructor true ha rfl]
    exact hS'.enterOr hh (.inr rfl) ha hS'.inOrder.ownerC
  | false =>
    have hbuilt : Spec S (Constructor.plain.run (View.borrow name) .empty : Act Books β (Ledger × ρ) _)
        (fun r S' => r.1 = 0 ∧ S' = S) (fun _ => False) :=
      (buildThingC_unserved hserved).bind (fun _ _ h => Spec.of_value h) fun _ h => h
    refine hS.construct hbuilt ?_
    rintro ⟨_, slot⟩ _ ⟨rfl, rfl⟩
    exact hS.settle_null hooks slot

theorem Settles.construct_exhausted (hS : Settles S₀ l S) (hooks : Hooks Books β (Ledger × ρ)) (name : TextView)
    {good : Handle → Sheet β → Prop} :
    Spec S (Objects.construct hooks.finalize .thingC thingCDestructor (Constructor.exhausted.run name))
      good (Settles S₀ l) := by
  have hbuilt : Spec S (Constructor.exhausted.run name .empty : Act Books β (Ledger × ρ) _)
      (fun r S' => r.1 = 0 ∧ S' = S) (fun _ => False) := Spec.of_value ⟨rfl, rfl⟩
  refine hS.construct hbuilt ?_
  rintro ⟨_, slot⟩ _ ⟨rfl, rfl⟩
  exact hS.settle_null hooks slot

/-- The constructor that refuses every name gets its object back and destroys it. -/
theorem Settles.construct_rejecting (hS : Settles S₀ l S) (hh : hooks.Regular) {name : List UInt8}
    (hserved : Allocation.grants (max name.length 1) = true) :
    Spec S (Objects.construct hooks.finalize .thingC thingCDestructor (Constructor.rejecting.run (View.borrow name)))
      (fun _ _ => False) (Settles S₀ { l with rejections := l.rejections + 1 }) := by
  have hbuilt : Spec S (Constructor.rejecting.run (View.borrow name) .empty : Act Books β (Ledger × ρ) _)
      (fun r S' => r.1 ≠ 0 ∧ (∃ record, r.2 = .holding record) ∧ Settles S₀ l S') (fun _ => False) := by
    refine (buildThingC_served hserved).bind ?_ fun _ h => h
    rintro a _ ⟨rfl, rfl⟩
    exact Spec.of_value ⟨hS.inOrder.address, ⟨_, rfl⟩, hS.allocated⟩
  refine hS.construct hbuilt ?_
  rintro ⟨a, _⟩ S' ⟨ha, ⟨record, rfl⟩, hS'⟩
  rw [Objects.settle_raised hooks.finalize .thingC thingCDestructor true ha record]
  refine (hh.counted (.inr rfl) ha S').bind (fun _ S'' hS'' => ?_) fun _ h => h.elim
  subst hS''
  exact Spec.of_failure _ (hS'.booked hS'.inOrder.reject rfl)

theorem getName_quiet (hooks : Hooks Books β (Ledger × ρ)) (h : Handle) : Quiet (getName hooks h) := by
  refine Quiet.invoke_lent .thingC h ?_
  refine (Quiet.resolveRef .thingC h).bind fun a => (Quiet.thingCAt a).bind fun name => ?_
  exact Quiet.ofExcept _

theorem describeR_quiet (hooks : Hooks Books β (Ledger × ρ)) (h : Handle) : Quiet (describeR hooks h) := by
  refine Quiet.invoke_lent .thingR h ?_
  refine (Quiet.callForeign fun slot => (printR_quiet h slot).bind fun r => ?_).bind fun done => ?_
  · obtain ⟨printed, slot⟩ := r
    cases printed with
    | true => exact printR_quiet h slot
    | false => exact Quiet.of_still (Act.still_pure _)
  · split
    · exact Quiet.of_still (Act.still_pure _)
    · exact Quiet.of_still (Act.still_fail _)

/-! ## Byte arrays -/

/-- A foreign function answers with a byte array only where it raises nothing. -/
theorem callForeign_bytes {g : ErrorSlot → Act Books β (Ledger × ρ) (ForeignVec ByteVec × ErrorSlot)}
    {left : Sheet β → Prop}
    (hg : Spec S (g .empty)
      (fun r S' => ∃ S₁, left S₁ ∧ ((r.1 = none ∧ S' = S₁) ∨
        ∃ v, r = (some v, .empty) ∧ S' = { S₁ with liveByteVecs := S₁.liveByteVecs + 1 }))
      (fun _ => False)) :
    Spec S (Call.callForeign g)
      (fun r S' => ∃ S₁, left S₁ ∧ ((r = none ∧ S' = S₁) ∨
        ∃ v, r = some v ∧ S' = { S₁ with liveByteVecs := S₁.liveByteVecs + 1 }))
      left := by
  refine (hg.mono (fun _ _ h => h) fun _ h => h.elim).callForeign ?_ ?_
  · rintro r slot S' ⟨S₁, hleft, ⟨hnone, hS'⟩ | ⟨v, hv, hS'⟩⟩ _
    · exact ⟨S₁, hleft, .inl ⟨hnone, hS'⟩⟩
    · exact ⟨S₁, hleft, .inr ⟨v, congrArg Prod.fst hv, hS'⟩⟩
  · rintro r slot e S' ⟨S₁, hleft, ⟨_, rfl⟩ | ⟨v, hv, _⟩⟩ hraised
    · exact hleft
    · cases hv
      cases hraised

theorem Settles.reserved (hS : Settles S₀ l S) (v : ByteVec) :
    Settles S₀ { l with arrays := v :: l.arrays } { S with liveByteVecs := S.liveByteVecs + 1 } :=
  hS.booked (hS.inOrder.reserve v) rfl

theorem foreign_copyBytes_spec (bytes : View UInt8) :
    Spec S (Foreign.copyBytes bytes .empty : Act Books β (Ledger × ρ) (ForeignVec ByteVec × ErrorSlot))
      (fun r S' => ∃ S₁, S₁ = S ∧ ((r.1 = none ∧ S' = S₁) ∨
        ∃ v, r = (some v, .empty) ∧ S' = { S₁ with liveByteVecs := S₁.liveByteVecs + 1 }))
      (fun _ => False) := by
  unfold Foreign.copyBytes
  split
  · exact Spec.of_value ⟨S, rfl, .inl ⟨rfl, rfl⟩⟩
  · refine (Spec.newByteVec _).bind ?_ fun _ h => h
    rintro r S' (⟨rfl, rfl⟩ | ⟨v, rfl, rfl⟩)
    · exact Spec.of_value ⟨S', rfl, .inl ⟨rfl, rfl⟩⟩
    · exact Spec.of_value ⟨S, rfl, .inr ⟨_, rfl, rfl⟩⟩

theorem Settles.copyBytes (hS : Settles S S.ledger S) (hooks : Hooks Books β (Ledger × ρ)) (bytes : List UInt8) :
    Spec S (Demo.copyBytes hooks bytes)
      (fun v => Settles S { S.ledger with arrays := v :: S.ledger.arrays }) (Settles S S.ledger) := by
  refine Settles.invoke ?_
  refine (callForeign_bytes (foreign_copyBytes_spec _)).bind ?_ ?_
  · rintro r S' ⟨_, rfl, ⟨rfl, rfl⟩ | ⟨v, rfl, rfl⟩⟩
    · exact Spec.of_failure _ hS.opened
    · exact Spec.of_value (hS.opened.reserved v)
  · rintro _ rfl
    exact hS.opened

theorem Settles.foreignByteVec (hS : Settles S₀ l S) :
    Spec S (Demo.foreignByteVec : Act Books β (Ledger × ρ) ByteVec)
      (fun v => Settles S₀ { l with arrays := v :: l.arrays }) (Settles S₀ l) := by
  refine (Spec.newByteVec 0).bind ?_ fun _ h => h.elim
  rintro r S' (⟨rfl, rfl⟩ | ⟨v, rfl, rfl⟩)
  · exact Spec.of_failure _ hS
  · exact Spec.of_value (hS.reserved v)

/-- Reading a byte array to the end frees it, whether or not it can be read. -/
theorem collect_spec (v : ByteVec) :
    Spec S (collect (some v) : Act Books β (Ledger × ρ) (List UInt8))
      (fun _ S' => S' = { S with liveByteVecs := S.liveByteVecs - 1 })
      (fun S' => S' = { S with liveByteVecs := S.liveByteVecs - 1 }) := by
  refine (Spec.dropByteVec v).bind (fun _ S' hS' => ?_) fun _ h => h.elim
  exact Spec.of_except (fun _ _ => hS') fun _ _ => hS'

/-! ## Handing over both kinds -/

theorem Hooks.Regular.apart (hh : hooks.Regular) (ht : t = .thingR ∨ t = .thingC) : hooks.finalize.Apart t := by
  rcases ht with rfl | rfl
  · refine ⟨fun d a w => ?_, fun d a w _ => ?_⟩
    · rw [hh.thingR]
      rfl
    · rw [hh.thingR]
      exact .inl rfl
  · refine ⟨fun d a w => ?_, fun d a w _ => ?_⟩
    · rw [hh.thingC]
      unfold destroyThingC
      split <;> rfl
    · rw [hh.thingC]
      unfold destroyThingC
      split <;> exact .inl rfl

theorem Settles.handedOver (hS : Settles S₀ l S) (hh : hooks.Regular) (z : Int) (y x : Handle) :
    Spec S (Call.transfer hooks.finalize (sharedThing z y x))
      (fun _ S' => Settles S₀ l S' ∧ x.isNull = false) (fun _ => False) := by
  rintro w rfl
  have hhandles : (sharedThing z y x).handles = [(.thingR, y), (.thingC, x)] := rfl
  by_cases hv : (sharedThing z y x).handles.Nodup ∧
      ∀ k ∈ (sharedThing z y x).handles, w.registries.Movable .foreign k
  · rw [Call.transfer_of_movable hv]
    have hall := Registries.transferAll_eq_ok.mpr ⟨hv, rfl⟩
    simp only [hhandles, Registries.transferAll] at hall
    split at hall
    · cases hall
    rename_i r₁ hr₁
    split at hall
    · cases hall
    rename_i r₂ hr₂
    have hgiven := (hS.transfer (.inl rfl) hr₁).transfer (.inr rfl) hr₂
    obtain ⟨e, hl, _⟩ := Registry.transfer_eq_ok.mp hr₂
    refine ⟨?_, Registry.isNull_of_lookup hl⟩
    rw [hhandles, ← Except.ok.inj hall]
    exact hgiven
  · have hfin : ∀ k ∈ (sharedThing z y x).handles, hooks.finalize.Apart k.1 := by
      intro k hk
      rw [hhandles] at hk
      refine hh.apart ?_
      rcases List.mem_cons.mp hk with rfl | hk
      · exact .inl rfl
      · cases List.mem_singleton.mp hk
        exact .inr rfl
    obtain ⟨e, w', hrun, _⟩ := Call.transfer_of_refused hfin hv
    rw [hrun]
    trivial

/-- The foreign side frees one object and destroys the other, whatever it answers. -/
theorem Settles.foreign_doThing (hS : Settles S₀ l S) (hh : hooks.Regular) (z : Int) (y x : Handle)
    (hx : x.isNull = false) :
    Spec S (Foreign.doThing hooks z y x .empty)
      (fun r S' => ∃ S₁, Settles S₀ ((l.leave .thingR y).leave .thingC x) S₁ ∧ ((r.1 = none ∧ S' = S₁) ∨
        ∃ v, r = (some v, .empty) ∧ S' = { S₁ with liveByteVecs := S₁.liveByteVecs + 1 }))
      (fun _ => False) := by
  refine (printR_spec y .empty).bind ?_ fun _ h => h
  rintro ⟨printed, slot⟩ S' ⟨rfl, hslot⟩
  -- both objects go, whether or not the first could be printed
  refine (hS.freeThingR hh y).bind (fun _ S₁ hS₁ => ?_) fun _ h => h
  refine (Spec.take hx).bind ?_ fun _ h => h
  rintro a _ ⟨r, hr, rfl⟩
  have ha : a ≠ 0 := by
    obtain ⟨e, hl, _, _, rfl, _⟩ := Registry.release_eq_ok hr
    exact (hS₁.inOrder.tallied .thingC).sound.address_ne_zero hl
  refine (Spec.counted_destroyThingC ha _).bind ?_ fun _ h => h
  rintro _ _ rfl
  have hgone : Settles S₀ ((l.leave .thingR y).leave .thingC x) { S₁ with
      registries := S₁.registries.set .thingC r
      drops := S₁.drops + 1 } :=
    hS₁.booked (hS₁.inOrder.release hr) rfl
  cases printed with
  | false => exact Spec.of_value ⟨_, hgone, .inl ⟨rfl, rfl⟩⟩
  | true =>
    obtain rfl := hslot rfl
    simp only [Bool.not_true, Bool.false_eq_true, ↓reduceIte]
    split
    · exact Spec.of_value ⟨_, hgone, .inl ⟨rfl, rfl⟩⟩
    · refine (Spec.newByteVec z.toNat).bind ?_ fun _ h => h
      rintro v S' (⟨rfl, rfl⟩ | ⟨v, rfl, rfl⟩)
      · exact Spec.of_value ⟨_, hgone, .inl ⟨rfl, rfl⟩⟩
      · exact Spec.of_value ⟨_, hgone, .inr ⟨_, rfl, rfl⟩⟩

theorem Settles.doThing (hS : Settles S S.ledger S) (hh : hooks.Regular) (z : Int) (y x : Handle) :
    Spec S (Demo.doThing hooks z y x)
      (fun _ => Settles S ((S.ledger.leave .thingR y).leave .thingC x))
      (Settles S ((S.ledger.leave .thingR y).leave .thingC x)) := by
  refine Settles.invoke ?_
  refine (hS.opened.handedOver hh z y x).bind ?_ fun _ h => h.elim
  rintro _ S' ⟨hS', hx⟩
  refine (callForeign_bytes (hS'.foreign_doThing hh z y x hx)).bind ?_ fun _ h => h
  rintro r S'' ⟨S₁, hS₁, ⟨rfl, rfl⟩ | ⟨v, rfl, rfl⟩⟩
  · exact Spec.of_failure _ hS₁
  · refine (collect_spec v).mono ?_ ?_
    · rintro _ _ rfl
      exact hS₁
    · rintro _ rfl
      exact hS₁

end Functions

/-! ## Operations -/

/-- What callers can ask of the demo bridge, and what they get. -/
inductive Operation : Type → Type where
  | newThingR (value : Int) (name : String) : Operation Handle
  | dropThingR (h : Handle) : Operation Unit
  /-- The same two, for the foreign side. -/
  | exportThingR (value : Int) (name : TextView) (slot : ErrorSlot) : Operation (Handle × ErrorSlot)
  | freeThingR (h : Handle) : Operation Unit
  /-- There is memory for the name of an object that is built to be refused. -/
  | makeDemo (c : Constructor) (name : List UInt8)
      (served : c = .rejecting → Allocation.grants (max name.length 1) = true) : Operation Handle
  | dropThingC (h : Handle) : Operation Unit
  | getName (h : Handle) : Operation String
  | describeR (h : Handle) : Operation Unit
  | doThing (z : Int) (y x : Handle) : Operation (List UInt8)
  | copyBytes (bytes : List UInt8) : Operation ByteVec
  | foreignByteVec : Operation ByteVec
  /-- Only an array that is out can be dropped. -/
  | dropBytes (v : ByteVec) : Operation Unit

namespace Operation

def run (hooks : Hooks Books β (Ledger × ρ)) : Operation α → Act Books β (Ledger × ρ) α
  | .newThingR value name => createThingR hooks value name
  | .dropThingR h => h.drop hooks.finalize .thingR
  | .exportThingR value name slot => Demo.newThingR hooks value name slot
  | .freeThingR h => Demo.freeThingR hooks h
  | .makeDemo c name _ => Demo.makeDemo hooks c name
  | .dropThingC h => h.drop hooks.finalize .thingC
  | .getName h => Demo.getName hooks h
  | .describeR h => Demo.describeR hooks h
  | .doThing z y x => Demo.doThing hooks z y x
  | .copyBytes bytes => Demo.copyBytes hooks bytes
  | .foreignByteVec => Demo.foreignByteVec
  | .dropBytes v => do
    if v ∈ (← Act.get).rest.1.arrays then Foreign.dropByteVec (some v)

/-- The ledger after an operation has returned a value, or none. Callers whose object was built and who got no handle
for it know that it was turned away. -/
def account : Operation α → Option α → Ledger → Ledger
  | .newThingR _ _, some h, l => l.enter .thingR h
  | .newThingR _ _, none, l => l.turnAway
  | .dropThingR h, _, l => l.leave .thingR h
  | .exportThingR _ name _, some (h, _), l => if h.isNull then l.unmade name else l.enter .thingR h
  | .freeThingR h, _, l => l.leave .thingR h
  | .makeDemo .rejecting _ _, _, l => { l with rejections := l.rejections + 1 }
  | .makeDemo _ _ _, some h, l => l.enter .thingC h
  | .makeDemo .plain name _, none, l => if Allocation.grants (max name.length 1) then l.turnAway else l
  | .dropThingC h, _, l => l.leave .thingC h
  | .doThing _ y x, _, l => (l.leave .thingR y).leave .thingC x
  | .copyBytes _, some v, l => { l with arrays := v :: l.arrays }
  | .foreignByteVec, some v, l => { l with arrays := v :: l.arrays }
  | .dropBytes v, _, l => { l with arrays := l.arrays.erase v }
  | _, _, l => l

/-- Books in order are in order after an operation, under the ledger that accounts for it. -/
theorem settles {hooks : Hooks Books β (Ledger × ρ)} (hh : hooks.Regular) {S : Sheet β} (hS : InOrder S.toBooks)
    (o : Operation α) :
    Spec S (o.run hooks) (fun a => Settles S (o.account (some a) S.ledger))
      (Settles S (o.account none S.ledger)) := by
  have hnow : Settles S S.ledger S := ⟨rfl, rfl, rfl, hS⟩
  cases o with
  | newThingR value name => exact hnow.createThingR hh value name
  | dropThingR h => exact (hnow.destroy hh (.inl rfl) h .host).mono (fun _ _ h => h) fun _ h => h.elim
  | exportThingR value name slot => exact (hnow.newThingR hh value name slot).mono (fun _ _ h => h) fun _ h => h.elim
  | freeThingR h => exact (hnow.freeThingR hh h).mono (fun _ _ h => h) fun _ h => h.elim
  | makeDemo c name served =>
    refine Settles.invoke ?_
    cases c with
    | plain => exact hnow.opened.construct_plain hh name
    | rejecting => exact (hnow.opened.construct_rejecting hh (served rfl)).mono (fun _ _ h => h.elim) fun _ h => h
    | exhausted => exact hnow.opened.construct_exhausted hooks (View.borrow name)
  | dropThingC h => exact (hnow.destroy hh (.inr rfl) h .host).mono (fun _ _ h => h) fun _ h => h.elim
  | getName h => exact (getName_quiet hooks h).leaves hnow
  | describeR h => exact (describeR_quiet hooks h).leaves hnow
  | doThing z y x => exact hnow.doThing hh z y x
  | copyBytes bytes => exact hnow.copyBytes hooks bytes
  | foreignByteVec => exact hnow.foreignByteVec
  | dropBytes v =>
    have hget : Spec S (Act.get : Act Books β (Ledger × ρ) _)
        (fun s S' => S' = S ∧ s.rest.1 = S.ledger) (fun _ => False) := by
      rintro w rfl
      exact ⟨rfl, rfl⟩
    refine hget.bind ?_ fun _ h => h.elim
    rintro s _ ⟨rfl, hledger⟩
    rw [hledger]
    split
    · rename_i hv
      refine (Spec.dropByteVec v).mono ?_ fun _ h => h.elim
      rintro _ _ rfl
      exact hnow.booked (hS.free hv) rfl
    · rename_i hv
      refine Spec.of_value ?_
      simp only [account, List.erase_of_not_mem hv]
      exact hnow

end Operation
end Demo
end Causeway
