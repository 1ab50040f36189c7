import Causeway.Demo.Host
import Causeway.Proofs.Asides
import Causeway.Proofs.ByteArrays
import Causeway.Proofs.Raising
import Causeway.Proofs.Transfer

/-!
# Causeway.Proofs.Consumption

The call that hands two objects over and gets bytes back.

* `Demo.consumed`            — the world once both objects are gone.
* `Demo.foreign_doThing_run` — the foreign side gets there, whatever the number is.
* `Demo.answer`              — what comes back.
* `Demo.doThing_consumes_and_squares` — the answer of the call, and what is left after it.

The two objects go before the number is looked at, so a call that fails has consumed them as one that succeeds.
-/

namespace Causeway

variable {τ ε β σ α : Type}

/-! ## The steps of the foreign side -/

namespace Demo

variable {ρ : Type} {hooks : Hooks ε β ρ} {rs : Registries ObjectType} {y x : Handle} {a b : Address}
  {d c : Destructor} {thing : ThingR} {w : World ObjectType ε β (Store ρ)}

theorem print_run (hthing : w.state.thingsR.lookup a = some thing) :
    ∃ things : List (Address × ThingR), things.filter (·.1 ≠ a) = w.state.thingsR.filter (·.1 ≠ a) ∧
      print a w = (.ok (), { w with
        state := { w.state with thingsR := things }
        trace := .log .info s!"called back with r={thing.value}" :: w.trace }) := by
  have hread : thingRAt a w = (.ok thing, w) := by
    show (.ok ((w.state.thingsR.lookup a).getD ⟨0, "", 0⟩), w) = (Outcome.ok thing, w)
    rw [hthing]
    rfl
  refine ⟨_, ?_, Act.bind_of_ok hread _⟩
  -- only the object that is printed changes, and the filter leaves it out
  induction w.state.thingsR with
  | nil => rfl
  | cons p things ih =>
    rw [List.map_cons, List.filter_cons, List.filter_cons, ih]
    by_cases hp : p.1 = a <;> simp [hp]

theorem printR_run (slot : ErrorSlot) (hl : (w.registries .thingR).lookup y = .ok ⟨a, d, .foreign, 0⟩)
    (hthing : w.state.thingsR.lookup a = some thing) :
    ∃ w₁ things, w.Aside w₁ ∧ things.filter (·.1 ≠ a) = w.state.thingsR.filter (·.1 ≠ a) ∧
      printR y slot w = (.ok (true, slot), { w₁ with
        state := { w.state with thingsR := things }
        trace := .log .info s!"called back with r={thing.value}" :: w₁.trace }) := by
  obtain ⟨w₁, haside, hresolve⟩ := Handle.resolveRef_run hl rfl
  have hstate : w₁.state = w.state := congrArg Scene.state haside.scene
  rw [← hstate] at hthing ⊢
  obtain ⟨things, hthings, hprint⟩ := print_run hthing
  refine ⟨w₁, things, haside, hthings, Boundary.call_of_ok _ slot ?_⟩
  exact Act.bind_of_ok ((Act.bind_of_ok hresolve _).trans hprint) _

theorem freeThingR_run (hfin : hooks.finalize .thingR d = destroyThingR)
    (hl : (w.registries .thingR).lookup y = .ok ⟨a, d, .foreign, 0⟩) :
    freeThingR hooks y w = (.ok (), { w with
      registries := w.registries.set .thingR ((w.registries .thingR).vacate y).noteDestroyed
      trace := .log .trace ("destroying " ++ (w.registries .thingR).typeName ++ " " ++ y.text) :: w.trace
      state := { w.state with
        thingsR := w.state.thingsR.filter (·.1 ≠ a)
        drops := w.state.drops + 1 } }) := by
  have hfinal : ∀ w', hooks.finalize .thingR d a w' = destroyThingR a w' := fun w' => by rw [hfin]
  apply Boundary.infallible_of_ok
  simp only [Objects.free, Registry.isNull_of_lookup hl, Bool.false_eq_true, ↓reduceIte]
  exact Act.orAbort_of_ok (Objects.destroy_run hl rfl rfl (hfinal _) rfl)

theorem take_run (hl : (w.registries .thingC).lookup x = .ok ⟨b, c, .foreign, 0⟩) :
    Objects.take .thingC x w = (.ok b, { w with
      registries := w.registries.set .thingC
        { (w.registries .thingC).vacate x with released := (w.registries .thingC).released + 1 }
      trace := .log .trace ("releasing " ++ (w.registries .thingC).typeName ++ " " ++ x.text) :: w.trace }) := by
  simp only [Objects.take, Registry.isNull_of_lookup hl, Bool.false_eq_true, ↓reduceIte]
  exact Act.orAbort_of_ok (Objects.release_run hl rfl rfl)

def emptied (rs : Registries ObjectType) (y x : Handle) : Registries ObjectType :=
  (rs.set .thingR ((rs .thingR).vacate y).noteDestroyed).set .thingC
    { (rs .thingC).vacate x with released := (rs .thingC).released + 1 }

/-- The world once the first object was printed and destroyed and the second released and destroyed. -/
def consumed (y x : Handle) (a b : Address) (value : Int) (w : World ObjectType ε β (Store ρ)) :
    World ObjectType ε β (Store ρ) :=
  { w with
    registries := emptied w.registries y x
    trace :=
      .log .trace ("releasing " ++ (w.registries .thingC).typeName ++ " " ++ x.text) ::
      .log .trace ("destroying " ++ (w.registries .thingR).typeName ++ " " ++ y.text) ::
      .log .info s!"called back with r={value}" :: w.trace
    state := { w.state with
      thingsR := w.state.thingsR.filter (·.1 ≠ a)
      thingsC := w.state.thingsC.filter (·.1 ≠ b)
      drops := w.state.drops + 2 } }

/-- What the foreign side does once both objects are gone. -/
def Foreign.squares (z : Int) (slot : ErrorSlot) : Act ε β ρ (ForeignVec ByteVec × ErrorSlot) := do
  if z < 0 then return (none, raise slot badArgumentCode "negative length")
  match ← newByteVec z.toNat with
  | none => return (none, outOfMemory slot)
  | some v => return (some (v.pushEach Allocation.grants ((List.range z.toNat).map square)), slot)

/-- Both objects go before the number is looked at. -/
theorem foreign_doThing_run (hfin : hooks.finalize .thingR d = destroyThingR)
    (hy : (w.registries .thingR).lookup y = .ok ⟨a, d, .foreign, 0⟩)
    (hx : (w.registries .thingC).lookup x = .ok ⟨b, c, .foreign, 0⟩) (hb : b ≠ 0)
    (hthing : w.state.thingsR.lookup a = some thing) (z : Int) (slot : ErrorSlot) :
    ∃ w₁, w.Aside w₁ ∧
      Foreign.doThing hooks z y x slot w = Foreign.squares z slot (consumed y x a b thing.value w₁) := by
  obtain ⟨w₁, things, haside, hthings, hprint⟩ := printR_run slot hy hthing
  have hregs : w₁.registries = w.registries := congrArg Scene.registries haside.scene
  have hstate : w₁.state = w.state := congrArg Scene.state haside.scene
  rw [← hregs] at hy hx
  have hdestroyed : ∀ w' : World ObjectType ε β (Store ρ), destroyThingC b w' = (.ok (), { w' with
      state := { w'.state with
        thingsC := w'.state.thingsC.filter (·.1 ≠ b)
        drops := w'.state.drops + 1 } }) := by
    intro w'
    simp only [destroyThingC, hb, ↓reduceIte]
    rfl
  refine ⟨w₁, haside, (Act.bind_of_ok hprint _).trans ?_⟩
  refine (Act.bind_of_ok (freeThingR_run (a := a) (d := d) hfin ?_) _).trans ?_
  · exact hy
  refine (Act.bind_of_ok (take_run (b := b) (c := c) ?_) _).trans ?_
  · exact hx
  refine (Act.bind_of_ok (hdestroyed _) _).trans ?_
  unfold consumed
  rw [hstate, ← hthings]
  rfl

/-! ## What comes back -/

/-- The last byte of each square, or why there are none. -/
def answer (z : Int) : Except Failure (List UInt8) :=
  if z < 0 then .error (.callee 8 "negative length")
  else .ok ((List.range z.toNat).map fun i => (i * i % 256).toUInt8)

def Outcome.ofExcept : Except Failure α → Outcome α
  | .ok a => .ok a
  | .error e => .fail e

theorem conclude_answer (z : Int) (settings : Settings) (s : Signature) (w : World τ ε β σ) :
    ∃ w', w.Aside w' ∧ Call.conclude settings s (answer z) w = (Outcome.ofExcept (answer z), w') := by
  have haside := Call.muted_conclude settings s (answer z) w
  by_cases hz : z < 0
  · have hanswer : answer z = .error (.callee 8 "negative length") := if_pos hz
    rw [hanswer] at haside ⊢
    obtain ⟨w', hrun, _⟩ :=
      Call.conclude_of_harmless (α := List UInt8) settings s (e := .callee 8 "negative length") rfl w
    rw [hrun] at haside
    exact ⟨w', haside, hrun⟩
  · have hanswer : answer z = .ok _ := if_neg hz
    rw [hanswer]
    exact ⟨w, .refl w, rfl⟩

theorem squares_of_negative {z : Int} (hz : z < 0) (slot : ErrorSlot) :
    Foreign.squares z slot w = (.ok (none, Foreign.raise slot badArgumentCode "negative length"), w) := by
  unfold Foreign.squares
  rw [if_pos hz]
  rfl

theorem raised_result (v : ForeignVec ByteVec) :
    (Foreign.raise .empty badArgumentCode "negative length").result v = .error (.callee 8 "negative length") := by
  have htext : ErrorSlot.description (TextView.ofText "negative length") = "negative length" :=
    ErrorSlot.description_ofText (by decide)
  simp only [Foreign.raise, ErrorSlot.raise, ErrorSlot.result, htext, Record.toCallee_ofText]
  rfl

/-- There is room for every byte before the first is pushed, so that none is lost. -/
theorem squares_of_nonneg {z : Int} (hz : 0 ≤ z) (hlimit : z.toNat < Allocation.limit) (slot : ErrorSlot) :
    ∃ v : ByteVec, v.Packed ∧ v.length = z.toNat ∧
      v.items = (List.range z.toNat).map (fun i => (i * i % 256).toUInt8) ∧
      Foreign.squares z slot w = (.ok (some v, slot), { w with
        state := { w.state with liveByteVecs := w.state.liveByteVecs + 1 } }) := by
  have hlimit' : max z.toNat 8 < Allocation.limit := Nat.max_lt.mpr ⟨hlimit, by decide⟩
  have hgranted : ∀ m ≤ max z.toNat 8, Allocation.grants m = true :=
    fun m hm => decide_eq_true (Nat.lt_of_le_of_lt hm hlimit')
  obtain ⟨v, hreserve, hpacked, hlength, hroom⟩ :=
    ByteVec.reserve_empty hgranted (Nat.lt_trans hlimit' (by decide))
  have hnew : Foreign.newByteVec z.toNat w = (.ok (some v), { w with
      state := { w.state with liveByteVecs := w.state.liveByteVecs + 1 } }) := by
    unfold Foreign.newByteVec
    rw [hreserve]
    rfl
  have hbytes : v.length + ((List.range z.toNat).map Foreign.square).length ≤ v.capacity := by
    simpa [hlength] using hroom
  obtain ⟨hfilled, hitems, hcount⟩ := hpacked.pushEach Allocation.grants hbytes
  have hnone : v.items = [] := List.length_eq_zero_iff.mp (hpacked.length_items.trans hlength)
  refine ⟨_, hfilled, ?_, ?_, ?_⟩
  · rw [hcount, hlength]
    simp
  · rw [hitems, hnone, List.nil_append]
    exact List.map_congr_left fun i _ => Foreign.square_eq i
  · unfold Foreign.squares
    rw [if_neg (Int.not_lt.mpr hz)]
    exact Act.bind_of_ok hnew _

theorem collect_run {v : ByteVec} (hv : v.Packed) (hsize : v.length < Allocation.limit) :
    collect (some v) w = (.ok v.items, { w with
      state := { w.state with liveByteVecs := w.state.liveByteVecs - 1 } }) := by
  unfold collect
  rw [hv.toList_growable hsize]
  rfl

def exchange (hooks : Hooks ε β ρ) (z : Int) (y x : Handle) : Act ε β ρ (List UInt8) := do
  Call.transfer hooks.finalize (sharedThing z y x)
  match ← Call.callForeign (Foreign.doThing hooks z y x) with
  | none => Act.fail (.allocation "do_thing returned no buffer")
  | some v => collect (some v)

theorem doThing_eq (hooks : Hooks ε β ρ) (z : Int) (y x : Handle) :
    doThing hooks z y x = Call.invoke hooks.undo doThingSignature fun _ => exchange hooks z y x := rfl

/-- The registries with both objects in the hands of the foreign side. -/
def given (rs : Registries ObjectType) (y x : Handle) : Registries ObjectType :=
  rs.give .foreign [(.thingR, y), (.thingC, x)]

theorem lookup_given_thingR (hy : (rs .thingR).lookup y = .ok ⟨a, d, .host, 0⟩) (x : Handle) :
    (given rs y x .thingR).lookup y = .ok ⟨a, d, .foreign, 0⟩ := by
  rw [given, Registries.lookup_give, if_pos (by simp), hy]
  rfl

theorem lookup_given_thingC (hx : (rs .thingC).lookup x = .ok ⟨b, c, .host, 0⟩) (y : Handle) :
    (given rs y x .thingC).lookup x = .ok ⟨b, c, .foreign, 0⟩ := by
  rw [given, Registries.lookup_give, if_pos (by simp), hx]
  rfl

theorem lookup_given_other {t : ObjectType} {k : Handle} (hR : (t, k) ≠ (.thingR, y)) (hC : (t, k) ≠ (.thingC, x)) :
    (given rs y x t).lookup k = (rs t).lookup k := by
  rw [given, Registries.lookup_give, if_neg]
  intro hmem
  exact (List.mem_pair.mp hmem).elim hR hC

theorem exchange_run (hfin : hooks.finalize .thingR d = destroyThingR)
    (hy : (w.registries .thingR).lookup y = .ok ⟨a, d, .host, 0⟩)
    (hx : (w.registries .thingC).lookup x = .ok ⟨b, c, .host, 0⟩) (hb : b ≠ 0)
    (hthing : w.state.thingsR.lookup a = some thing) {z : Int} (hlimit : z.toNat < Allocation.limit) :
    ∃ w₁, ({ w with registries := given w.registries y x } : World ObjectType ε β (Store ρ)).Aside w₁ ∧
      Act.attempt (Act.catchPanic (exchange hooks z y x)) w =
        (.ok (answer z), consumed y x a b thing.value w₁) := by
  have hmovable : (sharedThing z y x).handles.Nodup ∧
      ∀ k ∈ (sharedThing z y x).handles, w.registries.Movable .foreign k := by
    refine ⟨by simp [sharedThing, SharedValue.handles, SharedFields.handles], ?_⟩
    intro k hk
    rcases List.mem_pair.mp hk with rfl | rfl
    · exact ⟨_, hy, rfl, rfl⟩
    · exact ⟨_, hx, rfl, rfl⟩
  obtain ⟨w₁, haside, hforeign⟩ := foreign_doThing_run
    (w := { w with registries := given w.registries y x }) hfin (lookup_given_thingR hy x)
    (lookup_given_thingC hx y) hb hthing z .empty
  refine ⟨w₁, haside, ?_⟩
  by_cases hz : z < 0
  · have hanswer : answer z = .error (.callee 8 "negative length") := if_pos hz
    rw [hanswer]
    refine Act.attempt_catchPanic_of_cause (o := .fail (.callee 8 "negative length")) ?_ rfl
    refine (Act.bind_of_ok (Call.transfer_of_movable hmovable) _).trans (Act.bind_of_fail ?_ _)
    rw [squares_of_negative hz] at hforeign
    refine (Call.callForeign_of_ok hforeign).trans ?_
    rw [raised_result]
    rfl
  · obtain ⟨v, hpacked, hlength, hitems, hrun⟩ := squares_of_nonneg (w := consumed y x a b thing.value w₁)
      (Int.not_lt.mp hz) hlimit .empty
    have hanswer : answer z = .ok v.items := (if_neg hz).trans (by rw [hitems])
    rw [hanswer]
    refine Act.attempt_catchPanic_of_ok ?_
    refine (Act.bind_of_ok (Call.transfer_of_movable hmovable) _).trans ?_
    refine (Act.bind_of_ok (Call.callForeign_of_ok (hforeign.trans hrun)) _).trans ?_
    exact collect_run hpacked (hlength ▸ hlimit)

/-! ## What is left -/

theorem lookup_emptied (hy : (rs .thingR).lookup y = .ok ⟨a, d, .host, 0⟩)
    (hx : (rs .thingC).lookup x = .ok ⟨b, c, .host, 0⟩) (t : ObjectType) (k : Handle) :
    (emptied (given rs y x) y x t).lookup k =
      if (t, k) = (.thingR, y) ∨ (t, k) = (.thingC, x) then .error (.stale (rs t).typeName k)
      else (rs t).lookup k := by
  unfold emptied
  by_cases hC : t = .thingC
  · subst hC
    rw [Registries.set_same]
    refine (Registry.lookup_vacate (lookup_given_thingC hx y) k).trans ?_
    by_cases hk : k = x
    · subst hk
      rw [if_pos rfl, if_pos (.inr rfl)]
      rfl
    · rw [if_neg hk, lookup_given_other (by simp) (by simp [hk]), if_neg (by simp [hk])]
  · rw [Registries.set_other _ _ hC]
    by_cases hR : t = .thingR
    · subst hR
      rw [Registries.set_same]
      refine (Registry.lookup_vacate (lookup_given_thingR hy x) k).trans ?_
      by_cases hk : k = y
      · subst hk
        rw [if_pos rfl, if_pos (.inl rfl)]
        rfl
      · rw [if_neg hk, lookup_given_other (by simp [hk]) (by simp), if_neg (by simp [hk])]
    · rw [Registries.set_other _ _ hR, lookup_given_other (by simp [hR]) (by simp [hC]), if_neg (by simp [hR, hC])]

theorem counters_emptied (t : ObjectType) :
    (emptied (given rs y x) y x t).created = (rs t).created ∧
      (emptied (given rs y x) y x t).destroyed = (rs t).destroyed + (if t = .thingR then 1 else 0) ∧
      (emptied (given rs y x) y x t).released = (rs t).released + (if t = .thingC then 1 else 0) := by
  cases t <;> exact ⟨rfl, rfl, rfl⟩

theorem doThing_run (hfin : hooks.finalize .thingR d = destroyThingR) {z : Int} (hlimit : z.toNat < Allocation.limit)
    (haccepted : Call.Accepted doThingSignature w)
    (hy : (w.registries .thingR).lookup y = .ok ⟨a, d, .host, 0⟩)
    (hx : (w.registries .thingC).lookup x = .ok ⟨b, c, .host, 0⟩) (hb : b ≠ 0)
    (hthing : w.state.thingsR.lookup a = some thing) :
    ∃ w₁ w', ({ w with
        registries := given w.registries y x
        frames := w.frames.push {} } : World ObjectType ε β (Store ρ)).Aside w₁ ∧
      ({ consumed y x a b thing.value w₁ with frames := w.frames } : World ObjectType ε β (Store ρ)).Aside w' ∧
      doThing hooks z y x w = (Outcome.ofExcept (answer z), w') := by
  obtain ⟨w₀, hbegun, hinvoke⟩ := Call.invoke_of_unused hooks.undo haccepted fun _ => exchange hooks z y x
  have hregs : w₀.registries = w.registries := congrArg Scene.registries hbegun.scene
  have hstate : w₀.state = w.state := congrArg Scene.state hbegun.scene
  have hframes : w₀.frames = w.frames := congrArg Scene.frames hbegun.scene
  rw [← hregs] at hy hx
  rw [← hstate] at hthing
  obtain ⟨w₁, hprinting, hbody⟩ :=
    exchange_run (w := { w₀ with frames := w₀.frames.push {} }) hfin hy hx hb hthing hlimit
  have hframes₁ : w₁.frames = w₀.frames.push {} := congrArg Scene.frames hprinting.scene
  obtain ⟨w', hended, hconclude⟩ := conclude_answer z w.inForce doThingSignature
    ({ consumed y x a b thing.value w₁ with frames := w₀.frames } : World ObjectType ε β (Store ρ))
  refine ⟨w₁, w', ?_, ?_, ?_⟩
  · rw [← hregs, ← hframes]
    exact (hbegun.replaced _ _).trans hprinting
  · rw [← hframes]
    exact hended
  · rw [doThing_eq, hinvoke _ _ hbody hframes₁, hconclude]

/-- For every two objects that the host holds and has not lent, and every 32-bit number, the call returns. Its answer
is the last byte of every square below the number, or for a negative one the failure of the foreign side. Either
way the first object is printed once and then destroyed through its registry, the second leaves its registry and
is destroyed by the foreign side, both handles are stale, every other handle names what it named, and no byte
array is left. Address 0 is excluded because no registry takes an object there. -/
theorem doThing_consumes_and_squares (hfin : hooks.finalize .thingR d = destroyThingR) (z : Int32)
    (haccepted : Call.Accepted doThingSignature w)
    (hy : (w.registries .thingR).lookup y = .ok ⟨a, d, .host, 0⟩)
    (hx : (w.registries .thingC).lookup x = .ok ⟨b, c, .host, 0⟩) (hb : b ≠ 0)
    (hthing : w.state.thingsR.lookup a = some thing) :
    ∃ o w', doThing hooks z.toInt y x w = (o, w') ∧
      (0 ≤ z.toInt → o = .ok ((List.range z.toInt.toNat).map fun i => (i * i % 256).toUInt8)) ∧
      (z.toInt < 0 → o = .fail (.callee 8 "negative length")) ∧
      (∃ before after, (∀ e ∈ before ++ after, e.isAside = true) ∧
        w'.trace = after ++
          .log .trace ("releasing " ++ (w.registries .thingC).typeName ++ " " ++ x.text) ::
          .log .trace ("destroying " ++ (w.registries .thingR).typeName ++ " " ++ y.text) ::
          .log .info s!"called back with r={thing.value}" :: (before ++ w.trace)) ∧
      w'.state = { w.state with
        thingsR := w.state.thingsR.filter (·.1 ≠ a)
        thingsC := w.state.thingsC.filter (·.1 ≠ b)
        drops := w.state.drops + 2 } ∧
      w'.frames = w.frames ∧
      (∀ t, (w'.registries t).created = (w.registries t).created ∧
        (w'.registries t).destroyed = (w.registries t).destroyed + (if t = .thingR then 1 else 0) ∧
        (w'.registries t).released = (w.registries t).released + (if t = .thingC then 1 else 0)) ∧
      ∀ t k, (w'.registries t).lookup k =
        if (t, k) = (.thingR, y) ∨ (t, k) = (.thingC, x) then .error (.stale (w.registries t).typeName k)
        else (w.registries t).lookup k := by
  have hlimit : z.toInt.toNat < Allocation.limit := by
    have := z.toInt_lt
    simp only [Allocation.limit]
    omega
  obtain ⟨w₁, w', hprinting, hended, hrun⟩ := doThing_run hfin hlimit haccepted hy hx hb hthing
  have hregs₁ : w₁.registries = given w.registries y x := congrArg Scene.registries hprinting.scene
  have hstate₁ : w₁.state = w.state := congrArg Scene.state hprinting.scene
  have hregs : w'.registries = emptied (given w.registries y x) y x := by
    rw [← hregs₁]
    exact congrArg Scene.registries hended.scene
  obtain ⟨before, hbefore, hquiet⟩ := hprinting.lines
  obtain ⟨after, hafter, hquiet'⟩ := hended.lines
  refine ⟨_, w', hrun, ?_, ?_, ⟨before, after, ?_, ?_⟩, ?_, congrArg Scene.frames hended.scene, ?_, ?_⟩
  · intro hz
    rw [answer, if_neg (Int.not_lt.mpr hz)]
    rfl
  · intro hz
    rw [answer, if_pos hz]
    rfl
  · intro e he
    exact (List.mem_append.mp he).elim (hquiet e) (hquiet' e)
  · rw [hafter]
    simp only [consumed, hbefore, hregs₁]
    rfl
  · rw [← hstate₁]
    exact congrArg Scene.state hended.scene
  · rw [hregs]
    exact counters_emptied
  · rw [hregs]
    exact lookup_emptied hy hx

def pairHooks : Hooks Unit Unit Unit where
  finalize t _ a := if t = .thingC then destroyThingC a else destroyThingR a
  undo _ := pure ()

/-- One object of either kind, and a table of contracts with the call in it. -/
def pairWorld : World ObjectType Unit Unit (Store Unit) where
  registries := Registries.set (Registries.set ObjectType.registry .thingR { ObjectType.thingR.registry with
      slots := #[⟨1, some ⟨3, .native, .host, 0⟩⟩]
      created := 1 }) .thingC { ObjectType.thingC.registry with
      slots := #[⟨4, none⟩, ⟨1, some ⟨4, .foreign thingCDestructor, .host, 0⟩⟩]
      free := [0]
      created := 2
      released := 1 }
  contracts := some ⟨[(doThingSignature.symbol, doThingSignature.fingerprint)]⟩
  state := { nextAddress := 5, thingsR := [(3, ⟨2020, "r", 0⟩)], thingsC := [(4, [99])], rest := () }

theorem pairWorld_accepts : Call.Accepted doThingSignature pairWorld := by
  intro _ t ht
  obtain rfl := Option.some.inj ht
  simp [Contracts.verify, Contracts.verifyPeer, Contracts.get?]

/-- The square of 16 is the first that does not fit a byte. -/
theorem doThing_consumes_and_squares_of_pair :
    (∃ w', doThing pairHooks (17 : Int32).toInt ⟨0, 1⟩ ⟨1, 1⟩ pairWorld =
        (.ok [0, 1, 4, 9, 16, 25, 36, 49, 64, 81, 100, 121, 144, 169, 196, 225, 0], w') ∧
      w'.state.drops = 2 ∧ (w'.registries .thingR).destroyed = 1 ∧ (w'.registries .thingC).released = 2) ∧
    ∃ w', doThing pairHooks (-1 : Int32).toInt ⟨0, 1⟩ ⟨1, 1⟩ pairWorld = (.fail (.callee 8 "negative length"), w') ∧
      w'.state.drops = 2 ∧ (w'.registries .thingR).lookup ⟨0, 1⟩ = .error (.stale "ThingR" ⟨0, 1⟩) := by
  have hfin : pairHooks.finalize .thingR .native = destroyThingR := rfl
  have hy : (pairWorld.registries .thingR).lookup ⟨0, 1⟩ = .ok ⟨3, .native, .host, 0⟩ := rfl
  have hx : (pairWorld.registries .thingC).lookup ⟨1, 1⟩ = .ok ⟨4, .foreign thingCDestructor, .host, 0⟩ := rfl
  have hthing : pairWorld.state.thingsR.lookup 3 = some ⟨2020, "r", 0⟩ := rfl
  constructor
  · obtain ⟨o, w', hrun, hsquares, -, -, hstate, -, hcounters, -⟩ :=
      doThing_consumes_and_squares hfin 17 pairWorld_accepts hy hx (by decide) hthing
    obtain rfl := hsquares (by decide)
    exact ⟨w', hrun, by rw [hstate]; rfl, (hcounters .thingR).2.1, (hcounters .thingC).2.2⟩
  · obtain ⟨o, w', hrun, -, hfailed, -, hstate, -, -, hlookup⟩ :=
      doThing_consumes_and_squares hfin (-1) pairWorld_accepts hy hx (by decide) hthing
    obtain rfl := hfailed (by decide)
    exact ⟨w', hrun, by rw [hstate]; rfl, hlookup .thingR ⟨0, 1⟩⟩

end Demo
end Causeway
