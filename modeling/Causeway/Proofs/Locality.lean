import Causeway.Proofs.Freshness
import Causeway.Proofs.Loans

/-!
# Causeway.Proofs.Locality

An operation on a handle happens or not, and touches nothing but the object it names.

* `Request`        — the operations on the object of a handle, as computations (`Request.run`).
* `Request.Allows` — what the object has to be like.
* `Touched`        — all that an operation may change of its registry.
* `Completes`      — how an operation ends once its own change is made; only a destruction has more to do.
* `Registry.Matched` — the objects of a type are destroyed by the side that owns it.

A handle is live while it is issued and its object was not taken out. The slot of a dead handle may be
vacant, used up or occupied by a later object, and in all three cases the handle is refused like one that
was never issued.
-/

namespace Causeway

variable {τ ε β σ α γ : Type}

inductive Request : Type → Type where
  | destroy (claimant : Side) : Request Unit
  | release (claimant : Side) : Request Address
  | transfer (giver taker : Side) : Request Unit
  | lend : Request Unit
  | endLoan : Request Unit
  /-- Find an object by reference, with references checked. -/
  | resolveRef : Request Address

namespace Request

def run [DecidableEq τ] (finalize : Finalizer τ ε β σ) (t : τ) (h : Handle) :
    {γ : Type} → Request γ → Act τ ε β σ γ
  | _, .destroy claimant => Objects.destroy finalize t h claimant
  | _, .release claimant => Objects.release t h claimant
  | _, .transfer giver taker => Act.updateRegistry t fun r => r.transfer h giver taker
  | _, .lend => Act.updateRegistry t fun r => r.lend h
  | _, .endLoan => Act.updateRegistry t fun r => r.endLoan h
  | _, .resolveRef => Act.readRegistry t fun r => r.resolveRef h true

/-- What an object has to be like for an operation on it. -/
def Allows : Request γ → Entry → Prop
  | .destroy side, e | .release side, e | .transfer side _, e => e.holder = side ∧ e.loans = 0
  | .lend, e => e.loans < 0xffffffff
  | .endLoan, e => 0 < e.loans
  | .resolveRef, e => 0 < e.loans ∨ e.holder = .foreign

/-- What becomes of the object in its registry. -/
def leaves : Request γ → Entry → Option Entry
  | .destroy _, _ | .release _, _ => none
  | .transfer _ taker, e => some { e with holder := taker }
  | .lend, e => some { e with loans := e.loans + 1 }
  | .endLoan, e => some { e with loans := e.loans - 1 }
  | .resolveRef, e => some e

def answer : Request γ → Entry → γ
  | .destroy _, _ | .transfer _ _, _ | .lend, _ | .endLoan, _ => ()
  | .release _, e | .resolveRef, e => e.address

/-- How many objects an operation gives back to their owner. -/
def givesBack : Request γ → Nat
  | .release _ => 1
  | _ => 0

def destroys : Request γ → Bool
  | .destroy _ => true
  | _ => false

def lends : Request γ → Bool
  | .lend => true
  | _ => false

/-- The handle is live and its object is such that the operation is allowed. -/
def Allowed (op : Request γ) (r : Registry) (h : Handle) : Prop := ∃ e, r.lookup h = .ok e ∧ op.Allows e

end Request

/-- From `r` to `r'` an operation on `h`, whose object was `e`, has changed what it names. -/
structure Touched (op : Request γ) (h : Handle) (e : Entry) (r r' : Registry) : Prop where
  object : r'.lookup h = (op.leaves e).elim (.error (.stale r.typeName h)) .ok
  others : ∀ k, k ≠ h → r'.lookup k = r.lookup k ∧ r'.resolve k = r.resolve k ∧
    ∀ check, r'.resolveRef k check = r.resolveRef k check
  slots : r'.slots.size = r.slots.size ∧ ∀ i, i ≠ h.index → r'.slots[i]? = r.slots[i]?
  /-- A vacated slot can be used again, unless its generations are used up. -/
  free : r'.free = if (op.leaves e).isSome ∨ h.generation + 1 = Registry.lastGeneration then r.free
    else h.index :: r.free
  counters : r'.created = r.created ∧ r'.destroyed = r.destroyed ∧ r'.released = r.released + op.givesBack
  type : r'.typeName = r.typeName ∧ r'.typePath = r.typePath ∧ r'.owner = r.owner

/-- How an operation ends whose own change is made in `w₁`. A destruction runs the destructor of the object there, and
is counted in the world that the destructor leaves. -/
inductive Completes [DecidableEq τ] (finalize : Finalizer τ ε β σ) (t : τ) (e : Entry) (w₁ : World τ ε β σ) :
    {γ : Type} → Request γ → Outcome γ × World τ ε β σ → Prop where
  | done {γ : Type} {op : Request γ} (hop : op.destroys = false) :
      Completes finalize t e w₁ op (.ok (op.answer e), w₁)
  | destroyed {claimant : Side} {w₂ : World τ ε β σ}
      (returned : (finalize t e.destructor e.address w₁).1.isAbort = false)
      (scene : w₂.scene = (finalize t e.destructor e.address w₁).2.scene) :
      Completes finalize t e w₁ (.destroy claimant)
        (.ok (), { w₂ with registries := w₂.registries.set t (w₂.registries t).noteDestroyed })
  | ended {claimant : Side} {w₂ : World τ ε β σ} {f : Failure}
      (ended : (finalize t e.destructor e.address w₁).1 = .abort f)
      (scene : w₂.scene = (finalize t e.destructor e.address w₁).2.scene) :
      Completes finalize t e w₁ (.destroy claimant) (.abort f, w₂)

/-! ## One registry -/

namespace Registry

variable {r r' : Registry} {h : Handle} {e : Entry}

/-- Whoever names an object through `lookup` sees nothing else of the slots. -/
theorem others_of_lookup {k : Handle} (hn : r'.typeName = r.typeName) (hl : r'.lookup k = r.lookup k) :
    r'.lookup k = r.lookup k ∧ r'.resolve k = r.resolve k ∧
      ∀ check, r'.resolveRef k check = r.resolveRef k check := by
  refine ⟨hl, ?_, fun check => ?_⟩
  · unfold resolve
    rw [hl]
  · unfold resolveRef
    rw [hl, hn]

theorem touched_put {op : Request γ} (hl : r.lookup h = .ok e) {e' : Entry} (hleaves : op.leaves e = some e')
    (hback : op.givesBack = 0) : Touched op h e r (r.put h e') := by
  refine ⟨?_, fun k hk => ?_, ⟨by simp [put], getElem?_put_ne e'⟩, ?_, ?_, ⟨rfl, rfl, rfl⟩⟩
  · rw [lookup_put hl, if_pos rfl, hleaves]
    rfl
  · refine others_of_lookup rfl ?_
    rw [lookup_put hl, if_neg hk]
  · simp [hleaves, put]
  · simp [hback, put]

theorem Sound.touched_vacate (hs : r.Sound) {op : Request γ} (hl : r.lookup h = .ok e)
    (hleaves : op.leaves e = none) :
    Touched op h e r { r.vacate h with released := r.released + op.givesBack } := by
  have hlook : ∀ k, ({ r.vacate h with released := r.released + op.givesBack } : Registry).lookup k =
      if k = h then .error (.stale r.typeName h) else r.lookup k := fun k => lookup_vacate hl k
  have hfree : (r.vacate h).free =
      if h.generation + 1 = lastGeneration then r.free else h.index :: r.free := by
    rw [← (hs.next_generation hl).1]
    rfl
  refine ⟨?_, fun k hk => ?_, ⟨Array.size_setIfInBounds, getElem?_vacate_ne⟩, ?_, ⟨rfl, rfl, rfl⟩,
    ⟨rfl, rfl, rfl⟩⟩
  · rw [hlook, if_pos rfl, hleaves]
    rfl
  · refine others_of_lookup rfl ?_
    rw [hlook, if_neg hk]
  · simp [hleaves, hfree]

theorem remove_refused {claimant : Side} (hl : r.lookup h = .ok e) (hn : ¬ (e.holder = claimant ∧ e.loans = 0)) :
    ∃ x m, r.remove h claimant = .error x ∧ x.failure = .lifetime m := by
  unfold remove
  simp only [hl]
  split
  · exact ⟨_, _, rfl, rfl⟩
  · rename_i hholder
    split
    · exact ⟨_, _, rfl, rfl⟩
    · rename_i hloans
      exact absurd ⟨Decidable.not_not.mp hholder, by omega⟩ hn

theorem release_refused {claimant : Side} (hl : r.lookup h = .ok e) (hn : ¬ (e.holder = claimant ∧ e.loans = 0)) :
    ∃ x m, r.release h claimant = .error x ∧ x.failure = .lifetime m := by
  obtain ⟨x, m, hx, hm⟩ := remove_refused hl hn
  refine ⟨x, m, ?_, hm⟩
  unfold release
  simp only [hx]

theorem transfer_refused {giver : Side} (taker : Side) (hl : r.lookup h = .ok e)
    (hn : ¬ (e.holder = giver ∧ e.loans = 0)) :
    ∃ x m, r.transfer h giver taker = .error x ∧ x.failure = .lifetime m := by
  cases hr : r.transfer h giver taker with
  | error x =>
    obtain ⟨m, hm⟩ := transfer_error_failure hr
    exact ⟨x, m, rfl, hm⟩
  | ok r' =>
    obtain ⟨e', hl', hholder, hloans, _⟩ := transfer_eq_ok.mp hr
    rw [hl] at hl'
    cases hl'
    exact absurd ⟨hholder, hloans⟩ hn

theorem lend_of_lookup (hl : r.lookup h = .ok e) :
    r.lend h = if e.loans < 0xffffffff then .ok (r.put h { e with loans := e.loans + 1 })
      else .error (.tooManyLoans r.typeName h) := by
  unfold lend
  simp only [hl]
  by_cases hlt : e.loans < 0xffffffff
  · rw [if_pos hlt, if_neg (by unfold counterLimit; omega)]
  · rw [if_neg hlt, if_pos (by unfold counterLimit; omega)]

theorem endLoan_of_lookup (hl : r.lookup h = .ok e) :
    r.endLoan h = if 0 < e.loans then .ok (r.put h { e with loans := e.loans - 1 })
      else .error (.loanEndedTwice r.typeName h) := by
  unfold endLoan
  simp only [hl]
  by_cases hlent : 0 < e.loans
  · rw [if_pos hlent, if_neg (by omega)]
  · rw [if_neg hlent, if_pos (by omega)]

theorem resolveRef_refused (hl : r.lookup h = .ok e) (hn : ¬ (0 < e.loans ∨ e.holder = .foreign)) :
    ∃ x m, r.resolveRef h true = .error x ∧ x.failure = .lifetime m := by
  have hside : e.holder = .host := by
    cases hholder : e.holder with
    | host => rfl
    | foreign => exact absurd (.inr hholder) hn
  have hzero : e.loans = 0 := Nat.eq_zero_of_not_pos fun hlent => hn (.inl hlent)
  unfold resolveRef
  simp only [hl, hside, hzero, and_self, ↓reduceIte]
  exact ⟨_, _, rfl, rfl⟩

theorem release_of_lookup {claimant : Side} (hl : r.lookup h = .ok e) (hholder : e.holder = claimant)
    (hloans : e.loans = 0) :
    r.release h claimant = .ok (e.address, { r.vacate h with released := r.released + 1 }) := by
  have hremove := remove_eq_ok.mpr ⟨hl, hholder, hloans, rfl⟩
  unfold release
  simp only [hremove]
  rfl

/-- The objects of a registry are destroyed by the side that owns their type. -/
def Matched (r : Registry) : Prop := ∀ h e, r.lookup h = .ok e → e.destructor.side = r.owner

namespace Matched

theorem of_blank (name path : String) (owner : Side) :
    Matched { typeName := name, typePath := path, owner := owner } := by
  intro h e hl
  have hslot := (lookup_eq_ok.mp hl).2
  simp at hslot

/-- Every change registers an object of the right side, or none. -/
theorem change {t : τ} {notes notes' : List (Note τ)} (hm : r.Matched) (hs : r.Sound)
    (hc : Change t (r, notes) (r', notes')) : r'.Matched := by
  have hvacate : ∀ {h : Handle} {e : Entry}, r.lookup h = .ok e → (r.vacate h).Matched := by
    intro h e hl k e' hl'
    rw [lookup_vacate hl] at hl'
    split at hl'
    · cases hl'
    · exact hm k e' hl'
  cases hc with
  | elsewhere n hn => exact hm
  | @register _ _ _ a d room h howner hi =>
    intro k e hl
    rw [owner_insert hi]
    rw [lookup_insert hs hi] at hl
    split at hl
    · cases hl
      exact howner.symm
    · exact hm k e hl
  | discard d a => exact hm
  | drop hl => exact hvacate hl
  | destroyed h => exact hm
  | release hl => exact hvacate hl
  | @put _ _ h e e' hl ha hd =>
    intro k e'' hl'
    rw [lookup_put hl] at hl'
    split at hl'
    · cases hl'
      rw [hd]
      exact hm h e hl
    · exact hm k e'' hl'

end Matched
end Registry

/-! ## One operation -/

namespace Request

variable [DecidableEq τ] {t : τ} {h : Handle} {w : World τ (Note τ) β σ} {e : Entry} {op : Request γ}

theorem names (op : Request γ) (finalize : Finalizer τ (Note τ) β σ) (t : τ) (h : Handle) :
    Names t h (op.run finalize t h) := by
  cases op with
  | destroy claimant => exact .destroy finalize claimant
  | release claimant => exact .release claimant
  | transfer giver taker => exact .transfer giver taker
  | lend => exact .lend
  | endLoan => exact .endLoan
  | resolveRef => exact .resolveRef true

theorem run_of_disallowed (finalize : Finalizer τ (Note τ) β σ) (hl : (w.registries t).lookup h = .ok e)
    (hop : ¬ op.Allows e) :
    ∃ m, op.run finalize t h w = (.fail (if op.lends then .contract m else .lifetime m), w) := by
  cases op with
  | destroy claimant =>
    obtain ⟨x, m, hx, hm⟩ := Registry.remove_refused hl hop
    exact ⟨m, by rw [run, Objects.destroy_of_error hx, hm]; rfl⟩
  | release claimant =>
    obtain ⟨x, m, hx, hm⟩ := Registry.release_refused hl hop
    exact ⟨m, by rw [run, Objects.release_of_error hx, hm]; rfl⟩
  | transfer giver taker =>
    obtain ⟨x, m, hx, hm⟩ := Registry.transfer_refused taker hl hop
    exact ⟨m, by rw [run, Act.updateRegistry_of_error hx, hm]; rfl⟩
  | lend =>
    have hx := (Registry.lend_of_lookup hl).trans (if_neg hop)
    exact ⟨_, by rw [run, Act.updateRegistry_of_error hx]; rfl⟩
  | endLoan =>
    have hx := (Registry.endLoan_of_lookup hl).trans (if_neg hop)
    exact ⟨_, by rw [run, Act.updateRegistry_of_error hx]; rfl⟩
  | resolveRef =>
    obtain ⟨x, m, hx, hm⟩ := Registry.resolveRef_refused hl hop
    exact ⟨m, by rw [run, Act.readRegistry_of_error hx, hm]; rfl⟩

/-- An operation that leaves the object in its registry. -/
theorem run_of_update {op : Request Unit} {finalize : Finalizer τ (Note τ) β σ}
    {f : Registry → Except Registry.Refusal Registry} {e' : Entry} (hrun : op.run finalize t h = Act.updateRegistry t f)
    (hl : (w.registries t).lookup h = .ok e) (hf : f (w.registries t) = .ok ((w.registries t).put h e'))
    (hleaves : op.leaves e = some e') (hback : op.givesBack = 0) (hop : op.destroys = false) :
    ∃ r' w₁, Touched op h e (w.registries t) r' ∧
      w₁.scene = { w.scene with registries := w.registries.set t r' } ∧
      Completes finalize t e w₁ op (op.run finalize t h w) := by
  refine ⟨_, { w with registries := w.registries.set t ((w.registries t).put h e') },
    Registry.touched_put hl hleaves hback, rfl, ?_⟩
  rw [hrun, Act.updateRegistry_of_ok hf]
  exact .done hop

theorem run_of_allowed {finalize : Finalizer τ (Note τ) β σ} (hs : (w.registries t).Sound)
    (hm : (w.registries t).Matched) (hreturns : (w.registries t).owner = .foreign → ∀ code a w',
      (finalize t (.foreign code) a w').1 = .ok () ∨ (finalize t (.foreign code) a w').1.isAbort = true)
    (hl : (w.registries t).lookup h = .ok e) (hop : op.Allows e) :
    ∃ r' w₁, Touched op h e (w.registries t) r' ∧
      w₁.scene = { w.scene with registries := w.registries.set t r' } ∧
      Completes finalize t e w₁ op (op.run finalize t h w) := by
  cases op with
  | destroy claimant =>
    obtain ⟨hholder, hloans⟩ := hop
    have hremove := Registry.remove_eq_ok.mpr ⟨hl, hholder, hloans, rfl⟩
    have hends : ∀ e' r' w', (w.registries t).remove h claimant = .ok (e', r') →
        w'.scene = { w.scene with registries := w.registries.set t r' } → e'.destructor.side = .foreign →
        (finalize t e'.destructor e'.address w').1 = .ok () ∨
          (finalize t e'.destructor e'.address w').1.isAbort = true := by
      intro e' r' w' hok _ hside
      have howner := hm h e' (Registry.remove_eq_ok.mp hok).1
      cases hd : e'.destructor with
      | native => rw [hd] at hside; cases hside
      | foreign code => exact hreturns (howner.symm.trans hside) code e'.address w'
    rcases Objects.destroy_ends h claimant w hends with ⟨e', r', w₁, hok, hscene, w₂, hscene₂, hend⟩ | ⟨x, hx, _⟩
    · rw [hremove] at hok
      cases hok
      refine ⟨_, w₁, hs.touched_vacate hl rfl, hscene, ?_⟩
      rcases hend with ⟨hreturned, hrun⟩ | ⟨f, habort, hrun⟩
      · rw [run, hrun]
        exact .destroyed hreturned hscene₂
      · rw [run, hrun]
        exact .ended habort hscene₂
    · rw [hremove] at hx
      cases hx
  | release claimant =>
    obtain ⟨hholder, hloans⟩ := hop
    have hrelease := Registry.release_of_lookup hl hholder hloans
    rcases Objects.release_cases t h claimant w with ⟨a, r', w₁, hok, hscene, hrun⟩ | ⟨x, hx, _⟩
    · rw [hrelease] at hok
      cases hok
      refine ⟨_, w₁, hs.touched_vacate hl rfl, hscene, ?_⟩
      rw [run, hrun]
      exact .done rfl
    · rw [hrelease] at hx
      cases hx
  | transfer giver taker =>
    exact run_of_update rfl hl (Registry.transfer_eq_ok.mpr ⟨e, hl, hop.1, hop.2, rfl⟩) rfl rfl rfl
  | lend => exact run_of_update rfl hl ((Registry.lend_of_lookup hl).trans (if_pos hop)) rfl rfl rfl
  | endLoan => exact run_of_update rfl hl ((Registry.endLoan_of_lookup hl).trans (if_pos hop)) rfl rfl rfl
  | resolveRef =>
    have hr := (Registry.resolveRef_checked hl).mpr hop.symm
    refine ⟨_, w, Registry.touched_put hl rfl rfl, ?_, ?_⟩
    · rw [Registry.put_lookup hl, Registries.set_self]
      rfl
    · have hrun : run finalize t h .resolveRef w = (.ok e.address, w) := by
        simp only [run, Act.readRegistry, hr]
      rw [hrun]
      exact .done rfl

theorem run_of_refused (finalize : Finalizer τ (Note τ) β σ) (hop : ¬ op.Allowed (w.registries t) h) :
    ∃ m, op.run finalize t h w =
      (.fail (if op.lends = true ∧ ((w.registries t).lookup h).isOk = true then .contract m else .lifetime m), w) := by
  cases hl : (w.registries t).lookup h with
  | error x =>
    obtain ⟨m, hm⟩ := (op.names finalize t h).refused (w := w) fun e he => by
      rw [hl] at he
      cases he
    exact ⟨m, by simpa [Except.isOk, Except.toBool] using hm⟩
  | ok e =>
    obtain ⟨m, hm⟩ := run_of_disallowed finalize hl fun hallows : op.Allows e => hop ⟨e, hl, hallows⟩
    exact ⟨m, by simpa [Except.isOk, Except.toBool] using hm⟩

/-- A failure is a refusal: an operation that is allowed ends well, or its destructor ends the process. -/
theorem run_ok_iff {finalize : Finalizer τ (Note τ) β σ} (hs : (w.registries t).Sound)
    (hm : (w.registries t).Matched) (hreturns : (w.registries t).owner = .foreign → ∀ code a w',
      (finalize t (.foreign code) a w').1 = .ok () ∨ (finalize t (.foreign code) a w').1.isAbort = true)
    (hgoeson : ∀ d a w', (finalize t d a w').1.isAbort = false) (op : Request γ) :
    (∃ a w', op.run finalize t h w = (.ok a, w')) ↔ op.Allowed (w.registries t) h := by
  constructor
  · rintro ⟨a, w', hrun⟩
    refine Classical.byContradiction fun hop => ?_
    obtain ⟨m, hm⟩ := run_of_refused finalize hop
    rw [hrun] at hm
    cases hm
  · rintro ⟨e, hl, hop⟩
    obtain ⟨r', w₁, _, _, hends⟩ := run_of_allowed hs hm hreturns hl hop
    revert hends
    generalize op.run finalize t h w = out
    intro hends
    cases hends with
    | done _ => exact ⟨_, _, rfl⟩
    | destroyed _ _ => exact ⟨_, _, rfl⟩
    | ended hended _ =>
      have := hgoeson e.destructor e.address w₁
      rw [hended] at this
      cases this

end Request

namespace Objects

variable [DecidableEq τ]

theorem expectOwner_refused {t : τ} {side : Side} {w : World τ ε β σ} (howner : (w.registries t).owner ≠ side) :
    ∃ m, Act.readRegistry t (fun r => r.expectOwner side) w = (.fail (.contract m), w) := by
  have hrun : Act.readRegistry t (fun r => r.expectOwner side) w =
      (.fail (Registry.Refusal.wrongOwner (w.registries t).typeName (w.registries t).owner side).failure, w) :=
    Act.readRegistry_of_error (if_neg howner)
  exact ⟨_, hrun⟩

/-- An object of the wrong side is destroyed, in a world in which nothing has happened. -/
theorem enterOr_refused (finalize : Finalizer τ ε β σ) {t : τ} (a : Address) {d : Destructor} (lacking : Option Nat)
    (room : Bool) {w : World τ ε β σ} (howner : (w.registries t).owner ≠ d.side) :
    ∃ m, enterOr finalize t a d lacking room w = (finalize t d a >>= fun _ => Act.fail (.contract m)) w ∧
      (enterOr finalize t a d lacking room w).2 = (finalize t d a w).2 := by
  obtain ⟨m, hm⟩ := expectOwner_refused howner
  have hrun : enterOr finalize t a d lacking room w = (finalize t d a >>= fun _ => Act.fail (.contract m)) w := by
    unfold enterOr
    rw [Act.bind_of_ok (Act.attempt_of_fail (Act.bind_of_fail hm _))]
  refine ⟨m, hrun, ?_⟩
  rw [hrun, Act.bind_apply]
  rcases finalize t d a w with ⟨_ | _ | _ | _, w'⟩ <;> rfl

end Objects

/-- After every run from empty registries, for the registry of each type. A handle names an object exactly
while it is issued and its object was not taken out. An operation that is not allowed fails with a broken
lifetime, or for too many loans with a broken contract, and leaves the whole world as it was. One that is
allowed changes what it names and nothing else; then it ends, a destruction by running the destructor and
counting it. Registering an object of a type that the other side owns fails with a broken contract, and the
destructor of that object begins in the world as it was. -/
theorem operations_atomic_and_local [DecidableEq τ] {direct : Bool} (p : Program τ β σ direct 0 α)
    (D : Destructors τ β σ direct) (w₀ : World τ (Note τ) β σ) (hw₀ : w₀.Start) (t : τ) :
    let w := (p.exec D w₀).2
    let r := w.registries t
    (∀ h, (∃ e, r.lookup h = .ok e) ↔ h ∈ Note.issued t w.notes ∧ ¬ Note.Removed t h w.notes) ∧
      (∀ h {γ : Type} (op : Request γ) (finalize : Finalizer τ (Note τ) β σ),
        ¬ op.Allowed r h → ∃ m, op.run finalize t h w =
          (.fail (if op.lends = true ∧ (r.lookup h).isOk = true then .contract m else .lifetime m), w)) ∧
      (∀ h {γ : Type} (op : Request γ) (finalize : Finalizer τ (Note τ) β σ),
        (r.owner = .foreign → ∀ code a w',
          (finalize t (.foreign code) a w').1 = .ok () ∨ (finalize t (.foreign code) a w').1.isAbort = true) →
          (∀ e, r.lookup h = .ok e → op.Allows e → ∃ r' w₁, Touched op h e r r' ∧
            w₁.scene = { w.scene with registries := w.registries.set t r' } ∧
            Completes finalize t e w₁ op (op.run finalize t h w)) ∧
          ((∀ d a w', (finalize t d a w').1.isAbort = false) →
            ((∃ a w', op.run finalize t h w = (.ok a, w')) ↔ op.Allowed r h))) ∧
      (r.owner = .foreign → ∀ (finalize : Finalizer τ (Note τ) β σ) a lacking room, ∃ m,
        Objects.create finalize t a lacking room w = (finalize t .native a >>= fun _ => Act.fail (.contract m)) w ∧
          (Objects.create finalize t a lacking room w).2 = (finalize t .native a w).2) ∧
      (r.owner = .host → ∀ (finalize : Finalizer τ (Note τ) β σ) code room,
        (∃ f, Objects.adopt finalize t 0 code room w = (.fail f, w)) ∧
        (∀ a, a ≠ 0 → ∃ m,
          Objects.adopt finalize t a code room w =
              (finalize t (.foreign code) a >>= fun _ => Act.fail (.contract m)) w ∧
            (Objects.adopt finalize t a code room w).2 = (finalize t (.foreign code) a w).2) ∧
        ∀ build, ∃ m, Objects.construct finalize t code build room w = (.fail (.contract m), w)) := by
  intro w r
  have hsound : r.Sound := p.exec_sound D hw₀ t
  have hmatched : r.Matched :=
    @Program.keeps _ _ _ _ _ _ p D w₀ hw₀ t (fun r _ => r.Matched) Registry.Matched.of_blank
      fun _ _ _ _ hs hc hm => hm.change hs hc
  have hrec : Registry.Recorded t r w.notes :=
    p.keeps D hw₀ t Registry.Recorded.of_blank fun _ _ _ _ hs hc hr => hr.change hs hc
  refine ⟨fun h => ?_, fun h _ op finalize => Request.run_of_refused finalize, fun h _ op finalize hreturns => ?_,
    fun howner finalize a lacking room => ?_, fun howner finalize code room => ⟨?_, fun a ha => ?_, fun build => ?_⟩⟩
  · constructor
    · rintro ⟨e, he⟩
      obtain ⟨hreg, hnot⟩ := (hrec.resolves h e.address).mp (Registry.resolve_eq_ok.mpr ⟨e, he, rfl⟩)
      exact ⟨Note.mem_issued.mpr ⟨_, hreg⟩, hnot⟩
    · rintro ⟨hissued, hnot⟩
      obtain ⟨a, ha⟩ := Note.mem_issued.mp hissued
      obtain ⟨e, he, _⟩ := Registry.resolve_eq_ok.mp ((hrec.resolves h a).mpr ⟨ha, hnot⟩)
      exact ⟨e, he⟩
  · exact ⟨fun e hl hop => Request.run_of_allowed hsound hmatched hreturns hl hop,
      fun hgoeson => Request.run_ok_iff hsound hmatched hreturns hgoeson op⟩
  · rw [Objects.create_eq]
    exact Objects.enterOr_refused finalize a lacking room (by rw [howner]; decide)
  · exact ⟨_, rfl⟩
  · rw [Objects.adopt_eq finalize t code room ha]
    refine Objects.enterOr_refused finalize a none room ?_
    rw [howner]
    exact fun h => nomatch h
  · have hside : (w.registries t).owner ≠ .foreign := by rw [howner]; decide
    obtain ⟨m, hm⟩ := Objects.expectOwner_refused hside
    exact ⟨m, Act.bind_of_fail hm _⟩

/-- One object is lent and another, registered after it, is gone. -/
def lentOnce : Program ObjectType Unit Unit true 0 Unit :=
  .bind (.create .obj 8 none true) fun h =>
  .bind (.create .obj 16 none true) fun k =>
  .bind (.beginLoan .obj h rfl) fun _ =>
  .destroy .obj k .host

theorem lentOnce_registry :
    let r := (lentOnce.exec ObjectType.destructors ObjectType.world).2.registries .obj
    r.slots = #[⟨1, some ⟨8, .native, .host, 1⟩⟩, ⟨2, none⟩] ∧ r.owner = .host := by
  decide +kernel

theorem operations_atomic_and_local_in_lentOnce :
    let w := (lentOnce.exec ObjectType.destructors ObjectType.world).2
    let finalize : Finalizer ObjectType (Note ObjectType) Unit Unit := fun _ _ _ => pure ()
    (∃ m, Objects.destroy finalize .obj ⟨0, 1⟩ .host w = (.fail (.lifetime m), w)) ∧
      (∃ m, Objects.release .obj ⟨1, 1⟩ .host w = (.fail (.lifetime m), w)) ∧
      (∃ u w', Request.endLoan.run finalize .obj ⟨0, 1⟩ w = (.ok u, w')) ∧
      ∃ m, Objects.construct finalize .obj 5 (fun slot => pure (24, slot)) true w = (.fail (.contract m), w) := by
  have hrun :=
    operations_atomic_and_local lentOnce ObjectType.destructors ObjectType.world ObjectType.start_world .obj
  obtain ⟨hslots, howner⟩ := lentOnce_registry
  revert hrun hslots howner
  generalize (lentOnce.exec ObjectType.destructors ObjectType.world).2 = w
  intro hrun hslots howner _ finalize
  obtain ⟨_, hrefused, haccepted, _, hwrong⟩ := hrun
  have hlent : (w.registries .obj).lookup ⟨0, 1⟩ = .ok ⟨8, .native, .host, 1⟩ :=
    Registry.lookup_eq_ok.mpr ⟨Nat.one_ne_zero, by rw [hslots]; rfl⟩
  refine ⟨?_, ?_, ?_, (hwrong howner finalize 5 true).2.2 _⟩
  · refine hrefused ⟨0, 1⟩ (.destroy .host) finalize ?_
    rintro ⟨e, he, hallows⟩
    rw [hlent] at he
    cases he
    exact absurd hallows.2 (by decide)
  · refine hrefused ⟨1, 1⟩ (.release .host) finalize ?_
    rintro ⟨e, he, _⟩
    have hslot := (Registry.lookup_eq_ok.mp he).2
    rw [hslots] at hslot
    cases hslot
  · refine ((haccepted ⟨0, 1⟩ .endLoan finalize fun _ _ _ _ => .inl rfl).2 fun _ _ _ => rfl).mpr ?_
    exact ⟨_, hlent, Nat.one_pos⟩

end Causeway
