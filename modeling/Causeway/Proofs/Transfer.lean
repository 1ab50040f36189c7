import Causeway.Proofs.Acts
import Causeway.Proofs.HandOver
import Causeway.ObjectType

/-!
# Causeway.Proofs.Transfer

A value from the moment it is to be passed by ownership until it is taken back or dropped.

* `Finalizer.Apart`        — destructors that leave the registries alone.
* `Objects.Destructions`   — objects destroyed one after another, each with its one destructor call.
* `SharedValue.dropHandles_cases` — dropping handles destroys all of them, or the process ends on the way.
* `transferred_value_life` — the statement for every value and every world.

Whatever keeps a value from being handed over keeps the host from destroying it: the handle that was refused is
stale, lent or held by the other side, and if it came twice it is stale by the time it comes again. So a refused
value cannot be dropped, and a transfer that does not succeed ends the process.
-/

namespace Causeway

variable {τ ε β σ : Type}

/-- The destructors of a type leave the registries alone. The foreign ones do not throw. -/
structure Finalizer.Apart (finalize : Finalizer τ ε β σ) (t : τ) : Prop where
  registries : ∀ d a w, (finalize t d a w).2.registries = w.registries
  returns : ∀ d a w, d.side = .foreign → (finalize t d a w).1 = .ok () ∨ (finalize t d a w).1.isAbort = true

variable [DecidableEq τ]

namespace Registries

/-- Objects taken out in turn, each counted as destroyed. -/
def destroyEach : List (τ × Handle) → Registries τ → Registries τ
  | [], rs => rs
  | (t, h) :: rest, rs => destroyEach rest (rs.set t ((rs t).vacate h).noteDestroyed)

variable {rs : Registries τ} {t : τ} {h : Handle} {e : Entry}

theorem lookup_destroyed (hl : (rs t).lookup h = .ok e) (u : τ) (k : Handle) :
    (rs.set t ((rs t).vacate h).noteDestroyed u).lookup k =
      if (u, k) = (t, h) then .error (.stale (rs t).typeName h) else (rs u).lookup k := by
  by_cases hu : u = t
  · subst hu
    have hnoted : ((rs u).vacate h).noteDestroyed.lookup k = ((rs u).vacate h).lookup k := rfl
    rw [set_same, hnoted, Registry.lookup_vacate hl]
    simp only [Prod.mk.injEq, true_and]
  · rw [set_other rs _ hu, if_neg]
    exact fun heq => hu (Prod.mk.inj heq).1

/-- A destroyed object cannot be handed over, and any other as before. -/
theorem movable_destroyed (hl : (rs t).lookup h = .ok e) {taker : Side} {x : τ × Handle} :
    (rs.set t ((rs t).vacate h).noteDestroyed).Movable taker x ↔ rs.Movable taker x ∧ x ≠ (t, h) := by
  unfold Movable
  rw [lookup_destroyed hl]
  by_cases hx : x = (t, h)
  · subst hx
    simp
  · rw [if_neg hx, and_iff_left hx]

/-- Handles that are destroyed in turn name nothing afterwards, and all others what they named. -/
theorem lookup_destroyEach {xs : List (τ × Handle)} (hnodup : xs.Nodup)
    (hall : ∀ x ∈ xs, rs.Movable .foreign x) (u : τ) (k : Handle) :
    (rs.destroyEach xs u).lookup k =
      if (u, k) ∈ xs then .error (.stale (rs u).typeName k) else (rs u).lookup k := by
  induction xs generalizing rs with
  | nil => simp [destroyEach]
  | cons x xs ih =>
    obtain ⟨t, h⟩ := x
    obtain ⟨e, hl, _, _⟩ := hall _ List.mem_cons_self
    obtain ⟨hnew, hnodup⟩ := List.nodup_cons.mp hnodup
    have hrest : ∀ x ∈ xs, (rs.set t ((rs t).vacate h).noteDestroyed).Movable .foreign x := by
      intro x hx
      refine (movable_destroyed hl).mpr ⟨hall x (List.mem_cons_of_mem _ hx), fun heq => ?_⟩
      exact hnew (heq ▸ hx)
    have hname : (rs.set t ((rs t).vacate h).noteDestroyed u).typeName = (rs u).typeName := by
      by_cases hu : u = t
      · subst hu
        rw [set_same]
        rfl
      · rw [set_other rs _ hu]
    unfold destroyEach
    rw [ih hnodup hrest, hname, lookup_destroyed hl]
    by_cases hx : (u, k) = (t, h)
    · have hmem : (u, k) ∉ xs := by rw [hx]; exact hnew
      rw [if_neg hmem, if_pos hx, if_pos (hx ▸ List.mem_cons_self)]
      cases hx
      rfl
    · by_cases hmem : (u, k) ∈ xs
      · rw [if_pos hmem, if_pos (List.mem_cons_of_mem _ hmem)]
      · rw [if_neg hmem, if_neg hx, if_neg fun h => (List.mem_cons.mp h).elim hx hmem]

theorem counters_destroyEach (xs : List (τ × Handle)) (rs : Registries τ) (u : τ) :
    (rs.destroyEach xs u).created = (rs u).created ∧ (rs.destroyEach xs u).released = (rs u).released ∧
      (rs.destroyEach xs u).destroyed = (rs u).destroyed + xs.countP (fun x => x.1 = u) := by
  induction xs generalizing rs with
  | nil => exact ⟨rfl, rfl, rfl⟩
  | cons x xs ih =>
    obtain ⟨t, h⟩ := x
    obtain ⟨hcreated, hreleased, hdestroyed⟩ := ih (rs.set t ((rs t).vacate h).noteDestroyed)
    unfold destroyEach
    rw [hcreated, hreleased, hdestroyed, List.countP_cons]
    by_cases hu : u = t
    · subst hu
      rw [set_same]
      refine ⟨rfl, rfl, ?_⟩
      simp only [Registry.noteDestroyed, Registry.vacate, decide_true, ↓reduceIte]
      omega
    · rw [set_other rs _ hu]
      refine ⟨rfl, rfl, ?_⟩
      simp [Ne.symm hu]

end Registries

namespace Objects

variable {finalize : Finalizer τ ε β σ} {w w' : World τ ε β σ}

/-- From one world to another by destroying the host's objects of a list in turn. For each, the object leaves
its registry, its destructor runs, and it is counted as destroyed. -/
inductive Destructions (finalize : Finalizer τ ε β σ) :
    List (τ × Handle) → World τ ε β σ → World τ ε β σ → Prop where
  | nil (w : World τ ε β σ) : Destructions finalize [] w w
  | cons {t : τ} {h : Handle} {rest : List (τ × Handle)} {e : Entry} {r : Registry}
      {w w₁ w₂ w' : World τ ε β σ} (removed : (w.registries t).remove h .host = .ok (e, r))
      (begun : w₁.scene = { w.scene with registries := w.registries.set t r })
      (returned : (finalize t e.destructor e.address w₁).1.isAbort = false)
      (counted : w₂.scene = { (finalize t e.destructor e.address w₁).2.scene with
        registries := w.registries.set t r.noteDestroyed })
      (later : Destructions finalize rest w₂ w') : Destructions finalize ((t, h) :: rest) w w'

/-- What is destroyed in turn is distinct and could have been handed over instead. -/
theorem Destructions.movable {xs : List (τ × Handle)} (hd : Destructions finalize xs w w') :
    xs.Nodup ∧ ∀ x ∈ xs, w.registries.Movable .foreign x := by
  induction hd with
  | nil w => exact ⟨List.nodup_nil, fun x hx => nomatch hx⟩
  | @cons t h rest e r w w₁ w₂ w' removed begun returned counted later ih =>
    obtain ⟨hl, hholder, hloans, rfl⟩ := Registry.remove_eq_ok.mp removed
    have hregs : w₂.registries = w.registries.set t ((w.registries t).vacate h).noteDestroyed :=
      congrArg Scene.registries counted
    obtain ⟨hnodup, hall⟩ := ih
    rw [hregs] at hall
    refine ⟨List.nodup_cons.mpr ⟨fun hmem => ?_, hnodup⟩, List.forall_mem_cons.mpr ⟨?_, fun x hx => ?_⟩⟩
    · exact ((Registries.movable_destroyed hl).mp (hall _ hmem)).2 rfl
    · exact ⟨e, hl, hholder, hloans⟩
    · exact ((Registries.movable_destroyed hl).mp (hall x hx)).1

theorem Destructions.registries {xs : List (τ × Handle)} (hd : Destructions finalize xs w w') :
    w'.registries = w.registries.destroyEach xs := by
  induction hd with
  | nil w => rfl
  | @cons t h rest e r w w₁ w₂ w' removed begun returned counted later ih =>
    obtain ⟨_, _, _, rfl⟩ := Registry.remove_eq_ok.mp removed
    have hregs : w₂.registries = w.registries.set t ((w.registries t).vacate h).noteDestroyed :=
      congrArg Scene.registries counted
    rw [ih, hregs]
    rfl

/-- The host may not destroy an object. -/
def Refused (e : Failure) (t : τ) (h : Handle) (w : World τ ε β σ) : Prop :=
  ∃ x, (w.registries t).remove h .host = .error x ∧ e = x.failure

/-- The destructor of an object ends the process. -/
def CutShort (finalize : Finalizer τ ε β σ) (e : Failure) (t : τ) (h : Handle) (w : World τ ε β σ) : Prop :=
  ∃ entry r w₁, (w.registries t).remove h .host = .ok (entry, r) ∧
    w₁.scene = { w.scene with registries := w.registries.set t r } ∧
    (finalize t entry.destructor entry.address w₁).1 = .abort e

/-- Once the objects before it in a list are destroyed, something holds of one of them. -/
def Reaches (finalize : Finalizer τ ε β σ) (xs : List (τ × Handle)) (w : World τ ε β σ)
    (P : τ → Handle → World τ ε β σ → Prop) : Prop :=
  ∃ pre t h post w₁, xs = pre ++ (t, h) :: post ∧ Destructions finalize pre w w₁ ∧ P t h w₁

theorem Reaches.cons {P : τ → Handle → World τ ε β σ → Prop} {t : τ} {h : Handle}
    {rest : List (τ × Handle)} {entry : Entry} {r : Registry} {w₁ w₂ : World τ ε β σ}
    (removed : (w.registries t).remove h .host = .ok (entry, r))
    (begun : w₁.scene = { w.scene with registries := w.registries.set t r })
    (returned : (finalize t entry.destructor entry.address w₁).1.isAbort = false)
    (counted : w₂.scene = { (finalize t entry.destructor entry.address w₁).2.scene with
      registries := w.registries.set t r.noteDestroyed })
    (later : Reaches finalize rest w₂ P) : Reaches finalize ((t, h) :: rest) w P := by
  obtain ⟨pre, u, k, post, w₃, rfl, hd, hlast⟩ := later
  exact ⟨(t, h) :: pre, u, k, post, w₃, rfl, .cons removed begun returned counted hd, hlast⟩

/-- The host may destroy each of its unlent objects, also after others. -/
theorem not_reaches_refused {xs : List (τ × Handle)} (hnodup : xs.Nodup)
    (hall : ∀ x ∈ xs, w.registries.Movable .foreign x) (e : Failure) :
    ¬ Reaches finalize xs w (Refused e) := by
  rintro ⟨pre, t, h, post, w₁, rfl, hd, x, hrefused, _⟩
  obtain ⟨entry, hl, hholder, hloans⟩ := hall (t, h) (by simp)
  have hnew : (t, h) ∉ pre := fun hmem =>
    (List.nodup_append.mp hnodup).2.2 _ hmem _ List.mem_cons_self rfl
  have hl₁ : (w₁.registries t).lookup h = .ok entry := by
    rw [hd.registries, Registries.lookup_destroyEach hd.movable.1 hd.movable.2, if_neg hnew, hl]
  have hremove : (w₁.registries t).remove h .host = .ok (entry, (w₁.registries t).vacate h) :=
    Registry.remove_eq_ok.mpr ⟨hl₁, hholder, hloans, rfl⟩
  rw [hremove] at hrefused
  cases hrefused

end Objects

namespace SharedValue

variable {finalize : Finalizer τ ε β σ}

/-- Dropping handles in turn destroys their objects, or ends the process. -/
theorem dropHandles_cases {xs : List (τ × Handle)} (hfin : ∀ x ∈ xs, finalize.Apart x.1) (w : World τ ε β σ) :
    (∃ w', dropHandles finalize xs w = (.ok (), w') ∧ Objects.Destructions finalize xs w w') ∨
      ∃ e w', dropHandles finalize xs w = (.abort e, w') ∧
        (Objects.Reaches finalize xs w (Objects.Refused e) ∨
          Objects.Reaches finalize xs w (Objects.CutShort finalize e)) := by
  induction xs generalizing w with
  | nil => exact .inl ⟨w, rfl, .nil w⟩
  | cons x rest ih =>
    obtain ⟨t, h⟩ := x
    have hfirst := hfin (t, h) List.mem_cons_self
    unfold dropHandles Handle.drop
    have hreturns : ∀ entry r w₁, (w.registries t).remove h .host = .ok (entry, r) →
        w₁.scene = { w.scene with registries := w.registries.set t r } → entry.destructor.side = .foreign →
        (finalize t entry.destructor entry.address w₁).1 = .ok () ∨
          (finalize t entry.destructor entry.address w₁).1.isAbort = true :=
      fun entry _ w₁ _ _ hside => hfirst.returns entry.destructor entry.address w₁ hside
    rcases Objects.destroy_ends h .host w hreturns with
      ⟨entry, r, w₁, hremove, hscene, w₂, hscene₂, ⟨hreturned, hdestroy⟩ | ⟨e, hended, hdestroy⟩⟩ |
      ⟨x, hremove, hdestroy⟩
    · have hregs₂ : w₂.registries = w.registries.set t r := by
        rw [show w₂.registries = _ from congrArg Scene.registries hscene₂]
        exact (hfirst.registries entry.destructor entry.address w₁).trans (congrArg Scene.registries hscene)
      have hcounted : ({ w₂ with registries := w₂.registries.set t (w₂.registries t).noteDestroyed } :
          World τ ε β σ).scene = { (finalize t entry.destructor entry.address w₁).2.scene with
            registries := w.registries.set t r.noteDestroyed } := by
        rw [← hscene₂, hregs₂, Registries.set_same, Registries.set_set]
        rfl
      rw [Act.bind_of_ok (Act.orAbort_of_ok hdestroy)]
      rcases ih (fun x hx => hfin x (List.mem_cons_of_mem _ hx))
        { w₂ with registries := w₂.registries.set t (w₂.registries t).noteDestroyed } with
        ⟨w', hrest, hd⟩ | ⟨e, w', hrest, hend⟩
      · exact .inl ⟨w', hrest, .cons hremove hscene hreturned hcounted hd⟩
      · refine .inr ⟨e, w', hrest, ?_⟩
        exact hend.imp (·.cons hremove hscene hreturned hcounted) (·.cons hremove hscene hreturned hcounted)
    · refine .inr ⟨e, w₂, Act.bind_of_abort (Act.orAbort_of_abort hdestroy) _, ?_⟩
      exact .inr ⟨[], t, h, rest, w, rfl, .nil w, entry, r, w₁, hremove, hscene, hended⟩
    · refine .inr ⟨x.failure, _, Act.bind_of_abort (Act.orAbort_of_fail hdestroy) _, ?_⟩
      exact .inl ⟨[], t, h, rest, w, rfl, .nil w, x, hremove, rfl⟩

end SharedValue

namespace Call

variable {finalize : Finalizer τ ε β σ} {v : SharedValue τ} {w : World τ ε β σ}

theorem handOver_of_movable (taker : Side)
    (hv : v.handles.Nodup ∧ ∀ x ∈ v.handles, w.registries.Movable taker x) :
    v.handOver taker w = (.ok (), { w with registries := w.registries.give taker v.handles }) := by
  unfold SharedValue.handOver
  rw [v.releaseTo_eq, Registries.transferAll_eq_ok.mpr ⟨hv, rfl⟩]

theorem handOver_of_refused (taker : Side)
    (hv : ¬ (v.handles.Nodup ∧ ∀ x ∈ v.handles, w.registries.Movable taker x)) :
    ∃ e, v.handOver taker w = (.fail e, w) := by
  unfold SharedValue.handOver
  rw [v.releaseTo_eq]
  cases hall : Registries.transferAll taker v.handles w.registries with
  | ok rs => exact absurd (Registries.transferAll_eq_ok.mp hall).1 hv
  | error e => exact ⟨e.failure, rfl⟩

theorem transfer_of_movable
    (hv : v.handles.Nodup ∧ ∀ x ∈ v.handles, w.registries.Movable .foreign x) :
    transfer finalize v w = (.ok (), { w with registries := w.registries.give .foreign v.handles }) := by
  unfold transfer
  rw [Act.bind_of_ok (Act.attempt_of_ok (handOver_of_movable .foreign hv))]
  rfl

/-- A refused value cannot be dropped either. -/
theorem transfer_of_refused (hfin : ∀ x ∈ v.handles, finalize.Apart x.1)
    (hv : ¬ (v.handles.Nodup ∧ ∀ x ∈ v.handles, w.registries.Movable .foreign x)) :
    ∃ e w', transfer finalize v w = (.abort e, w') ∧
      (Objects.Reaches finalize v.handles w (Objects.Refused e) ∨
        Objects.Reaches finalize v.handles w (Objects.CutShort finalize e)) := by
  obtain ⟨e, hrefused⟩ := handOver_of_refused .foreign hv
  rcases SharedValue.dropHandles_cases hfin w with ⟨w', _, hd⟩ | ⟨e', w', hdrop, hend⟩
  · -- what could be dropped could have been handed over
    exact absurd hd.movable hv
  · refine ⟨e', w', ?_, hend⟩
    unfold transfer
    rw [Act.bind_of_ok (Act.attempt_of_fail hrefused)]
    exact Act.bind_of_abort hdrop _

/-- Taking back what was transferred leaves no trace of the transfer. -/
theorem handOver_back (hv : v.handles.Nodup ∧ ∀ x ∈ v.handles, w.registries.Movable .foreign x) :
    v.handOver .host { w with registries := w.registries.give .foreign v.handles } = (.ok (), w) := by
  have hback := Registries.movable_back hv.2
  rw [handOver_of_movable (w := { w with registries := w.registries.give .foreign v.handles }) .host
    ⟨hv.1, hback⟩]
  have hregs : (w.registries.give .foreign v.handles).give .host v.handles = w.registries :=
    Registries.give_back hv.2
  simp only [hregs]

end Call

/-- Transferring a value succeeds exactly when its handles are distinct and each names an unlent object of the
host. Otherwise the process ends, at the first object that the host may not destroy or at a destructor that ends
it before that. A transferred value can be taken back, and then the world is as it was. Dropping it instead does
what dropping the value before the transfer does: it destroys each of its objects once, in declaration order,
and nothing else in the registries changes, unless a destructor ends the process. -/
theorem transferred_value_life (finalize : Finalizer τ ε β σ) (v : SharedValue τ)
    (hfin : ∀ x ∈ v.handles, finalize.Apart x.1) (w : World τ ε β σ) :
    ((v.handles.Nodup ∧ ∀ x ∈ v.handles, w.registries.Movable .foreign x) →
        ∃ w', Call.transfer finalize v w = (.ok (), w')) ∧
      (¬ (v.handles.Nodup ∧ ∀ x ∈ v.handles, w.registries.Movable .foreign x) →
        ∃ e w', Call.transfer finalize v w = (.abort e, w') ∧
          (Objects.Reaches finalize v.handles w (Objects.Refused e) ∨
            Objects.Reaches finalize v.handles w (Objects.CutShort finalize e))) ∧
      ∀ w', Call.transfer finalize v w = (.ok (), w') →
        Call.reclaim v w' = (.ok (), w) ∧
        Call.abandon finalize v w' = v.drop finalize w ∧
        ((∃ w'', v.drop finalize w = (.ok (), w'') ∧ Objects.Destructions finalize v.handles w w'' ∧
            ∀ t, (w''.registries t).created = (w.registries t).created ∧
              (w''.registries t).released = (w.registries t).released ∧
              (w''.registries t).destroyed =
                (w.registries t).destroyed + v.handles.countP (fun x => x.1 = t) ∧
              ∀ h, (w''.registries t).lookup h =
                if (t, h) ∈ v.handles then .error (.stale (w.registries t).typeName h)
                else (w.registries t).lookup h) ∨
          ∃ e w'', v.drop finalize w = (.abort e, w'') ∧
            Objects.Reaches finalize v.handles w (Objects.CutShort finalize e)) := by
  refine ⟨fun hv => ⟨_, Call.transfer_of_movable hv⟩, Call.transfer_of_refused hfin, fun w' hok => ?_⟩
  have hv : v.handles.Nodup ∧ ∀ x ∈ v.handles, w.registries.Movable .foreign x := by
    refine Classical.byContradiction fun hnot => ?_
    obtain ⟨e, w₁, habort, _⟩ := Call.transfer_of_refused hfin hnot
    rw [hok] at habort
    cases habort
  obtain rfl : { w with registries := w.registries.give .foreign v.handles } = w' := by
    rw [Call.transfer_of_movable hv] at hok
    exact (Prod.mk.inj hok).2
  refine ⟨Call.handOver_back hv, ?_, ?_⟩
  · unfold Call.abandon
    rw [Act.bind_of_ok (Act.orAbort_of_ok (Call.handOver_back hv))]
  · rcases SharedValue.dropHandles_cases hfin w with ⟨w'', hdrop, hd⟩ | ⟨e, w'', hdrop, hend⟩
    · refine .inl ⟨w'', hdrop, hd, fun t => ?_⟩
      rw [hd.registries]
      obtain ⟨hcreated, hreleased, hdestroyed⟩ := Registries.counters_destroyEach v.handles w.registries t
      exact ⟨hcreated, hreleased, hdestroyed, Registries.lookup_destroyEach hv.1 hv.2 t⟩
    · refine .inr ⟨e, w'', hdrop, hend.resolve_left ?_⟩
      exact Objects.not_reaches_refused hv.1 hv.2 e

/-- An object of each side, and destructors that write down what they destroy. -/
def twoObjects : World ObjectType Empty Empty (List (ObjectType × Destructor × Address)) :=
  { registries := fun t => match t with
      | .obj => { t.registry with slots := #[⟨1, some ⟨8, .native, .host, 0⟩⟩], created := 1 }
      | .ext => { t.registry with slots := #[⟨1, some ⟨8, .foreign 5, .host, 0⟩⟩], created := 1 }
      | t => t.registry
    state := [] }

def writeDown : Finalizer ObjectType Empty Empty (List (ObjectType × Destructor × Address)) :=
  fun t d a => Act.modify (· ++ [(t, d, a)])

theorem transferred_value_life_in_record :
    let v : SharedValue ObjectType := .record "Pair" <|
      .cons "inner" (.record "Inner" (.cons "ext" (.handle .ext ⟨0, 1⟩) .nil)) <|
      .cons "obj" (.handle .obj ⟨0, 1⟩) .nil
    ∃ w', Call.transfer writeDown v twoObjects = (.ok (), w') ∧ Call.reclaim v w' = (.ok (), twoObjects) ∧
      (Call.abandon writeDown v w').2.state = [(.ext, .foreign 5, 8), (.obj, .native, 8)] := by
  intro v
  have hlife := transferred_value_life writeDown v
    (fun _ _ => ⟨fun _ _ _ => rfl, fun _ _ _ _ => .inl rfl⟩) twoObjects
  obtain ⟨w', hok⟩ := hlife.1 ⟨by decide, by
    simp only [v, SharedValue.handles, SharedFields.handles, List.cons_append, List.nil_append,
      List.forall_mem_cons]
    exact ⟨⟨⟨8, .foreign 5, .host, 0⟩, rfl, rfl, rfl⟩, ⟨⟨8, .native, .host, 0⟩, rfl, rfl, rfl⟩,
      fun _ hx => nomatch hx⟩⟩
  obtain ⟨hreclaim, habandon, _⟩ := hlife.2.2 w' hok
  refine ⟨w', hok, hreclaim, ?_⟩
  rw [habandon]
  decide +kernel

end Causeway
