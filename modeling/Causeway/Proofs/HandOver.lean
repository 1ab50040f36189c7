import Causeway.Proofs.Slots
import Causeway.SharedValue

/-!
# Causeway.Proofs.HandOver

Handing over a shared value moves all of its handles or none.

* `Registries.Movable` — a handle that can be handed to a side.
* `Registries.give`    — the registries with the holder of some handles changed, and nothing else.
* `Registries.transferAll` — one handle after another, with nothing undone.
* `SharedValue.releaseTo_eq` — a value of any shape is handed over like the list of its handles, and undoing
  always succeeds.
* `releaseTo_all_or_nothing` — the statement for every value and all registries.
-/

namespace Causeway

variable {τ : Type}

namespace Registries

/-- The handle names an object that the other side holds and has not lent. -/
def Movable (rs : Registries τ) (taker : Side) (x : τ × Handle) : Prop :=
  ∃ e, (rs x.1).lookup x.2 = .ok e ∧ e.holder = taker.other ∧ e.loans = 0

variable [DecidableEq τ]

/-- The slot of a handle that is handed over. -/
def giveSlot (taker : Side) (xs : List (τ × Handle)) (t : τ) (i : Nat) (s : Slot) : Slot :=
  if (t, ⟨i, s.generation⟩) ∈ xs then
    { s with entry := s.entry.map fun e => { e with holder := taker } }
  else s

/-- Every object named in a list is held by a side, and nothing else is different. -/
def give (rs : Registries τ) (taker : Side) (xs : List (τ × Handle)) : Registries τ := fun t =>
  { rs t with slots := (rs t).slots.mapIdx (giveSlot taker xs t) }

/-- Hand over handles in turn, up to the first that is refused. -/
def transferAll (taker : Side) : List (τ × Handle) → Registries τ → Except Registry.Refusal (Registries τ)
  | [], rs => .ok rs
  | (t, h) :: rest, rs =>
    match (rs t).transfer h taker.other taker with
    | .error e => .error e
    | .ok r => transferAll taker rest (rs.set t r)

theorem getElem?_give (rs : Registries τ) (taker : Side) (xs : List (τ × Handle)) (t : τ) (i : Nat) :
    (rs.give taker xs t).slots[i]? = (rs t).slots[i]?.map (giveSlot taker xs t i) :=
  Array.getElem?_mapIdx

/-- Registries that differ at most in the slots are equal if the slots are. -/
theorem give_eq_of_slots {rs rs' : Registries τ} {taker : Side} {xs : List (τ × Handle)}
    (hrest : ∀ t, rs' t = { rs t with slots := (rs' t).slots })
    (hslots : ∀ t i, (rs' t).slots[i]? = (rs t).slots[i]?.map (giveSlot taker xs t i)) :
    rs' = rs.give taker xs := by
  funext t
  have hs : (rs' t).slots = (rs t).slots.mapIdx (giveSlot taker xs t) := by
    refine Array.ext_getElem? fun i => ?_
    rw [hslots t i, Array.getElem?_mapIdx]
  rw [hrest t, hs]
  rfl

theorem give_nil (rs : Registries τ) (taker : Side) : rs = rs.give taker [] := by
  refine give_eq_of_slots (fun t => rfl) fun t i => ?_
  cases (rs t).slots[i]? <;> simp [giveSlot]

theorem give_append (rs : Registries τ) (taker : Side) (xs ys : List (τ × Handle)) :
    (rs.give taker xs).give taker ys = rs.give taker (xs ++ ys) := by
  refine give_eq_of_slots (fun t => rfl) fun t i => ?_
  rw [getElem?_give, getElem?_give, Option.map_map]
  refine congrArg (fun f => Option.map f _) (funext fun s => ?_)
  by_cases hx : (t, ⟨i, s.generation⟩) ∈ xs <;> by_cases hy : (t, ⟨i, s.generation⟩) ∈ ys <;>
    simp [giveSlot, hx, hy, Function.comp_def]

theorem lookup_give (rs : Registries τ) (taker : Side) (xs : List (τ × Handle)) (t : τ) (h : Handle) :
    (rs.give taker xs t).lookup h =
      if (t, h) ∈ xs then ((rs t).lookup h).map fun e => { e with holder := taker }
      else (rs t).lookup h := by
  have hname : (rs.give taker xs t).typeName = (rs t).typeName := rfl
  unfold Registry.lookup
  rw [getElem?_give, hname]
  by_cases hnull : h.isNull = true
  · simp [hnull, Except.map]
  · rcases (rs t).slots[h.index]? with _ | ⟨g, _ | e⟩
    · simp [hnull, Except.map]
    · by_cases hx : (t, ⟨h.index, g⟩) ∈ xs <;> simp [hnull, Except.map, giveSlot, hx]
    · by_cases hg : g = h.generation
      · subst hg
        by_cases hx : (t, h) ∈ xs <;> simp [hnull, Except.map, giveSlot, hx]
      · by_cases hx : (t, ⟨h.index, g⟩) ∈ xs <;> simp [hnull, Except.map, giveSlot, hx, hg]

/-- What was handed over before cannot be handed over again. -/
theorem movable_give {rs : Registries τ} {taker : Side} {xs : List (τ × Handle)} {x : τ × Handle} :
    (rs.give taker xs).Movable taker x ↔ rs.Movable taker x ∧ x ∉ xs := by
  unfold Movable
  rw [lookup_give]
  by_cases hx : x ∈ xs
  · rw [if_pos hx]
    constructor
    · rintro ⟨e, he, hholder, _⟩
      cases hl : (rs x.1).lookup x.2 with
      | error r => rw [hl] at he; cases he
      | ok e₀ =>
        rw [hl] at he
        cases he
        exact absurd hholder.symm (Side.other_ne taker)
    · exact fun h => absurd hx h.2
  · rw [if_neg hx, and_iff_left hx]

/-- What was handed over can be handed back. -/
theorem movable_back {rs : Registries τ} {taker : Side} {xs : List (τ × Handle)}
    (hxs : ∀ x ∈ xs, rs.Movable taker x) : ∀ x ∈ xs, (rs.give taker xs).Movable taker.other x := by
  intro x hx
  obtain ⟨e, he, _, hloans⟩ := hxs x hx
  refine ⟨{ e with holder := taker }, ?_, (Side.other_other taker).symm, hloans⟩
  rw [lookup_give, if_pos hx, he]
  rfl

/-- Handing back what was handed over leaves no trace. -/
theorem give_back {rs : Registries τ} {taker : Side} {xs : List (τ × Handle)}
    (hxs : ∀ x ∈ xs, rs.Movable taker x) : (rs.give taker xs).give taker.other xs = rs := by
  symm
  refine give_eq_of_slots (fun t => rfl) fun t i => ?_
  rw [getElem?_give]
  cases hs : (rs t).slots[i]? with
  | none => rfl
  | some s =>
    by_cases hx : (t, ⟨i, s.generation⟩) ∈ xs
    · obtain ⟨e, he, hholder, _⟩ := hxs _ hx
      have hslot := (Registry.lookup_eq_ok.mp he).2
      rw [hs] at hslot
      obtain ⟨g, entry⟩ := s
      cases hslot
      simp [giveSlot, hx, ← hholder]
    · simp [giveSlot, hx]

theorem giveSlot_of_not_mem {taker : Side} {xs : List (τ × Handle)} {t : τ} {i : Nat}
    (hx : ∀ g, (t, ⟨i, g⟩) ∉ xs) (o : Option Slot) : o.map (giveSlot taker xs t i) = o := by
  cases o with
  | none => rfl
  | some s => exact congrArg some (if_neg (hx _))

theorem transfer_eq_give {rs : Registries τ} {taker : Side} {t : τ} {h : Handle} {r : Registry}
    (hr : (rs t).transfer h taker.other taker = .ok r) :
    rs.Movable taker (t, h) ∧ rs.set t r = rs.give taker [(t, h)] := by
  obtain ⟨e, he, hholder, hloans, rfl⟩ := Registry.transfer_eq_ok.mp hr
  refine ⟨⟨e, he, hholder, hloans⟩, give_eq_of_slots (fun u => ?_) fun u i => ?_⟩
  · by_cases hu : u = t
    · subst hu
      rw [set_same]
      rfl
    · rw [set_other rs _ hu]
  · by_cases hu : u = t
    · subst hu
      rw [set_same]
      by_cases hi : i = h.index
      · subst hi
        rw [Registry.getElem?_put he, (Registry.lookup_eq_ok.mp he).2]
        simp [giveSlot]
      · rw [Registry.getElem?_put_ne _ i hi, giveSlot_of_not_mem]
        rintro g hg
        cases List.mem_singleton.mp hg
        exact hi rfl
    · rw [set_other rs _ hu, giveSlot_of_not_mem]
      rintro g hg
      cases List.mem_singleton.mp hg
      exact hu rfl

theorem transferAll_append (taker : Side) (xs ys : List (τ × Handle)) (rs : Registries τ) :
    transferAll taker (xs ++ ys) rs = (transferAll taker xs rs).bind (transferAll taker ys) := by
  induction xs generalizing rs with
  | nil => rfl
  | cons x xs ih =>
    obtain ⟨t, h⟩ := x
    simp only [List.cons_append, transferAll]
    cases (rs t).transfer h taker.other taker with
    | error e => rfl
    | ok r => exact ih _

/-- Handles can be handed over in turn exactly when they are distinct and each of them can be. -/
theorem transferAll_eq_ok {taker : Side} {xs : List (τ × Handle)} {rs rs' : Registries τ} :
    transferAll taker xs rs = .ok rs' ↔
      (xs.Nodup ∧ ∀ x ∈ xs, rs.Movable taker x) ∧ rs' = rs.give taker xs := by
  induction xs generalizing rs with
  | nil =>
    rw [← give_nil]
    simp [transferAll, eq_comm]
  | cons x xs ih =>
    obtain ⟨t, h⟩ := x
    simp only [transferAll]
    cases hr : (rs t).transfer h taker.other taker with
    | error e =>
      simp only [reduceCtorEq, false_iff]
      rintro ⟨⟨_, hall⟩, _⟩
      obtain ⟨e', he, hholder, hloans⟩ := hall _ List.mem_cons_self
      rw [Registry.transfer_eq_ok.mpr ⟨e', he, hholder, hloans, rfl⟩] at hr
      cases hr
    | ok r =>
      obtain ⟨hfirst, hset⟩ := transfer_eq_give hr
      simp only
      rw [ih, hset, give_append]
      simp only [movable_give, List.mem_singleton, List.nodup_cons, List.forall_mem_cons, List.singleton_append]
      constructor
      · rintro ⟨⟨hnodup, hall⟩, hend⟩
        exact ⟨⟨⟨fun hmem => (hall _ hmem).2 rfl, hnodup⟩, hfirst, fun y hy => (hall y hy).1⟩, hend⟩
      · rintro ⟨⟨⟨hnew, hnodup⟩, _, hall⟩, hend⟩
        exact ⟨⟨hnodup, fun y hy => ⟨hall y hy, fun hyx => hnew (hyx ▸ hy)⟩⟩, hend⟩

/-- Where handing over stops: at the first handle that came before or cannot be handed over. -/
theorem transferAll_eq_error {taker : Side} {xs : List (τ × Handle)} {rs : Registries τ}
    {e : Registry.Refusal} (he : transferAll taker xs rs = .error e) :
    ∃ pre t h post, xs = pre ++ (t, h) :: post ∧ (pre.Nodup ∧ ∀ x ∈ pre, rs.Movable taker x) ∧
      ((t, h) ∈ pre ∨ ¬ rs.Movable taker (t, h)) ∧
      (rs.give taker pre t).transfer h taker.other taker = .error e := by
  induction xs generalizing rs with
  | nil => cases he
  | cons x xs ih =>
    obtain ⟨t, h⟩ := x
    simp only [transferAll] at he
    cases hr : (rs t).transfer h taker.other taker with
    | error e' =>
      rw [hr] at he
      cases he
      refine ⟨[], t, h, xs, rfl, ⟨List.nodup_nil, fun _ hx => by cases hx⟩, .inr ?_, ?_⟩
      · rintro ⟨e', hl, hholder, hloans⟩
        rw [Registry.transfer_eq_ok.mpr ⟨e', hl, hholder, hloans, rfl⟩] at hr
        cases hr
      · rw [← give_nil]; exact hr
    | ok r =>
      rw [hr] at he
      obtain ⟨hfirst, hset⟩ := transfer_eq_give hr
      obtain ⟨pre, u, k, post, rfl, ⟨hnodup, hall⟩, hstop, herror⟩ := ih he
      rw [hset] at hall hstop herror
      simp only [movable_give, List.mem_singleton] at hall hstop
      refine ⟨(t, h) :: pre, u, k, post, rfl, ⟨?_, ?_⟩, ?_, ?_⟩
      · exact List.nodup_cons.mpr ⟨fun hmem => (hall _ hmem).2 rfl, hnodup⟩
      · exact List.forall_mem_cons.mpr ⟨hfirst, fun y hy => (hall y hy).1⟩
      · rcases hstop with hmem | hnot
        · exact .inl (List.mem_cons_of_mem _ hmem)
        · by_cases heq : (u, k) = (t, h)
          · exact .inl (heq ▸ List.mem_cons_self)
          · exact .inr fun hmov => hnot ⟨hmov, heq⟩
      · rw [← herror, give_append]
        rfl

end Registries

mutual

/-- A value is handed over like the list of its handles, and where that fails nothing changes. -/
theorem SharedValue.releaseTo_eq [DecidableEq τ] (taker : Side) (v : SharedValue τ) (rs : Registries τ) :
    v.releaseTo taker rs =
      match Registries.transferAll taker v.handles rs with
      | .ok rs' => (.ok (), rs')
      | .error e => (.error e, rs) := by
  cases v with
  | scalar n => rfl
  | handle t h =>
    simp only [SharedValue.releaseTo, SharedValue.handles, Registries.transferAll]
    cases (rs t).transfer h taker.other taker <;> rfl
  | record name fields => exact fields.releaseTo_eq taker rs

theorem SharedFields.releaseTo_eq [DecidableEq τ] (taker : Side) (fields : SharedFields τ)
    (rs : Registries τ) :
    fields.releaseTo taker rs =
      match Registries.transferAll taker fields.handles rs with
      | .ok rs' => (.ok (), rs')
      | .error e => (.error e, rs) := by
  cases fields with
  | nil => rfl
  | cons name v rest =>
    simp only [SharedFields.releaseTo, SharedFields.handles, Registries.transferAll_append]
    rw [v.releaseTo_eq taker rs]
    cases hv : Registries.transferAll taker v.handles rs with
    | error e => rfl
    | ok rs' =>
      simp only [Except.bind]
      rw [rest.releaseTo_eq taker rs']
      cases Registries.transferAll taker rest.handles rs' with
      | ok rs'' => rfl
      | error e =>
        -- the first field was handed over, so handing it back succeeds and restores the registries
        obtain ⟨⟨hnodup, hall⟩, rfl⟩ := Registries.transferAll_eq_ok.mp hv
        have hback := Registries.transferAll_eq_ok.mpr
          ⟨⟨hnodup, Registries.movable_back hall⟩, (Registries.give_back hall).symm⟩
        simp only
        rw [v.releaseTo_eq taker.other, hback]

end

/-- Only a broken lifetime keeps an object from being handed over. -/
theorem Registry.transfer_error_failure {r : Registry} {h : Handle} {giver taker : Side} {e : Refusal}
    (he : r.transfer h giver taker = .error e) : ∃ m, e.failure = .lifetime m := by
  unfold transfer at he
  split at he
  · rename_i hl
    cases he
    exact lookup_error_failure hl
  · split at he
    · cases he; exact ⟨_, rfl⟩
    · split at he <;> cases he
      exact ⟨_, rfl⟩

/-- Handing over a value succeeds exactly when its handles are distinct, live, unlent and held by the other
side, and then their holder is all that changes. Otherwise nothing changes, and the failure is the broken
lifetime of the first handle, in declaration order, that came before or could not be handed over. -/
theorem releaseTo_all_or_nothing [DecidableEq τ] (v : SharedValue τ) (taker : Side) (rs : Registries τ) :
    ((v.releaseTo taker rs).1 = .ok () ↔ v.handles.Nodup ∧ ∀ x ∈ v.handles, rs.Movable taker x) ∧
      ((v.releaseTo taker rs).1 = .ok () → (v.releaseTo taker rs).2 = rs.give taker v.handles) ∧
      ∀ e, (v.releaseTo taker rs).1 = .error e →
        (v.releaseTo taker rs).2 = rs ∧
          ∃ pre t h post, v.handles = pre ++ (t, h) :: post ∧
            (pre.Nodup ∧ ∀ x ∈ pre, rs.Movable taker x) ∧
            ((t, h) ∈ pre ∨ ¬ rs.Movable taker (t, h)) ∧
            (rs.give taker pre t).transfer h taker.other taker = .error e ∧
            ∃ m, e.failure = .lifetime m := by
  rw [v.releaseTo_eq taker rs]
  cases hall : Registries.transferAll taker v.handles rs with
  | ok rs' =>
    obtain ⟨hmov, rfl⟩ := Registries.transferAll_eq_ok.mp hall
    exact ⟨iff_of_true rfl hmov, fun _ => rfl, fun e he => by cases he⟩
  | error e =>
    have hnot : ¬ (v.handles.Nodup ∧ ∀ x ∈ v.handles, rs.Movable taker x) := by
      intro hmov
      rw [Registries.transferAll_eq_ok.mpr ⟨hmov, rfl⟩] at hall
      cases hall
    refine ⟨iff_of_false (by simp) hnot, fun he => (by cases he), fun e' he => ?_⟩
    cases he
    obtain ⟨pre, t, h, post, hhandles, hpre, hstop, herror⟩ := Registries.transferAll_eq_error hall
    exact ⟨rfl, pre, t, h, post, hhandles, hpre, hstop, herror, Registry.transfer_error_failure herror⟩

end Causeway
