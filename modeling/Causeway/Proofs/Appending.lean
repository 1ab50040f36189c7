import Causeway.Proofs.Views
import Causeway.Sequence.Script

/-!
# Causeway.Proofs.Appending

A view is appended whole or not at all.

* `Owner.Pushed`    — elements pushed one after another, none of them refused.
* `Owner.Extension` — one append to a sequence of an owner: the calls the owner sees, and what is left.

An owner may refuse to make room and may refuse any push, at whatever point. What was pushed before a
refusal is cut off again at the length from before the first push, so that the contents are the old ones.
-/

namespace Causeway

namespace Growable

variable {σ α : Type} {g : Growable σ α} {s s' : σ} {v : View α} {e : Failure}

theorem extend_of_not_readable (h : v.asSlice g.width = .error e) : g.extend s v = (.error e, s) := by
  unfold extend
  rw [h]

theorem extend_of_refused (h : v.Readable g.width) (hr : g.reserve s v.shown.length = (.error e, s')) :
    g.extend s v = (.error e, s') := by
  unfold extend
  rw [View.asSlice_of_readable h]
  simp only [hr]

theorem extend_of_room (h : v.Readable g.width) (hr : g.reserve s v.shown.length = (.ok (), s')) :
    g.extend s v = g.append s' v.shown := by
  unfold extend
  rw [View.asSlice_of_readable h]
  simp only [hr]

end Growable

/-! ## One append to a foreign sequence -/

namespace Owner

variable {ω α : Type} {o : Owner ω α} {width : Nat} {v : View α}

/-- The elements are pushed in order, and none is refused. -/
inductive Pushed (o : Owner ω α) : List α → ω → ω → Prop where
  | nil {s : ω} : Pushed o [] s s
  | cons {a : α} {as : List α} {s s₁ s' : ω} :
      o.push s a = (true, s₁) → Pushed o as s₁ s' → Pushed o (a :: as) s s'

theorem pushAll_of_pushed {items : List α} {s s' : ω} (h : o.Pushed items s s') (done : Nat) :
    o.pushAll items s done = (.ok (), s') := by
  induction h generalizing done with
  | nil => rfl
  | cons hpush _ ih => simp only [pushAll, hpush, ih]

theorem pushAll_of_refused {items : List α} {s s₁ s₂ : ω} {a : α} (h : o.Pushed items s s₁)
    (hpush : o.push s₁ a = (false, s₂)) (rest : List α) (done : Nat) :
    o.pushAll (items ++ a :: rest) s done = (.error (done + items.length), s₂) := by
  induction h generalizing done with
  | nil => simp [pushAll, hpush]
  | cons hfirst _ ih =>
    simp only [List.cons_append, pushAll, hfirst, ih hpush, List.length_cons]
    rw [Nat.add_assoc, Nat.add_comm 1]

/-- Either no push is refused, or one is the first. -/
theorem pushed_or_refused (o : Owner ω α) (items : List α) (s : ω) :
    (∃ s', o.Pushed items s s') ∨
      ∃ done a rest s₁ s₂, items = done ++ a :: rest ∧ o.Pushed done s s₁ ∧ o.push s₁ a = (false, s₂) := by
  induction items generalizing s with
  | nil => exact .inl ⟨s, .nil⟩
  | cons a as ih =>
    cases hpush : o.push s a with
    | mk granted s₁ =>
      cases granted with
      | false => exact .inr ⟨[], a, as, s, s₁, rfl, .nil, hpush⟩
      | true =>
        rcases ih s₁ with ⟨s', h⟩ | ⟨done, b, rest, s₂, s₃, rfl, h, hb⟩
        · exact .inl ⟨s', .cons hpush h⟩
        · exact .inr ⟨a :: done, b, rest, s₂, s₃, rfl, .cons hpush h, hb⟩

theorem Lawful.items_pushed (ho : o.Lawful) {items : List α} {s s' : ω} (h : o.Pushed items s s') :
    o.items s' = o.items s ++ items := by
  induction h with
  | nil => rw [List.append_nil]
  | @cons a as s s₁ s' hpush _ ih =>
    have hfirst := ho.items_push s a
    rw [hpush] at hfirst
    rw [ih, hfirst]
    simp

/-- How an append of a view to the sequence `s` goes: the calls in order, the answer, and the sequence
afterwards. -/
inductive Extension (o : Owner ω α) (width : Nat) (s : ω) (v : View α) :
    List (Call α) → Except Failure Unit → ω → Prop where
  | unreadable {e : Failure} : ¬ v.Readable width → v.asSlice width = .error e →
      Extension o width s v [] (.error e) s
  | noRoom {s' : ω} : v.Readable width → o.reserve s v.length = (false, s') →
      Extension o width s v [.reserve v.length false] (.error (ForeignVec.Refusal.noRoom v.length).failure) s'
  | complete {s₀ s' : ω} : v.Readable width → o.reserve s v.length = (true, s₀) →
      o.Pushed v.shown s₀ s' →
      Extension o width s v (.reserve v.length true :: v.shown.map (.push · true)) (.ok ()) s'
  | undone {s₀ s₁ s₂ : ω} {done rest : List α} {a : α} : v.Readable width →
      o.reserve s v.length = (true, s₀) → v.shown = done ++ a :: rest → o.Pushed done s₀ s₁ →
      o.push s₁ a = (false, s₂) → o.length s ≤ o.length s₂ →
      Extension o width s v
        (.reserve v.length true :: (done.map (.push · true) ++ [.push a false, .truncate (o.length s)]))
        (.error (ForeignVec.Refusal.pushFailed done.length v.length).failure) (o.truncate s₂ (o.length s))

theorem Lawful.items_reserved (ho : o.Lawful) {s s' : ω} {n : Nat} {granted : Bool}
    (h : o.reserve s n = (granted, s')) : o.items s' = o.items s ∧ o.length s' = o.length s := by
  have hitems := ho.items_reserve s n
  rw [h] at hitems
  exact ⟨hitems, by rw [ho.length_eq, ho.length_eq, hitems]⟩

theorem Lawful.items_refused (ho : o.Lawful) {s s' : ω} {a : α} (h : o.push s a = (false, s')) :
    o.items s' = o.items s := by
  have hitems := ho.items_push s a
  rw [h] at hitems
  exact hitems

theorem growable_reserve_of_granted {s s' : ω} {n : Nat} (h : o.reserve s n = (true, s')) :
    (o.growable width).reserve (some s) n = (.ok (), some s') := by
  simp only [growable, makeRoom, h]
  rfl

theorem growable_reserve_of_refused {s s' : ω} {n : Nat} (h : o.reserve s n = (false, s')) :
    (o.growable width).reserve (some s) n = (.error (ForeignVec.Refusal.noRoom n).failure, some s') := by
  simp only [growable, makeRoom, h]
  rfl

theorem growable_append_of_pushed {items : List α} {s s' : ω} (h : o.Pushed items s s') :
    (o.growable width).append (some s) items = (.ok (), some s') := by
  simp only [growable, append, pushAll_of_pushed h]
  rfl

theorem growable_append_of_refused {items : List α} {s s₁ s₂ : ω} {a : α} (h : o.Pushed items s s₁)
    (hpush : o.push s₁ a = (false, s₂)) (rest : List α) :
    (o.growable width).append (some s) (items ++ a :: rest) =
      (.error (ForeignVec.Refusal.pushFailed items.length (items ++ a :: rest).length).failure,
        some (o.truncate s₂ (o.length s))) := by
  simp only [growable, append, pushAll_of_refused h hpush, Nat.zero_add]
  rfl

/-- An append ends in one of the four ways. -/
theorem exists_extension (ho : o.Lawful) (width : Nat) (s : ω) (v : View α) :
    ∃ calls r s', Extension o width s v calls r s' := by
  by_cases hr : v.Readable width
  · cases hroom : o.reserve s v.length with
    | mk granted s₀ =>
      cases granted with
      | false => exact ⟨_, _, _, .noRoom hr hroom⟩
      | true =>
        rcases o.pushed_or_refused v.shown s₀ with ⟨s', h⟩ | ⟨done, a, rest, s₁, s₂, hshown, h, ha⟩
        · exact ⟨_, _, _, .complete hr hroom h⟩
        · refine ⟨_, _, _, .undone hr hroom hshown h ha ?_⟩
          -- the sequence is the old one with the elements that were pushed
          rw [ho.length_eq s₂, ho.items_refused ha, ho.items_pushed h, (ho.items_reserved hroom).1,
            ho.length_eq s, List.length_append]
          exact Nat.le_add_right _ _
  · obtain ⟨e, he⟩ := View.asSlice_of_not_readable hr
    exact ⟨_, _, _, .unreadable hr he⟩

namespace Extension

variable {s s' : ω} {calls : List (Call α)} {r : Except Failure Unit}

theorem extend_eq (ho : o.Lawful) (hv : v.Readable width → v.shown.length = v.length)
    (h : Extension o width s v calls r s') : (o.growable width).extend (some s) v = (r, some s') := by
  cases h with
  | unreadable _ he => exact Growable.extend_of_not_readable he
  | noRoom hr hroom =>
    rw [← hv hr] at hroom ⊢
    exact Growable.extend_of_refused hr (growable_reserve_of_refused hroom)
  | complete hr hroom hpushed =>
    rw [← hv hr] at hroom
    rw [Growable.extend_of_room hr (growable_reserve_of_granted hroom)]
    exact growable_append_of_pushed hpushed
  | undone hr hroom hshown hpushed hpush _ =>
    rw [← hv hr] at hroom ⊢
    rw [Growable.extend_of_room hr (growable_reserve_of_granted hroom), hshown,
      growable_append_of_refused hpushed hpush, (ho.items_reserved hroom).2]

theorem items_of_ok (ho : o.Lawful) (h : Extension o width s v calls (.ok ()) s') :
    o.items s' = o.items s ++ v.shown := by
  cases h with
  | complete _ hroom hpushed => rw [ho.items_pushed hpushed, (ho.items_reserved hroom).1]

theorem items_of_error (ho : o.Lawful) {e : Failure} (h : Extension o width s v calls (.error e) s') :
    o.items s' = o.items s := by
  cases h with
  | unreadable _ _ => rfl
  | noRoom _ hroom => exact (ho.items_reserved hroom).1
  | undone _ hroom _ hpushed hpush hle =>
    rw [ho.items_truncate _ _ hle, ho.items_refused hpush, ho.items_pushed hpushed,
      (ho.items_reserved hroom).1, ho.length_eq, List.take_left']
    rfl

end Extension

/-! ## The calls an owner sees -/

theorem Lawful.traced (ho : o.Lawful) : o.traced.Lawful where
  length_eq s := ho.length_eq s.1
  items_reserve s n := ho.items_reserve s.1 n
  items_push s a := ho.items_push s.1 a
  items_truncate s n := ho.items_truncate s.1 n

theorem traced_reserve {s s' : ω} {n : Nat} {granted : Bool} (h : o.reserve s n = (granted, s'))
    (past : List (Call α)) :
    o.traced.reserve (s, past) n = (granted, (s', .reserve n granted :: past)) := by
  simp only [Owner.traced, h]

theorem traced_push {s s' : ω} {a : α} {granted : Bool} (h : o.push s a = (granted, s'))
    (past : List (Call α)) :
    o.traced.push (s, past) a = (granted, (s', .push a granted :: past)) := by
  simp only [Owner.traced, h]

theorem Pushed.traced {items : List α} {s s' : ω} (h : o.Pushed items s s') (past : List (Call α)) :
    o.traced.Pushed items (s, past) (s', (items.map (Call.push · true)).reverse ++ past) := by
  induction h generalizing past with
  | nil => exact .nil
  | @cons a as s s₁ s' hpush _ ih =>
    refine .cons (traced_push hpush past) ?_
    simpa using ih (.push a true :: past)

/-- An owner that keeps a record gets the same calls, and the record is of those. -/
theorem Extension.traced {s s' : ω} {calls : List (Call α)} {r : Except Failure Unit}
    (h : Extension o width s v calls r s') :
    Extension o.traced width (s, []) v calls r (s', calls.reverse) := by
  cases h with
  | unreadable hr he => exact .unreadable hr he
  | noRoom hr hroom => exact .noRoom hr (traced_reserve hroom [])
  | complete hr hroom hpushed =>
    have h := hpushed.traced [.reserve v.length true]
    rw [← List.reverse_singleton, ← List.reverse_append] at h
    exact .complete hr (traced_reserve hroom []) h
  | @undone s₀ s₁ s₂ done rest a hr hroom hshown hpushed hpush hle =>
    have h := Extension.undone hr (traced_reserve hroom []) hshown
      (hpushed.traced [.reserve v.length true]) (traced_push hpush _) hle
    simpa [Owner.traced] using h

/-- An append to a sequence of an owner goes one of the four ways, and leaves all that is shown or nothing of it. -/
theorem Lawful.extend (ho : o.Lawful) (width : Nat) (v : View α)
    (hv : v.Readable width → v.shown.length = v.length) (s : ω) :
    ∃ calls r s', o.Extension width s v calls r s' ∧ (o.growable width).extend (some s) v = (r, some s') ∧
      (o.traced.growable width).extend (some (s, [])) v = (r, some (s', calls.reverse)) ∧
      (r = .ok () → o.items s' = o.items s ++ v.shown) ∧ ∀ e, r = .error e → o.items s' = o.items s := by
  obtain ⟨calls, r, s', h⟩ := exists_extension ho width s v
  refine ⟨calls, r, s', h, h.extend_eq ho hv, h.traced.extend_eq ho.traced hv, ?_, ?_⟩
  · rintro rfl
    exact h.items_of_ok ho
  · rintro e rfl
    exact h.items_of_error ho

end Owner

end Causeway
