import Causeway.View

/-!
# Causeway.Proofs.Views

What a view shows, and when it can be read.

* `View.Readable` — when a view can be a slice of elements, and `View.shown`, what it shows then.
* `View.read_of_readable`, `View.read_of_not_readable` — reading it, under whatever name.
* `View.Verdict`  — the ending of a reader: the value, or the first of the reasons not to read.
* `View.Verdict.of_read` — whoever reads a view through `View.read` ends so.
-/

namespace Causeway

/-- The kind of the failure, if it is one. -/
def Failure.kindOf {γ : Type} : Except Failure γ → Option String
  | .ok _ => none
  | .error e => some e.kind

namespace View

variable {α : Type} {width : Nat} {v : View α}

/-- Nothing to read, or an aligned address of elements that fit a buffer. -/
def Readable (width : Nat) (v : View α) : Prop :=
  v.length = 0 ∨ v.address ≠ 0 ∧ v.length * width ≤ maxBufferSize ∧ width ∣ v.address

/-- The elements of a view that can be read. -/
def shown (v : View α) : List α := if v.length = 0 then [] else v.items.getD []

theorem check_eq_ok {what : String} {address length : Nat} :
    check what width address length = .ok () ↔
      address ≠ 0 ∧ length * width ≤ maxBufferSize ∧ width ∣ address := by
  unfold check
  by_cases hnull : address = 0
  · simp [hnull]
  · by_cases hlarge : maxBufferSize < length * width
    · simp [hnull, hlarge, Nat.not_le.mpr hlarge]
    · simp [hnull, hlarge, Nat.not_lt.mp hlarge, Nat.dvd_iff_mod_eq_zero]

theorem read_of_readable (what : String) (h : v.Readable width) : v.read what width = .ok v.shown := by
  by_cases hempty : v.length = 0
  · simp [read, shown, hempty]
  · simp [read, shown, hempty, check_eq_ok.mpr (h.resolve_left hempty)]

theorem read_of_not_readable (what : String) (h : ¬ v.Readable width) :
    ∃ r, v.read what width = .error r := by
  have hempty : v.length ≠ 0 := fun he => h (.inl he)
  cases hcheck : check what width v.address v.length with
  | ok u => exact absurd (.inr (check_eq_ok.mp hcheck)) h
  | error r => exact ⟨r, by simp [read, hempty, hcheck]⟩

theorem asSlice_of_readable (h : v.Readable width) : v.asSlice width = .ok v.shown := by
  rw [asSlice, read_of_readable _ h]
  rfl

theorem asSlice_of_not_readable (h : ¬ v.Readable width) : ∃ e, v.asSlice width = .error e := by
  obtain ⟨r, hr⟩ := read_of_not_readable "view" h
  refine ⟨r.failure, ?_⟩
  rw [asSlice, hr]
  rfl

/-! ## The first reason not to read -/

/-- A view that cannot be read, by the reason that is looked at first. -/
theorem not_readable_cases (h : ¬ v.Readable width) :
    v.length ≠ 0 ∧
      (v.address = 0 ∨
        v.address ≠ 0 ∧ (maxBufferSize < v.length * width ∨
          v.length * width ≤ maxBufferSize ∧ ¬ width ∣ v.address)) := by
  refine ⟨fun hempty => h (.inl hempty), ?_⟩
  by_cases hnull : v.address = 0
  · exact .inl hnull
  · refine .inr ⟨hnull, ?_⟩
    by_cases hlarge : maxBufferSize < v.length * width
    · exact .inl hlarge
    · have hfits := Nat.not_lt.mp hlarge
      exact .inr ⟨hfits, fun haligned => h (.inr ⟨hnull, hfits, haligned⟩)⟩

/-- The ending of a reader of `v`, to which it is known as `what`. -/
structure Verdict {γ : Type} (what : String) (width : Nat) (v : View α) (value : γ) (result : Except Failure γ) :
    Prop where
  readable : v.Readable width → result = .ok value
  null : v.length ≠ 0 → v.address = 0 → result = .error (Refusal.nullAddress what v.length).failure
  tooLarge : v.length ≠ 0 → v.address ≠ 0 → maxBufferSize < v.length * width →
    result = .error (Refusal.tooLarge what v.length).failure
  misaligned : v.length ≠ 0 → v.address ≠ 0 → v.length * width ≤ maxBufferSize → ¬ width ∣ v.address →
    result = .error (Refusal.misaligned what v.address width).failure

namespace Verdict

variable {γ δ : Type} {what what' : String} {value : γ} {value' : δ} {result : Except Failure γ}
  {result' : Except Failure δ}

theorem of_read (what : String) {f : Except Refusal (List α) → Except Failure γ} (hok : f (.ok v.shown) = .ok value)
    (herror : ∀ r, f (.error r) = .error r.failure) : v.Verdict what width value (f (v.read what width)) := by
  constructor
  · intro hread
    rw [read_of_readable what hread, hok]
  · intro hlength hnull
    simp only [read, check, hlength, hnull, ↓reduceIte, herror]
  · intro hlength hnull hlarge
    simp only [read, check, hlength, hnull, hlarge, ↓reduceIte, herror]
  · intro hlength hnull hfits haligned
    have hrest : v.address % width ≠ 0 := fun hrest => haligned (Nat.dvd_of_mod_eq_zero hrest)
    simp only [read, check, hlength, hnull, Nat.not_lt.mpr hfits, hrest, ne_eq, not_false_eq_true, ↓reduceIte, herror]

theorem exists_error (h : v.Verdict what width value result) (hread : ¬ v.Readable width) :
    ∃ e, result = .error e := by
  obtain ⟨hlength, hnull | ⟨hnull, hlarge | ⟨hfits, haligned⟩⟩⟩ := not_readable_cases hread
  · exact ⟨_, h.null hlength hnull⟩
  · exact ⟨_, h.tooLarge hlength hnull hlarge⟩
  · exact ⟨_, h.misaligned hlength hnull hfits haligned⟩

theorem ok_iff (h : v.Verdict what width value result) : (∃ x, result = .ok x) ↔ v.Readable width := by
  constructor
  · rintro ⟨x, hx⟩
    by_cases hread : v.Readable width
    · exact hread
    · obtain ⟨e, he⟩ := h.exists_error hread
      rw [hx] at he
      cases he
  · intro hread
    exact ⟨value, h.readable hread⟩

/-- Two readers of one view refuse it for the same reason, whatever they call it. -/
theorem kindOf_eq (h : v.Verdict what width value result) (h' : v.Verdict what' width value' result') :
    Failure.kindOf result = Failure.kindOf result' := by
  by_cases hread : v.Readable width
  · rw [h.readable hread, h'.readable hread]
    rfl
  · obtain ⟨hlength, hnull | ⟨hnull, hlarge | ⟨hfits, haligned⟩⟩⟩ := not_readable_cases hread
    · rw [h.null hlength hnull, h'.null hlength hnull]
      rfl
    · rw [h.tooLarge hlength hnull hlarge, h'.tooLarge hlength hnull hlarge]
      rfl
    · rw [h.misaligned hlength hnull hfits haligned, h'.misaligned hlength hnull hfits haligned]
      rfl

end Verdict

theorem verdict_asSlice (width : Nat) (v : View α) : v.Verdict "view" width v.shown (v.asSlice width) :=
  Verdict.of_read "view" rfl fun _ => rfl

/-- A view of data of this process shows the data. -/
theorem shown_borrow (items : List α) : (borrow items).shown = items := by
  cases items with
  | nil => rfl
  | cons a as => rfl

end View

theorem TextView.verdict_asBytes (v : TextView) : v.Verdict "text view" 1 v.shown v.asBytes :=
  View.Verdict.of_read "text view" rfl fun _ => rfl

end Causeway
