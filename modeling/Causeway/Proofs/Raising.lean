import Causeway.Boundary
import Causeway.Proofs.Acts
import Causeway.Proofs.Forgiving

/-!
# Causeway.Proofs.Raising

Failures that foreign code raises in a slot.

* `ErrorSlot.raiseAll`    — failures raised one after another, as the slot sees them.
* `Boundary.foldlM_raise` — behind the boundary the same happens: no sequence of raises ends the process or is seen in
  the world.
* `ErrorSlot.raiseAll_empty` — the first record stays.
* `raising_keeps_first_and_is_harmless` — what a slot holds in the end, and what its reader makes of it.

A message at a null address is a broken contract, on which every other function behind the boundary ends the
process. Here it is only described.
-/

namespace Causeway

variable {τ ε β σ α : Type}

/-! ## Raising behind the boundary -/

/-- Failures that foreign code raises one after another in a slot. -/
def ErrorSlot.raiseAll (slot : ErrorSlot) (raises : List Raise) : ErrorSlot :=
  raises.foldl (fun s r => s.raise r.code r.message) slot

namespace Boundary

/-- The boundary has nothing to catch: what a view of a message can fail with is caught before. -/
theorem raise_run (slot : ErrorSlot) (r : Raise) (w : World τ ε β σ) :
    raise slot r w = (.ok (slot.raise r.code r.message), w) := by
  apply infallible_of_ok slot
  unfold ErrorSlot.raise ErrorSlot.description
  cases hbytes : r.message.asBytes with
  | ok bytes => cases slot <;> rfl
  | error e => cases slot <;> rfl

theorem foldlM_raise (raises : List Raise) (slot : ErrorSlot) (w : World τ ε β σ) :
    raises.foldlM raise slot w = (.ok (slot.raiseAll raises), w) := by
  induction raises generalizing slot with
  | nil => rfl
  | cons r rs ih =>
    rw [List.foldlM_cons, Act.bind_of_ok (raise_run slot r w), ih]
    rfl

end Boundary

/-! ## What the slot holds -/

namespace ErrorSlot

theorem raiseAll_cons (slot : ErrorSlot) (r : Raise) (rs : List Raise) :
    slot.raiseAll (r :: rs) = (slot.raise r.code r.message).raiseAll rs := rfl

/-- Only an empty slot takes a record. -/
theorem raiseAll_of_ne_empty {slot : ErrorSlot} (h : slot ≠ .empty) (raises : List Raise) :
    slot.raiseAll raises = slot := by
  induction raises with
  | nil => rfl
  | cons r rs ih =>
    have hkept : slot.raise r.code r.message = slot := by
      cases slot with
      | empty => exact absurd rfl h
      | absent => rfl
      | holding record => rfl
    rw [raiseAll_cons, hkept, ih]

theorem raiseAll_empty (r : Raise) (rs : List Raise) :
    ErrorSlot.empty.raiseAll (r :: rs) = .holding ⟨r.code, .ofText (description r.message)⟩ := by
  rw [raiseAll_cons]
  exact raiseAll_of_ne_empty (by simp [raise]) rs

end ErrorSlot

/-! ## What the description says -/

namespace ErrorSlot

variable {v : TextView}

theorem description_of_readable (hv : v.Readable 1) : description v = Utf8.lossy v.shown := by
  simp only [description, TextView.asBytes_of_readable hv]

theorem description_of_utf8 (hv : v.Readable 1) {s : String} (hs : s.toUTF8 = v.shown.toByteArray) :
    description v = s := by
  rw [description_of_readable hv, ← Utf8.toUTF8_eq_iff.mp hs, Utf8.lossy_utf8]

theorem description_ofText {s : String} (hs : (utf8 s).length ≤ maxBufferSize) :
    description (TextView.ofText s) = s := by
  have hv : (TextView.ofText s).Readable 1 := OwnedText.readable_view hs
  rw [description_of_readable hv, TextView.ofText, View.shown_borrow, Utf8.lossy_utf8]

theorem forgiving_iff_description (hv : v.Readable 1) {cs : List Char} :
    Utf8.Forgiving v.shown cs ↔ cs = (description v).toList := by
  rw [Utf8.forgiving_iff, description_of_readable hv]
  constructor
  · intro h
    rw [← h, String.toList_ofList]
  · rintro rfl
    exact String.ofList_toList

theorem description_of_error {e : Failure} (h : v.asBytes = .error e) : description v = e.display := by
  simp only [description, h]

theorem description_of_null (hlength : v.length ≠ 0) (hnull : v.address = 0) :
    description v = "Contract violation: text view" ++ s!" of {v.length} elements has a null pointer" := by
  have hbytes : v.asBytes = .error (View.Refusal.nullAddress "text view" v.length).failure := by
    simp only [TextView.asBytes, View.read, View.check, hlength, hnull, ↓reduceIte]
    rfl
  have hkind : "Contract violation: text view" = "Contract violation: " ++ "text view" := by decide
  rw [description_of_error hbytes, hkind, String.append_assoc]
  rfl

theorem description_of_too_large (hnull : v.address ≠ 0) (hlarge : maxBufferSize < v.length) :
    description v = "Invalid input: text view" ++ s!" of {v.length} elements is larger than any buffer" := by
  have hlength : v.length ≠ 0 := Nat.ne_of_gt (Nat.zero_lt_of_lt hlarge)
  have hbytes : v.asBytes = .error (View.Refusal.tooLarge "text view" v.length).failure := by
    simp only [TextView.asBytes, View.read, View.check, hlength, hnull, Nat.mul_one, hlarge, ↓reduceIte]
    rfl
  have hkind : "Invalid input: text view" = "Invalid input: " ++ "text view" := by decide
  rw [description_of_error hbytes, hkind, String.append_assoc]
  rfl

end ErrorSlot

theorem Failure.isFatal_ofCallee (code : Int) (m : String) : (Failure.ofCallee code m).isFatal = false := by
  unfold Failure.ofCallee
  split
  · rfl
  · split <;> rfl

/-- A record reads as it was written: its description is well-formed, so that no character of it is replaced. -/
theorem Record.toCallee_ofText (code : Int) (d : String) :
    (Record.mk code (.ofText d)).toCallee = Failure.ofCallee code d := by
  have hdescribe : (Record.mk code (.ofText d)).describe = d := Utf8.lossy_utf8 d
  rw [Record.toCallee, hdescribe]

/-- Failures raised one after another in one slot, whatever their codes and messages, return and change nothing but
the slot. An absent slot stays absent. An empty one has taken the first failure, and keeps it: its code, with the
text of its message, or the forgiving reading of one that is no text, or the reason why it could not be read. The
reader of the slot sees a failure of its callee, under that code and with that description, which is not fatal. -/
theorem raising_keeps_first_and_is_harmless (r : Raise) (rs : List Raise) (w : World τ ε β σ) (value : α) :
    (∀ slot, (r :: rs).foldlM Boundary.raise slot w = (.ok (slot.raiseAll (r :: rs)), w)) ∧
      ErrorSlot.absent.raiseAll (r :: rs) = .absent ∧
      ∃ d, ErrorSlot.empty.raiseAll (r :: rs) = .holding ⟨r.code, .ofText d⟩ ∧
        (r.message.Readable 1 →
          (∀ s : String, s.toUTF8 = r.message.shown.toByteArray → d = s) ∧
            ∀ cs, Utf8.Forgiving r.message.shown cs ↔ cs = d.toList) ∧
        (∀ e, r.message.asBytes = .error e → d = e.display) ∧
        (r.message.length ≠ 0 → r.message.address = 0 →
          d = "Contract violation: text view" ++ s!" of {r.message.length} elements has a null pointer") ∧
        (r.message.address ≠ 0 → maxBufferSize < r.message.length →
          d = "Invalid input: text view" ++ s!" of {r.message.length} elements is larger than any buffer") ∧
        (ErrorSlot.empty.raiseAll (r :: rs)).result value = .error (.ofCallee r.code d) ∧
        (Failure.ofCallee r.code d).isFatal = false ∧
        Utf8.lossy (OwnedText.ofText d).bytes = d := by
  have hraised := ErrorSlot.raiseAll_empty r rs
  refine ⟨fun slot => Boundary.foldlM_raise (r :: rs) slot w,
    ErrorSlot.raiseAll_of_ne_empty (by simp) (r :: rs), ErrorSlot.description r.message, hraised, ?_, ?_, ?_, ?_, ?_,
    Failure.isFatal_ofCallee _ _, Utf8.lossy_utf8 _⟩
  · intro hread
    exact ⟨fun s hs => ErrorSlot.description_of_utf8 hread hs, fun cs => ErrorSlot.forgiving_iff_description hread⟩
  · intro e he
    exact ErrorSlot.description_of_error he
  · exact ErrorSlot.description_of_null
  · exact ErrorSlot.description_of_too_large
  · rw [hraised, ErrorSlot.result, Record.toCallee_ofText]

/-- Three bytes at a null address under the code of a broken contract, and a text. Whichever is raised first is what
the reader sees, and the reader goes on. -/
theorem raising_keeps_first_and_is_harmless_at_null :
    let unreadable : Raise := ⟨200, View.ofAddress 0 3⟩
    let text : Raise := ⟨7, View.borrow [0x66, 0x75, 0x6C, 0x6C]⟩
    (¬ unreadable.message.Readable 1 ∧ text.message.Readable 1) ∧
      (ErrorSlot.empty.raiseAll [unreadable, text]).result () =
        .error (.callee 200 "Contract violation: text view of 3 elements has a null pointer") ∧
      (ErrorSlot.empty.raiseAll [text, unreadable]).result () = .error (.callee 7 "full") := by
  intro unreadable text
  have hunreadable : ¬ unreadable.message.Readable 1 := by simp [View.Readable, unreadable, View.ofAddress]
  have htext : text.message.Readable 1 := .inr ⟨by decide, by decide, by decide⟩
  let w : World Empty Unit Unit Unit := { registries := Empty.elim, state := () }
  refine ⟨⟨hunreadable, htext⟩, ?_, ?_⟩
  · obtain ⟨-, -, d, -, -, -, hnull, -, hresult, -⟩ := raising_keeps_first_and_is_harmless unreadable [text] w ()
    rw [hresult, hnull (by decide) rfl]
    decide
  · obtain ⟨-, -, d, -, hread, -, -, -, hresult, -⟩ := raising_keeps_first_and_is_harmless text [unreadable] w ()
    rw [hresult, (hread htext).1 "full" (by decide)]
    decide

end Causeway
