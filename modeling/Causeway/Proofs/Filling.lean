import Causeway.Buffer
import Causeway.Proofs.Acts
import Causeway.Proofs.Views

/-!
# Causeway.Proofs.Filling

Views of the other side are read or refused alike by all who read them, and a buffer of the other side is filled whole
or not at all.

* `Buffer.Overwritten`  — the front of a buffer was replaced and nothing else changed.
* `Buffer.signed_of_fits` — the length of what was copied is always a signed word.
* `Buffer.copyOut_of_fits`, `Buffer.copyOut_of_refused` — the endings of a copy, for the buffer and for the caller.
* `Buffer.Answered`     — all of them together, for every buffer and source.

A buffer is refused for its size with a record in the slot. One at a null address is a broken contract, which ends the
process.
-/

namespace Causeway

variable {τ ε β σ α : Type}

namespace Buffer

theorem verdict_writable (b : Buffer) : b.Verdict "output buffer" 1 b.length b.writable :=
  View.Verdict.of_read (f := fun r => (r.mapError View.Refusal.failure).map fun _ => b.length) "output buffer" rfl
    fun _ => rfl

/-- A buffer of bytes is aligned wherever it is. -/
theorem not_readable_cases {b : Buffer} (h : ¬ b.Readable 1) :
    b.length ≠ 0 ∧ (b.address = 0 ∨ b.address ≠ 0 ∧ maxBufferSize < b.length * 1) := by
  obtain ⟨hlength, hnull | ⟨hnull, hlarge | ⟨_, haligned⟩⟩⟩ := View.not_readable_cases h
  · exact ⟨hlength, .inl hnull⟩
  · exact ⟨hlength, .inr ⟨hnull, hlarge⟩⟩
  · exact absurd (Nat.one_dvd _) haligned

/-! ## Writing -/

structure Overwritten (b : Buffer) (bytes : List UInt8) (after : Buffer) : Prop where
  address : after.address = b.address
  length : after.length = b.length
  items : ∀ old, b.items = some old → old.length = b.length →
    ∃ new, after.items = some new ∧ new.length = old.length ∧
      ∀ i : Nat, new[i]? = if i < bytes.length then bytes[i]? else old[i]?

theorem overwritten_fill {b : Buffer} {bytes : List UInt8} (hfits : bytes.length ≤ b.length) :
    b.Overwritten bytes (b.fill bytes) := by
  refine ⟨rfl, rfl, fun old hold hlength => ⟨bytes ++ old.drop bytes.length, ?_, ?_, fun i => ?_⟩⟩
  · simp [fill, hold]
  · rw [List.length_append, List.length_drop]
    omega
  · rw [List.getElem?_append]
    by_cases hi : i < bytes.length
    · rw [if_pos hi, if_pos hi]
    · rw [if_neg hi, if_neg hi, List.getElem?_drop, Nat.add_sub_cancel' (Nat.not_lt.mp hi)]

/-! ## A copy -/

variable {b : Buffer} {n : Nat} {source : Option (List UInt8)} {slot : ErrorSlot} {w : World τ ε β Buffer}
  {e : Failure}

theorem ofLength_of_fits (hfits : n ≤ b.length) (hread : b.Readable 1) : b.ofLength n = .ok n := by
  unfold ofLength
  rw [if_neg (Nat.not_lt.mpr hfits), b.verdict_writable.readable hread]
  rfl

theorem ofLength_of_short (hshort : b.length < n) :
    b.ofLength n = .error (.invalidInput s!"buffer.len() ({b.length}) must be >= {n}") := by
  unfold ofLength
  rw [if_pos hshort]
  rfl

theorem ofLength_of_refused (hfits : n ≤ b.length) (hrefused : b.writable = .error e) : b.ofLength n = .error e := by
  unfold ofLength
  rw [if_neg (Nat.not_lt.mpr hfits), hrefused]
  rfl

/-- What fits a buffer that can be written has a length that fits a signed word. -/
theorem signed_of_fits (hfits : n ≤ b.length) (hread : b.Readable 1) : signed n = .ok (n : Int) := by
  have hmax : n ≤ maxBufferSize := by
    rcases hread with hempty | ⟨_, hlarge, _⟩
    · omega
    · omega
  unfold signed
  rw [if_pos hmax]

theorem copyOut_of_fits (hfits : (source.getD []).length ≤ w.state.length) (hread : w.state.Readable 1) :
    copyOut source slot w =
      (.ok (((source.getD []).length : Int), slot), { w with state := w.state.fill (source.getD []) }) := by
  refine Boundary.call_of_ok _ slot ?_
  rw [Act.bind_assoc, Act.get_bind, ofLength_of_fits hfits hread]
  change (Act.ofExcept (signed (source.getD []).length) >>= (Passage.plain (-1)).deliver)
    { w with state := w.state.fill (source.getD []) } = _
  rw [signed_of_fits hfits hread]
  rfl

theorem copyOut_of_refused (h : w.state.ofLength (source.getD []).length = .error e) :
    copyOut source slot w =
      if e.isFatal then Act.abort e w else (.ok (-1, slot.store e), Boundary.reported slot e w) := by
  refine Boundary.call_of_cause _ slot (Act.attempt_of_fail ?_)
  unfold Act.catchPanic
  rw [Act.bind_assoc, Act.get_bind, h]
  rfl

/-- How a copy that the foreign side asks for ends. -/
structure Answered (source : Option (List UInt8)) (slot : ErrorSlot) (w : World τ ε β Buffer) : Prop where
  whole : (source.getD []).length ≤ w.state.length → w.state.Readable 1 →
    ∃ after, w.state.Overwritten (source.getD []) after ∧
      copyOut source slot w = (.ok (((source.getD []).length : Int), slot), { w with state := after })
  -- too short, or larger than any buffer
  refused : w.state.length < (source.getD []).length ∨ ¬ w.state.Readable 1 ∧ w.state.address ≠ 0 →
    (copyOut source slot w).2.state = w.state ∧
      ∃ m, copyOut source slot w =
        (.ok (-1, slot.store (.invalidInput m)), Boundary.reported slot (.invalidInput m) w)
  -- long enough by its own account, at a null address
  ended : (source.getD []).length ≤ w.state.length → ¬ w.state.Readable 1 → w.state.address = 0 →
    (copyOut source slot w).2.state = w.state ∧ ∃ m, copyOut source slot w = Act.abort (.contract m) w

theorem copyOut_of_invalidInput {m : String}
    (h : w.state.ofLength (source.getD []).length = .error (.invalidInput m)) :
    (copyOut source slot w).2.state = w.state ∧
      ∃ m, copyOut source slot w =
        (.ok (-1, slot.store (.invalidInput m)), Boundary.reported slot (.invalidInput m) w) := by
  rw [copyOut_of_refused h]
  exact ⟨Boundary.state_reported slot _ w, m, rfl⟩

theorem answered (source : Option (List UInt8)) (slot : ErrorSlot) (w : World τ ε β Buffer) :
    Answered source slot w := by
  constructor
  · intro hfits hread
    exact ⟨_, overwritten_fill hfits, copyOut_of_fits hfits hread⟩
  · intro hrefused
    by_cases hshort : w.state.length < (source.getD []).length
    · exact copyOut_of_invalidInput (ofLength_of_short hshort)
    · -- long enough, so that what is wrong is the size
      obtain ⟨hread, hnull⟩ := hrefused.resolve_left hshort
      obtain ⟨hlength, hnull' | ⟨_, hlarge⟩⟩ := not_readable_cases hread
      · exact absurd hnull' hnull
      · have hwritable := w.state.verdict_writable.tooLarge hlength hnull hlarge
        exact copyOut_of_invalidInput (ofLength_of_refused (Nat.not_lt.mp hshort) hwritable)
  · intro hfits hread hnull
    have hwritable := w.state.verdict_writable.null (not_readable_cases hread).1 hnull
    rw [copyOut_of_refused (ofLength_of_refused hfits hwritable)]
    exact ⟨rfl, _, rfl⟩

end Buffer

/-- A view of the other side is read exactly when it is empty or can be a slice of elements, and is otherwise refused
for the first of a null address, the size and the alignment. The readers of bytes agree on what they read and on the
kind of failure. A buffer that can be read and is long enough has its front replaced by all of the source, whose length
is the answer. To any other nothing is written: one that is too short or too large is answered with -1 and a record of
invalid input, and one at a null address ends the process. -/
theorem views_read_alike_and_filled_whole (width : Nat) (v : View α) (b : Buffer) (source : Option (List UInt8))
    (slot : ErrorSlot) (w : World τ ε β Buffer) :
    ((∃ items, v.asSlice width = .ok items) ↔
        v.length = 0 ∨ v.address ≠ 0 ∧ v.length * width ≤ 0x7fffffffffffffff ∧ width ∣ v.address) ∧
      v.Verdict "view" width v.shown (v.asSlice width) ∧
      b.Verdict "text view" 1 b.shown (TextView.asBytes b) ∧
      b.Verdict "output buffer" 1 b.length b.writable ∧
      Failure.kindOf (TextView.asBytes b) = Failure.kindOf (View.asSlice 1 b) ∧
      Failure.kindOf b.writable = Failure.kindOf (View.asSlice 1 b) ∧
      Buffer.Answered source slot w := by
  have hslice := View.verdict_asSlice width v
  have hbytes := View.verdict_asSlice 1 b
  have htext := TextView.verdict_asBytes b
  have hbuffer := b.verdict_writable
  exact ⟨hslice.ok_iff, hslice, htext, hbuffer, htext.kindOf_eq hbytes, hbuffer.kindOf_eq hbytes,
    Buffer.answered source slot w⟩

/-- Two bytes go to the front of four, a view of words at an odd address is refused. -/
theorem views_read_alike_and_filled_whole_of_four :
    let w : World Empty Unit Unit Buffer := { registries := Empty.elim, state := View.borrow [1, 2, 3, 4] }
    (2 ≤ w.state.length ∧ w.state.Readable 1) ∧
      (∃ after new, Buffer.copyOut (some [9, 8]) .empty w = (.ok (2, .empty), { w with state := after }) ∧
        after.items = some new ∧ new[1]? = some 8 ∧ new[2]? = some 3) ∧
      (View.ofAddress 6 2 : View UInt32).asSlice 4 =
        .error (View.Refusal.misaligned "view" 6 4).failure := by
  intro w
  have hread : w.state.Readable 1 := .inr ⟨by decide, by decide, by decide⟩
  obtain ⟨-, hview, -, -, -, -, hcopy⟩ :=
    views_read_alike_and_filled_whole 4 (View.ofAddress 6 2 : View UInt32) w.state (some [9, 8]) .empty w
  obtain ⟨after, hwritten, hanswer⟩ := hcopy.whole (by decide) hread
  obtain ⟨new, hnew, _, hbytes⟩ := hwritten.items [1, 2, 3, 4] rfl rfl
  refine ⟨⟨by decide, hread⟩, ⟨after, new, hanswer, hnew, hbytes 1, hbytes 2⟩, ?_⟩
  exact hview.misaligned (by decide) (by decide) (by decide) (by decide)

/-- Two bytes for a buffer of three at a null address: the foreign side gets no answer. -/
theorem null_buffer_ends_process :
    let w : World Empty Unit Unit Buffer := { registries := Empty.elim, state := View.ofAddress 0 3 }
    ¬ w.state.Readable 1 ∧ (Buffer.copyOut (some [97, 98]) .empty w).1 =
        .abort (.contract "output buffer of 3 elements has a null pointer") ∧
      ¬ ∃ m, (Buffer.copyOut (some [97, 98]) .empty w).1 = .ok (-1, ErrorSlot.empty.store (.invalidInput m)) := by
  intro w
  have hends : (Buffer.copyOut (some [97, 98]) .empty w).1 =
      .abort (.contract "output buffer of 3 elements has a null pointer") := by
    decide +kernel
  refine ⟨by simp [View.Readable, w, View.ofAddress], hends, ?_⟩
  rintro ⟨m, hm⟩
  rw [hends] at hm
  cases hm

end Causeway
