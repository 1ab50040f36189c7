import Causeway.Proofs.WellFormed

/-!
# Causeway.Proofs.Forgiving

What a forgiving reader makes of bytes that need not be a text.

* `Utf8.Opens`     — bytes that those of a scalar value begin with.
* `Utf8.Subpart`   — the ill-formed bytes at the front that one replacement stands for.
* `Utf8.Forgiving` — the readings of a byte sequence.
* `Utf8.forgiving_iff` — there is one, and it is `lossy`.

The scan stops at the first byte that is out of range. That this makes the longest possible piece is because bytes
that are in range so far can always be completed to those of a scalar value.
-/

namespace Causeway
namespace Utf8

def Opens (sub : List UInt8) : Prop := ∃ c, sub <+: encodeChar c

/-- The first `n` bytes are a maximal subpart: no scalar value stands there, and `n` is as long as the bytes of one
could be, or 1 where they could not begin at all. -/
structure Subpart (n : Nat) (bs : List UInt8) : Prop where
  ill : ∀ c, ¬ encodeChar c <+: bs
  longest : IsGreatest {m | 1 ≤ m ∧ m ≤ bs.length ∧ (m = 1 ∨ Opens (bs.take m))} n

/-- Scalar values are read as they are, and each maximal subpart as U+FFFD. -/
inductive Forgiving : List UInt8 → List Char → Prop where
  | nil : Forgiving [] []
  | scalar {c : Char} {rest : List UInt8} {cs : List Char} (later : Forgiving rest cs) :
      Forgiving (encodeChar c ++ rest) (c :: cs)
  | ill {n : Nat} {bs : List UInt8} {cs : List Char} (subpart : Subpart n bs)
      (later : Forgiving (bs.drop n) cs) : Forgiving bs ('�' :: cs)

/-! ## Bytes in range can be completed -/

theorem Continues.of_front {low high : UInt8} {bs bs' : List UInt8} (h : Continues low high bs')
    (hfront : bs <+: bs') : Continues low high bs := by
  induction bs generalizing low high bs' with
  | nil => trivial
  | cons b bs ih =>
    obtain ⟨rest, rfl⟩ := hfront
    exact ⟨h.1, ih h.2 (List.prefix_append bs rest)⟩

theorem Continues.complete {low high : UInt8} (hrange : low ≤ high) {bs : List UInt8}
    (h : Continues low high bs) (n : Nat) :
    ∃ filler : List UInt8, filler.length = n ∧ Continues low high (bs ++ filler) := by
  induction bs generalizing low high with
  | nil =>
    have htail : ∀ k, Continues 0x80 0xBF (List.replicate k 0x80) := by
      intro k
      induction k with
      | zero => trivial
      | succ k ih => exact ⟨by decide, ih⟩
    cases n with
    | zero => exact ⟨[], rfl, trivial⟩
    | succ n => exact ⟨low :: List.replicate n 0x80, by simp, ⟨UInt8.le_refl low, hrange⟩, htail n⟩
  | cons b bs ih =>
    obtain ⟨filler, hlength, hfiller⟩ := ih (by decide) h.2
    exact ⟨filler, hlength, h.1, hfiller⟩

theorem Row.low_le_high {b : UInt8} {l : Lead} (h : Row b l) : l.low ≤ l.high := by
  cases h with
  | one _ _ range => exact range.2.1
  | two _ _ _ range => exact range.2.1
  | three _ _ range _ _ => exact range.2.1
  | four _ _ range _ _ => exact range.2.1

theorem Opens.lead {b : UInt8} {bs : List UInt8} (h : Opens (b :: bs)) : ∃ l, lead? b = some l := by
  obtain ⟨c, rest, hc⟩ := h
  obtain ⟨b', bs', l, hc', hbegins⟩ := encodeChar_begins c
  rw [hc', List.cons_append] at hc
  obtain ⟨rfl, -⟩ := List.cons.inj hc
  exact ⟨l, hbegins.lead⟩

theorem opens_iff {b : UInt8} {l : Lead} (hlead : lead? b = some l) {bs : List UInt8} :
    Opens (b :: bs) ↔ bs.length ≤ l.follow ∧ Continues l.low l.high bs := by
  constructor
  · rintro ⟨c, rest, hc⟩
    obtain ⟨b', bs', l', hc', hbegins⟩ := encodeChar_begins c
    rw [hc', List.cons_append] at hc
    obtain ⟨rfl, rfl⟩ := List.cons.inj hc
    obtain rfl : l = l' := Option.some.inj (hlead.symm.trans hbegins.lead)
    have hfront := List.prefix_append bs rest
    exact ⟨hbegins.length ▸ hfront.length_le, hbegins.continues.of_front hfront⟩
  · rintro ⟨hlength, hcontinues⟩
    obtain ⟨filler, hfiller, hall⟩ := hcontinues.complete (lead?_row hlead).low_le_high (l.follow - bs.length)
    have hbegins : Begins (value l.bits (bs ++ filler)) b (bs ++ filler) l :=
      ⟨hlead, by rw [List.length_append, hfiller]; omega, hall, rfl⟩
    refine ⟨Char.ofNat (value l.bits (bs ++ filler)), ?_⟩
    rw [hbegins.encodeChar_eq]
    exact (List.prefix_cons_inj b).mpr (List.prefix_append bs filler)

/-! ## The first piece -/

/-- In bytes after a lead byte, those that a scalar value could have are as many as the scan goes well. -/
theorem opens_take_iff {b : UInt8} {l : Lead} (hlead : lead? b = some l) {bs : List UInt8} {k : Nat}
    (hk : k ≤ bs.length) : Opens (b :: bs.take k) ↔ k ≤ continuing l.follow l.low l.high bs := by
  rw [opens_iff hlead, le_continuing_iff, List.length_take_of_le hk]
  exact ⟨fun h => ⟨h.1, hk, h.2⟩, fun h => ⟨h.1, h.2.2⟩⟩

theorem first_of_encodeChar {b : UInt8} {bs : List UInt8} {c : Char} (h : encodeChar c <+: b :: bs) :
    Piece.first b bs = .scalar c (encodeChar c).length := by
  obtain ⟨rest, hrest⟩ := h
  obtain ⟨b', bs', l, hc, hbegins⟩ := encodeChar_begins c
  rw [hc, List.cons_append] at hrest
  obtain ⟨rfl, rfl⟩ := List.cons.inj hrest
  rw [hbegins.first, hc, List.length_cons]

theorem first_eq_ill {b : UInt8} {bs : List UInt8} {n : Nat} (h : Piece.first b bs = .ill n) :
    Subpart n (b :: bs) := by
  refine ⟨fun c hc => ?_, ?_⟩
  · rw [first_of_encodeChar hc] at h
    cases h
  unfold Piece.first at h
  cases hlead : lead? b with
  | none =>
    simp only [hlead] at h
    cases h
    refine ⟨⟨Nat.le_refl 1, by simp, .inl rfl⟩, ?_⟩
    rintro m ⟨hm, -, rfl | hopens⟩
    · exact Nat.le_refl 1
    · obtain ⟨m, rfl⟩ := Nat.exists_eq_add_of_le' hm
      obtain ⟨l, hl⟩ := hopens.lead
      rw [hlead] at hl
      cases hl
  | some l =>
    simp only [hlead] at h
    split_ifs at h
    cases h
    have hlength := (le_continuing_iff.mp (Nat.le_refl (continuing l.follow l.low l.high bs))).2.1
    refine ⟨⟨Nat.le_add_left 1 _, by simpa using hlength, .inr ?_⟩, ?_⟩
    · exact (opens_take_iff hlead hlength).mpr (Nat.le_refl _)
    · rintro m ⟨hm, hmem, rfl | hopens⟩
      · exact Nat.le_add_left 1 _
      · obtain ⟨m, rfl⟩ := Nat.exists_eq_add_of_le' hm
        exact Nat.succ_le_succ ((opens_take_iff hlead (Nat.le_of_succ_le_succ hmem)).mp hopens)

/-! ## Whole readings -/

theorem Forgiving.chars_eq {bs : List UInt8} {cs : List Char} (h : Forgiving bs cs) :
    cs = (pieces bs).map Piece.char := by
  induction h with
  | nil => simp [pieces]
  | @scalar c rest cs _ ih =>
    have hpieces := pieces_append [c] rest
    rw [encode_cons] at hpieces
    simp only [encode, List.flatMap_nil, List.append_nil] at hpieces
    rw [hpieces, ih]
    rfl
  | @ill n bs cs subpart _ ih =>
    cases bs with
    | nil =>
      obtain ⟨⟨hpos, hlength, -⟩, -⟩ := subpart.longest
      exact absurd hpos (by simpa using hlength)
    | cons b bs =>
      cases hp : Piece.first b bs with
      | scalar c m => exact absurd ⟨_, (first_eq_scalar hp).symm⟩ (subpart.ill c)
      | ill m =>
        obtain rfl := subpart.longest.unique (first_eq_ill hp).longest
        rw [pieces, hp]
        obtain ⟨k, rfl⟩ := Nat.exists_eq_add_of_le' subpart.longest.1.1
        rw [ih]
        rfl

theorem forgiving_pieces (bs : List UInt8) : Forgiving bs ((pieces bs).map Piece.char) := by
  fun_induction pieces bs with
  | case1 => exact .nil
  | case2 b bs p ih =>
    cases hp : Piece.first b bs with
    | scalar c n =>
      rw [show p = .scalar c n from hp] at ih ⊢
      rw [first_eq_scalar hp]
      exact .scalar ih
    | ill n =>
      rw [show p = .ill n from hp] at ih ⊢
      have hsubpart := first_eq_ill hp
      obtain ⟨k, rfl⟩ := Nat.exists_eq_add_of_le' hsubpart.longest.1.1
      exact .ill hsubpart ih

theorem forgiving_iff {bs : List UInt8} {cs : List Char} : Forgiving bs cs ↔ String.ofList cs = lossy bs := by
  constructor
  · intro h
    rw [h.chars_eq]
    rfl
  · intro h
    obtain rfl : cs = (pieces bs).map Piece.char := by
      rw [← String.toList_ofList (l := cs), h, lossy, String.toList_ofList]
    exact forgiving_pieces bs

end Utf8
end Causeway
