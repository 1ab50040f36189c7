import Causeway.Proofs.Decoding
import Causeway.Proofs.Views
import Mathlib.Data.List.Basic
import Mathlib.Order.Bounds.Basic

/-!
# Causeway.Proofs.WellFormed

Which bytes are a text, and where those that are not stop being one.

* `Utf8.isValidUTF8_iff` — the bytes of texts are those of the standard encoding.
* `Utf8.Row`             — the rows of the table of lead bytes, by how many bytes follow.
* `Utf8.Begins.encodeChar_eq` — bytes in the ranges of a row are the bytes of the value they make up.
* `Utf8.exists_split`    — bytes are those of a text, and a rest that no scalar value begins.
* `text_views_accept_exactly_utf8` — the statement for every view that can be read.

`Decoding` reads back what was encoded. Here is the other direction, that nothing else is accepted: each row leaves
out just the values that have a shorter form, those of surrogates and those that are too large.
-/

namespace Causeway
namespace Utf8

theorem encodeChar_eq_utf8EncodeChar (c : Char) : encodeChar c = String.utf8EncodeChar c := by
  have hvalid : c.toNat < 0xD800 ∨ (0xDFFF < c.toNat ∧ c.toNat < 0x110000) := c.valid
  have hval : c.val.toNat = c.toNat := rfl
  unfold encodeChar String.utf8EncodeChar
  simp only [hval, Nat.toUInt8]
  refine ite_congr (propext (by omega)) (fun _ => rfl) fun _ => ?_
  refine ite_congr (propext (by omega)) (fun h => ?_) fun _ => ?_
  · rw [Nat.mod_eq_of_lt (show c.toNat / 64 < 32 by omega), Nat.add_comm 0xC0, Nat.add_comm 0x80]
  refine ite_congr (propext (by omega)) (fun h => ?_) fun _ => ?_
  · rw [Nat.mod_eq_of_lt (show c.toNat / 4096 < 16 by omega), Nat.add_comm 0xE0, Nat.add_comm 0x80,
      Nat.add_comm 0x80]
  · rw [Nat.mod_eq_of_lt (show c.toNat / 262144 < 8 by omega), Nat.add_comm 0xF0, Nat.add_comm 0x80,
      Nat.add_comm 0x80, Nat.add_comm 0x80]

theorem toByteArray_encode (cs : List Char) : (encode cs).toByteArray = cs.utf8Encode := by
  unfold encode List.utf8Encode
  rw [funext encodeChar_eq_utf8EncodeChar]

theorem toByteArray_inj {bs bs' : List UInt8} (h : bs.toByteArray = bs'.toByteArray) : bs = bs' := by
  rw [← List.toList_data_toByteArray (l := bs), h, List.toList_data_toByteArray]

theorem isValidUTF8_iff {bs : List UInt8} : bs.toByteArray.IsValidUTF8 ↔ ∃ cs, encode cs = bs := by
  constructor
  · rintro ⟨cs, h⟩
    exact ⟨cs, toByteArray_inj ((toByteArray_encode cs).trans h.symm)⟩
  · rintro ⟨cs, rfl⟩
    exact ⟨cs, toByteArray_encode cs⟩

theorem toUTF8_eq_iff {s : String} {bs : List UInt8} : s.toUTF8 = bs.toByteArray ↔ utf8 s = bs := by
  have hs : (utf8 s).toByteArray = s.toUTF8 := by
    rw [utf8, toByteArray_encode, ← String.toByteArray_ofList, String.ofList_toList]
    rfl
  rw [← hs]
  exact ⟨toByteArray_inj, congrArg _⟩

/-- The rows of the table, by how many bytes follow: `bits` are those of the lead byte, and the next byte lies
in `low..high`. -/
inductive Row (b : UInt8) : Lead → Prop where
  | one {bits : Nat} {low high : UInt8} (lead : b.toNat = bits) (small : bits < 0x80)
      (range : 0x80 ≤ low.toNat ∧ low.toNat ≤ high.toNat ∧ high.toNat ≤ 0xBF) : Row b ⟨bits, 0, low, high⟩
  | two {bits : Nat} {low high : UInt8} (lead : b.toNat = 0xC0 + bits) (large : 2 ≤ bits) (small : bits < 0x20)
      (range : 0x80 ≤ low.toNat ∧ low.toNat ≤ high.toNat ∧ high.toNat ≤ 0xBF) : Row b ⟨bits, 1, low, high⟩
  | three {bits : Nat} {low high : UInt8} (lead : b.toNat = 0xE0 + bits) (small : bits < 0x10)
      (range : 0x80 ≤ low.toNat ∧ low.toNat ≤ high.toNat ∧ high.toNat ≤ 0xBF)
      (large : bits = 0 → 0xA0 ≤ low.toNat) (surrogates : bits = 0xD → high.toNat ≤ 0x9F) :
      Row b ⟨bits, 2, low, high⟩
  | four {bits : Nat} {low high : UInt8} (lead : b.toNat = 0xF0 + bits) (small : bits ≤ 4)
      (range : 0x80 ≤ low.toNat ∧ low.toNat ≤ high.toNat ∧ high.toNat ≤ 0xBF)
      (large : bits = 0 → 0x90 ≤ low.toNat) (last : bits = 4 → high.toNat ≤ 0x8F) :
      Row b ⟨bits, 3, low, high⟩

theorem lead?_row {b : UInt8} {l : Lead} (h : lead? b = some l) : Row b l := by
  rw [lead?_eq] at h
  rcases ite_eq_iff.mp h with ⟨h80, h⟩ | ⟨h80, h⟩
  · obtain rfl := Option.some.inj h
    exact .one rfl h80 (by decide)
  rcases ite_eq_iff.mp h with ⟨hC2, h⟩ | ⟨hC2, h⟩
  · cases h
  rcases ite_eq_iff.mp h with ⟨hE0, h⟩ | ⟨hE0, h⟩
  · obtain rfl := Option.some.inj h
    exact .two (by omega) (by omega) (by omega) (by decide)
  rcases ite_eq_iff.mp h with ⟨hE, h⟩ | ⟨hE, h⟩
  · obtain rfl := Option.some.inj h
    exact .three hE (by decide) (by decide) (by decide) (by decide)
  rcases ite_eq_iff.mp h with ⟨hED, h⟩ | ⟨hED, h⟩
  · obtain rfl := Option.some.inj h
    exact .three hED (by decide) (by decide) (by decide) (by decide)
  rcases ite_eq_iff.mp h with ⟨hF0, h⟩ | ⟨hF0, h⟩
  · obtain rfl := Option.some.inj h
    exact .three (by omega) (by omega) (by decide) (by omega) (by omega)
  rcases ite_eq_iff.mp h with ⟨hF, h⟩ | ⟨hF, h⟩
  · obtain rfl := Option.some.inj h
    exact .four hF (by decide) (by decide) (by decide) (by decide)
  rcases ite_eq_iff.mp h with ⟨hF4, h⟩ | ⟨hF4, h⟩
  · obtain rfl := Option.some.inj h
    exact .four (by omega) (by omega) (by decide) (by omega) (by omega)
  rcases ite_eq_iff.mp h with ⟨hF5, h⟩ | ⟨hF5, h⟩
  · obtain rfl := Option.some.inj h
    exact .four hF5 (by decide) (by decide) (by decide) (by decide)
  cases h

theorem toNat_ofNat {v : Nat} (h : v.isValidChar) : (Char.ofNat v).toNat = v := by
  unfold Char.ofNat
  rw [dif_pos h]
  rfl

theorem toUInt8_eq {n : Nat} {b : UInt8} (h : n = b.toNat) : n.toUInt8 = b := by
  rw [h]
  exact UInt8.ofNat_toNat

theorem Begins.encodeChar_eq {v : Nat} {b : UInt8} {bs : List UInt8} {l : Lead} (h : Begins v b bs l) :
    encodeChar (Char.ofNat v) = b :: bs := by
  obtain ⟨hlead, hlength, hcontinues, hv⟩ := h
  cases lead?_row hlead with
  | one lead small range =>
    obtain rfl := List.length_eq_zero_iff.mp hlength
    simp only [Utf8.value, List.foldl_nil] at hv
    simp only [encodeChar, toNat_ofNat (show v.isValidChar by omega)]
    rw [if_pos (by omega), toUInt8_eq (b := b) (by omega)]
  | two lead large small range =>
    obtain ⟨x, rfl⟩ := List.length_eq_one_iff.mp hlength
    obtain ⟨⟨hx, hx'⟩, -⟩ := hcontinues
    simp only [UInt8.le_iff_toNat_le] at hx hx'
    simp only [Utf8.value, List.foldl_cons, List.foldl_nil] at hv
    simp only [encodeChar, toNat_ofNat (show v.isValidChar by omega)]
    rw [if_neg (by omega), if_pos (by omega), toUInt8_eq (b := b) (by omega), toUInt8_eq (b := x) (by omega)]
  | three lead small range large surrogates =>
    obtain ⟨x, y, rfl⟩ := List.length_eq_two.mp hlength
    obtain ⟨⟨hx, hx'⟩, ⟨hy, hy'⟩, -⟩ := hcontinues
    simp only [UInt8.le_iff_toNat_le, UInt8.reduceToNat] at hx hx' hy hy'
    simp only [Utf8.value, List.foldl_cons, List.foldl_nil] at hv
    simp only [encodeChar, toNat_ofNat (show v.isValidChar by omega)]
    rw [if_neg (by omega), if_neg (by omega), if_pos (by omega), toUInt8_eq (b := b) (by omega),
      toUInt8_eq (b := x) (by omega), toUInt8_eq (b := y) (by omega)]
  | four lead small range large last =>
    obtain ⟨x, y, z, rfl⟩ := List.length_eq_three.mp hlength
    obtain ⟨⟨hx, hx'⟩, ⟨hy, hy'⟩, ⟨hz, hz'⟩, -⟩ := hcontinues
    simp only [UInt8.le_iff_toNat_le, UInt8.reduceToNat] at hx hx' hy hy' hz hz'
    simp only [Utf8.value, List.foldl_cons, List.foldl_nil] at hv
    simp only [encodeChar, toNat_ofNat (show v.isValidChar by omega)]
    rw [if_neg (by omega), if_neg (by omega), if_neg (by omega), toUInt8_eq (b := b) (by omega),
      toUInt8_eq (b := x) (by omega), toUInt8_eq (b := y) (by omega), toUInt8_eq (b := z) (by omega)]

/-! ## Cutting bytes into pieces -/

theorem le_continuing_iff {k n : Nat} {low high : UInt8} {bs : List UInt8} :
    k ≤ continuing n low high bs ↔ k ≤ n ∧ k ≤ bs.length ∧ Continues low high (bs.take k) := by
  fun_induction continuing n low high bs generalizing k with
  | case1 low high bs =>
    constructor
    · intro hk
      obtain rfl := Nat.le_zero.mp hk
      exact ⟨hk, Nat.zero_le _, trivial⟩
    · exact fun h => h.1
  | case2 n low high =>
    constructor
    · intro hk
      obtain rfl := Nat.le_zero.mp hk
      exact ⟨Nat.zero_le _, hk, trivial⟩
    · exact fun h => h.2.1
  | case3 n low high b bs hb ih =>
    cases k with
    | zero => exact ⟨fun _ => ⟨Nat.zero_le _, Nat.zero_le _, trivial⟩, fun _ => Nat.zero_le _⟩
    | succ k =>
      rw [Nat.add_le_add_iff_right, ih, Nat.add_le_add_iff_right, List.length_cons, Nat.add_le_add_iff_right,
        List.take_succ_cons]
      exact ⟨fun h => ⟨h.1, h.2.1, hb, h.2.2⟩, fun h => ⟨h.1, h.2.1, h.2.2.2⟩⟩
  | case4 n low high b bs hb =>
    cases k with
    | zero => exact ⟨fun _ => ⟨Nat.zero_le _, Nat.zero_le _, trivial⟩, fun _ => Nat.zero_le _⟩
    | succ k => exact ⟨fun h => absurd h (Nat.not_succ_le_zero k), fun h => absurd h.2.2.1 hb⟩

/-- A piece that is a scalar value is made of its bytes. -/
theorem first_eq_scalar {b : UInt8} {bs : List UInt8} {c : Char} {n : Nat}
    (h : Piece.first b bs = .scalar c n) : b :: bs = encodeChar c ++ bs.drop (n - 1) := by
  unfold Piece.first at h
  cases hlead : lead? b with
  | none =>
    simp only [hlead] at h
    cases h
  | some l =>
    simp only [hlead] at h
    split_ifs at h with hall
    cases h
    obtain ⟨-, hlength, hcontinues⟩ := le_continuing_iff.mp (Nat.le_of_eq hall.symm)
    have hbegins : Begins (value l.bits (bs.take l.follow)) b (bs.take l.follow) l :=
      ⟨hlead, List.length_take_of_le hlength, hcontinues, rfl⟩
    rw [hall, hbegins.encodeChar_eq, Nat.add_sub_cancel, List.cons_append, List.take_append_drop]

/-- No scalar value begins the bytes. -/
def Stuck (rest : List UInt8) : Prop := ∀ p ∈ (pieces rest).head?, p.isScalar = false

theorem exists_split (bs : List UInt8) : ∃ cs rest, bs = encode cs ++ rest ∧ Stuck rest := by
  fun_induction pieces bs with
  | case1 => exact ⟨[], [], rfl, by simp [Stuck, pieces]⟩
  | case2 b bs p ih =>
    cases hp : Piece.first b bs with
    | scalar c n =>
      obtain ⟨cs, rest, hsplit, hstuck⟩ := ih
      rw [show p = .scalar c n from hp] at hsplit
      refine ⟨c :: cs, rest, ?_, hstuck⟩
      rw [first_eq_scalar hp, encode_cons, List.append_assoc, ← hsplit]
      rfl
    | ill n =>
      refine ⟨[], b :: bs, rfl, fun q hq => ?_⟩
      rw [pieces, hp] at hq
      cases hq
      rfl

theorem scalarBytes_append (cs : List Char) (ps : List Piece) :
    scalarBytes ((cs.map fun c => .scalar c (encodeChar c).length) ++ ps) =
      (encode cs).length + scalarBytes ps := by
  induction cs with
  | nil => simp [encode]
  | cons c cs ih =>
    simp only [List.map_cons, List.cons_append, scalarBytes, Piece.isScalar, if_true, Piece.size, ih, encode_cons,
      List.length_append]
    omega

theorem validUpTo_append (cs : List Char) (rest : List UInt8) :
    validUpTo (encode cs ++ rest) = (encode cs).length + validUpTo rest := by
  rw [validUpTo, pieces_append, scalarBytes_append]
  rfl

theorem Stuck.validUpTo_eq {rest : List UInt8} (h : Stuck rest) : validUpTo rest = 0 := by
  unfold validUpTo
  cases hps : pieces rest with
  | nil => rfl
  | cons p ps => simp [scalarBytes, h p (by rw [hps]; rfl)]

/-- How far the bytes are well-formed is as far as any text goes. -/
theorem isGreatest_validUpTo (bs : List UInt8) :
    IsGreatest {n | n ≤ bs.length ∧ (bs.take n).toByteArray.IsValidUTF8} (validUpTo bs) := by
  constructor
  · obtain ⟨cs, rest, rfl, hstuck⟩ := exists_split bs
    rw [validUpTo_append, hstuck.validUpTo_eq, Nat.add_zero]
    refine ⟨by simp, isValidUTF8_iff.mpr ⟨cs, ?_⟩⟩
    rw [List.take_left]
  · rintro n ⟨hn, hvalid⟩
    obtain ⟨cs, hcs⟩ := isValidUTF8_iff.mp hvalid
    have hsplit : bs = encode cs ++ bs.drop n := by rw [hcs, List.take_append_drop]
    rw [hsplit, validUpTo_append, hcs, List.length_take_of_le hn]
    omega

theorem decode?_utf8 (s : String) : decode? (utf8 s) = .ok s := by
  have hscalars : (pieces (utf8 s)).all Piece.isScalar = true := by
    rw [utf8, pieces_encode, List.all_map]
    exact List.all_eq_true.mpr fun _ _ => rfl
  simp only [decode?, hscalars, if_true]
  exact congrArg Except.ok (lossy_utf8 s)

theorem decode?_of_not_valid {bs : List UInt8} (h : ¬ bs.toByteArray.IsValidUTF8) :
    decode? bs = .error (validUpTo bs) := by
  obtain ⟨cs, rest, rfl, hstuck⟩ := exists_split bs
  have hill : (pieces (encode cs ++ rest)).all Piece.isScalar = false := by
    rw [pieces_append, List.all_append]
    cases hps : pieces rest with
    | nil =>
      -- only nothing is cut into no pieces
      cases rest with
      | nil => exact absurd (isValidUTF8_iff.mpr ⟨cs, (List.append_nil _).symm⟩) h
      | cons b bs => rw [pieces] at hps; cases hps
    | cons p ps => simp [hstuck p (by rw [hps]; rfl)]
  simp only [decode?, hill, Bool.false_eq_true, if_false]

theorem exists_text_of_valid {bs : List UInt8} (h : bs.toByteArray.IsValidUTF8) : ∃ s, utf8 s = bs := by
  obtain ⟨cs, rfl⟩ := isValidUTF8_iff.mp h
  exact ⟨String.ofList cs, by rw [utf8, String.toList_ofList]⟩

theorem decode?_eq_ok_iff {bs : List UInt8} {s : String} : decode? bs = .ok s ↔ utf8 s = bs := by
  constructor
  · intro h
    by_cases hvalid : bs.toByteArray.IsValidUTF8
    · obtain ⟨t, rfl⟩ := exists_text_of_valid hvalid
      rw [decode?_utf8] at h
      cases h
      rfl
    · rw [decode?_of_not_valid hvalid] at h
      cases h
  · rintro rfl
    exact decode?_utf8 s

end Utf8

namespace Allocation

variable {grants : Nat → Bool} {n : Nat}

/-- There is memory for a buffer of so many bytes. An empty one needs none. -/
def Serves (grants : Nat → Bool) (n : Nat) : Prop := n ≤ maxBufferSize ∧ (n = 0 ∨ grants n = true)

theorem reserve_of_serves (h : Serves grants n) : reserve 1 0 n grants = .ok () := by
  simp only [reserve, Nat.zero_add, Nat.mul_one]
  rw [if_neg (Nat.not_lt.mpr h.1), if_pos h.2]

theorem reserve_of_not_serves (h : ¬ Serves grants n) : ∃ e, reserve 1 0 n grants = .error e := by
  simp only [reserve, Nat.zero_add, Nat.mul_one]
  split
  · exact ⟨_, rfl⟩
  · rename_i hfits
    rw [if_neg fun hgranted => h ⟨Nat.not_lt.mp hfits, hgranted⟩]
    exact ⟨_, rfl⟩

end Allocation

namespace TextView

variable {v : TextView} {s : String}

theorem asBytes_of_readable (hv : v.Readable 1) : v.asBytes = .ok v.shown := by
  rw [asBytes, View.read_of_readable _ hv]
  rfl

theorem toText_of_readable (hv : v.Readable 1) :
    v.toText = (Utf8.decode? v.shown).mapError Failure.notUtf8 := by
  rw [toText, asBytes_of_readable hv]
  rfl

theorem toText_eq_ok (hv : v.Readable 1) : v.toText = .ok s ↔ utf8 s = v.shown := by
  rw [toText_of_readable hv, ← Utf8.decode?_eq_ok_iff]
  cases Utf8.decode? v.shown with
  | ok t => constructor <;> intro h <;> cases h <;> rfl
  | error n => constructor <;> intro h <;> cases h

theorem toText_of_not_valid (hv : v.Readable 1) (h : ¬ v.shown.toByteArray.IsValidUTF8) :
    v.toText = .error (.notUtf8 (Utf8.validUpTo v.shown)) := by
  rw [toText_of_readable hv, Utf8.decode?_of_not_valid h]
  rfl

theorem materialize_of_error {e : Failure} (h : v.toText = .error e) (grants : Nat → Bool) :
    v.materialize grants = .error e := by
  rw [materialize, h]
  rfl

theorem materialize_of_ok (h : v.toText = .ok s) (grants : Nat → Bool) :
    v.materialize grants = (do
      (Allocation.reserve 1 0 (utf8 s).length grants).mapError Allocation.Refusal.failure
      return s) := by
  rw [materialize, h]
  rfl

theorem materialize_of_served (h : v.toText = .ok s) {grants : Nat → Bool}
    (hs : Allocation.Serves grants (utf8 s).length) : v.materialize grants = .ok s := by
  rw [materialize_of_ok h, Allocation.reserve_of_serves hs]
  rfl

theorem materialize_of_unserved (h : v.toText = .ok s) {grants : Nat → Bool}
    (hs : ¬ Allocation.Serves grants (utf8 s).length) :
    ∃ e : Allocation.Refusal, v.materialize grants = .error e.failure := by
  obtain ⟨e, he⟩ := Allocation.reserve_of_not_serves hs
  refine ⟨e, ?_⟩
  rw [materialize_of_ok h, he]
  rfl

/-- With memory for a copy of its bytes, a view is copied as it is read. -/
theorem materialize_of_readable (hv : v.Readable 1) {grants : Nat → Bool}
    (hserves : Allocation.Serves grants v.shown.length) : v.materialize grants = v.toText := by
  cases h : v.toText with
  | error e => exact materialize_of_error h grants
  | ok s =>
    refine materialize_of_served h ?_
    rw [(toText_eq_ok hv).mp h]
    exact hserves

end TextView

theorem OwnedText.readable_view {s : String} (hs : (utf8 s).length ≤ maxBufferSize) :
    (OwnedText.ofText s).view.Readable 1 := by
  refine .inr ⟨Nat.succ_ne_zero _, ?_, Nat.one_dvd _⟩
  have hlength : (OwnedText.ofText s).view.length = (utf8 s).length := rfl
  rw [hlength, Nat.mul_one]
  exact hs

/-- A view that can be read is a text if and only if its bytes are the standard encoding of one, and then it is that
text. Otherwise the failure says how long the longest part at the front is that is well-formed. A copy comes out the
same whatever the allocator, as long as that serves the copy; a text that it does not serve is an allocation failure,
and bytes that are no text are refused before it is asked. Text of the host that is viewed from the other side is the
same text again. -/
theorem text_views_accept_exactly_utf8 (v : TextView) (hv : v.Readable 1) :
    (∀ s, v.toText = .ok s ↔ s.toUTF8 = v.shown.toByteArray) ∧
      (∀ grants, Allocation.Serves grants v.shown.length →
        ∀ s, v.materialize grants = .ok s ↔ s.toUTF8 = v.shown.toByteArray) ∧
      (∀ grants, ¬ Allocation.Serves grants v.shown.length → v.shown.toByteArray.IsValidUTF8 →
        ∃ e : Allocation.Refusal, v.materialize grants = .error e.failure) ∧
      (¬ v.shown.toByteArray.IsValidUTF8 → ∃ n,
        IsGreatest {k | k ≤ v.shown.length ∧ (v.shown.take k).toByteArray.IsValidUTF8} n ∧
        v.toText = .error (.encoding s!"invalid UTF-8 after {n} valid bytes") ∧
        ∀ grants, v.materialize grants = .error (.encoding s!"invalid UTF-8 after {n} valid bytes")) ∧
      ∀ s grants, Allocation.Serves grants (utf8 s).length →
        (OwnedText.ofText s).view.materialize grants = .ok s := by
  have htext : ∀ s, v.toText = .ok s ↔ s.toUTF8 = v.shown.toByteArray := fun s => by
    rw [TextView.toText_eq_ok hv, Utf8.toUTF8_eq_iff]
  refine ⟨htext, fun grants hserves => ?_, fun grants hunserved hvalid => ?_, fun hinvalid => ?_, fun s grants hs => ?_⟩
  · rw [TextView.materialize_of_readable hv hserves]
    exact htext
  · obtain ⟨s, hs⟩ := Utf8.exists_text_of_valid hvalid
    refine TextView.materialize_of_unserved ((TextView.toText_eq_ok hv).mpr hs) ?_
    rw [hs]
    exact hunserved
  · have hfails := TextView.toText_of_not_valid hv hinvalid
    exact ⟨_, Utf8.isGreatest_validUpTo v.shown, hfails, TextView.materialize_of_error hfails⟩
  · refine TextView.materialize_of_served ?_ hs
    exact (TextView.toText_eq_ok (OwnedText.readable_view hs.1)).mpr (View.shown_borrow (utf8 s)).symm

/-- A zero and a sequence that breaks off. -/
def cutOff : TextView := ⟨7, 5, some [0x64, 0x00, 0xE2, 0x82, 0x28]⟩

/-- The allocator has blocks of up to six bytes, just enough for the text. -/
theorem text_views_accept_exactly_utf8_cut_off :
    let grants : Nat → Bool := fun n => n ≤ 6
    (∀ s, cutOff.toText ≠ .ok s) ∧
      cutOff.materialize grants = .error (.encoding "invalid UTF-8 after 2 valid bytes") ∧
      (OwnedText.ofText "d\x00😀").view.materialize grants = .ok "d\x00😀" := by
  intro grants
  have hnot : ¬ cutOff.shown.toByteArray.IsValidUTF8 := by decide
  obtain ⟨hok, -, -, hinvalid, hview⟩ := text_views_accept_exactly_utf8 cutOff (.inr (by decide))
  obtain ⟨n, ⟨⟨hn, hfront⟩, hlongest⟩, -, hcopy⟩ := hinvalid hnot
  refine ⟨fun s hs => hnot ((hok s).mp hs ▸ s.isValidUTF8), ?_, hview _ grants ⟨by decide, by decide⟩⟩
  have htwo : 2 ≤ n := hlongest ⟨by decide, by decide⟩
  have hlength : n ≤ 5 := hn
  obtain rfl | rfl | rfl | rfl : n = 2 ∨ n = 3 ∨ n = 4 ∨ n = 5 := by omega
  · exact hcopy grants
  all_goals exact absurd hfront (by decide)

end Causeway
