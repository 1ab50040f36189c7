import Causeway.Text.Utf8

/-!
# Causeway.Proofs.Decoding

Reading back the bytes of a text.

* `Utf8.lead?_eq`      — the table of lead bytes over natural numbers.
* `Utf8.Begins`        — what a lead byte and the bytes after it must be for a scalar value.
* `Utf8.pieces_append` — the bytes of a text are cut into its scalar values, one piece each, whatever follows.
* `Utf8.lossy_utf8`    — forgiving reading changes nothing that was a text.
-/

namespace Causeway
namespace Utf8

theorem toNat_toUInt8 {n : Nat} (h : n < 0x100) : n.toUInt8.toNat = n := by
  simp only [UInt8.toNat_ofNat']
  omega

theorem lead?_eq (b : UInt8) :
    lead? b =
      if b.toNat < 0x80 then some ⟨b.toNat, 0, 0x80, 0xBF⟩
      else if b.toNat < 0xC2 then none
      else if b.toNat < 0xE0 then some ⟨b.toNat - 0xC0, 1, 0x80, 0xBF⟩
      else if b.toNat = 0xE0 then some ⟨0, 2, 0xA0, 0xBF⟩
      else if b.toNat = 0xED then some ⟨0xD, 2, 0x80, 0x9F⟩
      else if b.toNat < 0xF0 then some ⟨b.toNat - 0xE0, 2, 0x80, 0xBF⟩
      else if b.toNat = 0xF0 then some ⟨0, 3, 0x90, 0xBF⟩
      else if b.toNat < 0xF4 then some ⟨b.toNat - 0xF0, 3, 0x80, 0xBF⟩
      else if b.toNat = 0xF4 then some ⟨4, 3, 0x80, 0x8F⟩
      else none := by
  simp only [lead?, UInt8.lt_iff_toNat_lt, ← UInt8.toNat_inj, UInt8.reduceToNat]

/-- The first byte lies in the given range and every later one in `80..BF`. -/
def Continues : UInt8 → UInt8 → List UInt8 → Prop
  | _, _, [] => True
  | low, high, b :: bs => (low ≤ b ∧ b ≤ high) ∧ Continues 0x80 0xBF bs

theorem continuing_append {low high : UInt8} {bs : List UInt8} (h : Continues low high bs)
    (rest : List UInt8) : continuing bs.length low high (bs ++ rest) = bs.length := by
  induction bs generalizing low high with
  | nil => rfl
  | cons b bs ih => simp [continuing, h.1, ih h.2]

/-- A lead byte with as many bytes after it as it promises, all in range, that together make up `v`. -/
structure Begins (v : Nat) (b : UInt8) (bs : List UInt8) (l : Lead) : Prop where
  lead : lead? b = some l
  length : bs.length = l.follow
  continues : Continues l.low l.high bs
  value : value l.bits bs = v

theorem Begins.first {c : Char} {b : UInt8} {bs : List UInt8} {l : Lead} (h : Begins c.toNat b bs l)
    (rest : List UInt8) : Piece.first b (bs ++ rest) = .scalar c (bs.length + 1) := by
  have hn : continuing l.follow l.low l.high (bs ++ rest) = l.follow := by
    rw [← h.length]
    exact continuing_append h.continues rest
  simp only [Piece.first, h.lead, hn, if_true]
  rw [← h.length, List.take_left, h.value, Char.ofNat_toNat]

theorem continuation_range {x : Nat} (h : x < 0x40) :
    (0x80 : UInt8) ≤ (0x80 + x).toUInt8 ∧ (0x80 + x).toUInt8 ≤ 0xBF := by
  simp only [UInt8.le_iff_toNat_le, UInt8.reduceToNat, toNat_toUInt8 (show 0x80 + x < 0x100 by omega)]
  omega

theorem begins_one {v : Nat} (h : v < 0x80) : ∃ l, Begins v v.toUInt8 [] l := by
  have hb : v.toUInt8.toNat = v := toNat_toUInt8 (by omega)
  refine ⟨⟨v, 0, 0x80, 0xBF⟩, ?_, rfl, trivial, rfl⟩
  rw [lead?_eq, hb, if_pos h]

theorem begins_two {v : Nat} (h : 0x80 ≤ v) (h' : v < 0x800) :
    ∃ l, Begins v (0xC0 + v / 0x40).toUInt8 [(0x80 + v % 0x40).toUInt8] l := by
  have hb : (0xC0 + v / 0x40).toUInt8.toNat = 0xC0 + v / 0x40 := toNat_toUInt8 (by omega)
  have hx : v % 0x40 < 0x40 := by omega
  refine ⟨⟨v / 0x40, 1, 0x80, 0xBF⟩, ?_, rfl, ⟨continuation_range hx, trivial⟩, ?_⟩
  · rw [lead?_eq, hb, if_neg (by omega), if_neg (by omega), if_pos (by omega), Nat.add_sub_cancel_left]
  · simp only [Utf8.value, List.foldl_cons, List.foldl_nil, toNat_toUInt8 (show 0x80 + v % 0x40 < 0x100 by omega)]
    omega

theorem lead?_three {v : Nat} (h : 0x800 ≤ v) (h' : v < 0x10000) (hs : v < 0xD800 ∨ 0xDFFF < v) :
    ∃ low high : UInt8, lead? (0xE0 + v / 0x1000).toUInt8 = some ⟨v / 0x1000, 2, low, high⟩ ∧
      low.toNat ≤ 0x80 + v / 0x40 % 0x40 ∧ 0x80 + v / 0x40 % 0x40 ≤ high.toNat := by
  have hb : (0xE0 + v / 0x1000).toUInt8.toNat = 0xE0 + v / 0x1000 := toNat_toUInt8 (by omega)
  rw [lead?_eq, hb, if_neg (by omega), if_neg (by omega), if_neg (by omega)]
  by_cases h0 : v / 0x1000 = 0
  · refine ⟨0xA0, 0xBF, ?_, ?_, ?_⟩
    · rw [if_pos (by omega), h0]
    all_goals simp only [UInt8.reduceToNat]; omega
  · rw [if_neg (by omega)]
    by_cases hd : v / 0x1000 = 0xD
    · -- the surrogates are the second half of this block
      refine ⟨0x80, 0x9F, ?_, ?_, ?_⟩
      · rw [if_pos (by omega), hd]
      all_goals simp only [UInt8.reduceToNat]; omega
    · refine ⟨0x80, 0xBF, ?_, ?_, ?_⟩
      · rw [if_neg (by omega), if_pos (by omega), Nat.add_sub_cancel_left]
      all_goals simp only [UInt8.reduceToNat]; omega

theorem begins_three {v : Nat} (h : 0x800 ≤ v) (h' : v < 0x10000) (hs : v < 0xD800 ∨ 0xDFFF < v) :
    ∃ l, Begins v (0xE0 + v / 0x1000).toUInt8
      [(0x80 + v / 0x40 % 0x40).toUInt8, (0x80 + v % 0x40).toUInt8] l := by
  obtain ⟨low, high, hlead, hlow, hhigh⟩ := lead?_three h h' hs
  have h1 : (0x80 + v / 0x40 % 0x40).toUInt8.toNat = 0x80 + v / 0x40 % 0x40 := toNat_toUInt8 (by omega)
  have h2 : (0x80 + v % 0x40).toUInt8.toNat = 0x80 + v % 0x40 := toNat_toUInt8 (by omega)
  refine ⟨_, hlead, rfl, ⟨⟨?_, ?_⟩, continuation_range (by omega), trivial⟩, ?_⟩
  · rw [UInt8.le_iff_toNat_le, h1]
    exact hlow
  · rw [UInt8.le_iff_toNat_le, h1]
    exact hhigh
  · simp only [Utf8.value, List.foldl_cons, List.foldl_nil, h1, h2]
    omega

theorem lead?_four {v : Nat} (h : 0x10000 ≤ v) (h' : v < 0x110000) :
    ∃ low high : UInt8, lead? (0xF0 + v / 0x40000).toUInt8 = some ⟨v / 0x40000, 3, low, high⟩ ∧
      low.toNat ≤ 0x80 + v / 0x1000 % 0x40 ∧ 0x80 + v / 0x1000 % 0x40 ≤ high.toNat := by
  have hb : (0xF0 + v / 0x40000).toUInt8.toNat = 0xF0 + v / 0x40000 := toNat_toUInt8 (by omega)
  rw [lead?_eq, hb, if_neg (by omega), if_neg (by omega), if_neg (by omega), if_neg (by omega),
    if_neg (by omega), if_neg (by omega)]
  by_cases h0 : v / 0x40000 = 0
  · refine ⟨0x90, 0xBF, ?_, ?_, ?_⟩
    · rw [if_pos (by omega), h0]
    all_goals simp only [UInt8.reduceToNat]; omega
  · rw [if_neg (by omega)]
    by_cases h4 : v / 0x40000 = 4
    · refine ⟨0x80, 0x8F, ?_, ?_, ?_⟩
      · rw [if_neg (by omega), if_pos (by omega), h4]
      all_goals simp only [UInt8.reduceToNat]; omega
    · refine ⟨0x80, 0xBF, ?_, ?_, ?_⟩
      · rw [if_pos (by omega), Nat.add_sub_cancel_left]
      all_goals simp only [UInt8.reduceToNat]; omega

theorem begins_four {v : Nat} (h : 0x10000 ≤ v) (h' : v < 0x110000) :
    ∃ l, Begins v (0xF0 + v / 0x40000).toUInt8
      [(0x80 + v / 0x1000 % 0x40).toUInt8, (0x80 + v / 0x40 % 0x40).toUInt8, (0x80 + v % 0x40).toUInt8] l := by
  obtain ⟨low, high, hlead, hlow, hhigh⟩ := lead?_four h h'
  have h1 : (0x80 + v / 0x1000 % 0x40).toUInt8.toNat = 0x80 + v / 0x1000 % 0x40 := toNat_toUInt8 (by omega)
  have h2 : (0x80 + v / 0x40 % 0x40).toUInt8.toNat = 0x80 + v / 0x40 % 0x40 := toNat_toUInt8 (by omega)
  have h3 : (0x80 + v % 0x40).toUInt8.toNat = 0x80 + v % 0x40 := toNat_toUInt8 (by omega)
  refine ⟨_, hlead, rfl,
    ⟨⟨?_, ?_⟩, continuation_range (by omega), continuation_range (by omega), trivial⟩, ?_⟩
  · rw [UInt8.le_iff_toNat_le, h1]
    exact hlow
  · rw [UInt8.le_iff_toNat_le, h1]
    exact hhigh
  · simp only [Utf8.value, List.foldl_cons, List.foldl_nil, h1, h2, h3]
    omega

theorem encodeChar_begins (c : Char) : ∃ b bs l, encodeChar c = b :: bs ∧ Begins c.toNat b bs l := by
  have hvalid : c.toNat < 0xD800 ∨ (0xDFFF < c.toNat ∧ c.toNat < 0x110000) := c.valid
  simp only [encodeChar]
  by_cases h1 : c.toNat < 0x80
  · obtain ⟨l, hl⟩ := begins_one h1
    exact ⟨_, _, l, if_pos h1, hl⟩
  · rw [if_neg h1]
    by_cases h2 : c.toNat < 0x800
    · obtain ⟨l, hl⟩ := begins_two (by omega) h2
      exact ⟨_, _, l, if_pos h2, hl⟩
    · rw [if_neg h2]
      by_cases h3 : c.toNat < 0x10000
      · obtain ⟨l, hl⟩ := begins_three (by omega) h3 (by omega)
        exact ⟨_, _, l, if_pos h3, hl⟩
      · obtain ⟨l, hl⟩ := begins_four (v := c.toNat) (by omega) (by omega)
        exact ⟨_, _, l, if_neg h3, hl⟩

theorem encode_cons (c : Char) (cs : List Char) : encode (c :: cs) = encodeChar c ++ encode cs := rfl

theorem pieces_append (cs : List Char) (rest : List UInt8) :
    pieces (encode cs ++ rest) = (cs.map fun c => .scalar c (encodeChar c).length) ++ pieces rest := by
  induction cs with
  | nil => rfl
  | cons c cs ih =>
    obtain ⟨b, bs, l, hc, hl⟩ := encodeChar_begins c
    have hbytes : encode (c :: cs) ++ rest = b :: (bs ++ (encode cs ++ rest)) := by
      rw [encode_cons, hc, List.cons_append, List.cons_append, List.append_assoc]
    rw [hbytes, pieces]
    simp only [hl.first, Piece.size, Nat.add_sub_cancel, List.drop_left, ih, List.map_cons, hc,
      List.length_cons, List.cons_append]

theorem pieces_encode (cs : List Char) :
    pieces (encode cs) = cs.map fun c => .scalar c (encodeChar c).length := by
  have h := pieces_append cs []
  rwa [pieces, List.append_nil, List.append_nil] at h

theorem lossy_utf8 (s : String) : lossy (utf8 s) = s := by
  have hchars : ((pieces (encode s.toList)).map Piece.char) = s.toList := by
    rw [pieces_encode, List.map_map]
    exact List.map_id _
  rw [lossy, utf8, hchars, String.ofList_toList]

end Utf8

theorem utf8_injective {s t : String} (h : utf8 s = utf8 t) : s = t := by
  rw [← Utf8.lossy_utf8 s, ← Utf8.lossy_utf8 t, h]

end Causeway
