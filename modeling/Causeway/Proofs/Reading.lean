import Causeway.Scalar
import Causeway.Text.Joined

/-!
# Causeway.Proofs.Reading

Texts that can be read back in one way only.

* `Identifier` — letters, digits and underscores.
* `Ends`       — text that does not go on with the word before it.
* `Readable`   — a value that its text tells from every other value, whatever comes after the text.
* `Readable.of_word` — a value whose text is a word and what comes after it.
* `Readable.named` — a readable value with a name before it.
* `joined_inj` — a list of readable values between separators, up to the text that closes it.

A reader of such texts never has to look back: where a value ends follows from the characters up to there and
the one after them.
-/

namespace Causeway

/-- Letters, digits and the underscore. Past ASCII every character counts as a letter. -/
def isWord (c : Char) : Bool := c.isAlphanum || c = '_' || 0x80 ≤ c.toNat

structure Identifier (s : String) : Prop where
  nonempty : s ≠ ""
  word : ∀ c ∈ s.toList, isWord c = true

instance (s : String) : Decidable (Identifier s) :=
  decidable_of_iff (s ≠ "" ∧ s.toList.all isWord = true)
    ⟨fun h => ⟨h.1, List.all_eq_true.mp h.2⟩, fun h => ⟨h.nonempty, List.all_eq_true.mpr h.word⟩⟩

def Ends (cs : List Char) : Prop := ∀ c ∈ cs.head?, isWord c = false

theorem ends_nil : Ends [] := by
  intro c hc
  cases hc

theorem ends_cons {c : Char} {cs : List Char} (h : isWord c = false) : Ends (c :: cs) := by
  intro d hd
  cases hd
  exact h

/-- A mark that begins with no character of a word ends the word before it. -/
theorem ends_append {mark : List Char} (h : mark.head?.any (fun c => !isWord c) = true) (r : List Char) :
    Ends (mark ++ r) := by
  cases mark with
  | nil => cases h
  | cons c cs =>
    simp only [List.head?_cons, Option.any_some, Bool.not_eq_true'] at h
    exact ends_cons h

/-- A word stops where the first character that is not of a word stands. -/
theorem word_append_inj {u v r s : List Char} (hu : ∀ c ∈ u, isWord c = true)
    (hv : ∀ c ∈ v, isWord c = true) (hr : Ends r) (hs : Ends s) (h : u ++ r = v ++ s) :
    u = v ∧ r = s := by
  induction u generalizing v with
  | nil =>
    cases v with
    | nil => exact ⟨rfl, h⟩
    | cons d v =>
      rw [List.nil_append] at h
      have hd : isWord d = false := hr d (by rw [h]; rfl)
      rw [hv d List.mem_cons_self] at hd
      cases hd
  | cons c u ih =>
    cases v with
    | nil =>
      rw [List.nil_append] at h
      have hc : isWord c = false := hs c (by rw [← h]; rfl)
      rw [hu c List.mem_cons_self] at hc
      cases hc
    | cons d v =>
      simp only [List.cons_append, List.cons.injEq] at h
      obtain ⟨rfl, h⟩ := h
      obtain ⟨rfl, hrest⟩ := ih (fun c hc => hu c (List.mem_cons_of_mem _ hc))
        (fun c hc => hv c (List.mem_cons_of_mem _ hc)) h
      exact ⟨rfl, hrest⟩

theorem Identifier.append_inj {m n : String} {r s : List Char} (hm : Identifier m) (hn : Identifier n)
    (hr : Ends r) (hs : Ends s) (h : m.toList ++ r = n.toList ++ s) : m = n ∧ r = s := by
  obtain ⟨hmn, hrs⟩ := word_append_inj hm.word hn.word hr hs h
  exact ⟨String.toList_inj.mp hmn, hrs⟩

/-- An identifier begins with a character of a word. -/
theorem Identifier.append_ne {n : String} {r : List Char} {c : Char} {s : List Char} (hn : Identifier n)
    (hc : isWord c = false) : n.toList ++ r ≠ c :: s := by
  intro h
  cases hl : n.toList with
  | nil => exact hn.nonempty (String.toList_inj.mp hl)
  | cons d ds =>
    rw [hl] at h
    cases h
    have hd := hn.word c (hl ▸ List.mem_cons_self)
    rw [hc] at hd
    cases hd

theorem Scalar.ofName?_name (s : Scalar) : Scalar.ofName? s.name = some s := by
  cases s <;> decide

theorem Scalar.name_injective {s t : Scalar} (h : s.name = t.name) : s = t := by
  rw [← Option.some_inj, ← s.ofName?_name, ← t.ofName?_name, h]

theorem Scalar.identifier_name (s : Scalar) : Identifier s.name := by
  cases s <;> decide

/-! ## Values and their texts -/

section Readable

variable {α : Type} {text : α → String} {Valid : α → Prop} {Follow : List Char → Prop}

/-- No other valid value has a text that goes on in the same way, as long as what comes after the texts is
of the form `Follow`. -/
def Readable (text : α → String) (Valid : α → Prop) (Follow : List Char → Prop) (x : α) : Prop :=
  ∀ y, Valid y → ∀ r s, Follow r → Follow s →
    (text x).toList ++ r = (text y).toList ++ s → x = y ∧ r = s

theorem Identifier.readable {n : String} (hn : Identifier n) : Readable id Identifier Ends n := by
  intro m hm r s hr hs h
  exact hn.append_inj hm hr hs h

/-- Texts that begin with a word tell their values if what comes after equal words does. -/
theorem Readable.of_word {word rest : α → String} {x : α} (htext : ∀ y, text y = word y ++ rest y)
    (hword : ∀ y, Valid y → Identifier (word y)) (hends : ∀ y r, Follow r → Ends ((rest y).toList ++ r))
    (hx : Valid x)
    (hrest : ∀ y, Valid y → word x = word y → ∀ r s, Follow r → Follow s →
      (rest x).toList ++ r = (rest y).toList ++ s → x = y ∧ r = s) :
    Readable text Valid Follow x := by
  intro y hy r s hr hs h
  rw [htext, htext, String.toList_append, String.toList_append, List.append_assoc, List.append_assoc] at h
  obtain ⟨hxy, hrs⟩ := (hword x hx).append_inj (hword y hy) (hends x r hr) (hends y s hs) h
  exact hrest y hy hxy r s hr hs hrs

theorem Readable.named {gap : String} (hgap : ∀ r, Ends (gap.toList ++ r)) {n : String} {x : α}
    (hn : Identifier n) (hx : Readable text Valid Follow x) :
    Readable (fun p : String × α => p.1 ++ gap ++ text p.2) (fun p => Identifier p.1 ∧ Valid p.2)
      Follow (n, x) := by
  rintro ⟨m, y⟩ ⟨hm, hy⟩ r s hr hs h
  simp only [String.toList_append, List.append_assoc] at h
  obtain ⟨rfl, hrest⟩ := hn.append_inj hm (hgap _) (hgap _) h
  obtain ⟨rfl, hrs⟩ := hx y hy r s hr hs (List.append_cancel_left hrest)
  exact ⟨rfl, hrs⟩

/-- What comes between values and after them cannot be taken for one another, nor for a value. -/
structure Delimits (text : α → String) (Valid : α → Prop) (Follow : List Char → Prop)
    (separator close : String) : Prop where
  separator_follows : ∀ r, Follow (separator.toList ++ r)
  close_follows : ∀ r, Follow (close.toList ++ r)
  separator_ne : ∀ r s, separator.toList ++ r ≠ close.toList ++ s
  value_ne : ∀ x, Valid x → ∀ r s, (text x).toList ++ r ≠ close.toList ++ s

theorem toList_joined_cons (separator first : String) (rest : List String) :
    (joined separator (first :: rest)).toList =
      first.toList ++ rest.flatMap fun t => separator.toList ++ t.toList := by
  induction rest generalizing first with
  | nil => simp [joined]
  | cons second rest ih => simp [joined, ih]

variable {separator close : String}

/-- By induction on the first list: after each value either the separator or the closing text must stand on
both sides. -/
theorem Delimits.rest_inj (hd : Delimits text Valid Follow separator close) {xs ys : List α}
    (hxs : ∀ x ∈ xs, Readable text Valid Follow x) (hys : ∀ y ∈ ys, Valid y) {r s : List Char}
    (h : (xs.map text).flatMap (fun t => separator.toList ++ t.toList) ++ (close.toList ++ r) =
      (ys.map text).flatMap (fun t => separator.toList ++ t.toList) ++ (close.toList ++ s)) :
    xs = ys ∧ r = s := by
  have follows : ∀ (zs : List α) (q : List Char),
      Follow ((zs.map text).flatMap (fun t => separator.toList ++ t.toList) ++ (close.toList ++ q)) := by
    intro zs q
    cases zs with
    | nil => exact hd.close_follows q
    | cons z zs =>
      simp only [List.map_cons, List.flatMap_cons, List.append_assoc]
      exact hd.separator_follows _
  induction xs generalizing ys with
  | nil =>
    cases ys with
    | nil => exact ⟨rfl, List.append_cancel_left h⟩
    | cons y ys =>
      simp only [List.map_nil, List.flatMap_nil, List.nil_append, List.map_cons, List.flatMap_cons,
        List.append_assoc] at h
      exact absurd h.symm (hd.separator_ne _ _)
  | cons x xs ih =>
    cases ys with
    | nil =>
      simp only [List.map_nil, List.flatMap_nil, List.nil_append, List.map_cons, List.flatMap_cons,
        List.append_assoc] at h
      exact absurd h (hd.separator_ne _ _)
    | cons y ys =>
      simp only [List.map_cons, List.flatMap_cons, List.append_assoc, List.append_cancel_left_eq] at h
      obtain ⟨rfl, hrest⟩ := hxs x List.mem_cons_self y (hys y List.mem_cons_self) _ _
        (follows xs r) (follows ys s) h
      obtain ⟨rfl, hrs⟩ := ih (fun z hz => hxs z (List.mem_cons_of_mem _ hz))
        (fun z hz => hys z (List.mem_cons_of_mem _ hz)) hrest
      exact ⟨rfl, hrs⟩

theorem joined_inj (hd : Delimits text Valid Follow separator close) {xs ys : List α}
    (hxs : ∀ x ∈ xs, Readable text Valid Follow x) (hvalid : ∀ x ∈ xs, Valid x) (hys : ∀ y ∈ ys, Valid y)
    {r s : List Char}
    (h : (joined separator (xs.map text)).toList ++ (close.toList ++ r) =
      (joined separator (ys.map text)).toList ++ (close.toList ++ s)) :
    xs = ys ∧ r = s := by
  cases xs with
  | nil =>
    cases ys with
    | nil => exact hd.rest_inj hxs hys h
    | cons y ys =>
      simp only [List.map_cons, toList_joined_cons, List.append_assoc] at h
      exact absurd h.symm (hd.value_ne y (hys y List.mem_cons_self) _ _)
  | cons x xs =>
    cases ys with
    | nil =>
      simp only [List.map_cons, toList_joined_cons, List.append_assoc] at h
      exact absurd h (hd.value_ne x (hvalid x List.mem_cons_self) _ _)
    | cons y ys =>
      -- a separator before the first value makes both sides of one form
      refine hd.rest_inj hxs hys ?_
      simp only [List.map_cons, toList_joined_cons, List.append_assoc] at h
      simp only [List.map_cons, List.flatMap_cons, List.append_assoc, h]

end Readable

end Causeway
