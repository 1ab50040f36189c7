import Causeway.Layout.Text
import Causeway.Proofs.Nesting
import Causeway.Proofs.Reading

/-!
# Causeway.Proofs.LayoutText

The text of a layout says everything about it.

* `Layout.names`            — every name in a layout: of structs, of fields, of the types of handles.
* `Layout.same_iff`         — the comparison of layouts is equality.
* `FieldKind.readable`      — a kind is told by its first word and by what stands after that word.
* `Layout.Defined.readable` — a layout is told by its text.

The text holds names and kinds only. Offsets, sizes and alignments are what `Layout.define` makes of these, so
equal texts of two defined layouts leave no room for other numbers.
-/

namespace Causeway

/-! ## Names -/

mutual

def FieldKind.names : FieldKind → List String
  | .scalar _ => []
  | .shared l => l.names
  | .handle t => [t]

def Field.names : Field → List String
  | .mk name kind _ _ _ => name :: kind.names

def Field.allNames : List Field → List String
  | [] => []
  | f :: fs => f.names ++ Field.allNames fs

def Layout.names : Layout → List String
  | .mk name fields _ _ => name :: Field.allNames fields

end

/-- Every name in the layout is an identifier. -/
def Layout.Named (l : Layout) : Prop := ∀ n ∈ l.names, Identifier n

instance (l : Layout) : Decidable l.Named := inferInstanceAs (Decidable (∀ n ∈ l.names, Identifier n))

/-! ## Comparison -/

mutual

theorem FieldKind.same_iff (k k' : FieldKind) : k.same k' = true ↔ k = k' := by
  cases k with
  | scalar s => cases k' <;> simp [FieldKind.same]
  | shared l =>
    cases k' with
    | shared m => simp [FieldKind.same, l.same_iff m]
    | scalar t => simp [FieldKind.same]
    | handle t => simp [FieldKind.same]
  | handle s => cases k' <;> simp [FieldKind.same]

theorem Field.same_iff (f g : Field) : f.same g = true ↔ f = g := by
  obtain ⟨n, k, o, s, a⟩ := f
  obtain ⟨n', k', o', s', a'⟩ := g
  simp [Field.same, k.same_iff k', and_assoc]

theorem Field.sameAll_iff (fs gs : List Field) : Field.sameAll fs gs = true ↔ fs = gs := by
  cases fs with
  | nil => cases gs <;> simp [Field.sameAll]
  | cons f fs =>
    cases gs with
    | nil => simp [Field.sameAll]
    | cons g gs => simp [Field.sameAll, f.same_iff g, Field.sameAll_iff fs gs]

theorem Layout.same_iff (l m : Layout) : l.same m = true ↔ l = m := by
  obtain ⟨n, fs, s, a⟩ := l
  obtain ⟨n', fs', s', a'⟩ := m
  simp [Layout.same, Field.sameAll_iff fs fs', and_assoc]

end

/-! ## Reading a kind -/

/-- A field's text is followed by the next field or by the end of the struct. -/
def AfterField (cs : List Char) : Prop := ∀ c ∈ cs.head?, c = ',' ∨ c = '\x7d'

theorem AfterField.ends {cs : List Char} (h : AfterField cs) : Ends cs := by
  intro c hc
  rcases h c hc with rfl | rfl <;> decide

/-- A kind that may stand in a defined layout with proper names. -/
structure FieldKind.Valid (k : FieldKind) : Prop where
  defined : ∀ m, k = .shared m → m.Defined
  named : ∀ n ∈ k.names, Identifier n

/-- The word a kind's text begins with. -/
def FieldKind.word : FieldKind → String
  | .scalar s => s.name
  | .shared l => l.name
  | .handle _ => "handle"

def FieldKind.rest : FieldKind → String
  | .scalar _ => ""
  | .shared l => "\x7b" ++ joined "," (Field.texts l.fields) ++ "\x7d"
  | .handle t => "<" ++ t ++ ">"

theorem FieldKind.text_eq (k : FieldKind) : k.text = k.word ++ k.rest := by
  cases k with
  | shared l =>
    obtain ⟨name, fields, size, align⟩ := l
    simp only [text, Layout.canonical, word, rest, Layout.name, Layout.fields, String.append_assoc]
  | scalar s => simp [text, word, rest]
  | handle t => simp [text, word, rest, ← String.append_assoc]

theorem FieldKind.ends_rest (k : FieldKind) {r : List Char} (hr : AfterField r) : Ends (k.rest.toList ++ r) := by
  cases k with
  | scalar s => simpa [rest] using hr.ends
  | shared l =>
    simp only [rest, String.toList_append, List.append_assoc]
    exact ends_append (by decide) _
  | handle t =>
    simp only [rest, String.toList_append, List.append_assoc]
    exact ends_append (by decide) _

/-- What follows a field is not what follows the first word of a struct or a handle. -/
theorem AfterField.ne_rest {r : List Char} (hr : AfterField r) {k : FieldKind} (hk : ∀ a, k ≠ .scalar a)
    (s : List Char) : r ≠ k.rest.toList ++ s := by
  rintro rfl
  cases k with
  | scalar a => exact hk a rfl
  | shared l =>
    have hbrace := hr '\x7b' (by simp [FieldKind.rest])
    simp at hbrace
  | handle t =>
    have hangle := hr '<' (by simp [FieldKind.rest])
    simp at hangle

theorem Layout.Named.name {l : Layout} (h : l.Named) : Identifier l.name := by
  obtain ⟨name, fields, size, align⟩ := l
  exact h _ (by simp [Layout.names, Layout.name])

theorem FieldKind.Valid.shared {l : Layout} (h : (FieldKind.shared l).Valid) : l.Defined ∧ l.Named := by
  refine ⟨h.defined l rfl, ?_⟩
  have := h.named
  simp only [FieldKind.names] at this
  exact this

theorem FieldKind.Valid.handle {t : String} (h : (FieldKind.handle t).Valid) : Identifier t :=
  h.named t (by simp [FieldKind.names])

theorem FieldKind.Valid.word {k : FieldKind} (h : k.Valid) : Identifier k.word := by
  cases k with
  | scalar s => exact s.identifier_name
  | shared l => exact h.shared.2.name
  | handle t => simp only [FieldKind.word]; decide

/-- After equal first words the next characters agree: a comma or the closing brace after a scalar, a brace
after a struct, an angle bracket after a handle. -/
theorem FieldKind.readable {k : FieldKind} (hk : k.Valid)
    (inner : ∀ l, k = .shared l → Readable Layout.canonical (fun m => m.Defined ∧ m.Named) (fun _ => True) l) :
    Readable FieldKind.text FieldKind.Valid AfterField k := by
  refine .of_word text_eq (fun _ hy => hy.word) (fun y _ hr => y.ends_rest hr) hk ?_
  intro k' hk' hword r s hr hs h
  cases k with
  | scalar a =>
    cases k' with
    | scalar b => exact ⟨congrArg _ (Scalar.name_injective hword), h⟩
    | shared m => exact absurd h (hr.ne_rest (by simp) s)
    | handle t => exact absurd h (hr.ne_rest (by simp) s)
  | shared l =>
    cases k' with
    | scalar b => exact absurd h.symm (hs.ne_rest (by simp) r)
    | shared m =>
      have hl := text_eq (.shared l)
      have hm := text_eq (.shared m)
      simp only [text] at hl hm
      obtain ⟨rfl, hrs⟩ := inner l rfl m hk'.shared r s trivial trivial (by
        rw [hl, hm, hword, String.toList_append, String.toList_append, List.append_assoc, List.append_assoc, h])
      exact ⟨rfl, hrs⟩
    | handle t => simp [rest] at h
  | handle t =>
    cases k' with
    | scalar b => exact absurd h.symm (hs.ne_rest (by simp) r)
    | shared m => simp [rest] at h
    | handle u =>
      simp only [rest, String.toList_append, List.append_assoc, List.append_cancel_left_eq] at h
      obtain ⟨rfl, hrs⟩ := hk.handle.append_inj hk'.handle (ends_append (by decide) _) (ends_append (by decide) _) h
      exact ⟨rfl, List.append_cancel_left hrs⟩

/-! ## Reading a layout -/

namespace Layout

theorem texts_spread (stop : Nat) (fields : List (String × FieldKind)) :
    Field.texts (spread stop fields) = fields.map fun f => f.1 ++ ":" ++ f.2.text := by
  induction fields generalizing stop with
  | nil => simp [spread, Field.texts]
  | cons f rest ih => simp [spread, Field.texts, Field.text, ih]

theorem allNames_spread (stop : Nat) (fields : List (String × FieldKind)) :
    Field.allNames (spread stop fields) = fields.flatMap fun f => f.1 :: f.2.names := by
  induction fields generalizing stop with
  | nil => simp [spread, Field.allNames]
  | cons f rest ih => simp [spread, Field.allNames, Field.names, ih]

variable {name : String} {fields : List (String × FieldKind)} {l : Layout}

theorem canonical_of_define (h : define name fields = .ok l) :
    l.canonical = name ++ "\x7b" ++ joined "," (fields.map fun f => f.1 ++ ":" ++ f.2.text) ++ "\x7d" := by
  obtain ⟨_, rfl⟩ := define_eq_ok h
  simp only [canonical, texts_spread]

theorem Named.of_define (hl : l.Named) (h : define name fields = .ok l) :
    Identifier name ∧ ∀ f ∈ fields, Identifier f.1 ∧ ∀ n ∈ f.2.names, Identifier n := by
  obtain ⟨_, rfl⟩ := define_eq_ok h
  simp only [Named, names, allNames_spread, List.mem_cons, List.mem_flatMap, forall_eq_or_imp] at hl
  refine ⟨hl.1, fun f hf => ⟨hl.2 _ ⟨f, hf, .inl rfl⟩, fun n hn => hl.2 n ⟨f, hf, .inr hn⟩⟩⟩

theorem delimits_fields :
    Delimits (fun f : String × FieldKind => f.1 ++ ":" ++ f.2.text) (fun f => Identifier f.1 ∧ f.2.Valid)
      AfterField "," "\x7d" := by
  refine ⟨fun r c hc => ?_, fun r c hc => ?_, fun r s h => ?_, fun f hf r s h => ?_⟩
  · simp at hc
    exact .inl hc.symm
  · simp at hc
    exact .inr hc.symm
  · simp at h
  · simp only [String.toList_append, List.append_assoc] at h
    exact hf.1.append_ne (by decide) h

theorem Defined.readable (h : l.Defined) (hl : l.Named) :
    Readable canonical (fun m => m.Defined ∧ m.Named) (fun _ => True) l := by
  induction h with
  | @intro name fields l inner hdef ih =>
    rintro m ⟨hm, hmn⟩ r s - - h
    cases hm with
    | @intro name' fields' _ inner' hdef' =>
      obtain ⟨hname, hfields⟩ := hl.of_define hdef
      obtain ⟨hname', hfields'⟩ := hmn.of_define hdef'
      have hvalid : ∀ f ∈ fields, Identifier f.1 ∧ f.2.Valid := fun f hf =>
        ⟨(hfields f hf).1, inner f hf, (hfields f hf).2⟩
      have hvalid' : ∀ f ∈ fields', Identifier f.1 ∧ f.2.Valid := fun f hf =>
        ⟨(hfields' f hf).1, inner' f hf, (hfields' f hf).2⟩
      rw [canonical_of_define hdef, canonical_of_define hdef'] at h
      simp only [String.toList_append, List.append_assoc] at h
      obtain ⟨rfl, hbody⟩ := hname.append_inj hname' (ends_append (by decide) _) (ends_append (by decide) _) h
      have hreadable : ∀ f ∈ fields, Readable (fun f : String × FieldKind => f.1 ++ ":" ++ f.2.text)
          (fun f => Identifier f.1 ∧ f.2.Valid) AfterField f := by
        intro f hf
        refine Readable.named (ends_append (by decide)) (hvalid f hf).1
          (FieldKind.readable (hvalid f hf).2 fun m hm => ih f hf m hm ?_)
        exact (hm ▸ (hvalid f hf).2).shared.2
      obtain ⟨rfl, hrs⟩ := joined_inj delimits_fields hreadable hvalid hvalid' (List.append_cancel_left hbody)
      rw [hdef] at hdef'
      cases hdef'
      exact ⟨rfl, hrs⟩

end Layout

theorem layout_text_identifies {l m : Layout} (hl : l.Defined) (hm : m.Defined) (hln : l.Named) (hmn : m.Named) :
    (l.canonical = m.canonical ↔ l.same m = true) ∧ (l.same m = true ↔ l = m) := by
  have hsame : l.same m = true ↔ l = m := l.same_iff m
  refine ⟨?_, hsame⟩
  rw [hsame]
  constructor
  · intro h
    exact (hl.readable hln m ⟨hm, hmn⟩ [] [] trivial trivial (by rw [h])).1
  · rintro rfl
    rfl

namespace Layout

def flagged : Layout :=
  .mk "Mixed" [.mk "flag" (.scalar .bool) 0 1 1, .mk "wide" (.scalar .u64) 8 8 8] 16 8

/-- The text of `outer` but for the place of one brace: the narrow field stands after the inner struct. -/
def regrouped : Layout :=
  .mk "Outer"
    [.mk "tag" (.scalar .u8) 0 1 1, .mk "inner" (.shared flagged) 8 16 8, .mk "narrow" (.scalar .u16) 24 2 2,
      .mk "owner" (.handle "Thing") 28 8 4]
    40 8

theorem flagged_defined : flagged.Defined := by
  have hdef : define "Mixed" [("flag", .scalar .bool), ("wide", .scalar .u64)] = .ok flagged := rfl
  refine .intro (fun f hf m hm => ?_) hdef
  simp only [List.mem_cons, List.not_mem_nil, or_false] at hf
  rcases hf with rfl | rfl <;> cases hm

theorem regrouped_defined : regrouped.Defined := by
  have hdef : define "Outer" [("tag", .scalar .u8), ("inner", .shared flagged), ("narrow", .scalar .u16),
      ("owner", .handle "Thing")] = .ok regrouped := rfl
  refine .intro (fun f hf m hm => ?_) hdef
  simp only [List.mem_cons, List.not_mem_nil, or_false] at hf
  rcases hf with rfl | rfl | rfl | rfl <;> cases hm
  exact flagged_defined

end Layout

open Layout in
theorem layout_text_identifies_of_regrouped :
    outer.Defined ∧ regrouped.Defined ∧ outer.Named ∧ regrouped.Named ∧
      outer.size = regrouped.size ∧ outer.align = regrouped.align ∧
      outer.canonical ≠ regrouped.canonical ∧ outer.same regrouped = false := by
  have hnamed : outer.Named := by decide
  have hnamed' : regrouped.Named := by decide
  obtain ⟨htext, hsame⟩ := layout_text_identifies outer_defined regrouped_defined hnamed hnamed'
  have hne : ¬ outer.same regrouped = true := by
    intro h
    simpa [outer, regrouped] using hsame.mp h
  exact ⟨outer_defined, regrouped_defined, hnamed, hnamed', rfl, rfl, fun h => hne (htext.mp h),
    Bool.eq_false_iff.mpr hne⟩

end Causeway
