import Causeway.Layout.Text
import Causeway.Proofs.Nesting

/-!
# Causeway.Proofs.WordRange

Definitions whose sums reach the end of the 64-bit range.

* `Layout.stopAt`  — where the first fields of a list end, summed without a bound.
* `Layout.Fault`   — what is wrong with one field, given the fields before it.
* `Layout.InRange` — no number of a layout leaves the range.

The fields are taken in order, so the first faulty one decides, whatever is wrong with the ones behind
it. A sum is out of range as soon as the end of a field and the next alignment together are, even where
that end is aligned already and nothing would have to be added.
-/

namespace Causeway
namespace Layout

variable {name : String} {fields : List (String × FieldKind)}

/-! ## Sums without a bound -/

theorem alignUp_lt {align : Nat} (offset : Nat) (h : 0 < align) :
    alignUp offset align < offset + align := by
  have := Nat.div_mul_le_self (offset + align - 1) align
  simp only [alignUp]
  omega

theorem isLeast_alignUp {align : Nat} (offset : Nat) (h : 0 < align) :
    IsLeast {n | align ∣ n ∧ offset ≤ n} (alignUp offset align) :=
  ⟨⟨dvd_alignUp offset align, le_alignUp offset h⟩, fun _ hn => alignUp_le hn.2 hn.1⟩

theorem spreadStop_append (stop : Nat) (before after : List (String × FieldKind)) :
    spreadStop stop (before ++ after) = spreadStop (spreadStop stop before) after := by
  induction before generalizing stop with
  | nil => rfl
  | cons f rest ih => exact ih _

theorem widest_append (align : Nat) (before after : List (String × FieldKind)) :
    widest align (before ++ after) = widest (widest align before) after := by
  induction before generalizing align with
  | nil => rfl
  | cons f rest ih => exact ih _

/-- The byte after the first `i` fields. -/
def stopAt (fields : List (String × FieldKind)) (i : Nat) : Nat := spreadStop 0 (fields.take i)

theorem take_succ_of_getElem? {i : Nat} {f : String × FieldKind} (hf : fields[i]? = some f) :
    fields.take (i + 1) = fields.take i ++ [f] := by
  rw [List.take_add_one, hf, Option.toList_some]

theorem stopAt_succ {i : Nat} {f : String × FieldKind} (hf : fields[i]? = some f) :
    stopAt fields (i + 1) = alignUp (stopAt fields i) f.2.align + f.2.size := by
  rw [stopAt, take_succ_of_getElem? hf, spreadStop_append]
  rfl

theorem stopAt_length (fields : List (String × FieldKind)) :
    stopAt fields fields.length = spreadStop 0 fields := by
  rw [stopAt, List.take_length]

theorem getElem?_spread (stop : Nat) (fields : List (String × FieldKind)) (i : Nat) :
    (spread stop fields)[i]? = fields[i]?.map fun f =>
      .mk f.1 f.2 (alignUp (spreadStop stop (fields.take i)) f.2.align) f.2.size f.2.align := by
  induction fields generalizing stop i with
  | nil => rfl
  | cons g rest ih =>
    cases i with
    | zero => rfl
    | succ i => exact ih _ i

theorem spread_eq_mapIdx (fields : List (String × FieldKind)) :
    spread 0 fields = fields.mapIdx fun i f =>
      .mk f.1 f.2 (alignUp (stopAt fields i) f.2.align) f.2.size f.2.align := by
  apply List.ext_getElem?
  intro i
  rw [getElem?_spread, List.getElem?_mapIdx]
  rfl

theorem isGreatest_widest (fields : List (String × FieldKind)) :
    IsGreatest {a | a = 1 ∨ ∃ f ∈ fields, f.2.align = a} (widest 1 fields) := by
  refine ⟨widest_eq_or_mem 1 fields, ?_⟩
  rintro a (rfl | ⟨f, hf, rfl⟩)
  · exact le_widest 1 fields
  · exact align_le_widest hf

/-! ## The first faulty field -/

/-- What is wrong with field `i`: its name, or else a sum up to its last byte. -/
inductive Fault (name : String) (fields : List (String × FieldKind)) (i : Nat) : Refusal → Prop where
  | unnamed {kind : FieldKind} : fields[i]? = some ("", kind) → Fault name fields i (.unnamedField name)
  | repeated {f g : String × FieldKind} {j : Nat} : fields[i]? = some f → f.1 ≠ "" →
      j < i → fields[j]? = some g → g.1 = f.1 → Fault name fields i (.repeatedField name f.1)
  | overflow {f : String × FieldKind} : fields[i]? = some f → f.1 ≠ "" →
      (∀ j < i, ∀ g, fields[j]? = some g → g.1 ≠ f.1) →
      (wordLimit ≤ stopAt fields i + f.2.align ∨
        wordLimit ≤ alignUp (stopAt fields i) f.2.align + f.2.size) →
      Fault name fields i .overflow

/-- The names of the first `i` fields, the last one first. -/
def seenAt (fields : List (String × FieldKind)) (i : Nat) : List String :=
  ((fields.take i).map Prod.fst).reverse

theorem mem_seenAt {i : Nat} {x : String} :
    x ∈ seenAt fields i ↔ ∃ j < i, ∃ g, fields[j]? = some g ∧ g.1 = x := by
  simp only [seenAt, List.mem_reverse, List.mem_map, List.mem_take_iff_getElem]
  constructor
  · rintro ⟨g, ⟨j, hj, rfl⟩, rfl⟩
    exact ⟨j, by omega, _, List.getElem?_eq_getElem (by omega), rfl⟩
  · rintro ⟨j, hj, g, hg, rfl⟩
    obtain ⟨hlen, rfl⟩ := List.getElem?_eq_some_iff.mp hg
    exact ⟨_, ⟨j, by omega, rfl⟩, rfl⟩

theorem not_mem_seenAt {i : Nat} {x : String} (h : ∀ j < i, ∀ g, fields[j]? = some g → g.1 ≠ x) :
    x ∉ seenAt fields i := fun hmem => by
  obtain ⟨j, hj, g, hg, he⟩ := mem_seenAt.mp hmem
  exact h j hj g hg he

theorem seenAt_succ {i : Nat} {f : String × FieldKind} (hf : fields[i]? = some f) :
    seenAt fields (i + 1) = f.1 :: seenAt fields i := by
  rw [seenAt, take_succ_of_getElem? hf]
  simp [seenAt]

/-- Placing what is left once the first `i` fields stand. -/
def placeFrom (name : String) (fields : List (String × FieldKind)) (i : Nat) :
    Except Refusal (List Field × Nat × Nat) :=
  place name (fields.drop i) (seenAt fields i) (stopAt fields i) (widest 1 (fields.take i))

theorem drop_of_getElem? {i : Nat} {f : String × FieldKind} (hf : fields[i]? = some f) :
    fields.drop i = f :: fields.drop (i + 1) := by
  obtain ⟨hlen, rfl⟩ := List.getElem?_eq_some_iff.mp hf
  exact List.drop_eq_getElem_cons hlen

theorem placeFrom_of_fault {i : Nat} {refusal : Refusal} (h : Fault name fields i refusal) :
    placeFrom name fields i = .error refusal := by
  cases h with
  | unnamed hf =>
    rw [placeFrom, drop_of_getElem? hf]
    exact if_pos rfl
  | repeated hf hname hj hg he =>
    rw [placeFrom, drop_of_getElem? hf]
    exact (if_neg hname).trans (if_pos (mem_seenAt.mpr ⟨_, hj, _, hg, he⟩))
  | @overflow f hf hname hfresh hsum =>
    rw [placeFrom, drop_of_getElem? hf]
    refine (if_neg hname).trans ((if_neg (not_mem_seenAt hfresh)).trans ?_)
    by_cases hstop : wordLimit ≤ stopAt fields i + f.2.align
    · exact if_pos hstop
    · exact (if_neg hstop).trans (if_pos (hsum.resolve_left hstop))

/-- A field without fault is placed, and the next one starts from where it ends. -/
theorem placeFrom_succ {i : Nat} (hi : i < fields.length) (hclear : ∀ r, ¬ Fault name fields i r) :
    (placeFrom name fields i).map Prod.snd = (placeFrom name fields (i + 1)).map Prod.snd := by
  obtain ⟨f, hf⟩ : ∃ f, fields[i]? = some f := ⟨_, List.getElem?_eq_getElem hi⟩
  have hname : f.1 ≠ "" := fun he => by
    have hempty : fields[i]? = some ("", f.2) := by rw [hf, ← he]
    exact hclear _ (.unnamed hempty)
  have hfresh : ∀ j < i, ∀ g, fields[j]? = some g → g.1 ≠ f.1 := fun j hj g hg he =>
    hclear _ (.repeated hf hname hj hg he)
  have hsum := fun hsum => hclear _ (.overflow hf hname hfresh hsum)
  have hwidest : widest 1 (fields.take (i + 1)) = max (widest 1 (fields.take i)) f.2.align := by
    rw [take_succ_of_getElem? hf, widest_append]
    rfl
  rw [placeFrom, placeFrom, drop_of_getElem? hf, stopAt_succ hf, seenAt_succ hf, hwidest, place,
    if_neg hname, if_neg (not_mem_seenAt hfresh), if_neg fun h => hsum (.inl h), if_neg fun h => hsum (.inr h)]
  cases place name (fields.drop (i + 1)) (f.1 :: seenAt fields i)
      (alignUp (stopAt fields i) f.2.align + f.2.size) (max (widest 1 (fields.take i)) f.2.align) with
  | error e => rfl
  | ok r => rfl

/-- By induction on the fields passed: none of them decides. -/
theorem place_eq_placeFrom {i : Nat} (hi : i ≤ fields.length)
    (hclear : ∀ j < i, ∀ r, ¬ Fault name fields j r) :
    (place name fields [] 0 1).map Prod.snd = (placeFrom name fields i).map Prod.snd := by
  induction i with
  | zero => rfl
  | succ i ih =>
    rw [ih (Nat.le_of_succ_le hi) fun j hj => hclear j (Nat.lt_succ_of_lt hj)]
    exact placeFrom_succ hi (hclear i (Nat.lt_succ_self i))

theorem Fault.lt_length {i : Nat} {refusal : Refusal} (h : Fault name fields i refusal) :
    i < fields.length := by
  cases h with
  | unnamed hf => exact (List.getElem?_eq_some_iff.mp hf).1
  | repeated hf => exact (List.getElem?_eq_some_iff.mp hf).1
  | overflow hf => exact (List.getElem?_eq_some_iff.mp hf).1

theorem place_of_first_fault {i : Nat} {refusal : Refusal} (h : Fault name fields i refusal)
    (hclear : ∀ j < i, ∀ r, ¬ Fault name fields j r) : place name fields [] 0 1 = .error refusal := by
  have hrun := place_eq_placeFrom (Nat.le_of_lt h.lt_length) hclear
  rw [placeFrom_of_fault h] at hrun
  cases hplace : place name fields [] 0 1 with
  | error e =>
    rw [hplace] at hrun
    cases hrun
    rfl
  | ok r =>
    rw [hplace] at hrun
    cases hrun

theorem place_of_clear (hclear : ∀ i r, ¬ Fault name fields i r) :
    place name fields [] 0 1 = .ok (spread 0 fields, spreadStop 0 fields, widest 1 fields) := by
  have hrun := place_eq_placeFrom (Nat.le_refl _) fun j _ => hclear j
  rw [placeFrom, List.drop_length] at hrun
  cases hplace : place name fields [] 0 1 with
  | error e =>
    rw [hplace] at hrun
    cases hrun
  | ok r => rw [place_eq_ok hplace]

theorem define_of_first_fault {i : Nat} {refusal : Refusal} (hname : name ≠ "")
    (h : Fault name fields i refusal) (hclear : ∀ j < i, ∀ r, ¬ Fault name fields j r) :
    define name fields = .error refusal := by
  have hfields : fields ≠ [] := List.ne_nil_of_length_pos (Nat.zero_lt_of_lt h.lt_length)
  rw [define, if_neg hname, if_neg hfields, place_of_first_fault h hclear]

theorem define_of_clear (hname : name ≠ "") (hfields : fields ≠ [])
    (hclear : ∀ i r, ¬ Fault name fields i r) :
    define name fields =
      if wordLimit ≤ spreadStop 0 fields + widest 1 fields then .error .overflow
      else .ok (.mk name (spread 0 fields) (alignUp (spreadStop 0 fields) (widest 1 fields))
        (widest 1 fields)) := by
  rw [define, if_neg hname, if_neg hfields, place_of_clear hclear]

/-! ## What is defined is in range -/

/-- Every number of a layout is a 64-bit number, and so is the end of every field. -/
structure InRange (l : Layout) : Prop where
  size : l.size < wordLimit
  align : l.align < wordLimit
  fields : ∀ f ∈ l.fields, f.offset + f.size < wordLimit ∧ f.align < wordLimit

theorem end_le_spreadStop {stop : Nat} {f : Field} (hpos : ∀ g ∈ fields, 0 < g.2.align)
    (hf : f ∈ spread stop fields) :
    f.offset + f.size ≤ spreadStop stop fields ∧ f.align = f.kind.align := by
  induction fields generalizing stop with
  | nil => cases hf
  | cons g rest ih =>
    have hrest : ∀ f ∈ rest, 0 < f.2.align := fun f hf => hpos f (List.mem_cons_of_mem _ hf)
    rcases List.mem_cons.mp hf with rfl | hf
    · exact ⟨le_spreadStop hrest _, rfl⟩
    · exact ih hrest hf

theorem sum_lt_of_define {l : Layout} (h : define name fields = .ok l) :
    spreadStop 0 fields + widest 1 fields < wordLimit := by
  simp only [define] at h
  split at h
  · cases h
  · split at h
    · cases h
    · split at h
      · cases h
      · rename_i hplace
        cases place_eq_ok hplace
        apply Nat.lt_of_not_le
        intro hle
        rw [if_pos hle] at h
        cases h

theorem inRange_of_define {l : Layout} (hpos : ∀ f ∈ fields, 0 < f.2.align)
    (h : define name fields = .ok l) : l.InRange := by
  have hsum := sum_lt_of_define h
  obtain ⟨-, rfl⟩ := define_eq_ok h
  refine ⟨?_, by simp only [Layout.align]; omega, fun f hf => ?_⟩
  · exact Nat.lt_trans (alignUp_lt _ (le_widest 1 fields)) hsum
  · obtain ⟨hend, halign⟩ := end_le_spreadStop hpos hf
    have hle : f.kind.align ≤ widest 1 fields := align_le_widest (of_mem_spread hf).1
    omega

theorem Defined.inRange {l : Layout} (h : l.Defined) : l.InRange := by
  cases h with
  | intro inner hdef => exact inRange_of_define (align_pos_of_defined inner) hdef

theorem Refusal.outcome_cases (r : Refusal) :
    r = .overflow ∧ r.outcome = .error "attempt to add with overflow" ∨
      r ≠ .overflow ∧ ∃ message, r.outcome = .ok (.contract message) := by
  cases r with
  | overflow => exact .inl ⟨rfl, rfl⟩
  | unnamed => exact .inr ⟨Refusal.noConfusion, _, rfl⟩
  | noFields => exact .inr ⟨Refusal.noConfusion, _, rfl⟩
  | unnamedField => exact .inr ⟨Refusal.noConfusion, _, rfl⟩
  | repeatedField => exact .inr ⟨Refusal.noConfusion, _, rfl⟩

/-- A struct of eight bytes doubled `n` times, each half a struct of the same kind. -/
def tower : Nat → Layout
  | 0 => .mk "Tower" [.mk "word" (.scalar .u64) 0 8 8] 8 8
  | n + 1 =>
    .mk "Tower"
      [.mk "low" (.shared (tower n)) 0 (8 <<< n) 8, .mk "high" (.shared (tower n)) (8 <<< n) (8 <<< n) 8]
      (8 <<< (n + 1)) 8

theorem size_tower (n : Nat) : (tower n).size = 8 <<< n := by cases n <;> rfl

theorem align_tower (n : Nat) : (tower n).align = 8 := by cases n <;> rfl

theorem define_tower {n : Nat} (hn : n < 60) :
    define "Tower" [("low", .shared (tower n)), ("high", .shared (tower n))] = .ok (tower (n + 1)) := by
  have hdouble : 8 <<< (n + 1) = 2 * (8 <<< n) := Nat.shiftLeft_succ 8 n
  have hwords : 8 <<< n = 8 * 2 ^ n := Nat.shiftLeft_eq 8 n
  have hfits : 2 ^ n ≤ 2 ^ 59 := Nat.pow_le_pow_right (by decide) (by omega)
  have hlimit : wordLimit = 16 * 2 ^ 60 := rfl
  have hlow : alignUp 0 8 = 0 := rfl
  have hhigh : alignUp (8 <<< n) 8 = 8 <<< n := by unfold alignUp; omega
  have hsize : alignUp (8 <<< n + 8 <<< n) 8 = 8 <<< (n + 1) := by unfold alignUp; omega
  -- the sums, in the order in which they are tested
  have h₁ : ¬ wordLimit ≤ 8 := by omega
  have h₂ : ¬ wordLimit ≤ 8 <<< n := by omega
  have h₃ : ¬ wordLimit ≤ 8 <<< n + 8 := by omega
  have h₄ : ¬ wordLimit ≤ 8 <<< n + 8 <<< n := by omega
  have h₅ : ¬ wordLimit ≤ 8 <<< n + 8 <<< n + 8 := by omega
  simp [define, place, FieldKind.size, FieldKind.align, size_tower, align_tower, hlow, hhigh, hsize, h₁,
    h₂, h₃, h₄, h₅, tower]

theorem tower_defined {n : Nat} (hn : n ≤ 60) : (tower n).Defined := by
  induction n with
  | zero =>
    have hdef : define "Tower" [("word", .scalar .u64)] = .ok (tower 0) := rfl
    refine .intro (fun f hf m hm => ?_) hdef
    cases List.mem_singleton.mp hf
    cases hm
  | succ n ih =>
    refine .intro (fun f hf m hm => ?_) (define_tower hn)
    simp only [List.mem_cons, List.not_mem_nil, or_false] at hf
    rcases hf with rfl | rfl <;> cases hm <;> exact ih (Nat.le_of_succ_le hn)

/-- Two structs of half the range, and what comes after them. -/
def halves (second : String) (rest : List (String × FieldKind)) : List (String × FieldKind) :=
  ("low", .shared (tower 60)) :: (second, .shared (tower 60)) :: rest

theorem halves_defined (second : String) {rest : List (String × FieldKind)}
    (hrest : ∀ f ∈ rest, ∀ m, f.2 = .shared m → m.Defined) :
    ∀ f ∈ halves second rest, ∀ m, f.2 = .shared m → m.Defined := by
  intro f hf m hm
  rcases List.mem_cons.mp hf with rfl | hf
  · cases hm
    exact tower_defined (Nat.le_refl 60)
  · rcases List.mem_cons.mp hf with rfl | hf
    · cases hm
      exact tower_defined (Nat.le_refl 60)
    · exact hrest f hf m hm

theorem halves_low_clear (second : String) (rest : List (String × FieldKind)) (r : Refusal) :
    ¬ Fault "Pair" (halves second rest) 0 r := by
  intro h
  cases h with
  | unnamed hf => simp [halves] at hf
  | repeated _ _ hj => cases hj
  | overflow hf _ _ hsum =>
    cases hf
    have hstop : stopAt (halves second rest) 0 = 0 := rfl
    simp only [FieldKind.size, FieldKind.align, size_tower, align_tower, hstop] at hsum
    revert hsum
    decide

theorem stopAt_halves (second : String) (rest : List (String × FieldKind)) :
    stopAt (halves second rest) 1 = 0x8000000000000000 := by
  have hstop : stopAt (halves second rest) 1 = alignUp 0 (tower 60).align + (tower 60).size := rfl
  rw [hstop, size_tower, align_tower]
  decide

end Layout

/-- The first faulty field decides, then the padding at the end; whatever is defined has the offsets, the
size and the alignment of the sums without a bound, and none of them leaves the range. -/
theorem define_at_word_limit (name : String) {fields : List (String × FieldKind)}
    (inner : ∀ f ∈ fields, ∀ m, f.2 = .shared m → m.Defined) :
    (Layout.stopAt fields 0 = 0 ∧ ∀ i f, fields[i]? = some f →
        IsLeast {n | f.2.align ∣ n ∧ Layout.stopAt fields i ≤ n}
          (Layout.alignUp (Layout.stopAt fields i) f.2.align) ∧
        Layout.stopAt fields (i + 1) = Layout.alignUp (Layout.stopAt fields i) f.2.align + f.2.size) ∧
      (name = "" → Layout.define name fields = .error .unnamed) ∧
      (name ≠ "" → fields = [] → Layout.define name fields = .error (.noFields name)) ∧
      (name ≠ "" → ∀ i refusal, Layout.Fault name fields i refusal →
        (∀ j < i, ∀ r, ¬ Layout.Fault name fields j r) →
        Layout.define name fields = .error refusal) ∧
      (name ≠ "" → fields ≠ [] → (∀ i r, ¬ Layout.Fault name fields i r) →
        ∃ align size, IsGreatest {a | a = 1 ∨ ∃ f ∈ fields, f.2.align = a} align ∧
          IsLeast {n | align ∣ n ∧ Layout.stopAt fields fields.length ≤ n} size ∧
          (wordLimit ≤ Layout.stopAt fields fields.length + align →
            Layout.define name fields = .error .overflow) ∧
          (Layout.stopAt fields fields.length + align < wordLimit →
            Layout.define name fields = .ok (.mk name
              (fields.mapIdx fun i f =>
                .mk f.1 f.2 (Layout.alignUp (Layout.stopAt fields i) f.2.align) f.2.size f.2.align)
              size align))) ∧
      (∀ l, Layout.define name fields = .ok l → ∀ m, l.Level m → m.InRange) ∧
      ∀ r : Layout.Refusal, r = .overflow ∧ r.outcome = .error "attempt to add with overflow" ∨
        r ≠ .overflow ∧ ∃ message, r.outcome = .ok (.contract message) := by
  have hpos := Layout.align_pos_of_defined inner
  refine ⟨⟨rfl, fun i f hf => ⟨?_, Layout.stopAt_succ hf⟩⟩, fun hname => if_pos hname,
    fun hname hfields => (if_neg hname).trans (if_pos hfields),
    fun hname i refusal => Layout.define_of_first_fault hname, fun hname hfields hclear => ?_,
    fun l hl m hm => ((Layout.Defined.intro inner hl).level hm).inRange, Layout.Refusal.outcome_cases⟩
  · exact Layout.isLeast_alignUp _ (hpos f (List.mem_of_getElem? hf))
  · have hdef := Layout.define_of_clear hname hfields hclear
    rw [Layout.spread_eq_mapIdx, ← Layout.stopAt_length] at hdef
    refine ⟨_, _, Layout.isGreatest_widest fields, Layout.isLeast_alignUp _ (Layout.le_widest 1 fields),
      fun hover => hdef.trans (if_pos hover), fun hfits => hdef.trans (if_neg (Nat.not_le.mpr hfits))⟩

/-- The second half leaves the range, unless its name is refused first; a field without a name behind it
is not looked at. -/
theorem define_at_word_limit_of_halves :
    (Layout.tower 60).Defined ∧ (Layout.tower 60).size = 0x8000000000000000 ∧
      Layout.define "Pair" (Layout.halves "high" [("", .scalar .u8)]) = .error .overflow ∧
      Layout.define "Pair" (Layout.halves "low" []) = .error (.repeatedField "Pair" "low") := by
  refine ⟨Layout.tower_defined (Nat.le_refl 60), Layout.size_tower 60, ?_, ?_⟩
  · have hinner := Layout.halves_defined "high" (show ∀ f ∈ [("", FieldKind.scalar .u8)], _ by simp)
    have hfault : Layout.Fault "Pair" (Layout.halves "high" [("", .scalar .u8)]) 1 .overflow := by
      refine .overflow rfl (by decide) (fun j hj g hg => ?_) (.inr ?_)
      · cases Nat.lt_one_iff.mp hj
        cases hg
        decide
      · simp only [Layout.stopAt_halves, FieldKind.size, FieldKind.align, Layout.size_tower,
          Layout.align_tower]
        decide
    refine (define_at_word_limit "Pair" hinner).2.2.2.1 (by decide) 1 _ hfault fun j hj => ?_
    cases Nat.lt_one_iff.mp hj
    exact Layout.halves_low_clear _ _
  · have hinner := Layout.halves_defined "low" (fun _ hf => absurd hf List.not_mem_nil)
    have hfault : Layout.Fault "Pair" (Layout.halves "low" []) 1 (.repeatedField "Pair" "low") :=
      .repeated (f := ("low", .shared (Layout.tower 60))) rfl (by decide) Nat.zero_lt_one rfl rfl
    refine (define_at_word_limit "Pair" hinner).2.2.2.1 (by decide) 1 _ hfault fun j hj => ?_
    cases Nat.lt_one_iff.mp hj
    exact Layout.halves_low_clear _ _

end Causeway
