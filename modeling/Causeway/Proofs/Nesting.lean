import Causeway.Proofs.Placement

/-!
# Causeway.Proofs.Nesting

Structs within structs, down to the scalars and handles they are made of.

* `Layout.Defined` — a layout that was defined, and so was every struct inside it.
* `Layout.leaves`  — its scalars and handles in declaration order, each with the fields that lead to it.
* `Packed`         — leaves in order, apart, aligned and inside a block of memory.
* `Layout.Level`   — the struct itself and the structs inside it.

Alignments are powers of two, so the largest of them is a multiple of each. Hence a place that suits the
whole struct suits every leaf, however deep it stands.
-/

namespace Causeway

inductive Layout.Defined : Layout → Prop where
  | intro {name : String} {fields : List (String × FieldKind)} {l : Layout}
      (inner : ∀ f ∈ fields, ∀ m, f.2 = .shared m → Defined m)
      (define : Layout.define name fields = .ok l) : Defined l

/-! ## Leaves -/

/-- A scalar or a handle, with the fields that lead to it from the outermost one inwards. -/
structure Leaf where
  path : List Field
  kind : FieldKind

namespace Leaf

/-- The place within the outermost struct. -/
def offset (x : Leaf) : Nat := x.path.foldr (fun f n => f.offset + n) 0

def size (x : Leaf) : Nat := x.kind.size

def align (x : Leaf) : Nat := x.kind.align

/-- The leaf as seen from a struct one level further out. -/
def under (f : Field) (x : Leaf) : Leaf := ⟨f :: x.path, x.kind⟩

@[simp] theorem offset_under (f : Field) (x : Leaf) : (x.under f).offset = f.offset + x.offset := rfl

@[simp] theorem size_under (f : Field) (x : Leaf) : (x.under f).size = x.size := rfl

end Leaf

mutual

def FieldKind.leaves : FieldKind → List Leaf
  | .scalar s => [⟨[], .scalar s⟩]
  | .shared l => l.leaves
  | .handle t => [⟨[], .handle t⟩]

def Field.leaves : Field → List Leaf
  | .mk name kind offset size align => kind.leaves.map (Leaf.under (.mk name kind offset size align))

def Field.allLeaves : List Field → List Leaf
  | [] => []
  | f :: fs => f.leaves ++ Field.allLeaves fs

/-- The scalars and handles of a struct, in declaration order at every level. -/
def Layout.leaves : Layout → List Leaf
  | .mk _ fields _ _ => Field.allLeaves fields

end

theorem Field.leaves_eq (f : Field) : f.leaves = f.kind.leaves.map (Leaf.under f) := by
  cases f
  simp only [Field.leaves, Field.kind]

theorem Field.mem_allLeaves {fields : List Field} {x : Leaf} :
    x ∈ Field.allLeaves fields ↔ ∃ f ∈ fields, ∃ y ∈ f.kind.leaves, y.under f = x := by
  induction fields with
  | nil => simp [Field.allLeaves]
  | cons f fs ih => simp [Field.allLeaves, Field.leaves_eq, ih]

/-- Leaves in their order, none over another, all of them inside `size` bytes, and each of them aligned
wherever the block itself is aligned to `align`, which is the largest alignment among them. -/
structure Packed (leaves : List Leaf) (size align : Nat) : Prop where
  apart : leaves.Pairwise fun x y => x.offset + x.size ≤ y.offset
  inside : ∀ x ∈ leaves, 0 < x.size ∧ x.offset + x.size ≤ size
  aligned : ∀ base, align ∣ base → ∀ x ∈ leaves, x.align ∣ base + x.offset
  largest : IsGreatest {a | ∃ x ∈ leaves, x.align = a} align
  size_pos : 0 < size
  dvd_size : align ∣ size

/-- A kind whose leaves are packed into its own extent. -/
structure FieldKind.Sound (k : FieldKind) : Prop where
  packed : Packed k.leaves k.size k.align
  power : k.align.isPowerOfTwo

theorem FieldKind.Sound.align_pos {k : FieldKind} (h : k.Sound) : 0 < k.align :=
  Nat.pos_of_isPowerOfTwo h.power

/-- A kind that is one leaf. -/
theorem FieldKind.sound_of_leaf {k : FieldKind} (hleaves : k.leaves = [⟨[], k⟩]) (hsize : 0 < k.size)
    (hdvd : k.align ∣ k.size) (hpower : k.align.isPowerOfTwo) : k.Sound := by
  have honly : ∀ x ∈ k.leaves, x = ⟨[], k⟩ := by
    rw [hleaves]
    exact fun x hx => List.mem_singleton.mp hx
  refine ⟨⟨?_, fun x hx => ?_, fun base hbase x hx => ?_, ⟨?_, ?_⟩, hsize, hdvd⟩, hpower⟩
  · rw [hleaves]
    exact List.pairwise_singleton _ _
  · cases honly x hx
    exact ⟨hsize, Nat.le_of_eq (Nat.zero_add _)⟩
  · cases honly x hx
    exact hbase
  · exact ⟨⟨[], k⟩, hleaves ▸ List.mem_singleton_self _, rfl⟩
  · rintro a ⟨x, hx, rfl⟩
    cases honly x hx
    exact Nat.le_refl _

theorem Scalar.isPowerOfTwo_align (s : Scalar) : s.align.isPowerOfTwo := by
  have h : s.align = 1 ∨ s.align = 2 ∨ s.align = 4 ∨ s.align = 8 := by cases s <;> decide
  rcases h with h | h | h | h <;> rw [h]
  · exact ⟨0, rfl⟩
  · exact ⟨1, rfl⟩
  · exact ⟨2, rfl⟩
  · exact ⟨3, rfl⟩

theorem FieldKind.sound_of_shared {k : FieldKind}
    (inner : ∀ m, k = .shared m → (FieldKind.shared m).Sound) : k.Sound := by
  cases k with
  | scalar s =>
    exact sound_of_leaf (by simp only [leaves]) s.size_pos (Nat.dvd_refl _) s.isPowerOfTwo_align
  | shared m => exact inner m rfl
  | handle t => exact sound_of_leaf (by simp only [leaves]) (Nat.zero_lt_succ 7) ⟨2, rfl⟩ ⟨2, rfl⟩

theorem dvd_of_isPowerOfTwo {a b : Nat} (ha : a.isPowerOfTwo) (hb : b.isPowerOfTwo) (hle : a ≤ b) :
    a ∣ b := by
  obtain ⟨i, rfl⟩ := ha
  obtain ⟨j, rfl⟩ := hb
  exact Nat.pow_dvd_pow 2 ((Nat.pow_le_pow_iff_right (by decide)).mp hle)

/-! ## One struct of sound fields -/

namespace Layout

theorem of_mem_spread {stop : Nat} {fields : List (String × FieldKind)} {f : Field}
    (hf : f ∈ spread stop fields) : (f.name, f.kind) ∈ fields ∧ f.kind.align ∣ f.offset := by
  induction fields generalizing stop with
  | nil => cases hf
  | cons g rest ih =>
    obtain ⟨name, kind⟩ := g
    rcases List.mem_cons.mp hf with rfl | hf
    · exact ⟨List.mem_cons_self, dvd_alignUp stop kind.align⟩
    · exact ⟨List.mem_cons_of_mem _ (ih hf).1, (ih hf).2⟩

theorem exists_mem_spread {fields : List (String × FieldKind)} {g : String × FieldKind} (hg : g ∈ fields)
    (stop : Nat) : ∃ f ∈ spread stop fields, f.kind = g.2 := by
  induction fields generalizing stop with
  | nil => cases hg
  | cons first rest ih =>
    rcases List.mem_cons.mp hg with rfl | hg
    · exact ⟨_, List.mem_cons_self, rfl⟩
    · obtain ⟨f, hf, hkind⟩ := ih hg (alignUp stop first.2.align + first.2.size)
      exact ⟨f, List.mem_cons_of_mem _ hf, hkind⟩

variable {fields : List (String × FieldKind)}

theorem le_spreadStop (hpos : ∀ f ∈ fields, 0 < f.2.align) (stop : Nat) :
    stop ≤ spreadStop stop fields := by
  induction fields generalizing stop with
  | nil => exact Nat.le_refl _
  | cons g rest ih =>
    obtain ⟨name, kind⟩ := g
    have hstop : stop ≤ alignUp stop kind.align := le_alignUp stop (hpos _ List.mem_cons_self)
    have := ih (fun f hf => hpos f (List.mem_cons_of_mem _ hf)) (alignUp stop kind.align + kind.size)
    simp only [spreadStop]
    omega

theorem exists_align_eq_widest (hne : fields ≠ []) (hpos : ∀ f ∈ fields, 0 < f.2.align) :
    ∃ f ∈ fields, f.2.align = widest 1 fields := by
  rcases widest_eq_or_mem 1 fields with hone | h
  · -- nothing is wider than 1, so any field will do
    obtain ⟨f, hf⟩ := List.exists_mem_of_ne_nil _ hne
    have hle : f.2.align ≤ widest 1 fields := align_le_widest hf
    have := hpos f hf
    exact ⟨f, hf, by omega⟩
  · exact h

section Sound

variable (hsound : ∀ f ∈ fields, f.2.Sound)
include hsound

theorem spread_inside {stop : Nat} {x : Leaf} (hx : x ∈ Field.allLeaves (spread stop fields)) :
    stop ≤ x.offset ∧ 0 < x.size ∧ x.offset + x.size ≤ spreadStop stop fields := by
  induction fields generalizing stop with
  | nil => simp [spread, Field.allLeaves] at hx
  | cons g rest ih =>
    obtain ⟨name, kind⟩ := g
    have hkind : kind.Sound := hsound _ List.mem_cons_self
    have hrest : ∀ f ∈ rest, f.2.Sound := fun f hf => hsound f (List.mem_cons_of_mem _ hf)
    have hstop : stop ≤ alignUp stop kind.align := le_alignUp stop hkind.align_pos
    simp only [spread, Field.allLeaves, Field.leaves_eq, List.mem_append, List.mem_map] at hx
    rcases hx with ⟨y, hy, rfl⟩ | hx
    · have hend := le_spreadStop (fun f hf => (hrest f hf).align_pos) (alignUp stop kind.align + kind.size)
      have hy' := hkind.packed.inside y hy
      simp only [Leaf.offset_under, Leaf.size_under, Field.offset, spreadStop]
      omega
    · have := ih hrest hx
      simp only [spreadStop]
      omega

/-- By induction on the fields: a field's leaves stay within the field, and what comes later begins
after it. -/
theorem spread_apart (stop : Nat) :
    (Field.allLeaves (spread stop fields)).Pairwise fun x y => x.offset + x.size ≤ y.offset := by
  induction fields generalizing stop with
  | nil => exact List.Pairwise.nil
  | cons g rest ih =>
    obtain ⟨name, kind⟩ := g
    have hkind : kind.Sound := hsound _ List.mem_cons_self
    have hrest : ∀ f ∈ rest, f.2.Sound := fun f hf => hsound f (List.mem_cons_of_mem _ hf)
    simp only [spread, Field.allLeaves, Field.leaves_eq, List.pairwise_append, List.pairwise_map]
    refine ⟨hkind.packed.apart.imp fun {x y} hxy => ?_, ih hrest _, fun x hx y hy => ?_⟩
    · simp only [Leaf.offset_under, Leaf.size_under]
      omega
    · obtain ⟨z, hz, rfl⟩ := List.mem_map.mp hx
      have hin := hkind.packed.inside z hz
      have hafter := spread_inside hrest hy
      simp only [Leaf.offset_under, Leaf.size_under, Field.offset]
      omega

theorem spread_aligned {align base stop : Nat} (hdvd : ∀ f ∈ fields, f.2.align ∣ align)
    (hbase : align ∣ base) {x : Leaf} (hx : x ∈ Field.allLeaves (spread stop fields)) :
    x.align ∣ base + x.offset := by
  obtain ⟨f, hf, y, hy, rfl⟩ := Field.mem_allLeaves.mp hx
  obtain ⟨hmem, hoffset⟩ := of_mem_spread hf
  have hplace : f.kind.align ∣ base + f.offset :=
    Nat.dvd_add (Nat.dvd_trans (hdvd _ hmem) hbase) hoffset
  have := (hsound _ hmem).packed.aligned (base + f.offset) hplace y hy
  rwa [Nat.add_assoc] at this

theorem widest_isPowerOfTwo (hne : fields ≠ []) : (widest 1 fields).isPowerOfTwo := by
  obtain ⟨f, hf, hw⟩ := exists_align_eq_widest hne fun f hf => (hsound f hf).align_pos
  exact hw ▸ (hsound f hf).power

theorem spread_largest (hne : fields ≠ []) (stop : Nat) :
    IsGreatest {a | ∃ x ∈ Field.allLeaves (spread stop fields), x.align = a} (widest 1 fields) := by
  constructor
  · obtain ⟨g, hg, hw⟩ := exists_align_eq_widest hne fun f hf => (hsound f hf).align_pos
    obtain ⟨f, hf, hkind⟩ := exists_mem_spread hg stop
    obtain ⟨y, hy, hya⟩ := (hsound g hg).packed.largest.1
    rw [← hkind] at hy
    exact ⟨y.under f, Field.mem_allLeaves.mpr ⟨f, hf, y, hy, rfl⟩, hya.trans hw⟩
  · rintro a ⟨x, hx, rfl⟩
    obtain ⟨f, hf, y, hy, rfl⟩ := Field.mem_allLeaves.mp hx
    have hmem := (of_mem_spread hf).1
    exact Nat.le_trans ((hsound _ hmem).packed.largest.2 ⟨y, hy, rfl⟩) (align_le_widest hmem)

theorem sound_of_define {name : String} {l : Layout} (hdef : define name fields = .ok l) :
    (FieldKind.shared l).Sound := by
  obtain ⟨hne, rfl⟩ := define_eq_ok hdef
  have hpower := widest_isPowerOfTwo hsound hne
  have hdvd : ∀ f ∈ fields, f.2.align ∣ widest 1 fields := fun f hf =>
    dvd_of_isPowerOfTwo (hsound f hf).power hpower (align_le_widest hf)
  have hsize : spreadStop 0 fields ≤ alignUp (spreadStop 0 fields) (widest 1 fields) :=
    le_alignUp _ (Nat.pos_of_isPowerOfTwo hpower)
  have hlargest := spread_largest hsound hne 0
  have hpacked : Packed (Field.allLeaves (spread 0 fields))
      (alignUp (spreadStop 0 fields) (widest 1 fields)) (widest 1 fields) := by
    refine ⟨spread_apart hsound 0, fun x hx => ?_, fun base hbase x hx => ?_, hlargest, ?_, dvd_alignUp _ _⟩
    · have := spread_inside hsound hx
      omega
    · exact spread_aligned hsound hdvd hbase hx
    · obtain ⟨x, hx, _⟩ := hlargest.1
      have := spread_inside hsound hx
      omega
  refine ⟨?_, hpower⟩
  simp only [FieldKind.leaves, Layout.leaves]
  exact hpacked

end Sound

/-! ## Every depth -/

theorem Defined.sound {l : Layout} (h : l.Defined) : (FieldKind.shared l).Sound := by
  induction h with
  | intro _ hdef ih => exact sound_of_define (fun f hf => FieldKind.sound_of_shared (ih f hf)) hdef

theorem align_pos_of_defined (inner : ∀ f ∈ fields, ∀ m, f.2 = .shared m → m.Defined) :
    ∀ f ∈ fields, 0 < f.2.align := fun f hf =>
  (FieldKind.sound_of_shared fun m hm => (inner f hf m hm).sound).align_pos

/-- The struct itself, and whatever struct stands inside one of its levels. -/
inductive Level (l : Layout) : Layout → Prop where
  | outermost : Level l l
  | inner {m n : Layout} {f : Field} : Level l m → f ∈ m.fields → f.kind = .shared n → Level l n

theorem Defined.level {l m : Layout} (h : l.Defined) (hm : l.Level m) : m.Defined := by
  induction hm with
  | outermost => exact h
  | inner _ hf hkind ih =>
    cases ih with
    | intro inner hdef =>
      obtain ⟨_, rfl⟩ := define_eq_ok hdef
      exact inner _ (of_mem_spread hf).1 _ hkind

/-- Seven bytes are free before the wide field and six after the narrow one. -/
def mixed : Layout :=
  .mk "Mixed"
    [.mk "flag" (.scalar .bool) 0 1 1, .mk "wide" (.scalar .u64) 8 8 8, .mk "narrow" (.scalar .u16) 16 2 2]
    24 8

/-- Seven bytes are free before the inner struct. -/
def outer : Layout :=
  .mk "Outer"
    [.mk "tag" (.scalar .u8) 0 1 1, .mk "inner" (.shared mixed) 8 24 8, .mk "owner" (.handle "Thing") 32 8 4]
    40 8

theorem mixed_defined : mixed.Defined := by
  have hdef : define "Mixed" [("flag", .scalar .bool), ("wide", .scalar .u64), ("narrow", .scalar .u16)]
      = .ok mixed := rfl
  refine .intro (fun f hf m hm => ?_) hdef
  simp only [List.mem_cons, List.not_mem_nil, or_false] at hf
  rcases hf with rfl | rfl | rfl <;> cases hm

/-- A byte, the struct and a handle. -/
def outerFields : List (String × FieldKind) :=
  [("tag", .scalar .u8), ("inner", .shared mixed), ("owner", .handle "Thing")]

theorem outerFields_defined : ∀ f ∈ outerFields, ∀ m, f.2 = .shared m → m.Defined := by
  intro f hf m hm
  simp only [outerFields, List.mem_cons, List.not_mem_nil, or_false] at hf
  rcases hf with rfl | rfl | rfl <;> cases hm
  exact mixed_defined

theorem define_outer : define "Outer" outerFields = .ok outer :=
  rfl

theorem outer_defined : outer.Defined :=
  .intro outerFields_defined define_outer

end Layout

end Causeway
