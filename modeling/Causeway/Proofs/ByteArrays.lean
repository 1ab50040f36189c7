import Causeway.Proofs.Views
import Causeway.Demo.Foreign

/-!
# Causeway.Proofs.ByteArrays

Byte arrays of the foreign side that are filled after room was made for all of it.

* `ByteVec.Packed`         — every byte in use was written, in memory the array has.
* `ByteVec.Packed.pushEach` — pushes for which there is room all succeed, so none of their answers need be looked at.
* `ByteVec.Packed.toList_growable` — what the host copies out.
* `Demo.Foreign.square_eq` — the bytes of the squares.
-/

namespace Causeway
namespace ByteVec

variable {grants : Nat → Bool} {v : ByteVec} {n : Nat} {b : UInt8}

structure Packed (v : ByteVec) : Prop where
  written : v.length ≤ v.memory.size
  room : v.length ≤ v.capacity
  word : v.capacity < wordLimit

theorem packed_empty : Packed {} := ⟨Nat.le_refl _, Nat.le_refl _, by decide⟩

theorem Packed.length_items (h : v.Packed) : v.items.length = v.length := by
  simp [items, h.written]

/-! ## Making room -/

theorem reserve_of_room (hroom : v.length + n ≤ v.capacity) (hword : v.capacity < wordLimit) :
    v.reserve grants n = (true, v) := by
  unfold reserve
  rw [if_neg (by omega), if_pos hroom]

/-- Room made in an empty array is enough for what it was made for. -/
theorem reserve_empty (hgranted : ∀ m ≤ max n 8, grants m = true) (hn : max n 8 < wordLimit) :
    ∃ v, reserve grants {} n = (true, v) ∧ v.Packed ∧ v.length = 0 ∧ n ≤ v.capacity := by
  unfold reserve
  simp only [Nat.zero_add]
  rw [if_neg (by omega)]
  by_cases hzero : n ≤ 0
  · rw [if_pos hzero]
    exact ⟨_, rfl, packed_empty, rfl, hzero⟩
  · have hgrown : grown {} n = max n 8 := by simp [grown]
    rw [if_neg hzero, hgrown, if_pos (hgranted _ (Nat.le_refl _))]
    exact ⟨_, rfl, ⟨Nat.le_refl _, Nat.zero_le _, hn⟩, rfl, Nat.le_max_left n 8⟩

/-! ## Pushing -/

theorem getElem?_write {memory : Array UInt8} {i : Nat} (h : i ≤ memory.size) (b : UInt8) (j : Nat) :
    (write memory i b)[j]? = if j = i then some b else memory[j]? := by
  unfold write
  -- a byte among those written before is replaced, and one after them is new
  by_cases hinside : i < memory.size
  · rw [if_pos hinside, Array.getElem?_setIfInBounds]
    by_cases hj : j = i
    · rw [if_pos hj.symm, if_pos hinside, if_pos hj]
    · rw [if_neg (Ne.symm hj), if_neg hj]
  · obtain rfl : i = memory.size := by omega
    rw [if_neg hinside, Array.getElem?_push]

theorem size_write {memory : Array UInt8} {i : Nat} (h : i ≤ memory.size) (b : UInt8) :
    i < (write memory i b).size := by
  have hwritten : (write memory i b)[i]? = some b := by rw [getElem?_write h, if_pos rfl]
  exact (Array.getElem?_eq_some_iff.mp hwritten).1

theorem getElem?_items (v : ByteVec) (i : Nat) : v.items[i]? = if i < v.length then v.memory[i]? else none := by
  rw [items, Array.getElem?_toList, Array.getElem?_extract, Nat.sub_zero, Nat.zero_add]
  by_cases hused : i < v.length
  · rw [if_pos hused]
    by_cases hmemory : i < v.memory.size
    · rw [if_pos (Nat.lt_min.mpr ⟨hused, hmemory⟩)]
    · rw [if_neg fun h => hmemory (Nat.lt_min.mp h).2, Array.getElem?_eq_none (Nat.not_lt.mp hmemory)]
  · rw [if_neg fun h => hused (Nat.lt_min.mp h).1, if_neg hused]

theorem push_of_room (hroom : v.length < v.capacity) (hword : v.capacity < wordLimit) :
    v.push grants b = (true, { v with memory := write v.memory v.length b, length := v.length + 1 }) := by
  unfold push
  rw [reserve_of_room hroom hword]

theorem Packed.push (grants : Nat → Bool) (h : v.Packed) (hroom : v.length < v.capacity) (b : UInt8) :
    (v.push grants b).2.Packed ∧ (v.push grants b).2.items = v.items ++ [b] ∧
      (v.push grants b).2.length = v.length + 1 ∧ (v.push grants b).2.capacity = v.capacity := by
  rw [push_of_room hroom h.word]
  refine ⟨⟨size_write h.written b, hroom, h.word⟩, ?_, rfl, rfl⟩
  apply List.ext_getElem?
  intro i
  rw [getElem?_items, getElem?_write h.written, List.getElem?_append, h.length_items, getElem?_items]
  by_cases hbefore : i < v.length
  · simp only [hbefore, Nat.lt_succ_of_lt hbefore, Nat.ne_of_lt hbefore, ↓reduceIte]
  · by_cases hlast : i = v.length
    · subst hlast
      simp
    · have hafter : ¬ i < v.length + 1 := by omega
      have hpast : i - v.length ≠ 0 := by omega
      simp [hbefore, hafter, hpast]

/-- Pushes for which there is room all succeed. -/
theorem Packed.pushEach (grants : Nat → Bool) (h : v.Packed) {bytes : List UInt8}
    (hroom : v.length + bytes.length ≤ v.capacity) :
    (v.pushEach grants bytes).Packed ∧ (v.pushEach grants bytes).items = v.items ++ bytes ∧
      (v.pushEach grants bytes).length = v.length + bytes.length := by
  induction bytes generalizing v with
  | nil => exact ⟨h, (List.append_nil _).symm, rfl⟩
  | cons b bytes ih =>
    rw [List.length_cons] at hroom
    obtain ⟨hpacked, hitems, hlength, hcapacity⟩ := h.push grants (by omega) b
    obtain ⟨hpacked', hitems', hlength'⟩ := ih hpacked (by omega)
    refine ⟨hpacked', ?_, ?_⟩
    · refine hitems'.trans ?_
      rw [hitems, List.append_assoc]
      rfl
    · refine hlength'.trans ?_
      rw [hlength, List.length_cons]
      omega

/-! ## Copying out -/

/-- An array without room shows nothing, and any other is at an address of this process. -/
theorem Packed.readable (h : v.Packed) (hsize : v.length ≤ maxBufferSize) :
    ((owner grants).view (some v)).Readable 1 := by
  by_cases hempty : v.length = 0
  · exact .inl hempty
  · have hcapacity : v.capacity ≠ 0 := by
      have := h.room
      omega
    refine .inr ⟨?_, by rw [Nat.mul_one]; exact hsize, Nat.one_dvd _⟩
    simp [Owner.view, owner, hcapacity, View.dataAddress]

theorem Packed.shown (h : v.Packed) : ((owner grants).view (some v)).shown = v.items := by
  by_cases hempty : v.length = 0
  · have hitems : v.items = [] := List.length_eq_zero_iff.mp (h.length_items.trans hempty)
    simp [View.shown, Owner.view, owner, hempty, hitems]
  · simp [View.shown, Owner.view, owner, hempty]

theorem Packed.toList_growable (h : v.Packed) (hsize : v.length < Allocation.limit) :
    ((owner grants).growable 1).toList (some v) = .ok v.items := by
  have hbuffer : v.length ≤ maxBufferSize := by
    simp only [Allocation.limit] at hsize
    simp only [maxBufferSize]
    omega
  have hslice : ((owner grants).view (some v)).asSlice 1 = .ok v.items := by
    rw [View.asSlice_of_readable (h.readable hbuffer), h.shown]
  have hreserve : Allocation.reserve 1 0 v.items.length = .ok () := by
    simp only [Allocation.reserve, h.length_items, Nat.zero_add, Nat.mul_one, Allocation.grants, hsize, decide_true,
      or_true, ↓reduceIte, Nat.not_lt.mpr hbuffer]
  show View.materialize 1 ((owner grants).view (some v)) = _
  unfold View.materialize
  rw [hslice]
  show (do Except.mapError Allocation.Refusal.failure (Allocation.reserve 1 0 v.items.length); _) = _
  rw [hreserve]
  rfl

end ByteVec

theorem Demo.Foreign.square_eq (i : Nat) : Demo.Foreign.square i = (i * i % 256).toUInt8 := by
  apply UInt8.toNat_inj.mp
  simp [square]

end Causeway
