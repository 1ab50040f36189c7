import Causeway.Proofs.ByteArrays

/-!
# Causeway.Proofs.Growing

A byte array is a list of bytes that can be appended to and cut.

* `ByteVec.Edit`   — the operations of a byte array, and what each means for a list.
* `ByteVec.Tidy`   — every byte in use was written, and inside the memory the array has.
* `ByteVec.Tidy.run`    — one operation keeps this, and is seen in the bytes as it is on the list.
* `ByteVec.Tidy.runAll` — a sequence of them.
* `ByteVec.Tidy.pushes` — after room was made, that many pushes succeed and ask for no memory.

Every operation of a sequence comes with an allocator of its own, which may refuse what it is asked for. A request that
is granted keeps the bytes that were there.
-/

namespace Causeway
namespace ByteVec

inductive Edit where
  | reserve (n : Nat)
  | push (b : UInt8)
  | truncate (n : Nat)
  deriving DecidableEq

namespace Edit

/-- The operation, and whether it succeeded. Truncation cannot fail. -/
def run (grants : Nat → Bool) : Edit → ByteVec → Bool × ByteVec
  | .reserve n, v => v.reserve grants n
  | .push b, v => v.push grants b
  | .truncate n, v => (true, v.truncate n)

/-- What the operation does to a list. -/
def onList : Edit → List UInt8 → List UInt8
  | .reserve _, l => l
  | .push b, l => l ++ [b]
  | .truncate n, l => l.take n

/-- Operations in turn, whether or not each succeeds. The answer is the operations that succeeded, and the array. -/
def runAll : List ((Nat → Bool) × Edit) → ByteVec → List Edit × ByteVec
  | [], v => ([], v)
  | c :: cs, v =>
    let r := c.2.run c.1 v
    let s := runAll cs r.2
    (if r.1 then c.2 :: s.1 else s.1, s.2)

end Edit

structure Tidy (v : ByteVec) : Prop extends Packed v where
  inside : v.memory.size ≤ v.capacity

variable {grants : Nat → Bool} {v v' : ByteVec} {n : Nat} {b : UInt8}

theorem tidy_empty : Tidy {} := ⟨packed_empty, Nat.le_refl _⟩

/-! ## Making room -/

theorem le_grown (v : ByteVec) (needed : Nat) : needed ≤ v.grown needed :=
  Nat.le_trans (Nat.le_max_left ..) (Nat.le_max_left ..)

/-- Doubling stops at the largest word, so what is asked for can be said in a word. -/
theorem grown_lt (v : ByteVec) {needed : Nat} (h : needed < wordLimit) : v.grown needed < wordLimit := by
  unfold grown
  unfold wordLimit at h ⊢
  omega

theorem reserve_cases (grants : Nat → Bool) (v : ByteVec) (n : Nat) :
    (v.reserve grants n = (false, v) ∧
        (wordLimit ≤ v.length + n ∨
          v.capacity < v.length + n ∧ v.length + n < wordLimit ∧ grants (v.grown (v.length + n)) = false)) ∨
      (v.reserve grants n = (true, v) ∧ v.length + n ≤ v.capacity) ∨
      v.reserve grants n = (true, { v with capacity := v.grown (v.length + n) }) ∧
        v.capacity < v.length + n ∧ v.length + n < wordLimit := by
  unfold reserve
  by_cases hword : wordLimit ≤ v.length + n
  · exact .inl ⟨if_pos hword, .inl hword⟩
  · rw [if_neg hword]
    by_cases hroom : v.length + n ≤ v.capacity
    · exact .inr (.inl ⟨if_pos hroom, hroom⟩)
    · rw [if_neg hroom]
      cases hgrant : grants (v.grown (v.length + n)) with
      | true => exact .inr (.inr ⟨rfl, by omega, by omega⟩)
      | false => exact .inl ⟨rfl, .inr ⟨by omega, by omega, rfl⟩⟩

theorem reserve_of_false (h : (v.reserve grants n).1 = false) : v.reserve grants n = (false, v) := by
  rcases reserve_cases grants v n with ⟨hr, _⟩ | ⟨hr, _⟩ | ⟨hr, _⟩
  · exact hr
  · rw [hr] at h; cases h
  · rw [hr] at h; cases h

/-- Room that was made is enough, and nothing else of the array changed. -/
theorem Tidy.reserved (h : v.Tidy) (hr : v.reserve grants n = (true, v')) :
    v'.Tidy ∧ v'.memory = v.memory ∧ v'.length = v.length ∧ v.length + n ≤ v'.capacity := by
  rcases reserve_cases grants v n with ⟨hr', _⟩ | ⟨hr', hroom⟩ | ⟨hr', hsmall, hword⟩
  · rw [hr] at hr'; cases hr'
  · rw [hr] at hr'; cases hr'
    exact ⟨h, rfl, rfl, hroom⟩
  · rw [hr] at hr'; cases hr'
    have hgrown := v.le_grown (v.length + n)
    have hinside := h.inside
    refine ⟨⟨⟨h.written, ?_, v.grown_lt hword⟩, ?_⟩, rfl, rfl, hgrown⟩
    · exact Nat.le_trans (Nat.le_add_right ..) hgrown
    · exact Nat.le_trans hinside (Nat.le_trans (Nat.le_of_lt hsmall) hgrown)

/-! ## Pushing -/

theorem push_of_refused (h : v.reserve grants 1 = (false, v)) : v.push grants b = (false, v) := by
  unfold push
  rw [h]

/-- Once room is made, pushing makes no more. -/
theorem push_of_reserved (hr : v.reserve grants 1 = (true, v')) (hroom : v'.length < v'.capacity)
    (hword : v'.capacity < wordLimit) : v.push grants b = v'.push grants b := by
  rw [push_of_room hroom hword]
  unfold push
  rw [hr]

theorem size_write_le {memory : Array UInt8} {i limit : Nat} (hi : i < limit) (hsize : memory.size ≤ limit) (b : UInt8) :
    (write memory i b).size ≤ limit := by
  unfold write
  split
  · rw [Array.size_setIfInBounds]; exact hsize
  · rw [Array.size_push]; omega

theorem Tidy.push_inside (h : v.Tidy) (hroom : v.length < v.capacity) (grants : Nat → Bool) (b : UInt8) :
    v.push grants b = (true, (v.push grants b).2) ∧ (v.push grants b).2.Tidy ∧
      (v.push grants b).2.items = v.items ++ [b] ∧ (v.push grants b).2.length = v.length + 1 ∧
      (v.push grants b).2.capacity = v.capacity := by
  obtain ⟨hpacked, hitems, hlength, hcapacity⟩ := h.toPacked.push grants hroom b
  refine ⟨by rw [push_of_room hroom h.word], ⟨hpacked, ?_⟩, hitems, hlength, hcapacity⟩
  rw [push_of_room hroom h.word]
  exact size_write_le hroom h.inside b

/-! ## One operation -/

/-- What an operation on `v` that answers `r.1` leaves. -/
structure Edit.Done (e : Edit) (v : ByteVec) (r : Bool × ByteVec) : Prop where
  tidy : r.2.Tidy
  items : r.1 = true → r.2.items = e.onList v.items
  kept : r.1 = false → r.2 = v

theorem Edit.done_of_failed (e : Edit) (h : v.Tidy) : e.Done v (false, v) := by
  refine ⟨h, fun hok => ?_, fun _ => rfl⟩
  cases hok

theorem Tidy.reserve (h : v.Tidy) (grants : Nat → Bool) (n : Nat) : (Edit.reserve n).Done v (v.reserve grants n) := by
  cases hr : v.reserve grants n with
  | mk ok v' =>
    cases ok with
    | true =>
      obtain ⟨htidy, hmemory, hlength, _⟩ := h.reserved hr
      refine ⟨htidy, fun _ => ?_, fun hfalse => by cases hfalse⟩
      show (v'.memory.extract 0 v'.length).toList = v.items
      rw [hmemory, hlength]
      rfl
    | false =>
      have hsame := reserve_of_false (congrArg Prod.fst hr)
      rw [hr] at hsame
      rw [hsame]
      exact Edit.done_of_failed _ h

theorem Tidy.push (h : v.Tidy) (grants : Nat → Bool) (b : UInt8) : (Edit.push b).Done v (v.push grants b) := by
  have hreserve := h.reserve grants 1
  cases hr : v.reserve grants 1 with
  | mk ok v' =>
    rw [hr] at hreserve
    cases ok with
    | true =>
      obtain ⟨htidy, _, hlength, hroom⟩ := h.reserved hr
      have hinside : v'.length < v'.capacity := by omega
      obtain ⟨hok, htidy', hitems, _⟩ := htidy.push_inside hinside grants b
      rw [push_of_reserved hr hinside htidy.word]
      refine ⟨htidy', fun _ => ?_, fun hfalse => ?_⟩
      · rw [hitems, hreserve.items rfl]
        rfl
      · rw [hok] at hfalse
        cases hfalse
    | false =>
      obtain rfl : v' = v := hreserve.kept rfl
      rw [push_of_refused hr]
      exact Edit.done_of_failed _ h

theorem items_truncate (v : ByteVec) (n : Nat) : (v.truncate n).items = v.items.take n := by
  apply List.ext_getElem?
  intro i
  rw [List.getElem?_take, getElem?_items, getElem?_items]
  show (if i < min v.length n then v.memory[i]? else none) = _
  simp only [Nat.lt_min]
  by_cases hn : i < n <;> by_cases hl : i < v.length <;> simp [hn, hl]

theorem Tidy.truncate (h : v.Tidy) (n : Nat) : (Edit.truncate n).Done v (true, v.truncate n) := by
  refine ⟨⟨⟨?_, ?_, h.word⟩, h.inside⟩, fun _ => items_truncate v n, fun hfalse => by cases hfalse⟩
  · exact Nat.le_trans (Nat.min_le_left ..) h.written
  · exact Nat.le_trans (Nat.min_le_left ..) h.room

theorem Tidy.run (h : v.Tidy) (grants : Nat → Bool) (e : Edit) : e.Done v (e.run grants v) := by
  cases e with
  | reserve n => exact h.reserve grants n
  | push b => exact h.push grants b
  | truncate n => exact h.truncate n

/-! ## Any number of them -/

theorem Tidy.runAll (h : v.Tidy) (calls : List ((Nat → Bool) × Edit)) :
    (Edit.runAll calls v).2.Tidy ∧
      (Edit.runAll calls v).2.items = (Edit.runAll calls v).1.foldl (fun l e => e.onList l) v.items := by
  induction calls generalizing v with
  | nil => exact ⟨h, rfl⟩
  | cons c cs ih =>
    have hdone := h.run c.1 c.2
    obtain ⟨htidy, hitems⟩ := ih hdone.tidy
    refine ⟨htidy, hitems.trans ?_⟩
    simp only [Edit.runAll]
    cases hok : (c.2.run c.1 v).1 with
    | true =>
      rw [hdone.items hok]
      rfl
    | false =>
      rw [hdone.kept hok]
      rfl

/-- Pushes for which there is room all succeed, whatever the allocator would have answered. -/
theorem Tidy.pushes (h : v.Tidy) (pushes : List ((Nat → Bool) × UInt8)) (hroom : v.length + pushes.length ≤ v.capacity) :
    ∃ v', Edit.runAll (pushes.map fun p => (p.1, .push p.2)) v = (pushes.map fun p => .push p.2, v') ∧
      v'.items = v.items ++ pushes.map Prod.snd ∧ v'.capacity = v.capacity ∧
      ∀ grants, v.pushEach grants (pushes.map Prod.snd) = v' := by
  induction pushes generalizing v with
  | nil => exact ⟨v, rfl, (List.append_nil _).symm, rfl, fun _ => rfl⟩
  | cons p ps ih =>
    rw [List.length_cons] at hroom
    have hinside : v.length < v.capacity := by omega
    obtain ⟨hok, htidy, hitems, hlength, hcapacity⟩ := h.push_inside hinside p.1 p.2
    obtain ⟨v', hrun, hitems', hcapacity', heach⟩ := ih htidy (by omega)
    refine ⟨v', ?_, ?_, hcapacity'.trans hcapacity, fun grants => ?_⟩
    · simp only [List.map_cons, Edit.runAll, Edit.run, hrun]
      rw [congrArg Prod.fst hok]
      rfl
    · rw [hitems', hitems, List.append_assoc]
      rfl
    · -- the first push is the same whatever the allocator answers
      have hsame : (v.push grants p.2).2 = (v.push p.1 p.2).2 := by
        rw [push_of_room hinside h.word, push_of_room hinside h.word]
      rw [List.map_cons]
      show ((v.push grants p.2).2).pushEach grants (ps.map Prod.snd) = v'
      rw [hsame]
      exact heach grants

end ByteVec

/-- After every sequence of operations on a fresh array, each with an allocator that may refuse it: the bytes in use fit
the capacity and are those of a list under the operations that succeeded. An operation that fails changes nothing, and
it fails only if the length would not fit a word or the allocator refuses a size that does. Room that was made is
enough, and the next pushes for which it was made succeed without asking for more, so that their answers need not be
looked at. -/
theorem byte_array_is_list (calls : List ((Nat → Bool) × ByteVec.Edit)) :
    let done := (ByteVec.Edit.runAll calls {}).1
    let v := (ByteVec.Edit.runAll calls {}).2
    v.length ≤ v.capacity ∧ v.memory.size ≤ v.capacity ∧ v.capacity < wordLimit ∧
      v.items.length = v.length ∧ v.items = done.foldl (fun l e => e.onList l) [] ∧
      ∀ grants : Nat → Bool,
        (∀ e : ByteVec.Edit, (e.run grants v).1 = false → (e.run grants v).2 = v) ∧
        (∀ n, wordLimit ≤ v.length + n → (v.reserve grants n).1 = false) ∧
        (∀ n, (v.reserve grants n).1 = false →
          wordLimit ≤ v.length + n ∨ ∃ m, v.length + n ≤ m ∧ m < wordLimit ∧ grants m = false) ∧
        ∀ n v', v.reserve grants n = (true, v') →
          v'.items = v.items ∧ v.length + n ≤ v'.capacity ∧
          ∀ pushes : List ((Nat → Bool) × UInt8), pushes.length ≤ n →
            ∃ v'', ByteVec.Edit.runAll (pushes.map fun p => (p.1, .push p.2)) v' = (pushes.map fun p => .push p.2, v'') ∧
              v''.items = v.items ++ pushes.map Prod.snd ∧ v''.capacity = v'.capacity ∧
              ∀ grants', v'.pushEach grants' (pushes.map Prod.snd) = v'' := by
  intro done v
  obtain ⟨htidy, hitems⟩ : v.Tidy ∧ v.items = done.foldl (fun l e => e.onList l) [] :=
    ByteVec.tidy_empty.runAll calls
  refine ⟨htidy.room, htidy.inside, htidy.word, htidy.length_items, hitems, fun grants => ⟨?_, ?_, ?_, ?_⟩⟩
  · intro e
    exact (htidy.run grants e).kept
  · intro n hword
    unfold ByteVec.reserve
    rw [if_pos hword]
  · intro n hfalse
    rcases ByteVec.reserve_cases grants v n with ⟨_, hword | ⟨_, hword, hrefused⟩⟩ | ⟨hr, _⟩ | ⟨hr, _⟩
    · exact .inl hword
    · exact .inr ⟨_, v.le_grown _, v.grown_lt hword, hrefused⟩
    · rw [hr] at hfalse; cases hfalse
    · rw [hr] at hfalse; cases hfalse
  · intro n v' hr
    obtain ⟨htidy', hmemory, hlength, hroom⟩ := htidy.reserved hr
    have hsame : v'.items = v.items := by rw [ByteVec.items, ByteVec.items, hmemory, hlength]
    refine ⟨hsame, hroom, fun pushes hpushes => ?_⟩
    rw [← hsame]
    exact htidy'.pushes pushes (by omega)

/-- Two bytes, a request for room that is refused, and a cut. -/
def cutShort : List ((Nat → Bool) × ByteVec.Edit) :=
  [(fun _ => true, .push 5), (fun _ => true, .push 6), (fun _ => false, .reserve 100), (fun _ => true, .truncate 1)]

theorem runAll_cutShort :
    ByteVec.Edit.runAll cutShort {} = ([.push 5, .push 6, .truncate 1], ⟨#[5, 6], 1, 8⟩) := by
  decide +kernel

/-- The byte that was cut off is not seen again, and pushes into the room that is left ask for nothing. -/
theorem byte_array_is_list_when_cut_short :
    let v := (ByteVec.Edit.runAll cutShort {}).2
    v.items = [5] ∧ (v.reserve (fun _ => true) 0xffffffffffffffff).1 = false ∧
      v.reserve (fun _ => false) 2 = (true, v) ∧
      ∃ v', v.pushEach (fun _ => false) [7, 8] = v' ∧ v'.items = [5, 7, 8] ∧ v'.capacity = v.capacity := by
  intro v
  have hv : v = ⟨#[5, 6], 1, 8⟩ := congrArg Prod.snd runAll_cutShort
  have hreserve : v.reserve (fun _ => false) 2 = (true, v) := by
    rw [hv]
    decide
  obtain ⟨_, _, _, _, hitems, hcalls⟩ := byte_array_is_list cutShort
  rw [runAll_cutShort] at hitems
  have hone : v.items = [5] := by
    rw [hv]
    exact hitems
  obtain ⟨_, _, _, hroom⟩ := hcalls fun _ => false
  obtain ⟨_, _, hpushes⟩ := hroom 2 v hreserve
  obtain ⟨v', _, hitems', hcapacity, heach⟩ := hpushes [(fun _ => false, 7), (fun _ => false, 8)] (Nat.le_refl 2)
  refine ⟨hone, (hcalls fun _ => true).2.1 _ ?_, hreserve, v', heach fun _ => false, ?_, hcapacity⟩
  · show wordLimit ≤ v.length + 0xffffffffffffffff
    rw [hv]
    decide
  · rw [hitems', hone]
    rfl

end Causeway
