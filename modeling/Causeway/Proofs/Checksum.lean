import Causeway.Demo.Foreign

/-!
# Causeway.Proofs.Checksum

The checksum of a sample tells any two samples apart that differ in one field.

* `Sample.rotateLeft_inj` — a rotation loses no bit.
* `Sample.spread_inj`     — the factor is odd, so that multiplying by it loses nothing.
* `Sample.shifted_inj`    — the flags fit above the place they are shifted to.

The three parts of the checksum overlap. Joining them is exclusive, so with two of them fixed the third one comes
back out, and what is left is that each field comes back from its part.
-/

namespace Causeway
namespace Demo
namespace Sample

/-- The upper 17 bits go below the other 47. -/
theorem toNat_rotateLeft (w : UInt64) :
    (rotateLeft w 17).toNat = w.toNat % 0x800000000000 * 0x20000 + w.toNat / 0x800000000000 := by
  have hw := w.toNat_lt
  have hupper : (w >>> (64 - 17)).toNat = w.toNat / 0x800000000000 := by
    rw [UInt64.toNat_shiftRight, Nat.shiftRight_eq_div_pow]
    rfl
  have hlower : (w <<< 17).toNat = (w.toNat % 0x800000000000) <<< 17 := by
    rw [UInt64.toNat_shiftLeft, Nat.shiftLeft_eq, Nat.shiftLeft_eq]
    show w.toNat * 0x20000 % 0x10000000000000000 = _
    omega
  have hbelow : w.toNat / 0x800000000000 < 2 ^ 17 := by omega
  -- the two parts have no bit in common, so that joining them adds them
  rw [rotateLeft, UInt64.toNat_or, hupper, hlower, ← Nat.shiftLeft_add_eq_or_of_lt hbelow, Nat.shiftLeft_eq]

theorem rotateLeft_inj {v w : UInt64} : rotateLeft v 17 = rotateLeft w 17 ↔ v = w := by
  refine ⟨fun h => ?_, fun h => by rw [h]⟩
  have hv := toNat_rotateLeft v
  have hw := toNat_rotateLeft w
  rw [h] at hv
  have hlimit := v.toNat_lt
  have hlimit' := w.toNat_lt
  exact UInt64.toNat_inj.mp (by omega)

/-- The factor has an inverse among the words. -/
theorem spread_inj {v w : UInt64} : v * 0x9e3779b97f4a7c15 = w * 0x9e3779b97f4a7c15 ↔ v = w := by
  have hinverse : (0x9e3779b97f4a7c15 : UInt64) * 0xf1de83e19937733d = 1 := by decide
  refine ⟨fun h => ?_, fun h => by rw [h]⟩
  calc v = v * 0x9e3779b97f4a7c15 * 0xf1de83e19937733d := by rw [UInt64.mul_assoc, hinverse, UInt64.mul_one]
    _ = w * 0x9e3779b97f4a7c15 * 0xf1de83e19937733d := by rw [h]
    _ = w := by rw [UInt64.mul_assoc, hinverse, UInt64.mul_one]

theorem toNat_shifted (f : UInt8) : (f.toUInt64 <<< 56).toNat = f.toNat * 0x100000000000000 := by
  have hf := f.toNat_lt
  rw [UInt64.toNat_shiftLeft, UInt8.toNat_toUInt64, Nat.shiftLeft_eq]
  exact Nat.mod_eq_of_lt (by simp; omega)

theorem shifted_inj {f g : UInt8} : f.toUInt64 <<< 56 = g.toUInt64 <<< 56 ↔ f = g := by
  refine ⟨fun h => ?_, fun h => by rw [h]⟩
  have hvalue := congrArg UInt64.toNat h
  rw [toNat_shifted, toNat_shifted] at hvalue
  exact UInt8.toNat_inj.mp (Nat.eq_of_mul_eq_mul_right (by decide) hvalue)

end Sample

/-- A sample with one field changed has the same checksum only if the field has its old value. -/
theorem checksum_tells_fields_apart (s : Sample) :
    (∀ id : UInt32, { s with id := id }.checksum = s.checksum ↔ id = s.id) ∧
      (∀ weight : UInt64, { s with weight := weight }.checksum = s.checksum ↔ weight = s.weight) ∧
      ∀ flags : UInt8, { s with flags := flags }.checksum = s.checksum ↔ flags = s.flags := by
  refine ⟨fun id => ?_, fun weight => ?_, fun flags => ?_⟩
  · unfold Sample.checksum
    rw [UInt64.xor_left_inj, UInt64.xor_left_inj, Sample.rotateLeft_inj, Sample.spread_inj, UInt32.toUInt64_inj]
  · unfold Sample.checksum
    rw [UInt64.xor_left_inj, UInt64.xor_right_inj]
  · unfold Sample.checksum
    rw [UInt64.xor_right_inj, Sample.shifted_inj]

-- two fields that change together may cancel
example : (Sample.mk 0 0x100000000000000 1).checksum = (Sample.mk 0 0 0).checksum := by decide

end Demo
end Causeway
