/-!
# Causeway.Text.Hex

Lower-case hexadecimal: fixed-width fingerprints, bytes, and addresses without padding.
-/

namespace Causeway
namespace Hex

def digit (n : Nat) : Char :=
  if n < 10 then Char.ofNat (0x30 + n) else Char.ofNat (0x57 + n)

/-- The last `width` digits of `n`, most significant first. -/
def fixed : Nat → Nat → List Char
  | 0, _ => []
  | width + 1, n => fixed width (n / 16) ++ [digit (n % 16)]

/-- A 64-bit word as 16 digits. -/
def word (w : UInt64) : String := String.ofList (fixed 16 w.toNat)

/-- Two digits for each byte. -/
def bytes (bs : List UInt8) : String :=
  String.ofList (bs.flatMap fun b => [digit (b.toNat / 16), digit (b.toNat % 16)])

/-- An address: `0x` and its digits without padding. -/
def address (a : Nat) : String := "0x" ++ String.ofList (Nat.toDigits 16 a)

/-- The value of a digit of either case. -/
def digit? (c : Char) : Option Nat :=
  if '0' ≤ c ∧ c ≤ '9' then some (c.toNat - 0x30)
  else if 'a' ≤ c ∧ c ≤ 'f' then some (c.toNat - 0x57)
  else if 'A' ≤ c ∧ c ≤ 'F' then some (c.toNat - 0x37)
  else none

/-- The number written by a sequence of digits; a character that is no digit ends it. -/
def value (cs : List Char) : Nat :=
  (cs.map digit?).takeWhile Option.isSome |>.foldl (fun n d => n * 16 + d.getD 0) 0

/-- Pairs of digits read as bytes. -/
def toBytes : List Char → List UInt8
  | a :: b :: cs => (value [a, b]).toUInt8 :: toBytes cs
  | _ => []

end Hex
end Causeway
