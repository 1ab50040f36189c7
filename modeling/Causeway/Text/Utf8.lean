/-!
# Causeway.Text.Utf8

UTF-8 as both sides read it.

* `encode`     — the bytes of a text.
* `Piece.first` — the first piece of a byte sequence: a scalar value, or the longest ill-formed
  piece that could have begun one.
* `pieces`     — a byte sequence cut into such pieces.
* `decode?`    — strict reading; a refusal reports how many bytes before it were well-formed.
* `lossy`      — forgiving reading; each ill-formed piece becomes U+FFFD.

Which bytes may follow which is the table of well-formed byte sequences of the Unicode standard: the
lead byte fixes how many bytes follow and the range of the first of them, and every later one is in
`80..BF`.
-/

namespace Causeway
namespace Utf8

/-- The bytes of one scalar value. -/
def encodeChar (c : Char) : List UInt8 :=
  let v := c.toNat
  if v < 0x80 then [v.toUInt8]
  else if v < 0x800 then
    [(0xC0 + v / 0x40).toUInt8, (0x80 + v % 0x40).toUInt8]
  else if v < 0x10000 then
    [(0xE0 + v / 0x1000).toUInt8, (0x80 + v / 0x40 % 0x40).toUInt8, (0x80 + v % 0x40).toUInt8]
  else
    [(0xF0 + v / 0x40000).toUInt8, (0x80 + v / 0x1000 % 0x40).toUInt8,
      (0x80 + v / 0x40 % 0x40).toUInt8, (0x80 + v % 0x40).toUInt8]

/-- The bytes of a text. -/
def encode (cs : List Char) : List UInt8 := cs.flatMap encodeChar

/-- What a lead byte promises: the bits it contributes, how many bytes follow, and the range of the
first of them. -/
structure Lead where
  bits : Nat
  follow : Nat
  low : UInt8
  high : UInt8
  deriving DecidableEq, Repr

/-- The table of lead bytes. `C0`, `C1`, `F5..FF` and the continuation bytes lead nothing. -/
def lead? (b : UInt8) : Option Lead :=
  if b < 0x80 then some ⟨b.toNat, 0, 0x80, 0xBF⟩
  else if b < 0xC2 then none
  else if b < 0xE0 then some ⟨b.toNat - 0xC0, 1, 0x80, 0xBF⟩
  else if b = 0xE0 then some ⟨0, 2, 0xA0, 0xBF⟩
  else if b = 0xED then some ⟨0xD, 2, 0x80, 0x9F⟩
  else if b < 0xF0 then some ⟨b.toNat - 0xE0, 2, 0x80, 0xBF⟩
  else if b = 0xF0 then some ⟨0, 3, 0x90, 0xBF⟩
  else if b < 0xF4 then some ⟨b.toNat - 0xF0, 3, 0x80, 0xBF⟩
  else if b = 0xF4 then some ⟨4, 3, 0x80, 0x8F⟩
  else none

/-- How many of the next `n` bytes continue a sequence whose next byte must lie in `low..high`. -/
def continuing : Nat → UInt8 → UInt8 → List UInt8 → Nat
  | 0, _, _, _ => 0
  | _ + 1, _, _, [] => 0
  | n + 1, low, high, b :: bs =>
    if low ≤ b ∧ b ≤ high then continuing n 0x80 0xBF bs + 1 else 0

/-- The value of a lead byte's bits followed by continuation bytes. -/
def value (bits : Nat) (follow : List UInt8) : Nat :=
  follow.foldl (fun v b => v * 0x40 + (b.toNat - 0x80)) bits

inductive Piece where
  /-- A scalar value written in `size` bytes. -/
  | scalar (c : Char) (size : Nat)
  /-- An ill-formed piece of `size` bytes. -/
  | ill (size : Nat)
  deriving DecidableEq, Repr

namespace Piece

def size : Piece → Nat
  | .scalar _ n => n
  | .ill n => n

/-- The first piece of `b :: bs`. A sequence that breaks off is as long as it went well. -/
def first (b : UInt8) (bs : List UInt8) : Piece :=
  match lead? b with
  | none => .ill 1
  | some l =>
    let n := continuing l.follow l.low l.high bs
    if n = l.follow then .scalar (Char.ofNat (value l.bits (bs.take n))) (n + 1)
    else .ill (n + 1)

/-- A piece as a forgiving reader shows it. -/
def char : Piece → Char
  | .scalar c _ => c
  | .ill _ => '\uFFFD'

def isScalar : Piece → Bool
  | .scalar _ _ => true
  | .ill _ => false

end Piece

/-- A byte sequence cut into pieces. -/
def pieces : List UInt8 → List Piece
  | [] => []
  | b :: bs =>
    let p := Piece.first b bs
    p :: pieces (bs.drop (p.size - 1))
termination_by bs => bs.length
decreasing_by simp only [List.length_drop, List.length_cons]; omega

/-- The bytes of the scalars before the first ill-formed piece. -/
def scalarBytes : List Piece → Nat
  | [] => 0
  | p :: ps => if p.isScalar then p.size + scalarBytes ps else 0

/-- The number of bytes before the first ill-formed piece. -/
def validUpTo (bs : List UInt8) : Nat := scalarBytes (pieces bs)

/-- Strict reading. The refusal carries how many bytes before it were well-formed. -/
def decode? (bs : List UInt8) : Except Nat String :=
  let ps := pieces bs
  if ps.all Piece.isScalar then .ok (String.ofList (ps.map Piece.char))
  else .error (validUpTo bs)

/-- Forgiving reading: each ill-formed piece becomes U+FFFD. -/
def lossy (bs : List UInt8) : String := String.ofList ((pieces bs).map Piece.char)

end Utf8

/-- The bytes a text is passed as. -/
def utf8 (s : String) : List UInt8 := Utf8.encode s.toList

end Causeway
