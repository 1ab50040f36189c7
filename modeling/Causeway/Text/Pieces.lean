/-!
# Causeway.Text.Pieces

Text taken apart: at a character, at line breaks, and at the blanks around it.
-/

namespace Causeway
namespace Pieces

/-- The text up to the first place where `c` stands, and the pieces after each such place. -/
def cut (c : Char) (s : String) : String × List String :=
  let (first, rest) := s.toList.foldr (fun d (piece, pieces) =>
    if d = c then ([], piece :: pieces) else (d :: piece, pieces)) ([], [])
  (String.ofList first, rest.map String.ofList)

/-- A line without the carriage return that belongs to the break after it. -/
def withoutReturn (line : String) : String :=
  if line.toList.getLast? = some '\r' then String.ofList line.toList.dropLast else line

/-- The lines of a text that a break ends: all of them up to the last break, and what comes after it. -/
def lines (s : String) : List String × String :=
  let (first, rest) := cut '\n' s
  ((first :: rest).dropLast.map withoutReturn, rest.getLastD first)

/-- Blank characters. -/
def isBlank (c : Char) : Bool :=
  let n := c.toNat
  (9 ≤ n ∧ n ≤ 13) ∨ n ∈ [0x20, 0x85, 0xa0, 0x1680, 0x2028, 0x2029, 0x202f, 0x205f, 0x3000]
    ∨ (0x2000 ≤ n ∧ n ≤ 0x200a)

/-- A text without the blanks around it. -/
def trimmed (s : String) : String :=
  String.ofList ((s.toList.dropWhile isBlank).reverse.dropWhile isBlank).reverse

/-- Whether a text holds another. -/
def holds (needle : List Char) : List Char → Bool
  | [] => needle = []
  | c :: cs => needle.isPrefixOf (c :: cs) || holds needle cs

end Pieces
end Causeway
