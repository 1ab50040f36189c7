import Causeway.Text.Printable

/-!
# Causeway.Text.Quoted

Text between double quotes, as diagnostics show it. A quote, a backslash and what is not printable
are written as escapes; everything else stays as it is.
-/

namespace Causeway
namespace Quoted

/-- A character by its number: `\u`, then the digits without padding between braces. -/
def byNumber (c : Char) : List Char :=
  '\\' :: 'u' :: '\x7b' :: (Nat.toDigits 16 c.toNat ++ ['\x7d'])

def escape (c : Char) : List Char :=
  if c = '"' then ['\\', '"']
  else if c = '\\' then ['\\', '\\']
  else if c = '\t' then ['\\', 't']
  else if c = '\r' then ['\\', 'r']
  else if c = '\n' then ['\\', 'n']
  else if c = '\x00' then ['\\', '0']
  else if c.toNat < 0x20 ∨ c.toNat = 0x7f then byNumber c
  else if c.toNat < 0x80 ∨ Printable.isPrintable c then [c]
  else byNumber c

/-- A text between quotes. -/
def text (s : String) : String :=
  String.ofList ('"' :: (s.toList.flatMap escape ++ ['"']))

end Quoted
end Causeway
