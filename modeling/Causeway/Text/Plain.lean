import Causeway.Text.Utf8

/-!
# Causeway.Text.Plain

Text as it reads on a terminal, with the sequences that control the terminal taken out.

* `Plain.State` — what the character before left open.
* `Plain.next`  — what is open after a character.
* `Plain.shows` — whether a character is text.
* `Plain.text`  — the characters that are text.

A blank that breaks a line or a column is text wherever a short sequence is open, and ends it; a string
addressed to the terminal swallows it. Sequences are made of ASCII: a character past it is text between
them and is lost within one, but for a byte that terminates a string.
-/

namespace Causeway
namespace Plain

inductive State where
  /-- Nothing is open. -/
  | ground
  /-- After the escape character. -/
  | escape
  /-- In an escape sequence, after its first intermediate character. -/
  | intermediate
  /-- In a control sequence, which one of the characters from `@` to `~` ends. -/
  | control
  /-- In a command string, which the bell ends. -/
  | command
  /-- At the head of a device string. -/
  | device
  /-- In the parameters of a device string. -/
  | deviceParameter
  /-- After the parameters of a device string. -/
  | deviceIntermediate
  /-- In the body of a string, which its terminator ends. -/
  | body
  deriving DecidableEq, Repr

/-- The byte that terminates the body of a string. -/
def terminator : UInt8 := 0x9c

/-- Blanks that are shown although they control the cursor. -/
def isBlank (c : Char) : Bool := c = '\t' ∨ c = '\n' ∨ c = '\x0c' ∨ c = '\r'

/-- What a character of ASCII opens after the escape character. -/
def opened (c : Char) : State :=
  if c = '[' then .control
  else if c = ']' then .command
  else if c = 'P' then .device
  else if c = 'X' ∨ c = '^' ∨ c = '_' then .body
  else if ' ' ≤ c ∧ c ≤ '/' then .intermediate
  else if '0' ≤ c ∧ c ≤ '~' then .ground
  else .escape

/-- What is open after a character of ASCII that neither cancels a sequence nor starts a new one. -/
def State.after (s : State) (c : Char) : State :=
  match s with
  | .ground => .ground
  | .escape => opened c
  | .intermediate => if '0' ≤ c ∧ c ≤ '~' then .ground else .intermediate
  | .control => if '@' ≤ c ∧ c ≤ '~' then .ground else .control
  | .command => if c = '\x07' then .ground else .command
  | .device =>
    if ' ' ≤ c ∧ c ≤ '/' then .deviceIntermediate
    else if '0' ≤ c ∧ c ≤ '?' then .deviceParameter
    else if '@' ≤ c ∧ c ≤ '~' then .body
    else .device
  | .deviceParameter =>
    if ' ' ≤ c ∧ c ≤ '/' then .deviceIntermediate
    else if '<' ≤ c ∧ c ≤ '~' then .body
    else .deviceParameter
  | .deviceIntermediate => if '0' ≤ c ∧ c ≤ '~' then .body else .deviceIntermediate
  | .body => .body

/-- Whether a blank is text while this is open. -/
def State.showsBlank : State → Bool
  | .ground | .escape | .intermediate | .control => true
  | _ => false

/-- Whether a character is text. -/
def shows (s : State) (c : Char) : Bool :=
  if isBlank c then s.showsBlank else s = .ground ∧ ' ' ≤ c ∧ c ≠ '\x7f'

/-- What is open after a character. -/
def next (s : State) (c : Char) : State :=
  if c = '\x18' ∨ c = '\x1a' then .ground
  else if c = '\x1b' then .escape
  else if shows s c then .ground
  else if c.toNat < 0x80 then s.after c
  else if s = .body ∧ terminator ∈ Utf8.encodeChar c then .ground
  else s

/-- The text among characters, from a state on. -/
def strip : State → List Char → List Char
  | _, [] => []
  | s, c :: cs => if shows s c then c :: strip (next s c) cs else strip (next s c) cs

/-- The characters that are text. -/
def text (s : String) : String := String.ofList (strip .ground s.toList)

end Plain
end Causeway
