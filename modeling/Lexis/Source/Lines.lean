import Lexis.Text.Utf8

/-!
# Lines of a text

A line runs up to and including its newline. The last line has none and may be
empty, so a text has one line more than it has newlines. Line numbers count
from one.
-/

namespace Lexis.Lines

/-- Puts a character in front of the first line. -/
def consHead (c : Char) : List (List Char) → List (List Char)
  | [] => [[c]]
  | l :: ls => (c :: l) :: ls

/-- The lines of a text, each with its newline. -/
def split : List Char → List (List Char)
  | [] => [[]]
  | c :: cs => if c = '\n' then [c] :: split cs else consHead c (split cs)

theorem flatten_consHead (c : Char) (ls : List (List Char)) :
    (consHead c ls).flatten = c :: ls.flatten := by
  cases ls <;> rfl

/-- The lines make up the text. -/
theorem flatten_split (cs : List Char) : (split cs).flatten = cs := by
  induction cs with
  | nil => rfl
  | cons c cs ih =>
    rw [split]
    split <;> simp [flatten_consHead, ih]

/-- The bytes from `start` up to, and not including, `stop`. -/
structure ByteRange where
  /-- The first byte of the range. -/
  start : Nat
  /-- The first byte behind the range. -/
  stop : Nat
deriving DecidableEq, Repr

instance : ToString ByteRange where
  toString r := s!"{r.start}..{r.stop}"

/-- The byte ranges of consecutive stretches of text, the first of which starts
at the byte `start`. -/
def rangesFrom (start : Nat) : List (List Char) → List ByteRange
  | [] => []
  | l :: ls => ⟨start, start + Utf8.size l⟩ :: rangesFrom (start + Utf8.size l) ls

end Lexis.Lines
