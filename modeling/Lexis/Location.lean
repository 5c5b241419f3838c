/-!
# Locations

A place in a text, as its line and column. Both count from one, a column is
one character wide whatever the character is, and only the newline character
starts a line.

## Main definitions

* `Location.advance` — the place behind one character.
* `Location.after` — the place behind a stretch of text.
-/

namespace Lexis

/-- A place in a text. -/
structure Location where
  /-- The line, the first being 1. -/
  line : Nat
  /-- The column, the first being 1. -/
  column : Nat
deriving DecidableEq, Repr, Ord

namespace Location

instance : ToString Location where
  toString l := s!"{l.line}:{l.column}"

/-- The place of the first character of a text. -/
def start : Location := ⟨1, 1⟩

instance : Inhabited Location := ⟨start⟩

/-- The place behind the character `c` that stands at `l`. -/
def advance (l : Location) (c : Char) : Location :=
  if c = '\n' then ⟨l.line + 1, 1⟩ else ⟨l.line, l.column + 1⟩

/-- The place behind the text `cs` that starts at `l`. -/
def after (l : Location) (cs : List Char) : Location := cs.foldl advance l

@[simp] theorem after_nil (l : Location) : l.after [] = l := rfl

@[simp] theorem after_cons (l : Location) (c : Char) (cs : List Char) :
    l.after (c :: cs) = (l.advance c).after cs := rfl

theorem after_append (l : Location) (cs ds : List Char) :
    l.after (cs ++ ds) = (l.after cs).after ds := by
  simp [after]

end Location

end Lexis
