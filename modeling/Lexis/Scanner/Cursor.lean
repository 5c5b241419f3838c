import Lexis.Scanner.Lexeme
import Lexis.Scanner.Trivia
import Lexis.Text.Utf8
import Lexis.Token.Basic

/-!
# Cursors

A cursor is a place in a source text together with the text from there on.
Taking the next token skips trivia, reads what stands there and moves behind
it; the token keeps the place where the reading began. There is no other state,
so what is scanned depends on the remaining text alone and the places on where
it starts.

## Main definitions

* `Cursor.skip` — what is passed over, and an unclosed comment if there is one.
* `Cursor.next` — the next token and the cursor behind it.
* `Cursor.tokens` — all tokens up to the end of the text, the end included.
-/

namespace Lexis

/-- A place in a source text, with what remains to be read. -/
structure Cursor where
  /-- The text from here on. -/
  rest : List Char
  /-- The number of bytes before this place. -/
  position : Nat := 0
  /-- The line and column of this place. -/
  location : Location := .start
deriving DecidableEq, Repr

namespace Cursor

/-- The cursor at the start of a source text. -/
def ofString (source : String) : Cursor := { rest := source.toList }

/-- Moves over the characters `taken`, in front of `rest`. -/
def moveOver (c : Cursor) (taken rest : List Char) : Cursor where
  rest := rest
  position := c.position + Utf8.size taken
  location := c.location.after taken

/-- Moves to the end of the text. -/
def toEnd (c : Cursor) : Cursor := c.moveOver c.rest []

/-- Moves over the trivia that starts here. -/
def skipTrivia (c : Cursor) : Cursor :=
  let parts := Trivia.split c.rest
  c.moveOver parts.1 parts.2

/-- Skips white space and comments. A comment that is never closed is found as a
malformed token, which takes all of the text. -/
def skip (c : Cursor) : Option Token × Cursor :=
  let start := c.skipTrivia
  if Lexeme.opensComment start.rest then
    (some ⟨.invalid .unterminatedComment, String.ofList start.rest, start.location⟩, start.toEnd)
  else (none, start)

/-- The next token, and the cursor behind it. At the end of the text this is
the end token, as often as it is asked for. -/
def next (c : Cursor) : Token × Cursor :=
  match c.skip with
  | (some token, behind) => (token, behind)
  | (none, start) =>
    let found := Lexeme.readSolid start.rest
    (⟨found.1.kind, String.ofList found.1.text, start.location⟩,
      start.moveOver found.1.spelling found.2)

/-- The next token is what is read behind the trivia. -/
theorem next_eq (c : Cursor) :
    c.next =
      (⟨(Lexeme.read c.skipTrivia.rest).1.kind,
        String.ofList (Lexeme.read c.skipTrivia.rest).1.text, c.skipTrivia.location⟩,
        c.skipTrivia.moveOver (Lexeme.read c.skipTrivia.rest).1.spelling
          (Lexeme.read c.skipTrivia.rest).2) := by
  rw [next, skip, Lexeme.read]
  by_cases hopen : Lexeme.opensComment c.skipTrivia.rest = true
  · simp only [hopen, if_true]
    rfl
  · simp only [hopen, if_false, Bool.false_eq_true]

theorem moveOver_moveOver (c : Cursor) (as bs rest rest' : List Char) :
    (c.moveOver as rest).moveOver bs rest' = c.moveOver (as ++ bs) rest' := by
  simp [moveOver, Location.after_append, Nat.add_assoc]

/-- What is taken for the next token, with the trivia before it, and what
remains behind it make up the text. -/
theorem exists_next_eq_moveOver (c : Cursor) :
    ∃ taken, taken ++ c.next.2.rest = c.rest ∧ c.next.2 = c.moveOver taken c.next.2.rest := by
  rw [next_eq]
  refine ⟨(Trivia.split c.rest).1 ++ (Lexeme.read (Trivia.split c.rest).2).1.spelling, ?_, ?_⟩
  · show _ ++ (Lexeme.read (Trivia.split c.rest).2).2 = c.rest
    rw [List.append_assoc, Lexeme.read_append, Trivia.split_append]
  · exact moveOver_moveOver c _ _ _ _

/-- At the end of the text there is nowhere to move. -/
theorem toEnd_of_rest_eq_nil {c : Cursor} (h : c.rest = []) : c.toEnd = c := by
  cases c
  simp_all [toEnd, moveOver]

/-- From the place behind a token the end of the text is what it was. -/
theorem toEnd_next (c : Cursor) : c.next.2.toEnd = c.toEnd := by
  obtain ⟨taken, happend, hnext⟩ := c.exists_next_eq_moveOver
  rw [hnext]
  show (c.moveOver taken c.next.2.rest).moveOver c.next.2.rest [] = c.moveOver c.rest []
  rw [moveOver_moveOver, happend]

/-- Every token short of the end leaves less to read. -/
theorem length_lt_of_next {c : Cursor} (h : c.next.1.kind ≠ .endOfInput) :
    c.next.2.rest.length < c.rest.length := by
  rw [next_eq] at h ⊢
  exact Nat.lt_of_lt_of_le (Lexeme.length_lt_of_read h) (Trivia.length_split_le c.rest)

/-- The end token leaves nothing to read. -/
theorem rest_eq_nil_of_next {c : Cursor} (h : c.next.1.kind = .endOfInput) :
    c.next.2.rest = [] := by
  rw [next_eq] at h ⊢
  have hnil := (Lexeme.kind_read_eq_endOfInput_iff _).mp h
  show (Lexeme.read (Trivia.split c.rest).2).2 = []
  rw [show (Trivia.split c.rest).2 = [] from hnil, Lexeme.read_nil]

/-- The tokens from here up to the end of the text, whose end token comes last. -/
def tokens (c : Cursor) : List Token :=
  match h : c.next with
  | (token, behind) =>
    if hend : token.kind = .endOfInput then [token]
    else
      have : behind.rest.length < c.rest.length := by
        have := length_lt_of_next (c := c)
        rw [h] at this
        exact this hend
      token :: behind.tokens
termination_by c.rest.length

theorem tokens_of_next {c : Cursor} (h : c.next.1.kind ≠ .endOfInput) :
    c.tokens = c.next.1 :: c.next.2.tokens := by
  rw [tokens]
  simp [h]

theorem tokens_of_next_end {c : Cursor} (h : c.next.1.kind = .endOfInput) :
    c.tokens = [c.next.1] := by
  rw [tokens]
  simp [h]

end Cursor

end Lexis
