import Lexis.Scanner.Cursor

/-!
# Scanners

A scanner walks through a source text token by token. It can be asked in two
ways. `Scanner.next` always answers, with the end token again and again once
the end is reached. `Scanner.next?` stops: it answers nothing after it has
itself returned the end token. End tokens obtained from `next` do not count for
that.

## Main statements

* `Scanner.drain_of_next?` — draining a scanner is asking `next?` until it
  stops.
* `Scanner.remaining_lt_of_next?` — it stops.
-/

namespace Lexis

/-- A walk through a source text. -/
structure Scanner where
  /-- The whole text. -/
  source : String
  /-- Where the walk has come to. -/
  cursor : Cursor
  /-- Whether `next?` has returned the end token. -/
  endYielded : Bool := false
deriving DecidableEq, Repr

namespace Scanner

/-- The scanner at the start of a source text. -/
def ofString (source : String) : Scanner where
  source := source
  cursor := .ofString source

/-- The number of bytes walked over. -/
def position (s : Scanner) : Nat := s.cursor.position

/-- The place the scanner has come to. -/
def location (s : Scanner) : Location := s.cursor.location

/-- The character that stands `offset` characters ahead. -/
def peek? (s : Scanner) (offset : Nat) : Option Char := s.cursor.rest[offset]?

/-- The next token, and the scanner behind it. -/
def next (s : Scanner) : Token × Scanner :=
  let step := s.cursor.next
  (step.1, { s with cursor := step.2 })

/-- The next token, unless the end token has already been returned from here. -/
def next? (s : Scanner) : Option Token × Scanner :=
  if s.endYielded then (none, s)
  else
    let step := s.next
    (some step.1, { step.2 with endYielded := step.1.kind == .endOfInput })

/-- All tokens that `next?` has still to return, and the scanner behind them. -/
def drain (s : Scanner) : List Token × Scanner :=
  if s.endYielded then ([], s)
  else (s.cursor.tokens, { s with cursor := s.cursor.toEnd, endYielded := true })

theorem drain_of_next?_none {s s' : Scanner} (h : s.next? = (none, s')) :
    s.drain = ([], s') := by
  by_cases hend : s.endYielded = true
  · simp_all [drain, next?]
  · simp [next?, hend] at h

theorem drain_of_next? {s s' : Scanner} {token : Token} (h : s.next? = (some token, s')) :
    s.drain = (token :: s'.drain.1, s'.drain.2) := by
  by_cases hyielded : s.endYielded = true
  · simp [next?, hyielded] at h
  have htoEnd := s.cursor.toEnd_next
  simp only [next?, hyielded, next, Bool.false_eq_true, ↓reduceIte, Prod.mk.injEq,
    Option.some.injEq] at h
  obtain ⟨rfl, rfl⟩ := h
  by_cases hend : s.cursor.next.1.kind = .endOfInput
  · have hstay := Cursor.toEnd_of_rest_eq_nil (Cursor.rest_eq_nil_of_next hend)
    simp [drain, hyielded, hend, Cursor.tokens_of_next_end hend, ← htoEnd, hstay]
  · simp [drain, hyielded, hend, Cursor.tokens_of_next hend, ← htoEnd]

/-- A bound on what `next?` can still return: no more tokens than characters
remain, and the end token. -/
def remaining (s : Scanner) : Nat := if s.endYielded then 0 else s.cursor.rest.length + 1

theorem remaining_lt_of_next? {s s' : Scanner} {token : Token}
    (h : s.next? = (some token, s')) : s'.remaining < s.remaining := by
  by_cases hyielded : s.endYielded = true
  · simp [next?, hyielded] at h
  simp only [next?, hyielded, next, Bool.false_eq_true, ↓reduceIte, Prod.mk.injEq,
    Option.some.injEq] at h
  obtain ⟨rfl, rfl⟩ := h
  by_cases hend : s.cursor.next.1.kind = .endOfInput
  · simp [remaining, hyielded, hend]
  · have hshorter := Cursor.length_lt_of_next hend
    simp only [remaining, beq_eq_false_iff_ne.mpr hend, hyielded, Bool.false_eq_true, if_false]
    omega

end Scanner

end Lexis
