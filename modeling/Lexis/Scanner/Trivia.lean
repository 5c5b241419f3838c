/-!
# Trivia

What separates tokens and is no part of them: white space, line comments and
delimited comments. `Trivia.split` divides a text into the trivia at its head
and the rest.

A comment that is never closed is not trivia. The division stops in front of
it, so a rest that starts with `/*` is such a comment.

## Main statements

* `Trivia.split_append` — nothing is lost in the division.
* `Trivia.first?_split` — the rest does not start with trivia again.
-/

namespace Lexis.Trivia

/-- Whether a character is white space: the space, the tab, the newline, the
carriage return, the vertical tab and the form feed. -/
def isBlank (c : Char) : Bool :=
  c == ' ' || c == '\t' || c == '\n' || c == '\r' || c == '\x0b' || c == '\x0c'

/-- Divides a text behind its first `*/`, or fails if it has none. -/
def splitClosing? : List Char → Option (List Char × List Char)
  | [] => none
  | [_] => none
  | c :: d :: cs =>
    if c = '*' ∧ d = '/' then some ([c, d], cs)
    else (splitClosing? (d :: cs)).map fun (body, rest) => (c :: body, rest)

/-- Divides a text behind the first piece of trivia at its head: a white
space, a line comment, which leaves its newline behind, or a delimited
comment. Fails if the text starts with none. -/
def first? : List Char → Option (List Char × List Char)
  | [] => none
  | [c] => if isBlank c then some ([c], []) else none
  | c :: d :: cs =>
    if isBlank c then some ([c], d :: cs)
    else if c = '/' ∧ d = '/' then
      some (c :: d :: cs.takeWhile (· != '\n'), cs.dropWhile (· != '\n'))
    else if c = '/' ∧ d = '*' then
      (splitClosing? cs).map fun (body, rest) => (c :: d :: body, rest)
    else none

theorem splitClosing?_append {cs body rest : List Char}
    (h : splitClosing? cs = some (body, rest)) : body ++ rest = cs := by
  induction cs generalizing body rest with
  | nil => simp [splitClosing?] at h
  | cons c cs ih =>
    cases cs with
    | nil => simp [splitClosing?] at h
    | cons d cs =>
      rw [splitClosing?] at h
      split at h
      · simp only [Option.some.injEq, Prod.mk.injEq] at h
        obtain ⟨rfl, rfl⟩ := h
        rfl
      · simp only [Option.map_eq_some_iff] at h
        obtain ⟨⟨body', rest'⟩, h', heq⟩ := h
        simp only [Prod.mk.injEq] at heq
        obtain ⟨rfl, rfl⟩ := heq
        simp [ih h']

theorem first?_append {cs piece rest : List Char} (h : first? cs = some (piece, rest)) :
    piece ++ rest = cs := by
  unfold first? at h
  split at h
  · simp at h
  · split at h
    · simp only [Option.some.injEq, Prod.mk.injEq] at h
      obtain ⟨rfl, rfl⟩ := h
      rfl
    · simp at h
  · split at h
    · simp only [Option.some.injEq, Prod.mk.injEq] at h
      obtain ⟨rfl, rfl⟩ := h
      rfl
    split at h
    · simp only [Option.some.injEq, Prod.mk.injEq] at h
      obtain ⟨rfl, rfl⟩ := h
      simp [List.takeWhile_append_dropWhile]
    split at h
    · simp only [Option.map_eq_some_iff] at h
      obtain ⟨⟨body, rest'⟩, h', heq⟩ := h
      simp only [Prod.mk.injEq] at heq
      obtain ⟨rfl, rfl⟩ := heq
      simp [splitClosing?_append h']
    · simp at h

/-- A piece of trivia has at least one character. -/
theorem ne_nil_of_first? {cs piece rest : List Char} (h : first? cs = some (piece, rest)) :
    piece ≠ [] := by
  unfold first? at h
  split at h
  · simp at h
  · split at h <;> simp at h
    simp [← h.1]
  · split at h
    · simp at h; simp [← h.1]
    split at h
    · simp at h; simp [← h.1]
    split at h
    · simp only [Option.map_eq_some_iff] at h
      obtain ⟨⟨body, rest'⟩, -, heq⟩ := h
      simp only [Prod.mk.injEq] at heq
      simp [← heq.1]
    · simp at h

theorem length_lt_of_first? {cs piece rest : List Char} (h : first? cs = some (piece, rest)) :
    rest.length < cs.length := by
  have hpos := List.length_pos_iff.mpr (ne_nil_of_first? h)
  rw [← first?_append h, List.length_append]
  omega

/-- Divides a text into the trivia at its head and the rest. -/
def split (cs : List Char) : List Char × List Char :=
  match h : first? cs with
  | none => ([], cs)
  | some (piece, rest) =>
    have : rest.length < cs.length := length_lt_of_first? h
    let (trivia, rest') := split rest
    (piece ++ trivia, rest')
termination_by cs.length

/-- The division loses and adds nothing. -/
theorem split_append (cs : List Char) : (split cs).1 ++ (split cs).2 = cs := by
  fun_induction split cs with
  | case1 => rfl
  | case2 cs piece rest h _ trivia rest' hsplit ih =>
    rw [hsplit] at ih
    simp only [List.append_assoc, ih]
    exact first?_append h

/-- Behind the division no further trivia follows. -/
theorem first?_split (cs : List Char) : first? (split cs).2 = none := by
  fun_induction split cs with
  | case1 _ h => exact h
  | case2 cs piece rest h _ trivia rest' hsplit ih =>
    rw [hsplit] at ih
    exact ih

theorem length_split_le (cs : List Char) : (split cs).2.length ≤ cs.length := by
  have h := congrArg List.length (split_append cs)
  rw [List.length_append] at h
  omega

end Lexis.Trivia
