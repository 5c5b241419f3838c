import Lexis.Proofs.Walks

/-!
# What is skipped in front of a token

In front of a token a scanner skips white space and comments, one piece after another, and
it has to be told when to stop.  The pieces overlap in their signs: `/*/` opens a comment
and does not close it, `/**/` does both, `//` means nothing within a comment and `/*` means
nothing behind `//`.  Said without going from piece to piece, what is skipped is the longest
run of trivia.  It ends at the end of the text, in front of a character that is neither
blank nor the start of a comment, or in front of a comment that is never closed.  That
comment is the one thing between two tokens that becomes a token of its own, and it takes
all of the text that is left.

## Main definitions

* `Trivia.Unclosed` — a comment that is never closed stands at the head of a text.
* `Trivia.Clear` — neither blanks nor a comment stand there.

## Main results

* `Trivia.unclosed_or_clear` — how a run of trivia ends.
* `Cursor.Steps.kind_eq_iff` — which steps find an unclosed comment.
* `Cursor.Steps.skip_of_not_unclosed`, `Cursor.Steps.skip_of_unclosed` — what skipping finds
  and where it comes to.
* `Cursor.skipTrivia_of_precedes` — trivia in front makes no difference to where skipping
  comes to.
* `Scanner.skipTrivia_exact` — what a scanner skips, wherever it has come to.
-/

namespace Lexis

/-! ## The end of a run of trivia -/

namespace Trivia

variable {r : List Char}

/-- The text opens a comment that it does not close: no `*/` begins in its third character
or behind it. -/
def Unclosed (r : List Char) : Prop := ∃ cs, r = '/' :: '*' :: cs ∧ ¬ ['*', '/'] <:+: cs

/-- The text is empty, or its first character is not blank and opens no comment. -/
def Clear (r : List Char) : Prop :=
  r = [] ∨ ∃ c cs, r = c :: cs ∧ isBlank c = false ∧ ¬ ['/', '/'] <+: r ∧ ¬ ['/', '*'] <+: r

theorem Clear.not_open_comment (h : Clear r) : ¬ ['/', '*'] <+: r := by
  rcases h with rfl | ⟨c, cs, -, -, -, hopen⟩
  · simp
  · exact hopen

/-- Where no trivia stands, a comment is open up to the end, or there is nothing to skip. -/
theorem unclosed_or_clear (h : first? r = none) : Unclosed r ∨ Clear r := by
  by_cases hopen : ['/', '*'] <+: r
  · left
    obtain ⟨cs, rfl⟩ := hopen
    exact ⟨cs, rfl, not_closing_infix_of_first?_none h⟩
  · right
    cases r with
    | nil => exact .inl rfl
    | cons c cs =>
        refine .inr ⟨c, cs, rfl, isBlank_eq_false_of_first?_none h, ?_, hopen⟩
        rintro ⟨body, hbody⟩
        rw [← hbody] at h
        exact head?_ne_slash_of_first?_none h rfl

/-- Where no trivia stands, a comment that is opened is open up to the end. -/
theorem opensComment_iff (h : first? r = none) : Lexeme.opensComment r = true ↔ Unclosed r := by
  constructor
  · intro hopen
    cases r with
    | nil => exact absurd hopen (by decide)
    | cons c cs =>
        obtain ⟨rfl, hstar⟩ := (Lexeme.opensComment_cons c cs).mp hopen
        obtain ⟨body, rfl⟩ := List.head?_eq_some_iff.mp hstar
        exact ⟨body, rfl, not_closing_infix_of_first?_none h⟩
  · rintro ⟨cs, rfl, -⟩
    rfl

end Trivia

/-! ## Unclosed comments -/

namespace Grammar

variable {l : Lexeme} {rest : List Char}

/-- Nothing but the sign that opens a comment is read as an unclosed comment. -/
theorem Reads.exists_of_comment (h : Reads l rest)
    (hkind : l.kind = .invalid .unterminatedComment) :
    ∃ cs, l.spelling ++ rest = '/' :: '*' :: cs := by
  cases h with
  | unterminatedComment cs => exact ⟨cs ++ [], rfl⟩
  | @word w _ hw hstop =>
      have hvalid := isInvalid_wordKind (String.ofList w)
      rw [show Lexeme.wordKind (String.ofList w) = _ from hkind] at hvalid
      exact absurd hvalid (by decide)
  | _ => simp at hkind

/-- What a comment opens and does not close is read as one lexeme. -/
theorem Reads.eq_comment (h : Reads l rest) {cs : List Char}
    (htext : l.spelling ++ rest = '/' :: '*' :: cs) :
    l = ⟨.invalid .unterminatedComment, '/' :: '*' :: cs⟩ ∧ rest = [] := by
  have hread := h.read_eq
  rw [htext, read_comment, Prod.mk.injEq] at hread
  exact ⟨hread.1.symm, hread.2.symm⟩

end Grammar

namespace Cursor

open Grammar

variable {c : Cursor} {t rest : List Char} {l : Lexeme}

/-- A step finds an unclosed comment where one stands behind the trivia, and nowhere else. -/
theorem Steps.kind_eq_iff (h : c.Steps t l rest) :
    l.kind = .invalid .unterminatedComment ↔ Trivia.Unclosed (l.spelling ++ rest) := by
  constructor
  · intro hkind
    obtain ⟨cs, htext⟩ := h.reads.exists_of_comment hkind
    rcases Trivia.unclosed_or_clear h.stop with hunclosed | hclear
    · exact hunclosed
    · exact absurd ⟨cs, htext.symm⟩ hclear.not_open_comment
  · rintro ⟨cs, htext, -⟩
    rw [(h.reads.eq_comment htext).1]

/-! ## Skipping -/

/-- Skipping comes to where something else begins, and finds nothing on its way. -/
theorem Steps.skip_of_not_unclosed (h : c.Steps t l rest)
    (hclosed : ¬ Trivia.Unclosed (l.spelling ++ rest)) :
    c.skip = (none, c.moveOver t (l.spelling ++ rest)) := by
  rw [skip, h.skipTrivia_eq]
  exact if_neg (mt (Trivia.opensComment_iff h.stop).mp hclosed)

/-- An unclosed comment is found with all that is left of the text, and skipping comes to
the end. -/
theorem Steps.skip_of_unclosed (h : c.Steps t l rest)
    (hunclosed : Trivia.Unclosed (l.spelling ++ rest)) :
    c.skip = (some ⟨.invalid .unterminatedComment, String.ofList (l.spelling ++ rest),
      c.location.after t⟩, c.toEnd) := by
  have hend : (c.moveOver t (l.spelling ++ rest)).toEnd = c.toEnd := by
    rw [toEnd, toEnd, moveOver_moveOver, h.text]
    rfl
  rw [skip, h.skipTrivia_eq, ← hend]
  exact if_pos ((Trivia.opensComment_iff h.stop).mpr hunclosed)

/-- What skipping finds is the next token. -/
theorem Steps.next_of_unclosed (h : c.Steps t l rest)
    (hunclosed : Trivia.Unclosed (l.spelling ++ rest)) :
    c.next = (⟨.invalid .unterminatedComment, String.ofList (l.spelling ++ rest),
      c.location.after t⟩, c.toEnd) := by
  rw [next, h.skip_of_unclosed hunclosed]

/-- A run of trivia is skipped together with what follows it. -/
theorem skipTrivia_of_precedes {r : List Char} (hrest : c.rest = t ++ r)
    (ht : Trivia.Precedes t r) : c.skipTrivia = (c.moveOver t r).skipTrivia := by
  show c.moveOver (Trivia.split c.rest).1 (Trivia.split c.rest).2 =
    (c.moveOver t r).moveOver (Trivia.split r).1 (Trivia.split r).2
  rw [hrest, Trivia.split_append_of_precedes ht, moveOver_moveOver]

end Cursor

/-! ## What a scanner skips -/

namespace Scanner

/-- In front of the text `r` the scanner skips `t`, and it finds an unclosed comment exactly
if one stands there, with which it comes to the end. -/
structure Skips (s : Scanner) (t r : List Char) : Prop where
  text : s.cursor.rest = t ++ r
  longest : Trivia.Longest t r
  skipTrivia : s.cursor.skipTrivia = s.cursor.moveOver t r
  clear : s.next.1.kind ≠ .invalid .unterminatedComment → Trivia.Clear r
  unclosed : s.next.1.kind = .invalid .unterminatedComment ↔ Trivia.Unclosed r
  passed : ¬ Trivia.Unclosed r → s.cursor.skip = (none, s.cursor.moveOver t r)
  found : Trivia.Unclosed r → s.cursor.skip =
    (some ⟨.invalid .unterminatedComment, String.ofList r, s.location.after t⟩, s.cursor.toEnd)
  comment : Trivia.Unclosed r → s.next =
    (⟨.invalid .unterminatedComment, String.ofList r, s.location.after t⟩,
      { s with cursor := s.cursor.toEnd })

/-- **What is skipped.**  Wherever a scanner has come to in its source, it skips the longest
run of trivia.  Behind it there is neither trivia nor a comment, unless a comment is open up
to the end: then, and only then, the next token is that comment, which is all that is left.
What stands in a comment that is closed makes no difference. -/
theorem skipTrivia_exact {source : String} {s : Scanner} (h : Reachable source s) :
    (∃ consumed t r, source.toList = consumed ++ (t ++ r) ∧
        s.location = Location.start.after consumed ∧ s.Skips t r) ∧
      ∀ body rest, s.cursor.rest = '/' :: '*' :: (body ++ '*' :: '/' :: rest) →
        ¬ ['*', '/'] <:+: body →
        s.cursor.skipTrivia =
          (s.cursor.moveOver ('/' :: '*' :: (body ++ ['*', '/'])) rest).skipTrivia := by
  constructor
  · obtain ⟨consumed, hsource, hcursor⟩ := h.exists_consumed
    obtain ⟨t, l, rest, hstep⟩ := s.cursor.exists_steps
    have hnext : s.next.1.kind = l.kind := by
      show s.cursor.next.1.kind = _
      rw [hstep.next_eq]
      rfl
    refine ⟨consumed, t, l.spelling ++ rest, ?_, ?_, ?_, hstep.longest, hstep.skipTrivia_eq,
      ?_, ?_, hstep.skip_of_not_unclosed, hstep.skip_of_unclosed, ?_⟩
    · rw [hsource, hstep.text]
    · rw [Scanner.location, hcursor]
      rfl
    · exact hstep.text
    · intro hkind
      rw [hnext, ne_eq, hstep.kind_eq_iff] at hkind
      exact (Trivia.unclosed_or_clear hstep.stop).resolve_left hkind
    · rw [hnext]
      exact hstep.kind_eq_iff
    · intro hunclosed
      rw [Scanner.next, hstep.next_of_unclosed hunclosed]
      rfl
  · intro body rest hrest hbody
    apply Cursor.skipTrivia_of_precedes
    · rw [hrest]
      simp only [List.cons_append, List.append_assoc, List.nil_append]
    · exact .delimited hbody (.nil rest)

/-- Behind a word stand a comment with a quote and an opening sign in it, a line comment
with an opening sign, a short comment, and a comment that does not close itself. -/
theorem skipTrivia_exact_open :
    let s := (ofString "a/*/*\"*\n*/ //*\n/**/\t/*/ b").next.2
    Reachable "a/*/*\"*\n*/ //*\n/**/\t/*/ b" s ∧
      s.next = (⟨.invalid .unterminatedComment, "/*/ b", ⟨3, 6⟩⟩,
        { s with cursor := s.cursor.toEnd }) ∧
      ∃ consumed t r, "a/*/*\"*\n*/ //*\n/**/\t/*/ b".toList = consumed ++ (t ++ r) ∧
        s.location = Location.start.after consumed ∧ s.Skips t r := by
  intro s
  have hreachable : Reachable _ s := .next .start
  exact ⟨hreachable, by decide +kernel, (skipTrivia_exact hreachable).1⟩

end Scanner

end Lexis
