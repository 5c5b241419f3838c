import Lexis.Proofs.Walks
import Lexis.TokenStream

/-!
# Lexemes with space between them

A list of lexemes is put into one text with some space behind each.  The space begins
with a white space, which stops every lexeme before it, and goes on with trivia that
is closed: nothing that follows can become part of it.  Then the lexemes are found
again one by one, whatever is written in the comments between them.

A lexeme can stand in such a text if it is found where it is all of the text, and not
only because the text ends there.

## Main definitions

* `Trivia.Closed`, `Trivia.Space` — what may be put between lexemes.
* `Grammar.Standalone` — the lexemes that it may be put between.

## Main results

* `Grammar.Denotes.standalone` — every valid lexeme can stand alone.
* `Cursor.lexemes_spaced` — lexemes with space between them are found again.
-/

namespace Lexis

/-! ## Space -/

namespace Trivia

/-- White spaces, line comments with the newlines that end them and delimited comments,
in any number and any order. -/
inductive Closed : List Char → Prop where
  | nil : Closed []
  | blank {c : Char} {t : List Char} : isBlank c = true → Closed t → Closed (c :: t)
  | line {body t : List Char} : '\n' ∉ body → Closed t →
      Closed ('/' :: '/' :: (body ++ '\n' :: t))
  | delimited {body t : List Char} : ¬ ['*', '/'] <:+: body → Closed t →
      Closed ('/' :: '*' :: (body ++ '*' :: '/' :: t))

/-- A white space with closed trivia behind it. -/
inductive Space : List Char → Prop where
  | mk {d : Char} {t : List Char} : isBlank d = true → Closed t → Space (d :: t)

/-- Closed trivia is trivia, whatever follows it. -/
theorem Closed.precedes {t : List Char} (h : Closed t) (rest : List Char) :
    Precedes t rest := by
  induction h with
  | nil => exact .nil rest
  | blank hc _ ih => exact .blank hc ih
  | @line body t hbody _ ih =>
      exact .line hbody (Text.stops_cons.mpr (by decide)) (.blank (by decide) ih)
  | delimited hbody _ ih => exact .delimited hbody ih

/-- More white space in front of closed trivia is closed trivia. -/
theorem Closed.blanks {b t : List Char} (hb : ∀ c ∈ b, isBlank c = true) (ht : Closed t) :
    Closed (b ++ t) := by
  induction b with
  | nil => exact ht
  | cons c b ih =>
      have hbehind : ∀ d ∈ b, isBlank d = true := fun d hd => hb d (List.mem_cons_of_mem c hd)
      exact .blank (hb c List.mem_cons_self) (ih hbehind)

theorem Space.precedes {gap : List Char} (h : Space gap) (rest : List Char) :
    Precedes gap rest := by
  cases h with
  | mk hd ht => exact .blank hd (ht.precedes rest)

end Trivia

/-! ## Lexemes that can stand alone -/

namespace Grammar

/-- The lexeme is found where it is all of the text, and the end of the text breaks
nothing off it. -/
structure Standalone (l : Lexeme) : Prop where
  kind_ne_endOfInput : l.kind ≠ .endOfInput
  finished : ¬ Unfinished l
  reads : Reads l []
  stop : Trivia.first? l.spelling = none

variable {l : Lexeme} {d : Char}

theorem Standalone.reads_blank (h : Standalone l) (hd : Trivia.isBlank d = true)
    (ds : List Char) : Reads l (d :: ds) :=
  h.reads.append_blank h.kind_ne_endOfInput h.finished hd ds

theorem Standalone.first?_append_blank (h : Standalone l) (hd : Trivia.isBlank d = true)
    (ds : List Char) : Trivia.first? (l.spelling ++ d :: ds) = none := by
  have hne := h.reads.spelling_ne_nil h.kind_ne_endOfInput
  have hopen := h.reads.not_open_comment fun hkind => h.finished (.inl hkind)
  rw [List.append_nil] at hopen
  exact Trivia.first?_append_blank hne hopen h.stop hd ds

/-- Every valid lexeme can stand alone. -/
theorem Denotes.standalone {w : List Char} (h : Denotes w l) : Standalone l where
  kind_ne_endOfInput := h.kind_ne_endOfInput
  finished := h.not_unfinished
  reads := h.reads_nil
  stop := by
    rw [h.spelling_eq]
    obtain ⟨c, cs, rfl, hblank, hslash⟩ := h.exists_cons
    apply Trivia.first?_eq_none hblank
    intro hc d hd
    rw [hslash hc] at hd
    simp at hd

end Grammar

/-! ## Texts of lexemes -/

namespace Cursor

open Grammar

/-- The text of some lexemes with the space behind each. -/
def spaced (items : List (Lexeme × List Char)) : List Char :=
  items.flatMap fun i => i.1.spelling ++ i.2

/-- A step goes over a lexeme that has space behind it, and leaves the space. -/
theorem Steps.of_space {c : Cursor} {l : Lexeme} {gap rest : List Char} (hl : Standalone l)
    (hgap : Trivia.Space gap) (hrest : c.rest = l.spelling ++ (gap ++ rest)) :
    c.Steps [] l (gap ++ rest) := by
  cases hgap with
  | mk hd =>
      exact ⟨hrest, .nil _, hl.first?_append_blank hd _, hl.reads_blank hd _⟩

/-- The tokens of a text of lexemes are these lexemes, and the end behind them. -/
theorem lexemes_spaced (items : List (Lexeme × List Char))
    (hitems : ∀ i ∈ items, Standalone i.1 ∧ Trivia.Space i.2) :
    ∀ c : Cursor, c.rest = spaced items →
      c.tokens.map Token.lexeme = items.map Prod.fst ++ [⟨.endOfInput, []⟩] := by
  induction items with
  | nil =>
      intro c hrest
      rw [tokens_of_rest_eq_nil hrest, List.map_singleton, Lexeme.lexeme_token]
      rfl
  | cons i items ih =>
      intro c hrest
      obtain ⟨hlexeme, hgap⟩ := hitems i List.mem_cons_self
      have hmore := ih fun j hj => hitems j (List.mem_cons_of_mem i hj)
      have htext : c.rest = i.1.spelling ++ (i.2 ++ spaced items) := by
        rw [hrest, spaced, List.flatMap_cons, List.append_assoc]
        rfl
      have hstep := Steps.of_space hlexeme hgap htext
      -- Behind the lexeme the space is skipped before the next one is read.
      have hbehind := tokens_of_precedes (c := c.moveOver ([] ++ i.1.spelling) _) rfl
        (hgap.precedes (spaced items))
      rw [hstep.tokens_eq hlexeme.kind_ne_endOfInput, hbehind, List.map_cons,
        Lexeme.lexeme_token, hmore _ rfl]
      rfl

end Cursor

end Lexis
