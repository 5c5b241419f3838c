import Lexis.Proofs.Spacing

/-!
# Scanning undoes printing

A list of lexemes is printed with a separator behind each: white space, and a
comment behind it if one likes.  The white space stops every lexeme, the comment
is closed by its own end, and the next lexeme may follow at once.  Scanning
therefore finds the lexemes again, whatever the comments say.

## Main definitions

* `Separates` — the separators.
* `Printed.source` — the printed text.

## Main results

* `Cursor.lexemes_printed` — the tokens of a printed text are its lexemes.
* `TokenStream.tokenize_printed` — nothing else is found, nothing is reported, and
  every token is written as it was printed.
-/

namespace Lexis

open Grammar

/-- The source text that denotes a lexeme. -/
def Lexeme.written (l : Lexeme) : String := l.kind.write (String.ofList l.text)

theorem Token.written_lexeme (t : Token) : t.lexeme.written = t.written := by
  rw [Lexeme.written, Token.lexeme, String.ofList_toList]
  rfl

/-- Well-formed tokens are written as they stand in the source. -/
theorem Kind.toList_write {kind : Kind} (h : kind.isInvalid = false) (text : String) :
    (kind.write text).toList = kind.spell text.toList := by
  cases kind with
  | invalid defect => simp [Kind.isInvalid] at h
  | charLiteral | stringLiteral =>
      simp only [Kind.write, Kind.spell, String.toList_append, List.append_assoc]
      rfl
  | _ => rfl

theorem Grammar.Denotes.written_eq {w : List Char} {l : Lexeme} (h : Denotes w l) :
    l.written = String.ofList w := by
  rw [← String.toList_inj, Lexeme.written, Kind.toList_write h.isInvalid_eq_false,
    String.toList_ofList, String.toList_ofList]
  exact h.spelling_eq

/-! ## Separators -/

/-- One white space or more. -/
def IsBlanks (b : List Char) : Prop :=
  b ≠ [] ∧ ∀ c ∈ b, Trivia.isBlank c = true

/-- White space that separates two lexemes, with at most one comment behind it. -/
inductive Separates : List Char → Prop where
  | blanks {b : List Char} : IsBlanks b → Separates b
  | line {b body : List Char} : IsBlanks b → '\n' ∉ body →
      Separates (b ++ '/' :: '/' :: (body ++ ['\n']))
  | delimited {b body : List Char} : IsBlanks b → ¬ ['*', '/'] <:+: body →
      Separates (b ++ '/' :: '*' :: (body ++ ['*', '/']))

theorem IsBlanks.space {b t : List Char} (hb : IsBlanks b) (ht : Trivia.Closed t) :
    Trivia.Space (b ++ t) := by
  obtain ⟨hne, hblank⟩ := hb
  cases b with
  | nil => exact absurd rfl hne
  | cons d ds =>
      have hbehind : ∀ c ∈ ds, Trivia.isBlank c = true :=
        fun c hc => hblank c (List.mem_cons_of_mem d hc)
      exact .mk (hblank d List.mem_cons_self) (ht.blanks hbehind)

theorem Separates.space {sep : List Char} (h : Separates sep) : Trivia.Space sep := by
  cases h with
  | blanks hb =>
      rw [← List.append_nil sep]
      exact hb.space .nil
  | line hb hbody => exact hb.space (.line hbody .nil)
  | delimited hb hbody => exact hb.space (.delimited hbody .nil)

/-! ## Printed lexemes -/

/-- A lexeme of the grammar with a separator behind it. -/
structure Printed where
  word : List Char
  lexeme : Lexeme
  separator : List Char
  denotes : Denotes word lexeme
  separates : Separates separator

/-- The text of some lexemes with their separators. -/
def Printed.source (items : List Printed) : List Char :=
  items.flatMap fun i => i.word ++ i.separator

/-- A printed text is a text of lexemes with space between them. -/
theorem Printed.source_eq (items : List Printed) :
    source items = Cursor.spaced (items.map fun i => (i.lexeme, i.separator)) := by
  rw [source, Cursor.spaced, List.flatMap_map]
  congr 1
  funext i
  rw [i.denotes.spelling_eq]

/-- The tokens of a printed text are its lexemes, and the end behind them. -/
theorem Cursor.lexemes_printed (items : List Printed) (c : Cursor)
    (hrest : c.rest = Printed.source items) :
    c.tokens.map Token.lexeme = items.map Printed.lexeme ++ [⟨.endOfInput, []⟩] := by
  have hitems : ∀ i ∈ items.map fun i => (i.lexeme, i.separator),
      Standalone i.1 ∧ Trivia.Space i.2 := by
    intro i hi
    obtain ⟨j, -, rfl⟩ := List.mem_map.mp hi
    exact ⟨j.denotes.standalone, j.separates.space⟩
  rw [Printed.source_eq] at hrest
  rw [lexemes_spaced _ hitems c hrest, List.map_map]
  rfl

namespace TokenStream

/-- A stream whose lexemes are well formed has nothing to report. -/
theorem diagnostics_eq_nil {s : TokenStream}
    (h : ∀ l ∈ s.toList.map Token.lexeme, l.kind.isInvalid = false) : s.diagnostics = [] := by
  rw [diagnostics, List.filterMap_eq_nil_iff]
  intro token htoken
  exact Diagnostic.ofToken?_eq_none (h token.lexeme (List.mem_map_of_mem htoken))

/-- **Scanning undoes printing.**  The tokens of a printed text are its lexemes
in order and the end; nothing is reported; and each token is written as its
lexeme was printed. -/
theorem tokenize_printed {H : Type} [Handler H Diagnostic] (handler : H)
    (items : List Printed) :
    (tokenize (String.ofList (Printed.source items)) handler).1.toList.map Token.lexeme =
        items.map Printed.lexeme ++ [⟨.endOfInput, []⟩] ∧
      (tokenize (String.ofList (Printed.source items)) handler).2 = handler ∧
      (tokenize (String.ofList (Printed.source items)) handler).1.toList.map Token.written =
        items.map (fun i => String.ofList i.word) ++ [""] := by
  have hlexemes : (ofString (String.ofList (Printed.source items))).toList.map Token.lexeme =
      items.map Printed.lexeme ++ [⟨.endOfInput, []⟩] :=
    Cursor.lexemes_printed items _ String.toList_ofList
  rw [tokenize_eq]
  refine ⟨hlexemes, ?_, ?_⟩
  · have hreports : (ofString (String.ofList (Printed.source items))).diagnostics = [] := by
      apply diagnostics_eq_nil
      rw [hlexemes]
      intro l hl
      rcases List.mem_append.mp hl with hl | hl
      · obtain ⟨i, -, rfl⟩ := List.mem_map.mp hl
        exact i.denotes.isInvalid_eq_false
      · rw [List.mem_singleton.mp hl]
        rfl
    show (ofString _).diagnostics.foldl Handler.receive handler = handler
    rw [hreports]
    rfl
  · have hwritten := congrArg (List.map Lexeme.written) hlexemes
    rw [List.map_map, List.map_append, List.map_map] at hwritten
    have htokens : Lexeme.written ∘ Token.lexeme = Token.written :=
      funext Token.written_lexeme
    have hitems : Lexeme.written ∘ Printed.lexeme = fun i => String.ofList i.word :=
      funext fun i => i.denotes.written_eq
    rw [htokens, hitems] at hwritten
    exact hwritten

/-- A quote between quotes before a comment that ends in stars, and a string
that holds two slashes before a line comment. -/
theorem tokenize_printed_quotes :
    (tokenize "''' /***/\"a//b\"\t//'\n" (⟨#[]⟩ : Storage Diagnostic)).1.toList.map
        Token.lexeme =
        [⟨.charLiteral, "'".toList⟩, ⟨.stringLiteral, "a//b".toList⟩, ⟨.endOfInput, []⟩] ∧
      (tokenize "''' /***/\"a//b\"\t//'\n" (⟨#[]⟩ : Storage Diagnostic)).2 = ⟨#[]⟩ ∧
      (tokenize "''' /***/\"a//b\"\t//'\n" (⟨#[]⟩ : Storage Diagnostic)).1.toList.map
        Token.written = ["'''", "\"a//b\"", ""] := by
  have hspace : IsBlanks [' '] := ⟨by simp, by simp [Trivia.isBlank]⟩
  have htab : IsBlanks ['\t'] := ⟨by simp, by simp [Trivia.isBlank]⟩
  have hstar : ¬ ['*', '/'] <:+: ['*'] := by decide
  have hquote : '\n' ∉ ['\x27'] := by simp
  have hbody : '\x22' ∉ "a//b".toList := by simp
  exact tokenize_printed (⟨#[]⟩ : Storage Diagnostic)
    [⟨_, _, _, .character '\x27', .delimited hspace hstar⟩,
      ⟨_, _, _, .string hbody, .line htab hquote⟩]

end TokenStream

end Lexis
