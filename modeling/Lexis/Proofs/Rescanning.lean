import Lexis.Proofs.Lookahead
import Lexis.Proofs.Printing

/-!
# Scanning what was scanned

The tokens of a source are written one behind the other with a separator between
them, and the text is scanned again.  Where nothing but unexpected characters is
malformed, every token is written as it stands in the source, and what stood there can
stand alone: no step looks at what is cut off behind it, so each lexeme is read from its
own spelling.  The second scan therefore finds the lexemes of the first, and writing
them again changes nothing.

A lone quote with its character is excluded as well: it is written without its quote.

## Main results

* `Cursor.exists_standalone` — every token can stand alone, unless the end of the
  text broke it off.
* `TokenStream.tokenize_written` — scanning again finds the same kinds and texts, and
  writing again gives the same text.
-/

namespace Lexis

open Grammar

/-! ## Tokens that can stand alone -/

namespace Cursor

/-- What a step finds can stand alone. -/
theorem Steps.standalone {c : Cursor} {t rest : List Char} {l : Lexeme}
    (h : c.Steps t l rest) (hend : l.kind ≠ .endOfInput) (hfinished : ¬ Unfinished l) :
    Standalone l := by
  have hreads : Reads l ([] ++ rest) := h.reads
  exact ⟨hend, hfinished, hreads.of_append, Trivia.first?_of_append h.stop⟩

/-- If the end of the text breaks nothing off, all tokens before it can stand alone. -/
theorem exists_standalone (c : Cursor)
    (hfinished : ∀ token ∈ c.tokens, ¬ Unfinished token.lexeme) :
    ∃ front final, c.tokens = front ++ [final] ∧ final.lexeme = ⟨.endOfInput, []⟩ ∧
      ∀ token ∈ front, Standalone token.lexeme := by
  obtain ⟨front, d, t, hwalk, hlast⟩ := c.exists_walk
  have htokens := hwalk.tokens_eq
  rw [hlast.tokens_eq_last] at htokens
  refine ⟨front, _, htokens, Lexeme.lexeme_token _ _, ?_⟩
  intro token hfront
  have htoken : token ∈ c.tokens := htokens ▸ List.mem_append_left _ hfront
  have hend := hwalk.kind_ne_endOfInput token hfront
  have hl := hfinished token htoken
  obtain ⟨_, _, t, l, rest, -, hstep, rfl⟩ := exists_walk_of_mem htoken
  rw [Lexeme.lexeme_token] at hl ⊢
  exact hstep.standalone hend hl

end Cursor

/-! ## Written tokens -/

section Written

variable {t : Token} (h : t.isInvalid = true → t.kind = .invalid .unexpectedCharacter)

include h

/-- A token is written as it stands in the source, if at most its being unexpected is
wrong with it. -/
theorem Token.toList_written : t.written.toList = t.spelling := by
  obtain ⟨kind, text, place⟩ := t
  cases kind with
  | invalid defect =>
      have hkind : Kind.invalid defect = .invalid .unexpectedCharacter := h rfl
      rw [Kind.invalid.injEq] at hkind
      subst hkind
      rfl
  | _ => exact Kind.toList_write rfl text

theorem Token.not_unfinished : ¬ Unfinished t.lexeme := by
  have hother : ∀ defect, t.kind = .invalid defect → defect = .unexpectedCharacter := by
    intro defect hkind
    have hinvalid : t.isInvalid = true := by
      rw [Token.isInvalid, hkind]
      rfl
    rw [h hinvalid, Kind.invalid.injEq] at hkind
    exact hkind.symm
  intro hunfinished
  rcases hunfinished with hkind | hkind | ⟨hkind, -⟩
  · exact absurd (hother _ hkind) (by decide)
  · exact absurd (hother _ hkind) (by decide)
  · exact absurd (hother _ hkind) (by decide)

end Written

/-- With nothing behind the last separator, there is one behind every text. -/
theorem intercalate_append_nil (separator : List Char) (texts : List (List Char)) :
    separator.intercalate (texts ++ [[]]) = texts.flatMap (· ++ separator) := by
  induction texts with
  | nil => exact List.append_nil []
  | cons text texts ih =>
      have hne : texts ++ [[]] ≠ [] := List.append_ne_nil_of_right_ne_nil texts (by simp)
      rw [List.cons_append, List.intercalate_cons_of_ne_nil hne, ih, List.flatMap_cons]

namespace TokenStream

/-- Tokens are written as their lexemes with the separator behind each. -/
theorem toList_written {s : TokenStream} {front : List Token} {final : Token}
    (hs : s.toList = front ++ [final]) (hfinal : final.lexeme = ⟨.endOfInput, []⟩)
    (hwritten : ∀ token ∈ front, token.written.toList = token.spelling)
    (separator : String) :
    (s.written separator).toList =
      Cursor.spaced (front.map fun token => (token.lexeme, separator.toList)) := by
  have hlast : final.written.toList = [] := by
    rw [← Token.written_lexeme, hfinal]
    rfl
  have htexts : (s.toList.map Token.written).map String.toList =
      front.map Token.spelling ++ [[]] := by
    rw [hs, List.map_map, List.map_append, List.map_singleton, Function.comp_apply, hlast]
    congr 1
    exact List.map_congr_left hwritten
  rw [written, String.toList_intercalate, htexts, intercalate_append_nil, List.flatMap_map,
    Cursor.spaced, List.flatMap_map]
  rfl

/-- What is written depends on the kinds and the texts alone. -/
theorem written_eq_of_lexemes {s s' : TokenStream}
    (h : s'.toList.map Token.lexeme = s.toList.map Token.lexeme) (separator : String) :
    s'.written separator = s.written separator := by
  have hwritten : Token.written = Lexeme.written ∘ Token.lexeme :=
    funext fun t => (Token.written_lexeme t).symm
  rw [written, written, hwritten, ← List.map_map, ← List.map_map, h]

/-- **Scanning again.**  Where at most unexpected characters are malformed, the tokens of a
source can be written with any separator of white space and comments between them:
scanning finds their kinds and texts again, and writing gives the same text again. -/
theorem tokenize_written {H : Type} [Handler H Diagnostic] (handler : H)
    (source separator : String) (hseparator : Trivia.Space separator.toList)
    (hvalid : ∀ token ∈ (tokenize source handler).1.toList,
      token.isInvalid = true → token.kind = .invalid .unexpectedCharacter) :
    (tokenize ((tokenize source handler).1.written separator) handler).1.toList.map
        Token.lexeme = (tokenize source handler).1.toList.map Token.lexeme ∧
      (tokenize ((tokenize source handler).1.written separator) handler).1.written separator =
        (tokenize source handler).1.written separator := by
  rw [tokenize_fst] at hvalid
  rw [tokenize_fst, tokenize_fst]
  obtain ⟨front, final, htokens, hfinal, hstandalone⟩ :=
    (Cursor.ofString source).exists_standalone fun token htoken =>
      Token.not_unfinished (hvalid token htoken)
  have hfront : ∀ token ∈ front, token.written.toList = token.spelling := by
    intro token htoken
    have hmem : token ∈ (ofString source).toList := by
      show token ∈ (Cursor.ofString source).tokens
      rw [htokens]
      exact List.mem_append_left _ htoken
    exact Token.toList_written (hvalid token hmem)
  have htext := toList_written (s := ofString source) htokens hfinal hfront separator
  have hitems : ∀ i ∈ front.map fun token => (token.lexeme, separator.toList),
      Standalone i.1 ∧ Trivia.Space i.2 := by
    intro i hi
    obtain ⟨token, htoken, rfl⟩ := List.mem_map.mp hi
    exact ⟨hstandalone token htoken, hseparator⟩
  have hlexemes : (ofString ((ofString source).written separator)).toList.map Token.lexeme =
      (ofString source).toList.map Token.lexeme := by
    have hfound := Cursor.lexemes_spaced _ hitems
      (Cursor.ofString ((ofString source).written separator)) htext
    show _ = (Cursor.ofString source).tokens.map Token.lexeme
    rw [htokens, List.map_append, List.map_singleton, hfinal]
    rw [List.map_map] at hfound
    exact hfound
  exact ⟨hlexemes, written_eq_of_lexemes hlexemes separator⟩

/-- A lone exclamation mark and a no-break space, which is no white space, with both
kinds of comments between them. -/
theorem tokenize_written_unexpected :
    Trivia.Space "\n//=\n/***/".toList ∧
      (∀ token ∈ (tokenize "!\xa0'''1.=" (⟨#[]⟩ : Storage Diagnostic)).1.toList,
        token.isInvalid = true → token.kind = .invalid .unexpectedCharacter) ∧
      (tokenize ((tokenize "!\xa0'''1.=" (⟨#[]⟩ : Storage Diagnostic)).1.written
        "\n//=\n/***/") (⟨#[]⟩ : Storage Diagnostic)).1.toList.map Token.lexeme =
          (tokenize "!\xa0'''1.=" (⟨#[]⟩ : Storage Diagnostic)).1.toList.map Token.lexeme ∧
      (tokenize ((tokenize "!\xa0'''1.=" (⟨#[]⟩ : Storage Diagnostic)).1.written
        "\n//=\n/***/") (⟨#[]⟩ : Storage Diagnostic)).1.written "\n//=\n/***/" =
          (tokenize "!\xa0'''1.=" (⟨#[]⟩ : Storage Diagnostic)).1.written "\n//=\n/***/" := by
  have hseparator : Trivia.Space "\n//=\n/***/".toList := by
    have hbody : '\n' ∉ ['='] := by simp
    have hstar : ¬ ['*', '/'] <:+: ['*'] := by decide
    exact .mk rfl (.line hbody (.delimited hstar .nil))
  have hvalid : ∀ token ∈ (tokenize "!\xa0'''1.=" (⟨#[]⟩ : Storage Diagnostic)).1.toList,
      token.isInvalid = true → token.kind = .invalid .unexpectedCharacter := by
    decide +kernel
  exact ⟨hseparator, hvalid, tokenize_written (⟨#[]⟩ : Storage Diagnostic) _ _ hseparator hvalid⟩

end TokenStream

end Lexis
