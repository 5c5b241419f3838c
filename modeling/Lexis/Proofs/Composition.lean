import Lexis.Proofs.Places

/-!
# Composition across a newline

A newline between two texts keeps their tokens apart.  It ends a line comment
that is open where the first text ends, and every lexeme stops before it, so the
tokens of the first text stay what they were.  The second text is then scanned
as it is alone, some lines further down.

The lexemes that the end of the first text would break off are excluded: each of
them goes on behind the newline.

## Main results

* `Cursor.tokens_append_newline` — the tokens of a text, a newline and more text.
* `TokenStream.tokenize_append_newline` — two source texts with a newline between.
-/

namespace Lexis

namespace Cursor

open Grammar

/-- The same place, with more text at the end of what remains. -/
def extend (c : Cursor) (more : List Char) : Cursor := { c with rest := c.rest ++ more }

/-- A step is taken in the same way when more text is put at the end, if that text makes
no trivia of what is read and the same is read before it. -/
theorem Steps.extend_of {c : Cursor} {t rest more : List Char} {l : Lexeme}
    (h : c.Steps t l rest) (hend : l.kind ≠ .endOfInput)
    (hstop : Trivia.first? ((l.spelling ++ rest) ++ more) = none)
    (hreads : Reads l (rest ++ more)) : (c.extend more).Steps t l (rest ++ more) := by
  have hne : l.spelling ++ rest ≠ [] :=
    List.append_ne_nil_of_left_ne_nil (h.reads.spelling_ne_nil hend) rest
  have htrivia := h.trivia.append_of_ne_nil hne more
  rw [List.append_assoc] at hstop htrivia
  refine ⟨?_, htrivia, hstop, hreads⟩
  show c.rest ++ more = _
  rw [h.text, List.append_assoc, List.append_assoc]

/-- A step is taken in the same way when a newline and more text are put at the
end, unless the end of the text broke its lexeme off. -/
theorem Steps.append_newline {c : Cursor} {t rest : List Char} {l : Lexeme}
    (h : c.Steps t l rest) (hend : l.kind ≠ .endOfInput) (hfinished : ¬ Unfinished l)
    (b : List Char) : (c.extend ('\n' :: b)).Steps t l (rest ++ '\n' :: b) := by
  have hne : l.spelling ++ rest ≠ [] :=
    List.append_ne_nil_of_left_ne_nil (h.reads.spelling_ne_nil hend) rest
  have hopen : ¬ ['/', '*'] <+: l.spelling ++ rest :=
    h.reads.not_open_comment fun hkind => hfinished (.inl hkind)
  have hblank : Trivia.isBlank '\n' = true := by decide
  exact h.extend_of hend (Trivia.first?_append_blank hne hopen h.stop hblank b)
    (h.reads.append_blank hend hfinished hblank b)

/-- The tokens of a text with a newline and more text behind it are those of
the text without its end, and those from behind the newline. -/
theorem tokens_append_newline (c : Cursor) (b : List Char)
    (hfinished : ∀ token ∈ c.tokens, ¬ Unfinished token.lexeme) :
    ∃ front final, c.tokens = front ++ [final] ∧ final.kind = .endOfInput ∧
      (c.extend ('\n' :: b)).tokens =
        front ++ (c.moveOver (c.rest ++ ['\n']) b).tokens := by
  induction c using Cursor.induction_steps with
  | hlast c t h =>
      have hrest := h.rest_eq_of_last
      refine ⟨[], _, h.tokens_eq_last, rfl, ?_⟩
      have htrivia : Trivia.Precedes (t ++ ['\n']) b := by
        have ht : Trivia.Precedes t (['\n'] ++ b) := h.trivia.append_newline b
        exact ht.append (.blank (by decide) (.nil b))
      have htext : (c.extend ('\n' :: b)).rest = (t ++ ['\n']) ++ b := by
        show c.rest ++ '\n' :: b = _
        rw [hrest, List.append_assoc]
        rfl
      rw [tokens_of_precedes htext htrivia, hrest]
      rfl
  | hstep c t l rest h hend ih =>
      have htokens := h.tokens_eq hend
      have hl : ¬ Unfinished l := by
        have hhead := hfinished _ (htokens ▸ List.mem_cons_self)
        rwa [Lexeme.lexeme_token] at hhead
      have hbehind : ∀ token ∈ (c.moveOver (t ++ l.spelling) rest).tokens,
          ¬ Unfinished token.lexeme := by
        intro token htoken
        exact hfinished token (htokens ▸ List.mem_cons_of_mem _ htoken)
      obtain ⟨front, final, hfront, hfinal, hmore⟩ := ih hbehind
      refine ⟨_ :: front, final, by rw [htokens, hfront]; rfl, hfinal, ?_⟩
      have hextended := (h.append_newline hend hl b).tokens_eq hend
      rw [hextended, List.cons_append]
      congr 1
      have htext : c.rest ++ ['\n'] = (t ++ l.spelling) ++ (rest ++ ['\n']) := by
        rw [h.text]
        simp only [List.append_assoc]
      rw [htext, ← moveOver_moveOver c _ _ rest b]
      exact hmore

end Cursor

namespace TokenStream

open Grammar

/-- The reports on the tokens of a text are those on the tokens before its end. -/
theorem diagnostics_of_toList {s : TokenStream} {front : List Token} {final : Token}
    (h : s.toList = front ++ [final]) (hfinal : final.kind = .endOfInput) :
    s.diagnostics = front.filterMap Diagnostic.ofToken? := by
  have hnone : Diagnostic.ofToken? final = none := by
    simp only [Diagnostic.ofToken?, hfinal]
  rw [diagnostics, h, List.filterMap_append, List.filterMap_cons, hnone]
  exact List.append_nil _

/-- The tokens of two texts with a newline between them. -/
theorem toList_append_newline (a b : String)
    (hfinished : ∀ token ∈ (ofString a).toList, ¬ Unfinished token.lexeme) :
    ∃ front final, (ofString a).toList = front ++ [final] ∧ final.kind = .endOfInput ∧
      (ofString (a ++ "\n" ++ b)).toList = front ++ (ofString b).toList.map
        (Token.relocate (Location.down (1 + a.toList.count '\n'))) := by
  obtain ⟨front, final, hfront, hfinal, hmore⟩ :=
    (Cursor.ofString a).tokens_append_newline b.toList hfinished
  have hsource : Cursor.ofString (a ++ "\n" ++ b) =
      (Cursor.ofString a).extend ('\n' :: b.toList) := by
    show ({ rest := (a ++ "\n" ++ b).toList } : Cursor) = _
    rw [String.toList_append, String.toList_append, List.append_assoc]
    rfl
  have hbehind : ((Cursor.ofString a).moveOver (a.toList ++ ['\n']) b.toList).tokens =
      (ofString b).toList.map
        (Token.relocate (Location.down (1 + a.toList.count '\n'))) := by
    apply Cursor.tokens_relocate _ (Cursor.ofString b)
    · rfl
    · intro cs
      show (Location.start.after (a.toList ++ ['\n'])).after cs = _
      rw [Location.after_append_newline, Location.after_down]
      rfl
  refine ⟨front, final, hfront, hfinal, ?_⟩
  show (Cursor.ofString (a ++ "\n" ++ b)).tokens = _
  rw [hsource, hmore, ← hbehind]
  rfl

/-- **Composition across a newline.**  If the end of `a` breaks no lexeme off,
then the tokens of `a`, a newline and `b` are those of `a` without its end and
those of `b`, moved down by the lines of `a`.  So are the reports, and they reach
the handler in this order. -/
theorem tokenize_append_newline {H : Type} [Handler H Diagnostic] (handler : H)
    (a b : String) (hfinished : ∀ token ∈ (ofString a).toList, ¬ Unfinished token.lexeme) :
    ∃ front final, (ofString a).toList = front ++ [final] ∧ final.kind = .endOfInput ∧
      (tokenize (a ++ "\n" ++ b) handler).1.toList =
        front ++ (ofString b).toList.map
          (Token.relocate (Location.down (1 + a.toList.count '\n'))) ∧
      (tokenize (a ++ "\n" ++ b) handler).2 =
        ((ofString a).diagnostics ++ (ofString b).diagnostics.map
          (Diagnostic.relocate (Location.down (1 + a.toList.count '\n')))).foldl
            Handler.receive handler := by
  obtain ⟨front, final, hfront, hfinal, hstream⟩ := toList_append_newline a b hfinished
  have hreports : (ofString (a ++ "\n" ++ b)).diagnostics =
      (ofString a).diagnostics ++ (ofString b).diagnostics.map
        (Diagnostic.relocate (Location.down (1 + a.toList.count '\n'))) := by
    rw [diagnostics_of_toList hfront hfinal, diagnostics, hstream, List.filterMap_append,
      Diagnostic.filterMap_ofToken?_relocate]
    rfl
  rw [tokenize_eq, ← hreports]
  exact ⟨front, final, hfront, hfinal, hstream, rfl⟩

/-- The first text ends in a line comment behind a lone point and a lone quote,
the second in two reports. -/
theorem tokenize_append_newline_lone_quote :
    (∀ token ∈ (ofString "1.'x //").toList, ¬ Unfinished token.lexeme) ∧
      ∃ front final, (ofString "1.'x //").toList = front ++ [final] ∧
        final.kind = .endOfInput ∧
        (tokenize ("1.'x //" ++ "\n" ++ "2'!/*") (⟨#[]⟩ : Storage Diagnostic)).1.toList =
          front ++ (ofString "2'!/*").toList.map
            (Token.relocate (Location.down (1 + "1.'x //".toList.count '\n'))) ∧
        (tokenize ("1.'x //" ++ "\n" ++ "2'!/*") (⟨#[]⟩ : Storage Diagnostic)).2 =
          ((ofString "1.'x //").diagnostics ++ (ofString "2'!/*").diagnostics.map
            (Diagnostic.relocate (Location.down (1 + "1.'x //".toList.count '\n')))).foldl
              Handler.receive (⟨#[]⟩ : Storage Diagnostic) := by
  have hfinished : ∀ token ∈ (ofString "1.'x //").toList, ¬ Unfinished token.lexeme := by
    decide +kernel
  exact ⟨hfinished, tokenize_append_newline (⟨#[]⟩ : Storage Diagnostic) _ _ hfinished⟩

end TokenStream

end Lexis
