import Lexis.Proofs.Composition
import Mathlib.Data.List.DropRight

/-!
# How far reading looks ahead

Text behind a lexeme is looked at only to see that the lexeme ends there, and never
further than two characters: one of them tells where a word, a number, a quote or a
symbol stops, and an integer in front of a point needs the one behind it.  So a step
remains a step when the text is cut off anywhere behind the lexeme, and when more
text is put behind two characters that are already there.  What the end of the text
broke off has no character behind it.

Every token but the end has a character of its own, so the last two tokens of a text
are all that more text can change.  Two is the least number: `1.` is an integer and a
point, and `1.5` is neither.

## Main results

* `Grammar.Reads.of_append`, `Grammar.Reads.append_of_two_le` — less text and more
  text behind a lexeme.
* `Cursor.Steps.of_extend`, `Cursor.Steps.extend` — and behind a step.
* `Cursor.length_tokens_le` — there are no more tokens than characters, and the end.
* `TokenStream.tokenize_append_rdrop` — the last two tokens apart, the tokens of a
  text stay when the text goes on.
-/

namespace Lexis

/-! ## Trivia -/

namespace Trivia

open Lexis.Text

/-- A text that starts with no trivia starts with none where it ends earlier. -/
theorem first?_of_append {r more : List Char} (h : first? (r ++ more) = none) :
    first? r = none := by
  match r with
  | [] => rfl
  | [c] =>
      have hblank := isBlank_eq_false_of_first?_none h
      simp [first?, hblank]
  | c :: d :: cs =>
      have hblank := isBlank_eq_false_of_first?_none h
      by_cases hdelimited : c = '/' ∧ d = '*'
      · -- The comment is closed nowhere, so it is not closed earlier.
        obtain ⟨rfl, rfl⟩ := hdelimited
        have hopen : ¬ ['*', '/'] <:+: cs := fun hclosed =>
          not_closing_infix_of_first?_none h (hclosed.trans (List.prefix_append cs more).isInfix)
        simp [first?, splitClosing?_eq_none_iff.mpr hopen, isBlank]
      · have hline : ¬ (c = '/' ∧ d = '/') := by
          rintro ⟨rfl, rfl⟩
          exact head?_ne_slash_of_first?_none h rfl
        rw [first?, if_neg (Bool.eq_false_iff.mp hblank), if_neg hline, if_neg hdelimited]

/-- Two characters tell that a text starts with no trivia, unless they open a
comment. -/
theorem first?_append_of_two_le {r : List Char} (hlength : 2 ≤ r.length)
    (hopen : ¬ ['/', '*'] <+: r) (h : first? r = none) (more : List Char) :
    first? (r ++ more) = none := by
  match r with
  | c :: d :: cs =>
      apply first?_eq_none (isBlank_eq_false_of_first?_none h)
      intro hc e he
      subst hc
      obtain rfl : d = e := by simpa using he
      constructor
      · rintro rfl
        exact head?_ne_slash_of_first?_none h rfl
      · rintro rfl
        exact hopen ⟨cs, rfl⟩

end Trivia

/-! ## Lexemes -/

namespace Grammar

section Behind

variable {c : Char} {rest more : List Char}

theorem NoPair.of_append (h : NoPair c (rest ++ more)) : NoPair c rest := by
  cases rest with
  | nil => exact noPair_nil c
  | cons d rest => exact h

theorem NoPair.append (h : NoPair c rest) (hne : rest ≠ []) (more : List Char) :
    NoPair c (rest ++ more) := by
  cases rest with
  | nil => exact absurd rfl hne
  | cons d rest => exact h

theorem NoFraction.of_append (h : NoFraction (rest ++ more)) : NoFraction rest := by
  intro d cs hrest
  exact h d (cs ++ more) (by rw [hrest]; rfl)

/-- The one rule that looks at two characters. -/
theorem NoFraction.append_of_two_le (h : NoFraction rest) (hlength : 2 ≤ rest.length)
    (more : List Char) : NoFraction (rest ++ more) := by
  match rest with
  | p :: d :: rest =>
      intro e cs heq
      simp only [List.cons_append, List.cons.injEq] at heq
      exact h e rest (by rw [heq.1, heq.2.1])

end Behind

variable {l : Lexeme} {rest : List Char}

/-- What is read before a text is read before every part of it that starts where it
starts. -/
theorem Reads.of_append {more : List Char} (h : Reads l (rest ++ more)) : Reads l rest := by
  generalize htext : rest ++ more = text at h
  cases h with
  | word hw hstop => exact .word hw (htext ▸ hstop).of_append
  | integer hw hstop hfraction =>
      exact .integer hw (htext ▸ hstop).of_append (htext ▸ hfraction).of_append
  | float hwhole hfraction hstop =>
      exact .float hwhole hfraction (htext ▸ hstop).of_append
  | character c => exact .character c rest
  | malformed hstop => exact .malformed (htext ▸ hstop).of_append
  | string _ hbody => exact .string rest hbody
  | pair _ hs => exact .pair rest hs
  | single hs hpair hopen =>
      exact .single hs (htext ▸ hpair).of_append fun hc => (htext ▸ hopen hc).of_append
  | unexpected hstart hpair => exact .unexpected hstart (htext ▸ hpair).of_append
  | endOfInput | malformedEnd | unterminatedString | unterminatedComment =>
      -- These are read at the end of a text, so there is nothing to cut off.
      obtain rfl : rest = [] := (List.append_eq_nil_iff.mp htext).1
      constructor <;> assumption

/-- Nothing stands behind a lexeme that the end of the text breaks off. -/
theorem Reads.rest_eq_nil_of_unfinished (h : Reads l rest) (hl : Unfinished l) :
    rest = [] := by
  cases h with
  | endOfInput | malformedEnd | unterminatedString | unterminatedComment => rfl
  | malformed => simp [Unfinished] at hl
  | word hw hstop =>
      have hvalid := (denotes_word hw).not_unfinished
      exact absurd hl hvalid
  | _ => simp [Unfinished] at hl

/-- What is read before two characters is read there whatever follows them. -/
theorem Reads.append_of_two_le (h : Reads l rest) (hlength : 2 ≤ rest.length)
    (more : List Char) : Reads l (rest ++ more) := by
  have hne : rest ≠ [] := List.ne_nil_of_length_pos (by omega)
  cases h with
  | word hw hstop => exact .word hw (hstop.append hne more)
  | integer hw hstop hfraction =>
      exact .integer hw (hstop.append hne more) (hfraction.append_of_two_le hlength more)
  | float hwhole hfraction hstop => exact .float hwhole hfraction (hstop.append hne more)
  | character c => exact .character c _
  | malformed hstop => exact .malformed (hstop.append hne more)
  | string _ hbody => exact .string _ hbody
  | pair _ hs => exact .pair _ hs
  | single hs hpair hopen =>
      exact .single hs (hpair.append hne more) fun hc => (hopen hc).append hne more
  | unexpected hstart hpair => exact .unexpected hstart (hpair.append hne more)
  | endOfInput | malformedEnd | unterminatedString | unterminatedComment =>
      exact absurd rfl hne

end Grammar

/-! ## Steps and streams -/

namespace Cursor

open Grammar

section Steps

variable {c : Cursor} {t rest : List Char} {l : Lexeme}

/-- A step is taken in the same way when the text is cut off behind it. -/
theorem Steps.of_extend {more : List Char} (h : (c.extend more).Steps t l (rest ++ more)) :
    c.Steps t l rest := by
  obtain ⟨htext, htrivia, hstop, hreads⟩ := h
  rw [← List.append_assoc] at htrivia hstop
  refine ⟨?_, htrivia.of_append, Trivia.first?_of_append hstop, hreads.of_append⟩
  have hrest : c.rest ++ more = (t ++ (l.spelling ++ rest)) ++ more := by
    rw [List.append_assoc, List.append_assoc]
    exact htext
  exact List.append_cancel_right hrest

/-- A step with two characters behind it is taken in the same way when more text is
put at the end. -/
theorem Steps.extend (h : c.Steps t l rest) (hend : l.kind ≠ .endOfInput)
    (hlength : 2 ≤ rest.length) (more : List Char) :
    (c.extend more).Steps t l (rest ++ more) := by
  have hfinished : ¬ Unfinished l := by
    intro hl
    rw [h.reads.rest_eq_nil_of_unfinished hl] at hlength
    simp at hlength
  have hopen : ¬ ['/', '*'] <+: l.spelling ++ rest :=
    h.reads.not_open_comment fun hkind => hfinished (.inl hkind)
  have htwo : 2 ≤ (l.spelling ++ rest).length := by
    rw [List.length_append]
    omega
  exact h.extend_of hend (Trivia.first?_append_of_two_le htwo hopen h.stop more)
    (h.reads.append_of_two_le hlength more)

end Steps

/-- Every token but the end takes a character. -/
theorem length_tokens_le (c : Cursor) : c.tokens.length ≤ c.rest.length + 1 := by
  induction c using Cursor.induction_steps with
  | hlast c t h =>
      rw [h.tokens_eq_last, List.length_singleton]
      omega
  | hstep c t l rest h hend ih =>
      have hpos := List.length_pos_iff.mpr (h.reads.spelling_ne_nil hend)
      change _ ≤ rest.length + 1 at ih
      rw [h.tokens_eq hend, h.text, List.length_cons, List.length_append, List.length_append]
      omega

/-- The end of the text and two tokens before it apart, the tokens of a text are found
again when more text is put behind it. -/
theorem rdrop_isPrefix_tokens_extend (c : Cursor) (more : List Char) :
    ∃ tokens final, c.tokens = tokens ++ [final] ∧ final.kind = .endOfInput ∧
      tokens.rdrop 2 <+: (c.extend more).tokens := by
  induction c using Cursor.induction_steps with
  | hlast c t h => exact ⟨[], _, h.tokens_eq_last, rfl, List.nil_prefix⟩
  | hstep c t l rest h hend ih =>
      obtain ⟨tokens, final, htokens, hfinal, hprefix⟩ := ih
      refine ⟨l.token (c.location.after t) :: tokens, final, ?_, hfinal, ?_⟩
      · rw [h.tokens_eq hend, htokens]
        rfl
      by_cases hfew : tokens.length < 2
      · have hnil : (l.token (c.location.after t) :: tokens).rdrop 2 = [] := by
          rw [List.rdrop, List.take_eq_nil_iff, List.length_cons]
          left
          omega
        rw [hnil]
        exact List.nil_prefix
      · -- Two tokens behind the step have two characters.
        have hlength : 2 ≤ rest.length := by
          have hle := length_tokens_le (c.moveOver (t ++ l.spelling) rest)
          rw [htokens, List.length_append, List.length_singleton] at hle
          change _ ≤ rest.length + 1 at hle
          omega
        have hcons : (l.token (c.location.after t) :: tokens).rdrop 2 =
            l.token (c.location.after t) :: tokens.rdrop 2 := by
          rw [List.rdrop, List.rdrop, List.length_cons, Nat.sub_add_comm (by omega),
            List.take_succ_cons]
        rw [hcons, (h.extend hend hlength more).tokens_eq hend]
        exact (List.prefix_cons_inj _).mpr hprefix

end Cursor

namespace TokenStream

/-- **Bounded lookahead.**  Without the end and the two tokens before it, the tokens of
a text are the first tokens of every text that begins with it. -/
theorem tokenize_append_rdrop {H : Type} [Handler H Diagnostic] (handler : H)
    (a b : String) :
    ∃ tokens final, (tokenize a handler).1.toList = tokens ++ [final] ∧
      final.kind = .endOfInput ∧ tokens.rdrop 2 <+: (tokenize (a ++ b) handler).1.toList := by
  have hsource : Cursor.ofString (a ++ b) = (Cursor.ofString a).extend b.toList := by
    show ({ rest := (a ++ b).toList } : Cursor) = _
    rw [String.toList_append]
    rfl
  rw [tokenize_fst, tokenize_fst]
  show ∃ tokens final, (Cursor.ofString a).tokens = tokens ++ [final] ∧ _ ∧
    tokens.rdrop 2 <+: (Cursor.ofString (a ++ b)).tokens
  rw [hsource]
  exact (Cursor.ofString a).rdrop_isPrefix_tokens_extend b.toList

/-- Leaving out one token besides the end is not enough. -/
example : ¬ (ofString "1.").toList.rdrop 2 <+: (ofString "1.5").toList := by decide +kernel

end TokenStream

end Lexis
