import Lexis.Proofs.Lookahead
import Lexis.Proofs.Positions

/-!
# Recovery from malformed text

A malformed token is followed by others, so it matters how much of the text it takes with
it.  Reading goes wrong in two ways.  A comment, a string or a quote is broken off by the end
of the text.  Then nothing but the end is behind it, so this happens only once.  Everything
else that is malformed is one character that starts nothing, or a quote and the character
behind it, and reading goes on directly behind that.

## Main definitions

* `Token.Taken` — where a token stands, and that the next ones are read directly behind it.
* `Token.BrokenOff`, `Token.Stray` — the two ways of being malformed.

## Main results

* `Cursor.countP_unfinished_le` — one token at most is broken off.
* `Cursor.exists_walk_append` — the step that finds a token, and what it leaves to the next.
* `Grammar.Reads.brokenOff`, `Grammar.Reads.stray` — what is read as malformed.
* `TokenStream.tokenize_recovers` — how the tokens of a source go on behind a malformed one.
-/

namespace Lexis

open Grammar (Unfinished)

/-! ## Tokens that are broken off -/

namespace Cursor

/-- One token at most is broken off by the end of the text. -/
theorem countP_unfinished_le (c : Cursor) :
    c.tokens.countP (fun t => decide (Unfinished t.lexeme)) ≤ 1 := by
  have hfinal : ∀ place, [Lexeme.token ⟨.endOfInput, []⟩ place].countP
      (fun t => decide (Unfinished t.lexeme)) = 0 := by
    intro place
    rw [List.countP_singleton, Lexeme.lexeme_token]
    rfl
  induction c using Cursor.induction_steps with
  | hlast c t h =>
      rw [h.tokens_eq_last, hfinal]
      exact Nat.zero_le 1
  | hstep c t l rest h hend ih =>
      rw [h.tokens_eq hend]
      by_cases hl : Unfinished l
      · -- Nothing is left for a second one.
        obtain rfl := h.reads.rest_eq_nil_of_unfinished hl
        rw [tokens_of_rest_eq_nil rfl, List.countP_cons, hfinal]
        split <;> omega
      · rw [List.countP_cons_of_neg (by simpa using hl)]
        exact ih

end Cursor

/-! ## The step that finds a token -/

namespace Cursor

/-- The tokens before a token lead to the step that finds it.  Those behind it are found
from the place behind that step. -/
theorem exists_walk_append {c : Cursor} {front more : List Token} {token : Token}
    (htokens : c.tokens = front ++ token :: more) (hkind : token.kind ≠ .endOfInput) :
    ∃ d t l rest, Walk c front d ∧ d.Steps t l rest ∧
      token = l.token (d.location.after t) ∧ more = (d.moveOver (t ++ l.spelling) rest).tokens := by
  induction front generalizing c with
  | nil =>
      obtain ⟨t, l, rest, h⟩ := c.exists_steps
      by_cases hend : l.kind = .endOfInput
      · obtain ⟨rfl, rfl⟩ := h.reads.eq_endOfInput hend
        rw [h.tokens_eq_last, List.nil_append, List.cons.injEq] at htokens
        exact absurd (htokens.1 ▸ rfl) hkind
      · rw [h.tokens_eq hend, List.nil_append, List.cons.injEq] at htokens
        exact ⟨c, t, l, rest, .nil c, h, htokens.1.symm, htokens.2.symm⟩
  | cons first front ih =>
      obtain ⟨t, l, rest, h⟩ := c.exists_steps
      by_cases hend : l.kind = .endOfInput
      · obtain ⟨rfl, rfl⟩ := h.reads.eq_endOfInput hend
        rw [h.tokens_eq_last, List.cons_append, List.cons.injEq] at htokens
        exact absurd htokens.2 (by simp)
      · rw [h.tokens_eq hend, List.cons_append, List.cons.injEq] at htokens
        obtain ⟨hfirst, hbehind⟩ := htokens
        obtain ⟨d, t', l', rest', hwalk, hstep, htoken, hmore⟩ := ih hbehind
        exact ⟨d, t', l', rest', hfirst ▸ .cons h hend hwalk, hstep, htoken, hmore⟩

end Cursor

/-! ## Malformed tokens -/

namespace Token

/-- The token stands in the source between `before` and `behind`, and the tokens `more` are
those that are found from the place directly behind it. -/
structure Taken (t : Token) (source : String) (before behind : List Char)
    (more : List Token) : Prop where
  text : source.toList = before ++ (t.spelling ++ behind)
  location : t.location = .ofEnd before
  more : more = ((Cursor.ofString source).moveOver (before ++ t.spelling) behind).tokens

/-- What the end of the text `source` breaks off, by kind and text. -/
inductive BrokenOff (source : List Char) : Kind → List Char → Prop where
  | comment {text : List Char} : ['/', '*'] <+: text → text <:+ source →
      BrokenOff source (.invalid .unterminatedComment) text
  | string {text : List Char} : '\x22' ∉ text → '\x22' :: text <:+ source →
      BrokenOff source (.invalid .unterminatedString) text
  | quote : ['\x27'] <:+ source → BrokenOff source (.invalid .malformedCharacter) []

/-- What else is malformed in front of the text `behind`, by kind and text, with the
characters that are taken for it. -/
inductive Stray (behind : List Char) : Kind → List Char → List Char → Prop where
  | quote (c : Char) : behind.head? ≠ some '\x27' →
      Stray behind (.invalid .malformedCharacter) [c] ['\x27', c]
  | character {c : Char} : Trivia.isBlank c = false → Lexeme.isWordPart c = false →
      c ≠ '\x27' → c ≠ '\x22' → (∀ s : Symbol, s.spelling.toList ≠ [c]) →
      (c = '!' → behind.head? ≠ some '=') →
      Stray behind (.invalid .unexpectedCharacter) [c] [c]

theorem Stray.length_le {behind text spelling : List Char} {kind : Kind}
    (h : Stray behind kind text spelling) : spelling.length ≤ 2 := by
  cases h with
  | quote c hbehind => exact Nat.le_refl 2
  | character => exact Nat.le_succ 1

end Token

namespace Grammar

open Lexeme

variable {l : Lexeme} {before rest : List Char}

theorem NoStart.isWordPart_eq_false {c : Char} (h : NoStart c) : isWordPart c = false := by
  have hword := h.word
  rw [isWordStart, Bool.or_eq_false_iff] at hword
  rw [isWordPart, Char.isAlphanum, hword.1, h.digit, hword.2]
  rfl

/-- What is read as broken off ends the text. -/
theorem Reads.brokenOff (h : Reads l rest) (hl : Unfinished l) (before : List Char) :
    Token.BrokenOff (before ++ (l.spelling ++ rest)) l.kind l.text := by
  cases h with
  | malformedEnd => exact .quote (List.suffix_append before _)
  | unterminatedString hbody =>
      rw [List.append_nil]
      exact .string hbody (List.suffix_append before _)
  | unterminatedComment cs =>
      rw [List.append_nil]
      exact .comment ⟨cs, rfl⟩ (List.suffix_append before _)
  | word hw hstop => exact absurd hl (denotes_word hw).not_unfinished
  | _ => simp [Unfinished] at hl

/-- What else is read as malformed is one character, or a quote and one character. -/
theorem Reads.stray (h : Reads l rest) (hinvalid : l.kind.isInvalid = true)
    (hl : ¬ Unfinished l) (hstop : Trivia.first? (l.spelling ++ rest) = none) :
    Token.Stray rest l.kind l.text l.spelling := by
  cases h with
  | malformed hquote =>
      refine .quote _ fun hhead => ?_
      have hne := hquote '\x27' hhead
      simp at hne
  | unexpected hstart hpair =>
      refine .character (Trivia.isBlank_eq_false_of_first?_none hstop)
        hstart.isWordPart_eq_false hstart.quote hstart.doubleQuote hstart.symbol ?_
      rintro rfl hhead
      exact hpair '=' hhead .notEqual rfl
  | malformedEnd => exact absurd (.inr (.inr ⟨rfl, rfl⟩)) hl
  | unterminatedString hbody => exact absurd (.inr (.inl rfl)) hl
  | unterminatedComment cs => exact absurd (.inl rfl) hl
  | word hw hstop =>
      rw [isInvalid_wordKind] at hinvalid
      exact absurd hinvalid Bool.false_ne_true
  | endOfInput | integer | float | character | string | pair | single =>
      exact absurd hinvalid Bool.false_ne_true

end Grammar

namespace TokenStream

/-- **Recovery.**  One token of a source at most is broken off by the end of the source.
Behind such a token stands nothing, and the end token follows it.  Every other malformed
token takes at most two characters, which start nothing else, and the tokens that follow it
are those that are found directly behind these characters. -/
theorem tokenize_recovers {H : Type} [Handler H Diagnostic] (source : String) (handler : H) :
    (tokenize source handler).1.toList.countP (fun t => decide (Unfinished t.lexeme)) ≤ 1 ∧
      ∀ front t more, (tokenize source handler).1.toList = front ++ t :: more →
        t.isInvalid = true → ∃ before behind, t.Taken source before behind more ∧
          (Unfinished t.lexeme → behind = [] ∧
            (∃ final, more = [final] ∧ final.kind = .endOfInput) ∧
            Token.BrokenOff source.toList t.kind t.text.toList) ∧
          (¬ Unfinished t.lexeme → t.spelling.length ≤ 2 ∧
            Token.Stray behind t.kind t.text.toList t.spelling) := by
  rw [tokenize_fst]
  refine ⟨(Cursor.ofString source).countP_unfinished_le, ?_⟩
  intro front token more htokens hinvalid
  change (Cursor.ofString source).tokens = _ at htokens
  have hkind : token.kind ≠ .endOfInput := by
    intro hend
    rw [Token.isInvalid, hend] at hinvalid
    exact absurd hinvalid (by decide)
  obtain ⟨d, t, l, rest, hwalk, hstep, rfl, rfl⟩ := Cursor.exists_walk_append htokens hkind
  obtain ⟨taken, hsource, hd⟩ := hwalk.exists_moveOver
  change source.toList = taken ++ d.rest at hsource
  have htext : source.toList = (taken ++ t) ++ (l.spelling ++ rest) := by
    rw [hsource, hstep.text, List.append_assoc]
  refine ⟨taken ++ t, rest, ⟨?_, ?_, ?_⟩, ?_, ?_⟩
  · rw [Lexeme.spelling_token]
    exact htext
  · rw [← Location.after_start, Location.after_append, hd]
    rfl
  · rw [Lexeme.spelling_token, hd, Cursor.moveOver_moveOver, List.append_assoc]
  · intro hl
    rw [Lexeme.lexeme_token] at hl
    have hrest := hstep.reads.rest_eq_nil_of_unfinished hl
    refine ⟨hrest, ?_, ?_⟩
    · rw [Cursor.tokens_of_rest_eq_nil hrest]
      exact ⟨_, rfl, rfl⟩
    · have hbroken := hstep.reads.brokenOff hl (taken ++ t)
      rw [← htext] at hbroken
      rwa [Lexeme.token, String.toList_ofList]
  · intro hl
    rw [Lexeme.lexeme_token] at hl
    have hstray := hstep.reads.stray hinvalid hl hstep.stop
    rw [Lexeme.spelling_token, Lexeme.token, String.toList_ofList]
    exact ⟨hstray.length_le, hstray⟩

/-- A quote that does not enclose one character, and a quote at the end. -/
theorem tokenize_recovers_quotes :
    let first : Token := ⟨.invalid .malformedCharacter, "a", ⟨1, 1⟩⟩
    let word : Token := ⟨.identifier, "b", ⟨1, 3⟩⟩
    let last : Token := ⟨.invalid .malformedCharacter, "", ⟨1, 4⟩⟩
    let final : Token := ⟨.endOfInput, "", ⟨1, 5⟩⟩
    (ofString "'ab'").toList = [first, word, last, final] ∧
      (∃ before behind, first.Taken "'ab'" before behind [word, last, final] ∧
        Token.Stray behind first.kind first.text.toList first.spelling) ∧
      ∃ before, last.Taken "'ab'" before [] [final] ∧
        Token.BrokenOff "'ab'".toList last.kind last.text.toList := by
  intro first word last final
  have htokens : (ofString "'ab'").toList = [first, word, last, final] := by decide +kernel
  obtain ⟨-, hmalformed⟩ := tokenize_recovers "'ab'" (⟨#[]⟩ : Storage Diagnostic)
  rw [tokenize_fst] at hmalformed
  obtain ⟨before, behind, hfirst, -, hstray⟩ := hmalformed [] first _ htokens rfl
  obtain ⟨before', behind', hlast, hbroken, -⟩ := hmalformed [first, word] last _ htokens rfl
  obtain ⟨rfl, -, hbroken⟩ := hbroken (by decide)
  exact ⟨htokens, ⟨before, behind, hfirst, (hstray (by decide)).2⟩, before', hlast, hbroken⟩

end TokenStream

end Lexis
