import Lexis.Proofs.Walks
import Lexis.TokenStream

/-!
# The tokens partition the source

A source text is the trivia and the spellings of its tokens in alternation, with
trivia at both ends.  The spelling of a token is what stood for it in the text:
the delimiters that its text leaves out are put back, and the ones that were
missing are not.

## Main results

* `Cursor.exists_partition` — from any cursor the remaining text is partitioned.
* `TokenStream.tokenize_partition` — so is every source text.
-/

namespace Lexis

/-- `pieces` are the tokens but the last, each with the trivia before it, and
`last` is the trivia before the end of the text. -/
structure Partition (text : List Char) (tokens : List Token)
    (pieces : List (List Char × Token)) (last : List Char) : Prop where
  tokens : ∃ final, final.lexeme = ⟨.endOfInput, []⟩ ∧
    tokens = pieces.map Prod.snd ++ [final]
  text : text = (pieces.flatMap fun p => p.1 ++ p.2.spelling) ++ last
  trivia : ∀ p ∈ pieces, Trivia.Precedes p.1 p.2.spelling
  spelling : ∀ p ∈ pieces, p.2.kind ≠ .endOfInput ∧ p.2.spelling ≠ []
  last : Trivia.Precedes last []

theorem Partition.cons {text t : List Char} {token : Token} {tokens : List Token}
    {pieces : List (List Char × Token)} {last : List Char}
    (h : Partition text tokens pieces last)
    (ht : Trivia.Precedes t (token.spelling ++ text)) (hkind : token.kind ≠ .endOfInput)
    (hne : token.spelling ≠ []) :
    Partition (t ++ (token.spelling ++ text)) (token :: tokens) ((t, token) :: pieces) last := by
  obtain ⟨⟨final, hfinal, htokens⟩, htext, htrivia, hspelling, hlast⟩ := h
  refine ⟨⟨final, hfinal, ?_⟩, ?_, ?_, ?_, hlast⟩
  · rw [htokens]
    rfl
  · rw [htext]
    simp only [List.flatMap_cons, List.append_assoc]
  · intro p hp
    rcases List.mem_cons.mp hp with rfl | hp
    · exact ht.of_append
    · exact htrivia p hp
  · intro p hp
    rcases List.mem_cons.mp hp with rfl | hp
    · exact ⟨hkind, hne⟩
    · exact hspelling p hp

/-- The text that remains at a cursor is partitioned by the tokens from there. -/
theorem Cursor.exists_partition (c : Cursor) :
    ∃ pieces last, Partition c.rest c.tokens pieces last := by
  induction c using Cursor.induction_steps with
  | hlast c t h =>
      refine ⟨[], t, ⟨_, ?_, h.tokens_eq_last⟩, ?_, ?_, ?_, h.trivia⟩
      · exact Lexeme.lexeme_token _ _
      · exact h.rest_eq_of_last
      · intro p hp
        simp at hp
      · intro p hp
        simp at hp
  | hstep c t l rest h hend ih =>
      obtain ⟨pieces, last, hpieces⟩ := ih
      have hspelling := l.spelling_token (c.location.after t)
      have hne := h.reads.spelling_ne_nil hend
      have hcons := hpieces.cons (hspelling.symm ▸ h.trivia) hend (hspelling.symm ▸ hne)
      rw [hspelling] at hcons
      rw [h.tokens_eq hend, h.text]
      exact ⟨_, last, hcons⟩

namespace TokenStream

/-- **The tokens partition the source.**  Whoever receives the reports, the
source text is the trivia before each token, followed by the spelling of the
token, for all the tokens in order, and trivia at the end. -/
theorem tokenize_partition {H : Type} [Handler H Diagnostic] (source : String)
    (handler : H) :
    ∃ pieces last,
      Partition source.toList (tokenize source handler).1.toList pieces last := by
  rw [tokenize_fst]
  exact Cursor.exists_partition (.ofString source)

end TokenStream

end Lexis
