import Lexis.Proofs.Reading
import Lexis.Proofs.Trivia
import Lexis.Scanner.Basic

/-!
# Steps of a walk

One step of a walk goes over a run of trivia and over one lexeme.  `Cursor.Steps`
says all that such a step can do, in the terms of the two grammars: the trivia
precedes what is read, no further trivia stands there, and the lexeme satisfies
the rules of reading.  From any cursor there is exactly one such step, and it is
the one that `Cursor.next` takes; a walk is then followed without opening
`Cursor.next` again.  A `Cursor.Walk` is some steps one behind the other, short of
the end of the text.

## Main results

* `Cursor.exists_steps`, `Cursor.Steps.next_eq` — the step that is taken.
* `Cursor.tokens_of_precedes` — trivia in front changes the places alone.
* `Cursor.induction_steps` — induction along the steps up to the end of a text.
* `Cursor.exists_walk`, `Cursor.exists_walk_of_mem` — a walk leads to the end, and to
  the step that finds any one token.
* `Scanner.Reachable.exists_consumed` — a scanner that has walked over some text
  has the rest of its source before it, and stands where that text ends.
-/

namespace Lexis

/-- The kind and the text of a token, without its place. -/
def Token.lexeme (t : Token) : Lexeme := ⟨t.kind, t.text.toList⟩

@[simp] theorem Token.spelling_lexeme (t : Token) : t.lexeme.spelling = t.spelling := rfl

/-- The token that a lexeme makes at a place. -/
def Lexeme.token (l : Lexeme) (place : Location) : Token :=
  ⟨l.kind, String.ofList l.text, place⟩

@[simp] theorem Lexeme.lexeme_token (l : Lexeme) (place : Location) :
    (l.token place).lexeme = l := by
  rw [token, Token.lexeme, String.toList_ofList]

@[simp] theorem Lexeme.spelling_token (l : Lexeme) (place : Location) :
    (l.token place).spelling = l.spelling := by
  rw [← Token.spelling_lexeme, lexeme_token]

namespace Cursor

open Grammar

/-- From the cursor `c` a step goes over the trivia `t` and the lexeme `l`, and
leaves `rest` behind them. -/
structure Steps (c : Cursor) (t : List Char) (l : Lexeme) (rest : List Char) : Prop where
  text : c.rest = t ++ (l.spelling ++ rest)
  trivia : Trivia.Precedes t (l.spelling ++ rest)
  stop : Trivia.first? (l.spelling ++ rest) = none
  reads : Reads l rest

section Steps

variable {c : Cursor} {t rest : List Char} {l : Lexeme}

theorem Steps.split_eq (h : c.Steps t l rest) :
    Trivia.split c.rest = (t, l.spelling ++ rest) := by
  rw [h.text, Trivia.split_append_of_precedes h.trivia,
    Trivia.split_of_first?_none h.stop, List.append_nil]

theorem Steps.skipTrivia_eq (h : c.Steps t l rest) :
    c.skipTrivia = c.moveOver t (l.spelling ++ rest) := by
  rw [skipTrivia, h.split_eq]

/-- The token that a step finds, and the cursor behind it. -/
theorem Steps.next_eq (h : c.Steps t l rest) :
    c.next = (l.token (c.location.after t), c.moveOver (t ++ l.spelling) rest) := by
  have hread : Lexeme.read c.skipTrivia.rest = (l, rest) := by
    rw [h.skipTrivia_eq]
    exact h.reads.read_eq
  rw [Cursor.next_eq, hread, h.skipTrivia_eq]
  simp only [moveOver_moveOver]
  rfl

theorem Steps.lexeme_next (h : c.Steps t l rest) : c.next.1.lexeme = l := by
  rw [h.next_eq]
  exact l.lexeme_token _

theorem Steps.longest (h : c.Steps t l rest) : Trivia.Longest t (l.spelling ++ rest) := by
  have hlongest := Trivia.longest_split c.rest
  rwa [h.split_eq] at hlongest

end Steps

/-- From every cursor there is a step. -/
theorem exists_steps (c : Cursor) : ∃ t l rest, c.Steps t l rest := by
  have hread := Lexeme.read_append (Trivia.split c.rest).2
  refine ⟨(Trivia.split c.rest).1, (Lexeme.read (Trivia.split c.rest).2).1,
    (Lexeme.read (Trivia.split c.rest).2).2, ?_⟩
  constructor
  · rw [hread, Trivia.split_append]
  · rw [hread]
    exact Trivia.precedes_split c.rest
  · rw [hread]
    exact Trivia.first?_split c.rest
  · exact reads_read _

/-! ## All the steps up to the end of the text -/

theorem Steps.rest_eq_of_last {c : Cursor} {t : List Char}
    (h : c.Steps t ⟨.endOfInput, []⟩ []) : c.rest = t := by
  rw [h.text]
  exact List.append_nil t

/-- The step that finds the end of the text is the last one. -/
theorem Steps.tokens_eq_last {c : Cursor} {t : List Char}
    (h : c.Steps t ⟨.endOfInput, []⟩ []) :
    c.tokens = [Lexeme.token ⟨.endOfInput, []⟩ (c.location.after c.rest)] := by
  have hkind : c.next.1.kind = .endOfInput := by
    rw [h.next_eq]
    rfl
  rw [tokens_of_next_end hkind, h.next_eq, h.rest_eq_of_last]

/-- Where nothing remains, the end is found. -/
theorem tokens_of_rest_eq_nil {c : Cursor} (hrest : c.rest = []) :
    c.tokens = [Lexeme.token ⟨.endOfInput, []⟩ c.location] := by
  have hlast : c.Steps [] ⟨.endOfInput, []⟩ [] := ⟨hrest, .nil _, rfl, .endOfInput⟩
  rw [hlast.tokens_eq_last, hrest, Location.after_nil]

/-- Every other step is followed by those from the place behind it. -/
theorem Steps.tokens_eq {c : Cursor} {t rest : List Char} {l : Lexeme}
    (h : c.Steps t l rest) (hend : l.kind ≠ .endOfInput) :
    c.tokens =
      l.token (c.location.after t) :: (c.moveOver (t ++ l.spelling) rest).tokens := by
  have hkind : c.next.1.kind ≠ .endOfInput := by
    rw [h.next_eq]
    exact hend
  rw [tokens_of_next hkind, h.next_eq]

/-- Trivia may be moved over before the tokens are asked for. -/
theorem tokens_of_precedes {c : Cursor} {t r : List Char} (hrest : c.rest = t ++ r)
    (ht : Trivia.Precedes t r) : c.tokens = (c.moveOver t r).tokens := by
  obtain ⟨t', l, rest, h⟩ := (c.moveOver t r).exists_steps
  have htext : r = t' ++ (l.spelling ++ rest) := h.text
  have hstep : c.Steps (t ++ t') l rest := by
    constructor
    · rw [hrest, htext, List.append_assoc]
    · exact (htext ▸ ht).append h.trivia
    · exact h.stop
    · exact h.reads
  by_cases hend : l.kind = .endOfInput
  · obtain ⟨rfl, rfl⟩ := h.reads.eq_endOfInput hend
    rw [hstep.tokens_eq_last, h.tokens_eq_last, hrest]
    simp only [moveOver, Location.after_append]
  · rw [hstep.tokens_eq hend, h.tokens_eq hend, moveOver_moveOver, List.append_assoc]
    simp only [moveOver, Location.after_append]

/-- A property of cursors holds everywhere if the last step establishes it and
every other step takes it over from the place behind it. -/
theorem induction_steps {P : Cursor → Prop}
    (hlast : ∀ c t, c.Steps t ⟨.endOfInput, []⟩ [] → P c)
    (hstep : ∀ c t l rest, c.Steps t l rest → l.kind ≠ .endOfInput →
      P (c.moveOver (t ++ l.spelling) rest) → P c) (c : Cursor) : P c := by
  induction hlength : c.rest.length using Nat.strongRecOn generalizing c with
  | ind n ih =>
      obtain ⟨t, l, rest, h⟩ := c.exists_steps
      by_cases hend : l.kind = .endOfInput
      · obtain ⟨rfl, rfl⟩ := h.reads.eq_endOfInput hend
        exact hlast c t h
      · have hpos := List.length_pos_iff.mpr (h.reads.spelling_ne_nil hend)
        have hshorter : rest.length < n := by
          rw [← hlength, h.text, List.length_append, List.length_append]
          omega
        exact hstep c t l rest h hend (ih rest.length hshorter _ rfl)

/-! ## Some of the steps -/

/-- From `c` a walk finds the tokens, the end not among them, and comes to `c'`. -/
inductive Walk : Cursor → List Token → Cursor → Prop where
  | nil (c : Cursor) : Walk c [] c
  | cons {c c' : Cursor} {t rest : List Char} {l : Lexeme} {tokens : List Token} :
      c.Steps t l rest → l.kind ≠ .endOfInput →
      Walk (c.moveOver (t ++ l.spelling) rest) tokens c' →
      Walk c (l.token (c.location.after t) :: tokens) c'

section Walk

variable {c c' : Cursor} {tokens : List Token}

theorem Walk.tokens_eq (h : Walk c tokens c') : c.tokens = tokens ++ c'.tokens := by
  induction h with
  | nil c => rfl
  | cons h hend _ ih =>
      rw [h.tokens_eq hend, ih]
      rfl

theorem Walk.kind_ne_endOfInput (h : Walk c tokens c') :
    ∀ token ∈ tokens, token.kind ≠ .endOfInput := by
  induction h with
  | nil c =>
      intro token htoken
      simp at htoken
  | cons h hend _ ih =>
      intro token htoken
      rcases List.mem_cons.mp htoken with rfl | htoken
      · exact hend
      · exact ih token htoken

/-- A walk moves over the text that it leaves behind. -/
theorem Walk.exists_moveOver (h : Walk c tokens c') :
    ∃ taken, c.rest = taken ++ c'.rest ∧ c' = c.moveOver taken c'.rest := by
  induction h with
  | nil c => exact ⟨[], rfl, rfl⟩
  | @cons c c' t rest l tokens h _ _ ih =>
      obtain ⟨taken, hrest, hc'⟩ := ih
      change rest = taken ++ c'.rest at hrest
      rw [moveOver_moveOver] at hc'
      refine ⟨(t ++ l.spelling) ++ taken, ?_, hc'⟩
      rw [h.text, hrest]
      simp only [List.append_assoc]

end Walk

/-- Every walk can be taken on to the end of the text. -/
theorem exists_walk (c : Cursor) :
    ∃ tokens d t, Walk c tokens d ∧ d.Steps t ⟨.endOfInput, []⟩ [] := by
  induction c using Cursor.induction_steps with
  | hlast c t h => exact ⟨[], c, t, .nil c, h⟩
  | hstep c t l rest h hend ih =>
      obtain ⟨tokens, d, t', hwalk, hlast⟩ := ih
      exact ⟨_, d, t', .cons h hend hwalk, hlast⟩

/-- Every token of a text is found by a step to which a walk leads. -/
theorem exists_walk_of_mem {c : Cursor} {token : Token} (htoken : token ∈ c.tokens) :
    ∃ tokens d t l rest, Walk c tokens d ∧ d.Steps t l rest ∧
      token = l.token (d.location.after t) := by
  induction c using Cursor.induction_steps with
  | hlast c t h =>
      rw [h.tokens_eq_last, List.mem_singleton] at htoken
      exact ⟨[], c, t, _, [], .nil c, h, by rw [htoken, h.rest_eq_of_last]⟩
  | hstep c t l rest h hend ih =>
      rw [h.tokens_eq hend] at htoken
      rcases List.mem_cons.mp htoken with rfl | htoken
      · exact ⟨[], c, t, l, rest, .nil c, h, rfl⟩
      · obtain ⟨tokens, d, t', l', rest', hwalk, hfound⟩ := ih htoken
        exact ⟨_, d, t', l', rest', .cons h hend hwalk, hfound⟩

end Cursor

namespace Scanner

/-- The scanners to which a walk through the source text comes, whichever way
the tokens are asked for. -/
inductive Reachable (source : String) : Scanner → Prop where
  | start : Reachable source (ofString source)
  | next {s : Scanner} : Reachable source s → Reachable source s.next.2
  | next? {s : Scanner} : Reachable source s → Reachable source s.next?.2

/-- A property of cursors that every step keeps holds of all scanners of a walk. -/
theorem Reachable.invariant {source : String} {P : Cursor → Prop}
    (hstart : P (.ofString source)) (hstep : ∀ c, P c → P c.next.2) {s : Scanner}
    (h : Reachable source s) : P s.cursor := by
  induction h with
  | start => exact hstart
  | next _ ih => exact hstep _ ih
  | @next? s _ ih =>
      by_cases hend : s.endYielded = true
      · rw [Scanner.next?, if_pos hend]
        exact ih
      · rw [Scanner.next?, if_neg hend]
        exact hstep _ ih

/-- What has been walked over and what remains make up the source, and the
cursor has moved over just that text. -/
theorem Reachable.exists_consumed {source : String} {s : Scanner}
    (h : Reachable source s) :
    ∃ consumed, source.toList = consumed ++ s.cursor.rest ∧
      s.cursor = (Cursor.ofString source).moveOver consumed s.cursor.rest := by
  apply h.invariant (P := fun c => ∃ consumed, source.toList = consumed ++ c.rest ∧
    c = (Cursor.ofString source).moveOver consumed c.rest)
  · exact ⟨[], rfl, rfl⟩
  · intro c hc
    obtain ⟨consumed, hsource, hcursor⟩ := hc
    obtain ⟨taken, htaken, hnext⟩ := c.exists_next_eq_moveOver
    refine ⟨consumed ++ taken, ?_, ?_⟩
    · rw [hsource, ← htaken, List.append_assoc]
    · rw [← Cursor.moveOver_moveOver, ← hcursor]
      exact hnext

end Scanner

end Lexis
