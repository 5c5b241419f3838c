import Lexis.Proofs.Walks
import Lexis.TokenStream

/-!
# Places of tokens

The kinds and the texts of tokens depend on the text alone, and their places on
where the walk through it starts.  A map of places that agrees with moving over
text can therefore be applied before the walk or behind it.  Moving down by some
lines is such a map, and a place behind a newline is a line's start moved down.

## Main results

* `Cursor.tokens_relocate` — walking from another place relocates the tokens.
* `Diagnostic.ofToken?_relocate` — and with them the reports.
* `Location.after_append_newline` — the place behind a text and a newline.
-/

namespace Lexis

namespace Location

/-- The place in the same column, some lines further down. -/
def down (lines : Nat) (l : Location) : Location := ⟨l.line + lines, l.column⟩

theorem advance_down (n : Nat) (l : Location) (c : Char) :
    (l.down n).advance c = (l.advance c).down n := by
  by_cases hc : c = '\n'
  · simp only [advance, down, if_pos hc, Location.mk.injEq, and_true]
    omega
  · simp only [advance, down, if_neg hc]

theorem after_down (n : Nat) (l : Location) (cs : List Char) :
    (l.down n).after cs = (l.after cs).down n := by
  induction cs generalizing l with
  | nil => rfl
  | cons c cs ih =>
      rw [after_cons, after_cons, advance_down]
      exact ih (l.advance c)

/-- Every newline that is moved over starts a line. -/
theorem line_after (l : Location) (cs : List Char) :
    (l.after cs).line = l.line + cs.count '\n' := by
  induction cs generalizing l with
  | nil => rfl
  | cons c cs ih =>
      rw [after_cons, ih]
      by_cases hc : c = '\n'
      · subst hc
        rw [List.count_cons_self]
        show l.line + 1 + _ = _
        omega
      · rw [List.count_cons_of_ne hc]
        simp only [advance, if_neg hc]

theorem after_append_newline (cs : List Char) :
    start.after (cs ++ ['\n']) = start.down (1 + cs.count '\n') := by
  have hline := line_after start cs
  rw [after_append, after_cons, after_nil]
  show (⟨(start.after cs).line + 1, 1⟩ : Location) = ⟨start.line + (1 + cs.count '\n'), 1⟩
  rw [hline, Location.mk.injEq]
  omega

end Location

/-! ## Relocating tokens and reports -/

section Relocate

variable (f : Location → Location)

/-- The same token at the place that `f` assigns to its own. -/
def Token.relocate (t : Token) : Token := { t with location := f t.location }

/-- The same report at the place that `f` assigns to its own. -/
def Diagnostic.relocate : Diagnostic → Diagnostic
  | .unterminatedComment l => .unterminatedComment (f l)
  | .unterminatedString l content => .unterminatedString (f l) content
  | .malformedCharacter l content => .malformedCharacter (f l) content
  | .unexpectedCharacter l c => .unexpectedCharacter (f l) c

/-- The report on a relocated token is the relocated report. -/
theorem Diagnostic.ofToken?_relocate (t : Token) :
    ofToken? (t.relocate f) = (ofToken? t).map (relocate f) := by
  obtain ⟨kind, text, place⟩ := t
  cases kind with
  | invalid defect =>
      cases defect with
      | unexpectedCharacter =>
          simp only [ofToken?, Token.relocate, Option.map_map]
          rfl
      | unterminatedComment | unterminatedString | malformedCharacter => rfl
  | _ => rfl

theorem Diagnostic.filterMap_ofToken?_relocate (ts : List Token) :
    (ts.map (Token.relocate f)).filterMap ofToken? =
      (ts.filterMap ofToken?).map (relocate f) := by
  rw [List.filterMap_map, List.map_filterMap]
  congr 1
  funext t
  exact ofToken?_relocate f t

/-- A step depends on the text alone. -/
theorem Cursor.Steps.of_rest_eq {c c' : Cursor} {t rest : List Char} {l : Lexeme}
    (h : c.Steps t l rest) (hrest : c'.rest = c.rest) : c'.Steps t l rest :=
  ⟨hrest.trans h.text, h.trivia, h.stop, h.reads⟩

/-- Two walks through one text from different places find the same tokens, at
places that correspond as the two starts do. -/
theorem Cursor.tokens_relocate (c : Cursor) :
    ∀ c' : Cursor, c'.rest = c.rest →
      (∀ cs, c'.location.after cs = f (c.location.after cs)) →
      c'.tokens = c.tokens.map (Token.relocate f) := by
  induction c using Cursor.induction_steps with
  | hlast c t h =>
      intro c' hrest hplace
      have h' := h.of_rest_eq hrest
      rw [h.tokens_eq_last, h'.tokens_eq_last, hrest, hplace]
      rfl
  | hstep c t l rest h hend ih =>
      intro c' hrest hplace
      have h' := h.of_rest_eq hrest
      have hbehind : ∀ cs, (c'.moveOver (t ++ l.spelling) rest).location.after cs =
          f ((c.moveOver (t ++ l.spelling) rest).location.after cs) := by
        intro cs
        show (c'.location.after _).after cs = f ((c.location.after _).after cs)
        rw [← Location.after_append, ← Location.after_append]
        exact hplace _
      have htokens := ih (c'.moveOver (t ++ l.spelling) rest) rfl hbehind
      rw [h.tokens_eq hend, h'.tokens_eq hend, htokens, hplace]
      rfl

end Relocate

end Lexis
