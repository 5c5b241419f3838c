import Lexis.Proofs.Lookahead
import Lexis.Proofs.Positions

/-!
# Splitting a text between two tokens

A walk that has not yet come to the end stands behind its last token.  Cut there, the
source falls into two texts.  The first has the tokens that were found, since no step
needs what is cut off behind it.  The second has the tokens that are still to come,
at places counted from the cut: what it calls its first line is the rest of the line
that was cut, and its other lines are lines of their own.

## Main definitions

* `Scanner.take` — the tokens of some calls of `Scanner.next`.
* `Location.rebase` — a place counted from another one.

## Main results

* `Cursor.Walk.of_extend` — the text behind a walk can be cut off.
* `Location.after_eq_rebase` — from where the second text is counted.
* `TokenStream.tokenize_split` — the tokens of the two texts.
-/

namespace Lexis

/-! ## Places counted from another place -/

namespace Location

/-- The place `l` of a text that starts at `origin`. -/
def rebase (origin l : Location) : Location :=
  if l.line = 1 then ⟨origin.line, origin.column + l.column - 1⟩
  else ⟨origin.line + l.line - 1, l.column⟩

theorem rebase_start (origin : Location) : origin.rebase start = origin := rfl

/-- Counting goes on as it does in the text itself, from line 1 and column 1 on. -/
theorem rebase_advance {l : Location} (hline : 1 ≤ l.line) (hcolumn : 1 ≤ l.column)
    (origin : Location) (c : Char) :
    (origin.rebase l).advance c = origin.rebase (l.advance c) := by
  by_cases hc : c = '\n'
  · -- The line behind is not the first one, whichever line `l` is on.
    have hnext : l.line + 1 ≠ 1 := by omega
    simp only [advance, if_pos hc, rebase, if_neg hnext]
    by_cases hfirst : l.line = 1
    · rw [if_pos hfirst, hfirst]
      rfl
    · rw [if_neg hfirst, Location.mk.injEq]
      simp only [and_true]
      omega
  · simp only [advance, if_neg hc, rebase]
    by_cases hfirst : l.line = 1
    · rw [if_pos hfirst, if_pos hfirst, Location.mk.injEq]
      simp only [true_and]
      omega
    · rw [if_neg hfirst, if_neg hfirst]

/-- What is counted from `origin` on is counted from the start and rebased. -/
theorem after_eq_rebase (origin : Location) (cs : List Char) :
    origin.after cs = origin.rebase (start.after cs) := by
  induction cs using List.reverseRecOn with
  | nil => exact (rebase_start origin).symm
  | append_singleton cs c ih =>
      have hline : 1 ≤ (start.after cs).line := by
        rw [after_start]
        exact Nat.le_add_right 1 _
      have hcolumn : 1 ≤ (start.after cs).column := by
        rw [after_start]
        exact Nat.le_add_right 1 _
      rw [after_append, after_append, ih]
      exact rebase_advance hline hcolumn origin c

end Location

/-! ## Walks -/

namespace Cursor

open Grammar

/-- A walk is taken in the same way when the text is cut off where it comes to. -/
theorem Walk.of_extend {c c' : Cursor} {tokens : List Token} {more : List Char}
    (h : Walk c tokens (c'.extend more)) :
    ∃ c₀, c = extend c₀ more ∧ Walk c₀ tokens c' := by
  generalize hd : c'.extend more = d at h
  induction h with
  | nil d => exact ⟨c', hd.symm, .nil c'⟩
  | @cons c d t rest l tokens h hend _ ih =>
      obtain ⟨k, hk, hwalk⟩ := ih hd
      obtain ⟨kept, position, location⟩ := k
      simp only [moveOver, extend, Cursor.mk.injEq] at hk
      obtain ⟨rfl, rfl, rfl⟩ := hk
      have hc : c = extend { c with rest := t ++ (l.spelling ++ kept) } more := by
        rw [extend, List.append_assoc, List.append_assoc, ← h.text]
      exact ⟨_, hc, .cons (hc ▸ h).of_extend hend hwalk⟩

end Cursor

namespace Scanner

/-- The tokens that `next` returns when it is called `n` times, and the scanner behind
them. -/
def take : Scanner → Nat → List Token × Scanner
  | s, 0 => ([], s)
  | s, n + 1 =>
    let behind := s.next.2.take n
    (s.next.1 :: behind.1, behind.2)

/-- Calls that do not return the end are a walk. -/
theorem walk_take (s : Scanner) (n : Nat)
    (hshort : ∀ token ∈ (s.take n).1, token.kind ≠ .endOfInput) :
    Cursor.Walk s.cursor (s.take n).1 (s.take n).2.cursor := by
  induction n generalizing s with
  | zero => exact .nil _
  | succ n ih =>
      obtain ⟨t, l, rest, h⟩ := s.cursor.exists_steps
      have htoken : s.next.1 = l.token (s.cursor.location.after t) :=
        congrArg Prod.fst h.next_eq
      have hcursor : s.next.2.cursor = s.cursor.moveOver (t ++ l.spelling) rest :=
        congrArg Prod.snd h.next_eq
      have hend : l.kind ≠ .endOfInput := by
        have hhead := hshort s.next.1 List.mem_cons_self
        rwa [htoken] at hhead
      have hbehind := ih s.next.2 fun token hmem =>
        hshort token (List.mem_cons_of_mem _ hmem)
      rw [hcursor] at hbehind
      show Cursor.Walk s.cursor (s.next.1 :: (s.next.2.take n).1) _
      rw [htoken]
      exact .cons h hend hbehind

theorem reachable_take {source : String} {s : Scanner} (h : Reachable source s) (n : Nat) :
    Reachable source (s.take n).2 := by
  induction n generalizing s with
  | zero => exact h
  | succ n ih => exact ih h.next

end Scanner

namespace TokenStream

/-- **Splitting between two tokens.**  Let the first tokens of a source be taken, short
of its end.  The text before the position of the scanner has just these tokens, and
its end is where the scanner stands.  The text behind that position has the other
tokens, at places counted from there. -/
theorem tokenize_split {H : Type} [Handler H Diagnostic] (handler : H) (source : String)
    (n : Nat)
    (hshort : ∀ token ∈ ((Scanner.ofString source).take n).1, token.kind ≠ .endOfInput) :
    ∃ p : source.Pos, p.offset.byteIdx = ((Scanner.ofString source).take n).2.position ∧
      (tokenize (source.sliceTo p).copy handler).1.toList =
        ((Scanner.ofString source).take n).1 ++
          [⟨.endOfInput, "", ((Scanner.ofString source).take n).2.location⟩] ∧
      (tokenize source handler).1.toList =
        ((Scanner.ofString source).take n).1 ++
          (tokenize (source.sliceFrom p).copy handler).1.toList.map
            (Token.relocate ((Scanner.ofString source).take n).2.location.rebase) := by
  have hstart : Scanner.Reachable source (.ofString source) := .start
  obtain ⟨p, hp⟩ := (Scanner.reachable_take hstart n).exists_standsAt
  have hwalk := Scanner.walk_take (Scanner.ofString source) n hshort
  generalize (Scanner.ofString source).take n = taken at hp hwalk hshort
  obtain ⟨tokens, s⟩ := taken
  have hsource : source.toList = (source.sliceTo p).copy.toList ++ s.cursor.rest := by
    rw [hp.rest, ← String.toList_append, String.sliceTo_append_sliceFrom]
  refine ⟨p, hp.position.symm, ?_, ?_⟩
  · have hcut : Cursor.Walk (.ofString source) tokens
        (Cursor.extend { s.cursor with rest := [] } s.cursor.rest) := hwalk
    obtain ⟨c₀, hc₀, hfront⟩ := hcut.of_extend
    have hfirst : c₀ = Cursor.ofString (source.sliceTo p).copy := by
      obtain ⟨rest, position, location⟩ := c₀
      simp only [Cursor.ofString, Cursor.extend, Cursor.mk.injEq, hsource] at hc₀
      obtain ⟨hrest, rfl, rfl⟩ := hc₀
      rw [← List.append_cancel_right hrest]
      rfl
    rw [hfirst] at hfront
    rw [tokenize_fst]
    show (Cursor.ofString (source.sliceTo p).copy).tokens = _
    rw [hfront.tokens_eq, Cursor.tokens_of_rest_eq_nil rfl]
    rfl
  · have hstream : (Cursor.ofString source).tokens = tokens ++ s.cursor.tokens :=
      hwalk.tokens_eq
    have hrest : s.cursor.rest = (Cursor.ofString (source.sliceFrom p).copy).rest := by
      rw [hp.rest, Cursor.ofString]
    have hbehind := Cursor.tokens_relocate s.location.rebase
      (.ofString (source.sliceFrom p).copy) s.cursor hrest (Location.after_eq_rebase s.location)
    rw [tokenize_fst, tokenize_fst]
    show (Cursor.ofString source).tokens = _
    rw [hstream, hbehind]
    rfl

/-- The walk stops inside a line, before a comment that goes over its end. -/
theorem tokenize_split_comment :
    (∀ token ∈ ((Scanner.ofString "1.'é/*\n*/ x\n2").take 3).1, token.kind ≠ .endOfInput) ∧
      ∃ p : "1.'é/*\n*/ x\n2".Pos,
        p.offset.byteIdx = ((Scanner.ofString "1.'é/*\n*/ x\n2").take 3).2.position ∧
        (tokenize ("1.'é/*\n*/ x\n2".sliceTo p).copy (⟨#[]⟩ : Storage Diagnostic)).1.toList =
          ((Scanner.ofString "1.'é/*\n*/ x\n2").take 3).1 ++
            [⟨.endOfInput, "", ((Scanner.ofString "1.'é/*\n*/ x\n2").take 3).2.location⟩] ∧
        (tokenize "1.'é/*\n*/ x\n2" (⟨#[]⟩ : Storage Diagnostic)).1.toList =
          ((Scanner.ofString "1.'é/*\n*/ x\n2").take 3).1 ++
            (tokenize ("1.'é/*\n*/ x\n2".sliceFrom p).copy
              (⟨#[]⟩ : Storage Diagnostic)).1.toList.map
                (Token.relocate
                  ((Scanner.ofString "1.'é/*\n*/ x\n2").take 3).2.location.rebase) := by
  have hshort : ∀ token ∈ ((Scanner.ofString "1.'é/*\n*/ x\n2").take 3).1,
      token.kind ≠ .endOfInput := by decide +kernel
  exact ⟨hshort, tokenize_split (⟨#[]⟩ : Storage Diagnostic) _ 3 hshort⟩

end TokenStream

end Lexis
