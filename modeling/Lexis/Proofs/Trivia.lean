import Lexis.Proofs.Spans
import Lexis.Scanner.Trivia

/-!
# The grammar of trivia

Trivia is a run of pieces: single white spaces, line comments and delimited
comments.  Where a line comment ends depends on what follows it, so the grammar
is a relation `Precedes` between a run and the text behind it.  A delimited
comment ends with the first `*/` that it meets; said without a search, its body
holds no `*/`.

`Trivia.split` is then identified with the grammar.  It divides a text behind
the longest run that the grammar allows, and it divides `t ++ rest` as it
divides `rest` alone whenever `t` is a run before `rest`.

## Main results

* `precedes_split` — what is skipped is trivia.
* `split_append_of_precedes` — trivia in front of a text is always skipped.
* `longest_split` — no longer run of trivia stands at the head of the text.
* `Precedes.append_newline` — a newline behind a run never becomes part of it.
* `first?_append_blank` — a white space behind a text makes no trivia of its head.
-/

namespace Lexis.Trivia

open Lexis.Text

/-- `t` is a run of trivia where `rest` follows.  A line comment reaches up to
a newline or to the end of the text. -/
inductive Precedes : List Char → List Char → Prop where
  | nil (rest : List Char) : Precedes [] rest
  | blank {c : Char} {t rest : List Char} : isBlank c = true → Precedes t rest →
      Precedes (c :: t) rest
  | line {body t rest : List Char} : '\n' ∉ body → Stops (· != '\n') (t ++ rest) →
      Precedes t rest → Precedes ('/' :: '/' :: (body ++ t)) rest
  | delimited {body t rest : List Char} : ¬ ['*', '/'] <:+: body → Precedes t rest →
      Precedes ('/' :: '*' :: (body ++ '*' :: '/' :: t)) rest

/-- `t` is the longest run of trivia at the head of the text `t ++ rest`. -/
structure Longest (t rest : List Char) : Prop where
  precedes : Precedes t rest
  le : ∀ t' rest', t' ++ rest' = t ++ rest → Precedes t' rest' → t'.length ≤ t.length

/-! ## Closing a delimited comment -/

/-- The closing sign of a comment stands in a text at its head or behind it. -/
private theorem closing_infix_cons_iff {c : Char} {cs : List Char} :
    ['*', '/'] <:+: c :: cs ↔ (c = '*' ∧ cs.head? = some '/') ∨ ['*', '/'] <:+: cs := by
  rw [List.infix_cons_iff, List.cons_prefix_cons]
  constructor
  · intro h
    rcases h with ⟨hc, hslash⟩ | h
    · obtain ⟨rest, hrest⟩ := hslash
      left
      exact ⟨hc.symm, by rw [← hrest]; rfl⟩
    · exact .inr h
  · intro h
    rcases h with ⟨hc, hslash⟩ | h
    · left
      obtain ⟨rest, hrest⟩ := List.head?_eq_some_iff.mp hslash
      exact ⟨hc.symm, rest, by rw [hrest]; rfl⟩
    · exact .inr h

/-- A body without `*/` is closed by the `*/` behind it. -/
theorem splitClosing?_body_append {body : List Char} (hbody : ¬ ['*', '/'] <:+: body)
    (rest : List Char) :
    splitClosing? (body ++ '*' :: '/' :: rest) = some (body ++ ['*', '/'], rest) := by
  induction body with
  | nil => simp [splitClosing?]
  | cons c body ih =>
      have hnot : ¬ (c = '*' ∧ body.head? = some '/') ∧ ¬ ['*', '/'] <:+: body := by
        rw [closing_infix_cons_iff, not_or] at hbody
        exact hbody
      have hrec := ih hnot.2
      -- The head of what follows `c` is a slash only if the body goes on with one.
      cases body with
      | nil => simp [splitClosing?]
      | cons d body =>
          have hcd : ¬ (c = '*' ∧ d = '/') := by simpa using hnot.1
          simp only [List.cons_append] at hrec ⊢
          rw [splitClosing?, if_neg hcd, hrec]
          rfl

/-- What is divided off is a body without `*/` and the `*/` behind it. -/
theorem exists_body_of_splitClosing? {cs piece rest : List Char}
    (h : splitClosing? cs = some (piece, rest)) :
    ∃ body, piece = body ++ ['*', '/'] ∧ ¬ ['*', '/'] <:+: body := by
  induction cs generalizing piece with
  | nil => simp [splitClosing?] at h
  | cons c cs ih =>
      cases cs with
      | nil => simp [splitClosing?] at h
      | cons d cs =>
          rw [splitClosing?] at h
          by_cases hcd : c = '*' ∧ d = '/'
          · rw [if_pos hcd] at h
            obtain ⟨rfl, rfl⟩ := hcd
            simp only [Option.some.injEq, Prod.mk.injEq] at h
            exact ⟨[], h.1.symm, by simp⟩
          · rw [if_neg hcd, Option.map_eq_some_iff] at h
            obtain ⟨⟨piece', rest'⟩, hrec, heq⟩ := h
            simp only [Prod.mk.injEq] at heq
            obtain ⟨body, rfl, hbody⟩ := ih (heq.2 ▸ hrec)
            refine ⟨c :: body, by rw [← heq.1]; rfl, ?_⟩
            rw [closing_infix_cons_iff]
            intro h
            rcases h with ⟨hc, hhead⟩ | hinfix
            · -- The body goes on as the text does, and there stands no slash.
              have happend := splitClosing?_append hrec
              cases body with
              | nil => simp at hhead
              | cons b body =>
                  simp only [List.head?_cons, Option.some.injEq] at hhead
                  simp only [List.cons_append, List.cons.injEq] at happend
                  exact hcd ⟨hc, happend.1 ▸ hhead⟩
            · exact hbody hinfix

/-- A comment is closed wherever a `*/` stands behind its opening sign. -/
theorem splitClosing?_eq_none_iff {cs : List Char} :
    splitClosing? cs = none ↔ ¬ ['*', '/'] <:+: cs := by
  induction cs with
  | nil => simp [splitClosing?]
  | cons c cs ih =>
      rw [closing_infix_cons_iff, not_or, ← ih]
      cases cs with
      | nil => simp [splitClosing?]
      | cons d cs =>
          rw [splitClosing?]
          by_cases hcd : c = '*' ∧ d = '/'
          · simp [hcd]
          · simp [hcd]

/-! ## One piece at the head of a text -/

section Pieces

variable {c : Char} {cs body t rest : List Char}

theorem first?_blank (hc : isBlank c = true) : first? (c :: cs) = some ([c], cs) := by
  cases cs with
  | nil => simp [first?, hc]
  | cons d cs => simp [first?, hc]

theorem first?_line (hbody : '\n' ∉ body) (hrest : Stops (· != '\n') rest) :
    first? ('/' :: '/' :: (body ++ rest)) = some ('/' :: '/' :: body, rest) := by
  have hrun := forall_bne_iff.mpr hbody
  rw [first?, if_neg (by decide), if_pos ⟨rfl, rfl⟩,
    takeWhile_append_of_stops hrun hrest, dropWhile_append_of_stops hrun hrest]

theorem first?_delimited (hbody : ¬ ['*', '/'] <:+: body) :
    first? ('/' :: '*' :: (body ++ '*' :: '/' :: rest)) =
      some ('/' :: '*' :: (body ++ ['*', '/']), rest) := by
  rw [first?, if_neg (by decide), if_neg (by decide), if_pos ⟨rfl, rfl⟩,
    splitClosing?_body_append hbody]
  rfl

/-- A text whose head neither is blank nor opens a comment starts with no
trivia. -/
theorem first?_eq_none (hc : isBlank c = false)
    (hopen : c = '/' → ∀ d ∈ cs.head?, d ≠ '/' ∧ d ≠ '*') : first? (c :: cs) = none := by
  cases cs with
  | nil => simp [first?, hc]
  | cons d cs =>
      have hline : ¬ (c = '/' ∧ d = '/') := fun h => (hopen h.1 d rfl).1 h.2
      have hdelimited : ¬ (c = '/' ∧ d = '*') := fun h => (hopen h.1 d rfl).2 h.2
      rw [first?, if_neg (Bool.eq_false_iff.mp hc), if_neg hline, if_neg hdelimited]

/-- An opening sign that starts no trivia is closed nowhere. -/
theorem not_closing_infix_of_first?_none (h : first? ('/' :: '*' :: cs) = none) :
    ¬ ['*', '/'] <:+: cs := by
  rw [first?, if_neg (by decide), if_neg (by decide), if_pos ⟨rfl, rfl⟩,
    Option.map_eq_none_iff] at h
  exact splitClosing?_eq_none_iff.mp h

theorem isBlank_eq_false_of_first?_none (h : first? (c :: cs) = none) :
    isBlank c = false := by
  by_cases hc : isBlank c = true
  · rw [first?_blank hc] at h
    simp at h
  · exact Bool.eq_false_iff.mpr hc

theorem head?_ne_slash_of_first?_none (h : first? ('/' :: cs) = none) :
    cs.head? ≠ some '/' := by
  intro hhead
  obtain ⟨body, rfl⟩ := List.head?_eq_some_iff.mp hhead
  have hbody : '\n' ∉ body.takeWhile (· != '\n') :=
    forall_bne_iff.mp fun _ => of_mem_takeWhile
  have hline := first?_line hbody (stops_dropWhile body)
  rw [List.takeWhile_append_dropWhile, h] at hline
  simp at hline

theorem ne_slash_star_of_isBlank {d : Char} (hd : isBlank d = true) : d ≠ '/' ∧ d ≠ '*' := by
  constructor
  · intro heq
    simp [heq, isBlank] at hd
  · intro heq
    simp [heq, isBlank] at hd

/-- A white space behind a text makes no trivia of its head. -/
theorem first?_append_blank {r : List Char} (hne : r ≠ []) (hopen : ¬ ['/', '*'] <+: r)
    (h : first? r = none) {d : Char} (hd : isBlank d = true) (ds : List Char) :
    first? (r ++ d :: ds) = none := by
  cases r with
  | nil => exact absurd rfl hne
  | cons c cs =>
      apply first?_eq_none (isBlank_eq_false_of_first?_none h)
      intro hc e he
      subst hc
      cases cs with
      | nil =>
          obtain rfl : d = e := by simpa using he
          exact ne_slash_star_of_isBlank hd
      | cons e' cs =>
          obtain rfl : e' = e := by simpa using he
          constructor
          · intro hslash
            exact head?_ne_slash_of_first?_none h (hslash ▸ rfl)
          · intro hstar
            exact hopen ⟨cs, by rw [hstar]; rfl⟩

/-- The piece at the head of a text can be put in front of a run of trivia. -/
theorem Precedes.first?_append {piece : List Char}
    (h : first? cs = some (piece, t ++ rest)) (ht : Precedes t rest) :
    Precedes (piece ++ t) rest := by
  unfold first? at h
  split at h
  · simp at h
  · next c =>
    split at h
    · next hc =>
      simp only [Option.some.injEq, Prod.mk.injEq] at h
      obtain ⟨rfl, -⟩ := h
      exact .blank hc ht
    · simp at h
  · next c d cs =>
    split at h
    · next hc =>
      simp only [Option.some.injEq, Prod.mk.injEq] at h
      obtain ⟨rfl, -⟩ := h
      exact .blank hc ht
    split at h
    · next hline =>
      obtain ⟨rfl, rfl⟩ := hline
      simp only [Option.some.injEq, Prod.mk.injEq] at h
      obtain ⟨rfl, hrest⟩ := h
      have hbody : '\n' ∉ cs.takeWhile (· != '\n') :=
        forall_bne_iff.mp fun _ => of_mem_takeWhile
      exact .line hbody (hrest ▸ stops_dropWhile cs) ht
    split at h
    · next hdelimited =>
      obtain ⟨rfl, rfl⟩ := hdelimited
      rw [Option.map_eq_some_iff] at h
      obtain ⟨⟨closed, rest'⟩, hclosing, heq⟩ := h
      simp only [Prod.mk.injEq] at heq
      obtain ⟨rfl, rfl⟩ := heq
      obtain ⟨body, rfl, hbody⟩ := exists_body_of_splitClosing? hclosing
      simpa using Precedes.delimited hbody ht
    · simp at h

end Pieces

/-! ## All the trivia at the head of a text -/

theorem split_of_first?_none {cs : List Char} (h : first? cs = none) :
    split cs = ([], cs) := by
  rw [split]
  split
  · rfl
  · next hsome =>
    rw [h] at hsome
    simp at hsome

theorem split_of_first? {cs piece rest : List Char} (h : first? cs = some (piece, rest)) :
    split cs = (piece ++ (split rest).1, (split rest).2) := by
  rw [split]
  split
  · next hnone =>
    rw [h] at hnone
    simp at hnone
  · next hsome =>
    rw [h] at hsome
    simp only [Option.some.injEq, Prod.mk.injEq] at hsome
    obtain ⟨rfl, rfl⟩ := hsome
    rfl

/-- What is divided off is trivia before the rest. -/
theorem precedes_split (cs : List Char) : Precedes (split cs).1 (split cs).2 := by
  fun_induction split cs with
  | case1 cs _ => exact .nil cs
  | case2 cs piece rest h _ trivia rest' hsplit ih =>
      rw [hsplit] at ih
      have happend := split_append rest
      rw [hsplit] at happend
      exact Precedes.first?_append (happend.symm ▸ h) ih

/-- Trivia in front of a text is divided off with the trivia at its head. -/
theorem split_append_of_precedes {t rest : List Char} (h : Precedes t rest) :
    split (t ++ rest) = (t ++ (split rest).1, (split rest).2) := by
  induction h with
  | nil rest => rfl
  | blank hc _ ih =>
      rw [List.cons_append, split_of_first? (first?_blank hc), ih]
      rfl
  | line hbody hstop _ ih =>
      rw [List.cons_append, List.cons_append, List.append_assoc,
        split_of_first? (first?_line hbody hstop), ih]
      simp only [List.cons_append, List.append_assoc]
  | delimited hbody _ ih =>
      simp only [List.cons_append, List.append_assoc]
      rw [split_of_first? (first?_delimited hbody), ih]
      simp only [List.cons_append, List.append_assoc, List.nil_append]

/-- The division is behind the longest run of trivia. -/
theorem longest_split (cs : List Char) : Longest (split cs).1 (split cs).2 where
  precedes := precedes_split cs
  le := by
    intro t' rest' happend ht'
    rw [split_append] at happend
    have hsplit := split_append_of_precedes ht'
    rw [happend] at hsplit
    rw [hsplit, List.length_append]
    exact Nat.le_add_right _ _

/-! ## What follows a run of trivia -/

/-- Of what follows a run of trivia its first character alone counts. -/
theorem Precedes.of_append {t rest more : List Char} (h : Precedes t (rest ++ more)) :
    Precedes t rest := by
  generalize htext : rest ++ more = text at h
  induction h with
  | nil => exact .nil rest
  | blank hc _ ih => exact .blank hc (ih htext)
  | @line body t text hbody hstop _ ih =>
      rw [← htext, ← List.append_assoc] at hstop
      exact .line hbody hstop.of_append (ih htext)
  | delimited hbody _ ih => exact .delimited hbody (ih htext)

/-- Behind a text that is not empty nothing counts. -/
theorem Precedes.append_of_ne_nil {t rest : List Char} (h : Precedes t rest)
    (hne : rest ≠ []) (more : List Char) : Precedes t (rest ++ more) := by
  induction h with
  | nil rest => exact .nil _
  | blank hc _ ih => exact .blank hc (ih hne)
  | @line body t rest hbody hstop _ ih =>
      refine .line hbody ?_ (ih hne)
      rw [← List.append_assoc]
      exact hstop.append (List.append_ne_nil_of_right_ne_nil t hne) more
  | delimited hbody _ ih => exact .delimited hbody (ih hne)

/-- Two runs of trivia make one, if the first may stand before the second. -/
theorem Precedes.append {t t' rest : List Char} (h : Precedes t (t' ++ rest))
    (h' : Precedes t' rest) : Precedes (t ++ t') rest := by
  generalize htext : t' ++ rest = text at h
  induction h with
  | nil => exact h'
  | blank hc _ ih => exact .blank hc (ih htext)
  | @line body t text hbody hstop _ ih =>
      rw [List.cons_append, List.cons_append, List.append_assoc]
      refine .line hbody ?_ (ih htext)
      rw [List.append_assoc, htext]
      exact hstop
  | delimited hbody _ ih =>
      simp only [List.cons_append, List.append_assoc]
      exact .delimited hbody (ih htext)

/-- A newline behind a run of trivia ends an open line comment and is no part
of anything else. -/
theorem Precedes.append_newline {t rest : List Char} (h : Precedes t rest)
    (ds : List Char) : Precedes t (rest ++ '\n' :: ds) := by
  induction h with
  | nil rest => exact .nil _
  | blank hc _ ih => exact .blank hc ih
  | line hbody hstop _ ih =>
      refine .line hbody ?_ ih
      rw [← List.append_assoc]
      exact hstop.append_cons (by decide) ds
  | delimited hbody _ ih => exact .delimited hbody ih

end Lexis.Trivia
