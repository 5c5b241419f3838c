import Lexis.Proofs.Positions
import Lexis.Source.File

/-!
# Lines of a file and places of tokens

A file finds its lines by cutting its text behind every newline; a walk counts
newlines and columns as it goes and never looks at the lines.  The two agree
because both only look at what stands before a place: the text before it has as
many whole lines as it has newlines, and what it has behind the last of them
begins the line of the place.  `Lines.exists_split_append` says this of the cutting,
`Location.ofEnd` is the counting.

## Main results

* `Lines.exists_split_append` — a text cut into lines around one of its places.
* `SourceFile.line?_ofEnd` — the line of a place, from the text on both sides of it.
* `Cursor.exists_standsIn` — the text on both sides of a token.
* `SourceFile.exists_holds` — every token lies on a line of its file.
-/

namespace Lexis

/-! ## Cutting a text into lines -/

namespace Lines

/-- The text up to and with its first newline, or all of it if it has none. -/
def firstLine : List Char → List Char
  | [] => []
  | c :: cs => if c = '\n' then [c] else c :: firstLine cs

/-- The text behind its last newline, or all of it if it has none. -/
def lastLine (cs : List Char) : List Char := cs.rtakeWhile (· != '\n')

theorem lastLine_concat_newline (cs : List Char) : lastLine (cs ++ ['\n']) = [] :=
  List.rtakeWhile_concat_neg _ cs '\n' (by decide)

theorem lastLine_concat {c : Char} (hc : c ≠ '\n') (cs : List Char) :
    lastLine (cs ++ [c]) = lastLine cs ++ [c] :=
  List.rtakeWhile_concat_pos _ cs c (by simpa using hc)

/-- The first line stands at the head of the lines. -/
theorem split_eq (cs : List Char) : split cs = firstLine cs :: (split cs).tail := by
  induction cs with
  | nil => rfl
  | cons c cs ih =>
      rw [split, firstLine]
      split
      · rfl
      · rw [ih]
        rfl

/-- A text has one line more than it has newlines. -/
theorem length_split (cs : List Char) : (split cs).length = 1 + cs.count '\n' := by
  induction cs with
  | nil => rfl
  | cons c cs ih =>
      rw [split]
      split
      · next hc =>
          rw [hc, List.length_cons, ih, List.count_cons_self]
          omega
      · next hc =>
          rw [split_eq cs] at ih ⊢
          rw [List.count_cons_of_ne hc]
          exact ih

/-- Lines around a place: whole lines, one for each newline before the place, then
the line of the place, then the further lines of the text behind it. -/
theorem exists_split_append (before behind : List Char) :
    ∃ whole, whole.length = before.count '\n' ∧
      split (before ++ behind) =
        whole ++ (lastLine before ++ firstLine behind) :: (split behind).tail := by
  -- The induction is on the last character before the place: it either closes the
  -- line that is open there, or it goes on with that line.
  induction before using List.reverseRecOn generalizing behind with
  | nil => exact ⟨[], rfl, split_eq behind⟩
  | append_singleton before c ih =>
      obtain ⟨whole, hlength, hsplit⟩ := ih (c :: behind)
      rw [List.append_assoc, List.singleton_append, hsplit]
      by_cases hc : c = '\n'
      · subst hc
        have hbehind : (split ('\n' :: behind)).tail = split behind := rfl
        refine ⟨whole ++ [lastLine before ++ ['\n']], ?_, ?_⟩
        · rw [List.length_append, List.count_append, hlength]
          rfl
        · rw [lastLine_concat_newline, hbehind, List.append_assoc, List.nil_append,
            ← split_eq behind]
          rfl
      · have hbehind : (split (c :: behind)).tail = (split behind).tail := by
          rw [split, if_neg hc, split_eq behind]
          rfl
        refine ⟨whole, ?_, ?_⟩
        · rw [List.count_append, List.count_singleton, beq_eq_false_iff_ne.mpr hc, hlength]
          rfl
        · rw [lastLine_concat hc, hbehind, firstLine, if_neg hc, List.append_assoc]
          rfl

theorem firstLine_isPrefix_append (cs ds : List Char) :
    firstLine cs <+: firstLine (cs ++ ds) := by
  induction cs with
  | nil => exact List.nil_prefix
  | cons c cs ih =>
      rw [List.cons_append, firstLine, firstLine]
      split
      · exact List.prefix_rfl
      · exact (List.prefix_cons_inj c).mpr ih

/-- A newline ends its line. -/
theorem newline_not_mem_dropLast {cs line : List Char} (h : line ∈ split cs) :
    '\n' ∉ line.dropLast := by
  induction cs generalizing line with
  | nil =>
      rw [split, List.mem_singleton] at h
      rw [h]
      exact List.not_mem_nil
  | cons c cs ih =>
      rw [split] at h
      split at h
      · rcases List.mem_cons.mp h with rfl | hbehind
        · exact List.not_mem_nil
        · exact ih hbehind
      · next hc =>
          rw [split_eq cs] at ih h
          rcases List.mem_cons.mp h with rfl | hbehind
          · have hfirst := ih List.mem_cons_self
            cases hline : firstLine cs with
            | nil => exact List.not_mem_nil
            | cons d ds =>
                rw [hline] at hfirst
                rw [List.dropLast_cons_of_ne_nil (List.cons_ne_nil d ds), List.mem_cons, not_or]
                exact ⟨Ne.symm hc, hfirst⟩
          · exact ih (List.mem_cons_of_mem _ hbehind)

/-- It makes no difference whether a text is cut behind some characters first. -/
theorem take_firstLine (n : Nat) (cs : List Char) :
    (firstLine cs).take n = firstLine (cs.take n) := by
  induction n generalizing cs with
  | zero => rfl
  | succ n ih =>
      cases cs with
      | nil => rfl
      | cons c cs =>
          rw [List.take_succ_cons, firstLine, firstLine]
          split
          · rw [List.take_succ_cons, List.take_nil]
          · rw [List.take_succ_cons, ih]

end Lines

/-! ## Places on the lines of a file -/

namespace SourceFile

open Lines

variable {f : SourceFile} {before behind : List Char}

/-- The line of a place is made of what precedes the place on it and of what follows. -/
theorem line?_ofEnd (h : f.content.toList = before ++ behind) :
    f.line? (Location.ofEnd before).line = some (lastLine before ++ firstLine behind) := by
  obtain ⟨whole, hlength, hsplit⟩ := exists_split_append before behind
  have hplace : (Location.ofEnd before).line = 1 + whole.length := by
    rw [hlength]
    rfl
  have hpos : 1 + whole.length ≠ 0 := by omega
  rw [hplace, line?, if_neg hpos, lines, h, hsplit, Nat.add_sub_cancel_left,
    List.getElem?_append_right (Nat.le_refl _), Nat.sub_self]
  rfl

/-- What stands before a character on its line has no newline. -/
theorem newline_not_mem_of_line? {n : Nat} {front rest : List Char}
    (h : f.line? n = some (front ++ rest)) (hrest : rest ≠ []) : '\n' ∉ front := by
  have hmem : front ++ rest ∈ split f.content.toList := by
    rw [line?] at h
    split at h
    · simp at h
    · exact List.mem_of_getElem? h
  have hline := newline_not_mem_dropLast hmem
  rw [List.dropLast_append_of_ne_nil hrest, List.mem_append, not_or] at hline
  exact hline.1

/-- The end of the text is on the last line. -/
theorem lineCount_eq (f : SourceFile) : f.lineCount = (Location.ofEnd f.content.toList).line :=
  length_split _

/-- The token stands on the line `line` of the file, in the column where it is located.
The end of the text stands behind the last line, every other token begins in its column
and goes on there as far as the line does. -/
structure Holds (f : SourceFile) (t : Token) (line : List Char) : Prop where
  found : f.line? t.location.line = some line
  column_pos : 1 ≤ t.location.column
  column_le : t.location.column ≤ 1 + line.length
  text : t.kind ≠ .endOfInput → firstLine t.spelling <+: line.drop (t.location.column - 1)
  final : t.kind = .endOfInput →
    t.location.line = f.lineCount ∧ t.location.column = 1 + line.length

end SourceFile

/-- A token stands between the text before it, which tells its place, and the text
behind it. -/
structure Token.StandsIn (t : Token) (source : String) (before behind : List Char) : Prop where
  text : source.toList = before ++ (t.spelling ++ behind)
  location : t.location = .ofEnd before
  stop : Trivia.first? (t.spelling ++ behind) = none
  reads : Grammar.Reads t.lexeme behind

theorem Cursor.exists_standsIn {source : String} {token : Token}
    (htoken : token ∈ (ofString source).tokens) :
    ∃ before behind, token.StandsIn source before behind := by
  obtain ⟨tokens, c, t, l, rest, hwalk, hstep, rfl⟩ := exists_walk_of_mem htoken
  obtain ⟨taken, hsource, hc⟩ := hwalk.exists_moveOver
  change source.toList = taken ++ c.rest at hsource
  refine ⟨taken ++ t, rest, ?_, ?_, ?_, ?_⟩
  · rw [hsource, hstep.text, Lexeme.spelling_token, List.append_assoc]
  · rw [← Location.after_start, Location.after_append, hc]
    rfl
  · rw [Lexeme.spelling_token]
    exact hstep.stop
  · rw [Lexeme.lexeme_token]
    exact hstep.reads

namespace SourceFile

open Lines

/-- Every token lies on a line of its file. -/
theorem exists_holds (f : SourceFile) {t : Token}
    (ht : t ∈ (Cursor.ofString f.content).tokens) : ∃ line, f.Holds t line := by
  obtain ⟨before, behind, hcontent, hlocation, -, hreads⟩ := Cursor.exists_standsIn ht
  have hline := line?_ofEnd hcontent
  have hcolumn : t.location.column = 1 + (lastLine before).length := by
    rw [hlocation]
    rfl
  refine ⟨_, hlocation ▸ hline, ?_, ?_, ?_, ?_⟩
  · omega
  · rw [hcolumn, List.length_append]
    omega
  · intro _
    rw [hcolumn, Nat.add_sub_cancel_left, List.drop_left]
    exact firstLine_isPrefix_append t.spelling behind
  · intro hend
    obtain ⟨hlexeme, rfl⟩ := hreads.eq_endOfInput hend
    have hspelling : t.spelling = [] := by
      rw [← Token.spelling_lexeme, hlexeme]
      rfl
    rw [hspelling, List.append_nil, List.append_nil] at hcontent
    rw [f.lineCount_eq, hcontent, hcolumn, hspelling]
    refine ⟨congrArg Location.line hlocation, ?_⟩
    simp only [List.append_nil, firstLine]

end SourceFile

end Lexis
