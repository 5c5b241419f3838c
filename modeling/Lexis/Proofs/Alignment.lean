import Lexis.Proofs.Rendering
import Mathlib.Data.List.Infix

/-!
# Where the help of an excerpt stands

A note of help stands under the line of the place, behind as much room as the line takes up
to the place.  The line and the room are made from the same characters, but not in the same
way: the line leaves line breaks out, and the room has a space for each of them.  No newline
stands before a place on its line, but carriage returns may, and every one of them moves the
help one column further to the right than the first underlined character.

## Main definitions

* `Console.underlinedColumn?`, `Console.wordColumn?` — where the first underlined character
  of a row stands, and where a word begins.

## Main results

* `Excerpt.length_flatMap_room` — the width of the room and that of the line.
* `Excerpt.Underlines.exists_columns` — where the help and the first underlined character
  stand in an excerpt.
* `TokenStream.help_column` — where they stand in the excerpts of reports.
-/

namespace Lexis

/-! ## Columns of a row -/

namespace Console

/-- The column of the first underlined character, counted from zero. -/
def underlinedColumn? (row : List Cell) : Option Nat := row.findIdx? Cell.underlined

/-- The column in which a word first begins, counted from zero. -/
def wordColumn? (word : List Char) (row : List Cell) : Option Nat :=
  (row.map Cell.char).tails.findIdx? (word.isPrefixOf ·)

open Excerpt (plainCells)

theorem underlinedColumn?_plainCells_append (cs : List Char) {cell : Cell} {row : List Cell}
    (h : cell.underlined = true) :
    underlinedColumn? (plainCells cs ++ cell :: row) = some cs.length := by
  induction cs with
  | nil => exact (List.findIdx?_cons).trans (if_pos h)
  | cons c cs ih =>
      have hcons : underlinedColumn? (plainCells (c :: cs) ++ cell :: row) =
          (underlinedColumn? (plainCells cs ++ cell :: row)).map (· + 1) :=
        List.findIdx?_cons
      rw [hcons, ih]
      rfl

/-- A word begins where its first character stands for the first time. -/
theorem wordColumn?_plainCells {c : Char} {front : List Char} (h : c ∉ front)
    (word rest : List Char) :
    wordColumn? (c :: word) (plainCells (front ++ (c :: word ++ rest))) = some front.length := by
  rw [wordColumn?, Excerpt.map_char_plainCells]
  induction front with
  | nil =>
      have hword : (c :: word).isPrefixOf (c :: word ++ rest) = true :=
        List.isPrefixOf_iff_prefix.mpr (List.prefix_append _ _)
      rw [List.nil_append, List.cons_append, List.tails_cons, List.findIdx?_cons,
        ← List.cons_append, hword]
      rfl
  | cons d front ih =>
      rw [List.mem_cons, not_or] at h
      have hword : (c :: word).isPrefixOf (d :: (front ++ (c :: word ++ rest))) = false := by
        rw [List.isPrefixOf, beq_eq_false_iff_ne.mpr h.1, Bool.false_and]
      rw [List.cons_append, List.tails_cons, List.findIdx?_cons, hword, ih h.2]
      rfl

end Console

open Console (Line Cell screen underlinedColumn? wordColumn?)

namespace Excerpt

variable {e : Excerpt}

/-! ## The gutters -/

/-- All gutters of an excerpt are equally wide. -/
theorem length_gutter {label : String}
    (h : label.length ≤ (toString (e.location.line + 1)).length) :
    (e.gutter label).length = (toString (e.location.line + 1)).length + 2 := by
  rw [gutter, List.length_append, List.length_rightpad, String.length_toList,
    Nat.max_eq_left (Nat.le_succ_of_le h), List.length_singleton]

theorem length_toString_le (n : Nat) : (toString n).length ≤ (toString (n + 1)).length := by
  cases n with
  | zero => decide
  | succ n =>
      rw [length_toString_eq_digitCount (Nat.succ_pos n),
        length_toString_eq_digitCount (Nat.succ_pos (n + 1))]
      exact digitCount_mono (Nat.le_succ _)

/-! ## The line and the room -/

/-- If a character is shown, something is shown for it. -/
theorem flatMap_expand_ne_nil {cs : List Char} (h : cs.filter isShown ≠ []) :
    cs.flatMap expand ≠ [] := by
  intro hnil
  apply h
  rw [List.flatMap_eq_nil_iff] at hnil
  rw [List.filter_eq_nil_iff]
  intro c hc hshown
  exact expand_ne_nil hshown (hnil c hc)

theorem cells_marks (cs : List Char) :
    Line.cells (marks cs) = (cs.flatMap expand).map (⟨·, true⟩) := by
  rw [marks, cells_images (fun c => c) (fun _ => [.red, .bold, .underline]), List.map_flatMap]
  rfl

theorem length_room {c : Char} (h : c ≠ '\n') :
    (room c).length = (expand c).length + if c = '\r' then 1 else 0 := by
  rw [room, expand]
  by_cases htab : c = '\t'
  · rw [if_pos htab, if_pos htab, htab]
    rfl
  · rw [if_neg htab, if_neg htab]
    by_cases hreturn : c = '\r'
    · rw [if_pos (.inr hreturn), if_pos hreturn]
      rfl
    · rw [if_neg (not_or.mpr ⟨h, hreturn⟩), if_neg hreturn]
      rfl

/-- The room for some characters of a line is as wide as what is shown of them, but for one
column for every carriage return. -/
theorem length_flatMap_room {front : List Char} (h : '\n' ∉ front) :
    (front.flatMap room).length = (front.flatMap expand).length + front.count '\r' := by
  induction front with
  | nil => rfl
  | cons c front ih =>
      rw [List.mem_cons, not_or] at h
      rw [List.flatMap_cons, List.flatMap_cons, List.length_append, List.length_append, ih h.2,
        length_room (Ne.symm h.1), List.count_cons]
      simp only [beq_iff_eq]
      omega

/-! ## The two columns -/

/-- What is to be shown of the line of the place, around what is underlined in it. -/
theorem cells_around {e : Excerpt} (h : 1 ≤ e.location.line) (front marked back : List Char) :
    Line.cells (e.numberedGutter e.location.line ++
        (plainLine front ++ (marks marked ++ plainLine back))) =
      plainCells (e.gutter (toString e.location.line) ++ ' ' :: front.flatMap expand) ++
        ((marked.flatMap expand).map (⟨·, true⟩) ++ plainCells (back.flatMap expand)) := by
  rw [Line.cells_append, Line.cells_append, Line.cells_append, cells_plainLine, cells_plainLine,
    cells_marks, cells_numberedGutter h (Nat.le_succ _), ← List.append_assoc, ← plainCells_append,
    List.append_assoc, List.singleton_append]

/-- The excerpt has the line of its place, of which `front` stands before the place.  It shows
this line as `located`, and the help right under it as `noted`. -/
structure Notes (e : Excerpt) (front : List Char) (located noted : Line) : Prop where
  found : ∃ rest, e.file.line? e.location.line = some (front ++ rest)
  column : e.location.column = 1 + front.length
  lines : e.lines =
    ([e.header, e.emptyGutter] ++ e.context (e.location.line - 1)) ++
      located :: noted :: (e.context (e.location.line + 1) ++ [e.emptyGutter])

section Located

variable {front marked back : List Char}
  (hline : e.file.line? e.location.line = some (front ++ (marked ++ back)))
  (hcontent : '\x1b' ∉ e.file.content.toList)

include hline hcontent

theorem escapeFree_around : Line.EscapeFree (e.numberedGutter e.location.line ++
    (plainLine front ++ (marks marked ++ plainLine back))) := by
  obtain ⟨hpos, hgetD⟩ := SourceFile.getD_of_line? hline
  have hrow : '\x1b' ∉ (e.sourceRow e.location.line e.isMarked).map Cell.char :=
    not_mem_sourceRow (by decide) rfl e _ _ fun c hc =>
      not_mem_expand (by decide) fun heq : '\x1b' = c =>
        hcontent (heq ▸ SourceFile.mem_content_of_mem_getD hc)
  -- The row holds the same characters, whatever is underlined in it.
  apply Line.escapeFree_of_cells
  rw [map_char_sourceRow, hgetD] at hrow
  rw [cells_around hpos, List.map_append, List.map_append, map_char_plainCells,
    map_char_plainCells, List.map_map]
  simpa [Function.comp_def] using hrow

/-- The first underlined character stands behind the gutter and what is shown of the line
before the place. -/
theorem underlinedColumn?_around (hshown : marked.filter isShown ≠ []) :
    underlinedColumn? (screen (Line.render (e.numberedGutter e.location.line ++
        (plainLine front ++ (marks marked ++ plainLine back))))) =
      some ((e.gutter (toString e.location.line)).length + 1 +
        (front.flatMap expand).length) := by
  have hpos := (SourceFile.getD_of_line? hline).1
  obtain ⟨d, ds, hmarked⟩ := List.exists_cons_of_ne_nil (flatMap_expand_ne_nil hshown)
  rw [Console.screen_render (escapeFree_around hline hcontent), cells_around hpos, hmarked,
    List.map_cons, List.cons_append, Console.underlinedColumn?_plainCells_append _ rfl,
    List.length_append, List.length_cons, Nat.add_assoc, Nat.add_comm 1]

end Located

/-- The help stands behind the gutter and the room under the line before the place. -/
theorem wordColumn?_helpRow (e : Excerpt) (help : String) :
    wordColumn? "help".toList (e.helpRow help) =
      some ((e.gutter "").length + 1 + (((e.file.lines.getD (e.location.line - 1) []).take
        (e.location.column - 1)).flatMap room).length) := by
  have hlabel : "help: ".toList = 'h' :: "elp".toList ++ ": ".toList := rfl
  have hword : "help".toList = 'h' :: "elp".toList := rfl
  have hfront : ∀ cs : List Char, 'h' ∉ e.gutter "" ++ ' ' :: cs.flatMap room := by
    intro cs
    have hroom : ∀ c, 'h' ∉ room c := fun c h =>
      absurd (eq_space_of_mem_room h) (by decide)
    simp [gutter, List.rightpad, hroom]
  rw [helpRow, hlabel, hword, List.append_assoc _ ": ".toList, ← List.cons_append,
    ← List.append_assoc (e.gutter ""), Console.wordColumn?_plainCells (hfront _),
    List.length_append, List.length_cons, Nat.add_assoc, Nat.add_comm 1]

/-- Where the first underlined character of an excerpt stands, and where the help. -/
theorem Underlines.exists_columns {marked : List Char} {help : String} (h : e.Underlines marked)
    (hshown : marked.filter isShown ≠ []) (hhelp : e.help = some help)
    (hcontent : '\x1b' ∉ e.file.content.toList) (htext : '\x1b' ∉ help.toList) :
    ∃ front located noted column, e.Notes front located noted ∧
      underlinedColumn? (screen located.render) = some column ∧
      wordColumn? "help".toList (screen noted.render) = some (column + front.count '\r') := by
  obtain ⟨front, back, hline, hcolumn, hlines, -⟩ := h.shown
  obtain ⟨hpos, hgetD⟩ := SourceFile.getD_of_line? hline
  have hnoted := e.map_cells_helpLine
  rw [hgetD, hhelp] at hnoted
  obtain ⟨noted, hnote, hcells⟩ := List.map_eq_singleton_iff.mp hnoted
  rw [hnote] at hlines
  have hescape : noted.EscapeFree := by
    apply Line.escapeFree_of_cells
    rw [hcells]
    exact not_mem_helpRow (by decide) e htext
  have hrest : marked ++ back ≠ [] := by
    apply List.append_ne_nil_of_left_ne_nil
    rintro rfl
    exact hshown rfl
  have hroom : (((front ++ (marked ++ back)).take (e.location.column - 1)).flatMap
      room).length = (front.flatMap expand).length + front.count '\r' := by
    rw [hcolumn, Nat.add_sub_cancel_left, List.take_left]
    exact length_flatMap_room (SourceFile.newline_not_mem_of_line? hline hrest)
  refine ⟨front, _, noted, _, ⟨⟨_, hline⟩, hcolumn, hlines⟩,
    underlinedColumn?_around hline hcontent hshown, ?_⟩
  rw [Console.screen_render hescape, hcells, wordColumn?_helpRow, hgetD, hroom,
    length_gutter (Nat.zero_le _), length_gutter (length_toString_le _),
    Nat.add_assoc _ (front.flatMap expand).length]

end Excerpt

/-! ## Excerpts of reports -/

/-- The help of a report holds no escape character. -/
theorem Diagnostic.escape_not_mem_help {d : Diagnostic} {help : String}
    (h : d.help? = some help) : '\x1b' ∉ help.toList := by
  cases d with
  | unterminatedComment | unterminatedString =>
      cases h
      decide
  | malformedCharacter => simp [help?] at h
  | unexpectedCharacter l c =>
      rw [help?] at h
      split at h
      · cases h
        decide
      · simp at h

namespace TokenStream

/-- **Where the help stands.**  In the excerpt of a report with help, the line of the place
has an underlined character, and the help under it begins in the column of the first one,
moved to the right by one column for every carriage return before the place on its line.
So the two stand one below the other just if there is no such carriage return. -/
theorem help_column {H : Type} [Handler H Diagnostic] {f : SourceFile}
    (hcontent : '\x1b' ∉ f.content.toList) (handler : H) {t : Token}
    (ht : t ∈ (tokenize f.content handler).1.toList) {d : Diagnostic}
    (hreport : Diagnostic.ofToken? t = some d) {help : String} (hhelp : d.help? = some help) :
    ∃ front located noted column, (f.excerptOf d).Notes front located noted ∧
      underlinedColumn? (screen located.render) = some column ∧
      wordColumn? "help".toList (screen noted.render) = some (column + front.count '\r') ∧
      (wordColumn? "help".toList (screen noted.render) =
        underlinedColumn? (screen located.render) ↔ '\r' ∉ front) := by
  rw [tokenize_fst] at ht
  obtain ⟨before, behind, hstands⟩ := Cursor.exists_standsIn ht
  obtain ⟨hlength, -⟩ := Diagnostic.highlightLength_le hreport hstands.reads.opening_isPrefix
  have hend := Token.kind_ne_endOfInput_of_isInvalid (Diagnostic.isInvalid_of_ofToken? hreport)
  obtain ⟨front, located, noted, column, hnotes, hlocated, hnoted⟩ :=
    (f.underlines_excerptOf hstands hreport).exists_columns
      (hstands.filter_isShown_ne_nil hend hlength) hhelp hcontent
      (Diagnostic.escape_not_mem_help hhelp)
  refine ⟨front, located, noted, column, hnotes, hlocated, hnoted, ?_⟩
  rw [hlocated, hnoted, Option.some.injEq, Nat.add_eq_left, List.count_eq_zero]

/-- A comment that is never closed, behind a carriage return and a tab. -/
theorem help_column_tab :
    let f : SourceFile := ⟨"main.ex", "a\n\r\t/*b"⟩
    let t : Token := ⟨.invalid .unterminatedComment, "/*b", ⟨2, 3⟩⟩
    let d : Diagnostic := .unterminatedComment ⟨2, 3⟩
    '\x1b' ∉ f.content.toList ∧
      t ∈ (tokenize f.content (⟨#[]⟩ : Storage Diagnostic)).1.toList ∧
      Diagnostic.ofToken? t = some d ∧ d.help? = some "close the comment with `*/`" ∧
      ∃ front located noted column, (f.excerptOf d).Notes front located noted ∧
        underlinedColumn? (screen located.render) = some column ∧
        wordColumn? "help".toList (screen noted.render) = some (column + front.count '\r') := by
  intro f t d
  have hcontent : '\x1b' ∉ f.content.toList := by decide
  have hmem : t ∈ (tokenize f.content (⟨#[]⟩ : Storage Diagnostic)).1.toList := by
    decide +kernel
  obtain ⟨front, located, noted, column, hnotes, hlocated, hnoted, -⟩ :=
    help_column hcontent (⟨#[]⟩ : Storage Diagnostic) hmem (d := d) rfl rfl
  exact ⟨hcontent, hmem, rfl, rfl, front, located, noted, column, hnotes, hlocated, hnoted⟩

/-- Behind a carriage return the help does not stand below what is underlined. -/
theorem help_column_return :
    let f : SourceFile := ⟨"main.ex", "\r!"⟩
    let d : Diagnostic := .unexpectedCharacter ⟨1, 2⟩ '!'
    '\x1b' ∉ f.content.toList ∧
      (tokenize f.content (⟨#[]⟩ : Storage Diagnostic)).1.toList.filterMap Diagnostic.ofToken? =
        [d] ∧
      d.help? = some "did you mean `!=`?" ∧
      ((f.excerptOf d).lines.map fun l => underlinedColumn? (screen l.render)) =
        [none, none, some 4, none, none] ∧
      ((f.excerptOf d).lines.map fun l => wordColumn? "help".toList (screen l.render)) =
        [none, none, none, some 5, none] := by
  decide +kernel

end TokenStream

end Lexis
