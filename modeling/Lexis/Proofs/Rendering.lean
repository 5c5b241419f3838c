import Lexis.Proofs.Listings
import Lexis.Proofs.Screen

/-!
# What an excerpt shows

`Excerpt.printed` is the text that is sent to a terminal for an excerpt, and there are escape
sequences in it.  Here `Excerpt.rows` says what is to be seen then, row by row, from the file
and the place alone: which lines of the file are there is told by their numbers, a line is
shown character by character, and whether a character is underlined is told by its column.

The excerpt itself asks the file for three lines and shows what it gets, numbers the
characters of a line before it leaves out the line breaks, and pads line numbers by a number
of digits that it counts by division.  These come to the same: the file has the lines from
the first to the last, what is left out leaves the columns of the other characters as they
are, and the number of the line behind the place has as many digits as any number shown.

## Main definitions

* `Excerpt.sourceRow`, `Excerpt.helpRow` — a line of the source, and the note of help.
* `Excerpt.rows` — all of the excerpt.

## Main results

* `Excerpt.cells_markedLine`, `Excerpt.cells_numberedGutter` — a line of the source is shown
  as it is meant.
* `Excerpt.map_cells_lines` — and so are all lines of an excerpt.
* `Excerpt.screen_rows` — what a terminal shows of an excerpt.
-/

namespace Lexis

open Console (Line Span Cell screen)

/-! ## The lines of a file by their numbers -/

/-- A file has the lines from the first to the last one. -/
theorem SourceFile.line?_eq (f : SourceFile) (n : Nat) :
    f.line? n = if 1 ≤ n ∧ n ≤ f.lineCount then some (f.lines.getD (n - 1) []) else none := by
  rw [line?, lineCount]
  by_cases hzero : n = 0
  · rw [if_pos hzero, if_neg (by omega)]
  · rw [if_neg hzero, List.getD_eq_getElem?_getD]
    by_cases hle : n ≤ f.lines.length
    · rw [if_pos ⟨by omega, hle⟩, List.getElem?_eq_getElem (by omega)]
      rfl
    · rw [if_neg (fun h => hle h.2), List.getElem?_eq_none (by omega)]

theorem SourceFile.getD_of_line? {f : SourceFile} {n : Nat} {line : List Char}
    (h : f.line? n = some line) : 1 ≤ n ∧ f.lines.getD (n - 1) [] = line := by
  rw [line?_eq] at h
  split at h
  · next hfound => exact ⟨hfound.1, Option.some.inj h⟩
  · simp at h

/-- The lines of a file hold what the file holds. -/
theorem SourceFile.mem_content_of_mem_getD {f : SourceFile} {i : Nat} {c : Char}
    (h : c ∈ f.lines.getD i []) : c ∈ f.content.toList := by
  rw [List.getD_eq_getElem?_getD] at h
  cases hline : f.lines[i]? with
  | none => simp [hline] at h
  | some line =>
      rw [hline] at h
      rw [← Lines.flatten_split f.content.toList, List.mem_flatten]
      exact ⟨line, List.mem_of_getElem? hline, h⟩

/-! ## What is to be shown -/

namespace Excerpt

variable {e : Excerpt}

/-- Characters of which none is underlined. -/
def plainCells (cs : List Char) : List Cell := cs.map (⟨·, false⟩)

/-- The label of a row and the bar behind it.  The bar stands one space behind the longest
line number that there may be. -/
def gutter (e : Excerpt) (label : String) : List Char :=
  label.toList.rightpad ((toString (e.location.line + 1)).length + 1) ' ' ++ ['┃']

/-- The row that names the file and the place. -/
def headerRow (e : Excerpt) : List Cell :=
  plainCells (List.replicate (toString (e.location.line + 1)).length ' ' ++
    ("--> ".toList ++ (e.file.path.toList ++ ':' :: ((toString e.location.line).toList ++
      ':' :: (toString e.location.column).toList))))

/-- The row of the line with the number `n`, of which the characters in the columns
`marked` are underlined. -/
def sourceRow (e : Excerpt) (n : Nat) (marked : Nat → Bool) : List Cell :=
  plainCells (e.gutter (toString n) ++ [' ']) ++
    ((e.file.lines.getD (n - 1) []).zipIdx 1).flatMap fun (c, column) =>
      (expand c).map (⟨·, marked column⟩)

/-- The row of a note of help, under the line of the place. -/
def helpRow (e : Excerpt) (help : String) : List Cell :=
  plainCells (e.gutter "" ++ ' ' ::
    (((e.file.lines.getD (e.location.line - 1) []).take (e.location.column - 1)).flatMap room ++
      ("help: ".toList ++ help.toList)))

/-- The rows of an excerpt: the name of the place and an empty row, the line before the place
if there is one, and if the place is on a line of the file, this line, the help, the line
behind it if there is one, and an empty row. -/
def rows (e : Excerpt) : List (List Cell) :=
  let n := e.location.line
  [e.headerRow, plainCells (e.gutter "")] ++
    (if 2 ≤ n ∧ n - 1 ≤ e.file.lineCount then [e.sourceRow (n - 1) fun _ => false] else []) ++
    if 1 ≤ n ∧ n ≤ e.file.lineCount then
      [e.sourceRow n fun column =>
        decide (e.location.column ≤ column ∧ column < e.location.column + max e.length 1)] ++
      (e.help.map e.helpRow).toList ++
      (if n < e.file.lineCount then [e.sourceRow (n + 1) fun _ => false] else []) ++
      [plainCells (e.gutter "")]
    else []

/-! ## Gutters -/

@[simp] theorem plainCells_append (cs ds : List Char) :
    plainCells (cs ++ ds) = plainCells cs ++ plainCells ds := List.map_append

/-- A text in attributes that do not underline it. -/
theorem cells_of_not_underlined {text : String} {attributes : List Console.Attribute}
    (h : attributes.contains .underline = false) :
    Span.cells ⟨text, attributes⟩ = plainCells text.toList := by
  rw [Span.cells, Span.isUnderlined, h, plainCells]

theorem cells_emptyGutter (e : Excerpt) :
    Line.cells e.emptyGutter = plainCells (e.gutter "") := by
  rw [emptyGutter, emptyGutterOf, bar, Line.cells_cons, Line.cells_cons, Line.cells_nil,
    cells_of_not_underlined rfl, cells_of_not_underlined rfl, toList_spaces, gutterWidth_eq,
    gutter, plainCells_append]
  rfl

/-- The gutter of a line that an excerpt can show. -/
theorem cells_numberedGutter {n : Nat} (hpos : 1 ≤ n) (hle : n ≤ e.location.line + 1) :
    Line.cells (e.numberedGutter n) = plainCells (e.gutter (toString n) ++ [' ']) := by
  have hdigits := length_toString_eq_digitCount hpos
  have hwidth : digitCount n ≤ e.gutterWidth := digitCount_mono hle
  have hpad : e.gutterWidth - digitCount n + 1 =
      (toString (e.location.line + 1)).length + 1 - (toString n).toList.length := by
    rw [String.length_toList, hdigits, ← gutterWidth_eq]
    omega
  rw [numberedGutter_eq, bar, Line.cells_cons, Line.cells_cons, Line.cells_cons, Line.cells_cons,
    Line.cells_nil, cells_of_not_underlined rfl, cells_of_not_underlined rfl,
    cells_of_not_underlined rfl, cells_of_not_underlined rfl, toList_spaces, hpad, gutter,
    List.rightpad]
  simp only [plainCells_append, List.append_assoc]
  rfl

theorem cells_header (e : Excerpt) : Line.cells e.header = e.headerRow := by
  have htext : (s!" {e.file.path}:{e.location}").toList =
      ' ' :: (e.file.path.toList ++ ':' :: ((toString e.location.line).toList ++
        ':' :: (toString e.location.column).toList)) := by
    show (" " ++ e.file.path ++ ":" ++
      (toString e.location.line ++ ":" ++ toString e.location.column)).toList = _
    simp only [String.toList_append, List.append_assoc]
    rfl
  rw [header, headerOf, headerRow, Line.cells_cons, Line.cells_cons, Line.cells_cons,
    Line.cells_nil, cells_of_not_underlined rfl, cells_of_not_underlined rfl,
    cells_of_not_underlined rfl, toList_spaces, gutterWidth_eq, List.append_nil,
    ← plainCells_append, ← plainCells_append, htext]
  rfl

/-! ## Lines of the source -/

/-- Characters of the source, each in attributes of its own, are shown one by one. -/
theorem cells_images {α : Type} (char : α → Char) (attributes : α → List Console.Attribute)
    (l : List α) :
    Line.cells ((l.filter fun a => isShown (char a)).map fun a =>
        ⟨image (char a), attributes a⟩) =
      l.flatMap fun a => (expand (char a)).map (⟨·, (attributes a).contains .underline⟩) := by
  induction l with
  | nil => rfl
  | cons a l ih =>
      rw [List.flatMap_cons, ← ih, List.filter_cons]
      cases hshown : isShown (char a) with
      | false =>
          rw [expand_of_not_isShown hshown]
          rfl
      | true =>
          rw [if_pos rfl, List.map_cons, Line.cells_cons, Span.cells, toList_image hshown]
          rfl

theorem cells_plainLine (line : List Char) :
    Line.cells (plainLine line) = plainCells (line.flatMap expand) := by
  rw [plainLine, cells_images (fun c => c) (fun _ => []), plainCells, List.map_flatMap]
  rfl

theorem cells_markedLine (e : Excerpt) (line : List Char) :
    Line.cells (e.markedLine line) = (line.zipIdx 1).flatMap fun (c, column) =>
      (expand c).map (⟨·, e.isMarked column⟩) := by
  have himages := cells_images (α := Char × Nat) (fun p => p.1)
    (fun p => if e.isMarked p.2 then [.red, .bold, .underline] else []) (line.zipIdx 1)
  refine Eq.trans himages ?_
  congr 1
  funext p
  by_cases hp : e.isMarked p.2 = true <;> simp [hp]

/-- Without their columns, the characters of a line are the line. -/
theorem flatMap_zipIdx {β : Type} (line : List Char) (start : Nat) (f : Char → List β) :
    ((line.zipIdx start).flatMap fun p => f p.1) = line.flatMap f := by
  conv => rhs; rw [← List.zipIdx_map_fst start line]
  rw [List.flatMap_map]

/-! ## The lines of an excerpt -/

theorem sourceRow_plain (e : Excerpt) (n : Nat) :
    (e.sourceRow n fun _ => false) =
      plainCells (e.gutter (toString n) ++ [' ']) ++
        plainCells ((e.file.lines.getD (n - 1) []).flatMap expand) := by
  rw [sourceRow, flatMap_zipIdx _ 1 fun c => (expand c).map fun d => (⟨d, false⟩ : Cell)]
  simp only [plainCells, List.map_flatMap]

/-- The line with a number is shown if the file has it. -/
theorem map_cells_context {n : Nat} (hle : n ≤ e.location.line + 1) :
    (e.context n).map Line.cells =
      if 1 ≤ n ∧ n ≤ e.file.lineCount then [e.sourceRow n fun _ => false] else [] := by
  rw [context_eq, SourceFile.line?_eq]
  by_cases hfound : 1 ≤ n ∧ n ≤ e.file.lineCount
  · rw [if_pos hfound, if_pos hfound, sourceRow_plain, List.map_singleton, Line.cells_append,
      cells_numberedGutter hfound.1 hle, cells_plainLine]
  · rw [if_neg hfound, if_neg hfound]
    rfl

theorem eq_space_of_mem_room {c d : Char} (h : d ∈ room c) : d = ' ' := by
  rw [room] at h
  split at h <;> simpa using h

theorem map_cells_helpLine (e : Excerpt) :
    (e.helpLine (e.file.lines.getD (e.location.line - 1) [])).map Line.cells =
      (e.help.map e.helpRow).toList := by
  rw [helpLine, helpLineOf]
  cases e.help with
  | none => rfl
  | some help =>
      rw [List.map_singleton, Line.cells_append, ← emptyGutter, cells_emptyGutter, Line.cells_cons,
        Line.cells_cons, Line.cells_cons, Line.cells_nil, cells_of_not_underlined rfl,
        cells_of_not_underlined rfl, cells_of_not_underlined rfl, String.toList_append,
        String.toList_append, toList_indent, Option.map_some, Option.toList_some, helpRow,
        List.append_nil, ← plainCells_append, ← plainCells_append, ← plainCells_append,
        List.append_assoc]
      rfl

theorem isMarked_eq (e : Excerpt) :
    e.isMarked = fun column => decide
      (e.location.column ≤ column ∧ column < e.location.column + max e.length 1) := by
  funext column
  rw [Bool.eq_iff_iff, isMarked_iff, decide_eq_true_eq]

/-- The line of the place. -/
theorem cells_locatedLine {e : Excerpt} (h : 1 ≤ e.location.line) :
    Line.cells (e.numberedGutter e.location.line ++
        e.markedLine (e.file.lines.getD (e.location.line - 1) [])) =
      e.sourceRow e.location.line e.isMarked := by
  rw [Line.cells_append, cells_numberedGutter h (Nat.le_succ _), cells_markedLine, sourceRow]

/-- What is to be shown of the lines of an excerpt. -/
theorem map_cells_lines (e : Excerpt) : e.lines.map Line.cells = e.rows := by
  have hbefore : (1 ≤ e.location.line - 1 ∧ e.location.line - 1 ≤ e.file.lineCount) ↔
      (2 ≤ e.location.line ∧ e.location.line - 1 ≤ e.file.lineCount) := by omega
  have hbehind : (1 ≤ e.location.line + 1 ∧ e.location.line + 1 ≤ e.file.lineCount) ↔
      e.location.line < e.file.lineCount := by omega
  rw [lines_eq, rows, List.map_append, List.map_append, List.map_cons, List.map_singleton,
    cells_header, cells_emptyGutter, map_cells_context (by omega), if_congr hbefore rfl rfl,
    SourceFile.line?_eq]
  congr 1
  by_cases hfound : 1 ≤ e.location.line ∧ e.location.line ≤ e.file.lineCount
  · rw [if_pos hfound, if_pos hfound, List.map_append, List.map_append, List.map_append,
      List.map_singleton, cells_locatedLine hfound.1, isMarked_eq, map_cells_helpLine,
      map_cells_context (Nat.le_refl _), if_congr hbehind rfl rfl, List.map_singleton,
      cells_emptyGutter]
  · rw [if_neg hfound, if_neg hfound]
    rfl

/-! ## Characters that are not shown -/

theorem map_char_plainCells (cs : List Char) : (plainCells cs).map Cell.char = cs := by
  rw [plainCells, List.map_map]
  exact List.map_id cs

/-- The characters of a line of the source stand behind its gutter. -/
theorem map_char_sourceRow (e : Excerpt) (n : Nat) (marked : Nat → Bool) :
    (e.sourceRow n marked).map Cell.char =
      e.gutter (toString n) ++ ' ' :: (e.file.lines.getD (n - 1) []).flatMap expand := by
  have hline : (((e.file.lines.getD (n - 1) []).zipIdx 1).flatMap fun p =>
      (expand p.1).map fun c => (⟨c, marked p.2⟩ : Cell)).map Cell.char =
        (e.file.lines.getD (n - 1) []).flatMap expand := by
    rw [List.map_flatMap, ← flatMap_zipIdx _ 1 expand]
    congr 1
    funext p
    rw [List.map_map]
    exact List.map_id _
  rw [sourceRow, List.map_append, map_char_plainCells, hline, List.append_assoc,
    List.singleton_append]

/-- The signs of an excerpt, besides digits. -/
def signs : List Char := [' ', '┃', '-', '>', ':', 'h', 'e', 'l', 'p']

section Signs

variable {q : Char} (hsign : q ∉ signs) (hdigit : q.isDigit = false)

include hsign

theorem not_mem_of_all_signs {cs : List Char} (h : cs.all signs.contains = true) : q ∉ cs := by
  intro hmem
  have hcontains : signs.contains q = true := List.all_eq_true.mp h q hmem
  exact hsign (List.contains_iff_mem.mp hcontains)

theorem not_mem_replicate (n : Nat) : q ∉ List.replicate n ' ' := by
  apply not_mem_of_all_signs hsign
  rw [List.all_replicate]
  split <;> decide

theorem not_mem_flatMap_room (cs : List Char) : q ∉ cs.flatMap room := by
  rw [List.mem_flatMap]
  rintro ⟨c, -, hmem⟩
  exact hsign (eq_space_of_mem_room hmem ▸ by decide)

theorem not_mem_gutter (e : Excerpt) {label : String} (hlabel : q ∉ label.toList) :
    q ∉ e.gutter label := by
  have hbar : q ∉ ['┃'] := not_mem_of_all_signs hsign (by decide)
  rw [gutter, List.rightpad, List.mem_append, List.mem_append, not_or, not_or]
  exact ⟨⟨hlabel, not_mem_replicate hsign _⟩, hbar⟩

theorem not_mem_helpRow (e : Excerpt) {help : String} (hhelp : q ∉ help.toList) :
    q ∉ (e.helpRow help).map Cell.char := by
  have hspace : q ∉ [' '] := not_mem_of_all_signs hsign (by decide)
  have hword : q ∉ "help: ".toList := not_mem_of_all_signs hsign (by decide)
  rw [helpRow, map_char_plainCells, ← List.singleton_append]
  simp only [List.mem_append, not_or]
  exact ⟨not_mem_gutter hsign e (by simp), hspace, not_mem_flatMap_room hsign _, hword, hhelp⟩

include hdigit

theorem not_mem_sourceRow (e : Excerpt) (n : Nat) (marked : Nat → Bool)
    (hline : ∀ c ∈ e.file.lines.getD (n - 1) [], q ∉ expand c) :
    q ∉ (e.sourceRow n marked).map Cell.char := by
  have hspace : q ∉ [' '] := not_mem_of_all_signs hsign (by decide)
  rw [map_char_sourceRow, ← List.singleton_append]
  simp only [List.mem_append, List.mem_flatMap, not_or, not_exists, not_and]
  exact ⟨not_mem_gutter hsign e (not_mem_toString hdigit n), hspace, hline⟩

theorem not_mem_headerRow (e : Excerpt) (hpath : q ∉ e.file.path.toList) :
    q ∉ e.headerRow.map Cell.char := by
  have harrow : q ∉ "--> ".toList := not_mem_of_all_signs hsign (by decide)
  have hcolon : q ≠ ':' := fun heq => hsign (heq ▸ by decide)
  have hnumber : ∀ n : Nat, q ∉ (toString n).toList := not_mem_toString hdigit
  rw [headerRow, map_char_plainCells]
  simp only [List.mem_append, List.mem_cons, not_or]
  exact ⟨not_mem_replicate hsign _, harrow, hpath, hcolon, hnumber _, hcolon, hnumber _⟩

/-- A character that is no sign, no digit, and not in the path, the help, or what is shown of
the file is in no row. -/
theorem not_mem_of_mem_rows {e : Excerpt} (hpath : q ∉ e.file.path.toList)
    (hhelp : ∀ help, e.help = some help → q ∉ help.toList)
    (hcontent : ∀ c ∈ e.file.content.toList, q ∉ expand c) :
    ∀ row ∈ e.rows, q ∉ row.map Cell.char := by
  have hsource : ∀ n marked, ∀ row ∈ [e.sourceRow n marked], q ∉ row.map Cell.char := by
    intro n marked row hrow
    rw [List.mem_singleton.mp hrow]
    exact not_mem_sourceRow hsign hdigit e n marked fun c hc =>
      hcontent c (SourceFile.mem_content_of_mem_getD hc)
  have hif : ∀ {rows : List (List Cell)} (p : Prop) [Decidable p],
      (∀ row ∈ rows, q ∉ row.map Cell.char) →
        ∀ row ∈ (if p then rows else []), q ∉ row.map Cell.char := by
    intro rows p _ h row hrow
    split at hrow
    · exact h row hrow
    · simp at hrow
  have hempty : q ∉ (plainCells (e.gutter "")).map Cell.char := by
    rw [map_char_plainCells]
    exact not_mem_gutter hsign e (by simp)
  have hnote : ∀ row ∈ (e.help.map e.helpRow).toList, q ∉ row.map Cell.char := by
    intro row hrow
    rw [Option.mem_toList, Option.map_eq_some_iff] at hrow
    obtain ⟨help, hsome, rfl⟩ := hrow
    exact not_mem_helpRow hsign e (hhelp help hsome)
  rw [rows]
  simp only [List.forall_mem_append, List.forall_mem_cons]
  refine ⟨⟨⟨not_mem_headerRow hsign hdigit e hpath, hempty, by simp⟩, hif _ (hsource _ _)⟩,
    hif _ ?_⟩
  simp only [List.forall_mem_append]
  exact ⟨⟨⟨hsource _ _, hnote⟩, hif _ (hsource _ _)⟩, by simpa using hempty⟩

end Signs

/-! ## What a terminal shows -/

/-- No text of the excerpt holds an escape character, and none that stands in a row as it is
holds a newline. -/
structure Clean (e : Excerpt) : Prop where
  content : '\x1b' ∉ e.file.content.toList
  path : '\x1b' ∉ e.file.path.toList ∧ '\n' ∉ e.file.path.toList
  help : ∀ help, e.help = some help → '\x1b' ∉ help.toList ∧ '\n' ∉ help.toList

theorem not_mem_expand {q c : Char} (hspace : q ≠ ' ') (hc : q ≠ c) : q ∉ expand c := by
  rw [expand]
  split
  · simp [hspace]
  · split <;> simp [hc]

theorem newline_not_mem_expand (c : Char) : '\n' ∉ expand c := by
  by_cases hc : c = '\n'
  · rw [hc]
    decide
  · exact not_mem_expand (by decide) (Ne.symm hc)

/-- An excerpt without escape sequences in its texts is shown row by row. -/
theorem screen_eq_rows {e : Excerpt} (h : e.Clean) :
    screen e.render = e.rows.flatMap fun row => row ++ [⟨'\n', false⟩] := by
  have hescape : ∀ row ∈ e.rows, '\x1b' ∉ row.map Cell.char := by
    apply not_mem_of_mem_rows (by decide) rfl h.path.1 fun help hhelp => (h.help help hhelp).1
    intro c hc
    exact not_mem_expand (by decide) fun heq => h.content (heq ▸ hc)
  rw [← map_cells_lines] at hescape ⊢
  rw [render, Console.screen_join, List.flatMap_map]
  intro l hl
  exact Console.Line.escapeFree_of_cells (hescape _ (List.mem_map_of_mem hl))

/-- No row holds a newline within. -/
theorem newline_not_mem_rows {e : Excerpt} (h : e.Clean) :
    ∀ row ∈ e.rows, '\n' ∉ row.map Cell.char :=
  not_mem_of_mem_rows (by decide) rfl h.path.2 (fun help hhelp => (h.help help hhelp).2)
    fun c _ => newline_not_mem_expand c

/-- **What an excerpt shows.**  Of an excerpt whose texts hold no escape sequences a terminal
shows the rows, one after another, each closed by a newline and none with a newline within.
A line of the source stands behind its gutter with four spaces for every tab and without line
breaks. -/
theorem screen_rows {e : Excerpt} (h : e.Clean) :
    (screen e.render = e.rows.flatMap fun row => row ++ [⟨'\n', false⟩]) ∧
      (∀ row ∈ e.rows, '\n' ∉ row.map Cell.char) ∧
      ∀ n marked, (e.sourceRow n marked).map Cell.char =
        e.gutter (toString n) ++ ' ' :: (e.file.lines.getD (n - 1) []).flatMap expand :=
  ⟨screen_eq_rows h, newline_not_mem_rows h, e.map_char_sourceRow⟩

/-- A place behind a tab, between a line with a number of one digit and one with two. -/
theorem screen_rows_tab :
    let e : Excerpt :=
      { file := ⟨"a b", "\n\n\n\n\n\n\n\n\t!\r\n+"⟩
        location := ⟨9, 2⟩
        length := 3
        help := some "=" }
    e.Clean ∧ (screen e.render = e.rows.flatMap fun row => row ++ [⟨'\n', false⟩]) ∧
      (e.rows.map fun row => String.ofList (row.map Cell.char)) =
        ["  --> a b:9:2", "   ┃", "8  ┃ ", "9  ┃     !", "   ┃     help: =", "10 ┃ +", "   ┃"] := by
  intro e
  have hclean : e.Clean := by
    refine ⟨by decide, by decide, ?_⟩
    rintro help ⟨⟩
    decide
  exact ⟨hclean, (screen_rows hclean).1, by decide +kernel⟩

end Excerpt

end Lexis
