import Lexis.Proofs.Alignment
import Mathlib.Data.Nat.Digits.Lemmas

/-!
# The gutter of an excerpt

A gutter without a number is spaces and a bar.  In one with a number, the number stands first,
and the spaces behind it are what its digits leave of the width, which is a difference.  A
difference of natural numbers only stops at zero, but one of machine words can go wrong.  So
the lines of an excerpt are calculated here once more, by an arithmetic in which a difference
below zero and a sum that no word holds come to nothing, and they are shown to be the same.

What carries this is that the width is the number of digits of the line behind the place.  No
line that is shown has a greater number, and a smaller number has no more digits.  The number
of the line before the place is a difference too, but it is calculated only if the file has
that line, and a file has no line zero.

## Main definitions

* `Word.arithmetic` — arithmetic in machine words.
* `Excerpt.lines?` — the lines of an excerpt, calculated in machine words.
* `Excerpt.barColumn?` — the column in which the bar of a row stands.

## Main results

* `digitCount_eq_length_digits` — how many digits a number has.
* `Word.countDigits_eq` — counting digits on, by dividing until nothing is left.
* `Excerpt.lines?_eq` — no calculation in an excerpt goes wrong.
* `Excerpt.barColumn?_of_guttered` — where the bar of a row stands.
* `Excerpt.gutter_aligned` — the bars of an excerpt stand one below the other.
-/

namespace Lexis

open Console (Line Cell screen)

/-! ## Digits -/

/-- The digits are those of the number to the base ten. -/
theorem digitCount_eq_length_digits (n : Nat) : digitCount n = (Nat.digits 10 n).length := by
  induction n using Nat.strongRecOn with
  | ind n ih =>
      cases n with
      | zero => rw [digitCount_zero, Nat.digits_zero, List.length_nil]
      | succ n =>
          have hfront := ih ((n + 1) / 10) (by omega)
          rw [digitCount_succ, hfront, Nat.digits_def' (by decide) (Nat.succ_pos n),
            List.length_cons]

/-- A number that a machine word holds has at most twenty digits. -/
theorem digitCount_le_twenty {n : Nat} (h : n < 2 ^ 64) : digitCount n ≤ 20 := by
  rw [digitCount_eq_length_digits, Nat.digits_length_le_iff (by decide)]
  exact Nat.lt_trans h (by decide)

/-! ## Machine words -/

namespace Word

/-- The sum of two numbers, if a machine word holds it. -/
def add? (m n : Nat) : Option Nat := if m + n < 2 ^ 64 then some (m + n) else none

/-- The difference of two numbers, if it is not below zero. -/
def sub? (m n : Nat) : Option Nat := if n ≤ m then some (m - n) else none

theorem add?_of_lt {m n : Nat} (h : m + n < 2 ^ 64) : add? m n = some (m + n) := if_pos h

theorem sub?_of_le {m n : Nat} (h : n ≤ m) : sub? m n = some (m - n) := if_pos h

/-- Arithmetic in machine words. -/
def arithmetic : Arithmetic Option := ⟨add?, sub?⟩

/-- What has been counted and what is still to be counted stay the same together. -/
theorem countDigits_eq {count n : Nat} (h : count + digitCount n < 2 ^ 64) :
    arithmetic.countDigits count n = some (count + digitCount n) := by
  induction n using Nat.strongRecOn generalizing count with
  | ind n ih =>
      cases n with
      | zero => rw [Arithmetic.countDigits, digitCount_zero, Nat.add_zero, Option.pure_def]
      | succ n =>
          rw [digitCount_succ] at h ⊢
          have hcount : arithmetic.add count 1 = some (count + 1) := add?_of_lt (by omega)
          have hrest : arithmetic.countDigits (count + 1) ((n + 1) / 10) =
              some (count + 1 + digitCount ((n + 1) / 10)) :=
            ih ((n + 1) / 10) (by omega) (by omega)
          rw [Arithmetic.countDigits, hcount]
          show arithmetic.countDigits (count + 1) ((n + 1) / 10) = _
          rw [hrest, Nat.add_assoc, Nat.add_comm 1]

theorem countDigits_zero {n : Nat} (h : n < 2 ^ 64) :
    arithmetic.countDigits 0 n = some (digitCount n) := by
  have htwenty := digitCount_le_twenty h
  rw [countDigits_eq (by omega), Nat.zero_add]

end Word

namespace Excerpt

variable {e : Excerpt}

/-! ## Excerpts in machine words -/

/-- The lines of the excerpt, with the column behind the last marked one, the numbers of lines
and the room for them calculated in machine words. -/
def lines? (e : Excerpt) : Option (List Line) := e.linesBy Word.arithmetic

/-- In front of a line up to the one behind the place there is room for its number. -/
theorem numberedGutterBy_word {n : Nat} (hle : n ≤ e.location.line + 1)
    (hline : e.location.line + 1 < 2 ^ 64) :
    numberedGutterBy Word.arithmetic e.gutterWidth n = some (e.numberedGutter n) := by
  have hroom : digitCount n ≤ e.gutterWidth := digitCount_mono hle
  have hwidth : e.gutterWidth ≤ 20 := digitCount_le_twenty hline
  have hdigits : Word.arithmetic.countDigits 0 n = some (digitCount n) :=
    Word.countDigits_zero (Nat.lt_of_le_of_lt hle hline)
  have hsub : Word.arithmetic.sub e.gutterWidth (digitCount n) =
      some (e.gutterWidth - digitCount n) := Word.sub?_of_le hroom
  have hadd : Word.arithmetic.add (e.gutterWidth - digitCount n) 1 =
      some (e.gutterWidth - digitCount n + 1) := Word.add?_of_lt (by omega)
  simp only [numberedGutterBy, hdigits, hsub, hadd, Option.bind_eq_bind, Option.bind_some,
    Option.pure_def, numberedGutter_eq]

theorem contextBy_word {n : Nat} {number : Option Nat} (hle : n ≤ e.location.line + 1)
    (hline : e.location.line + 1 < 2 ^ 64)
    (hnumber : ∀ line, e.file.line? n = some line → number = some n) :
    e.contextBy Word.arithmetic e.gutterWidth n number = some (e.context n) := by
  rw [contextBy, context_eq]
  cases hfound : e.file.line? n with
  | none => rfl
  | some line =>
      rw [hnumber line hfound]
      show (numberedGutterBy Word.arithmetic e.gutterWidth n).bind _ = _
      rw [numberedGutterBy_word hle hline]
      rfl

/-- **No calculation goes wrong.**  If words hold the number of the line behind the place and
the column behind the last one asked for, then all that is calculated for an excerpt in
machine words comes out, and as it should. -/
theorem lines?_eq (hline : e.location.line + 1 < 2 ^ 64)
    (hcolumn : e.location.column + max e.length 1 < 2 ^ 64) : e.lines? = some e.lines := by
  have hlast : Word.arithmetic.add e.location.column (max e.length 1) =
      some (e.location.column + max e.length 1) := Word.add?_of_lt hcolumn
  have hnext : Word.arithmetic.add e.location.line 1 = some (e.location.line + 1) :=
    Word.add?_of_lt hline
  have hwidth : Word.arithmetic.countDigits 0 (e.location.line + 1) = some e.gutterWidth :=
    Word.countDigits_zero hline
  have hbefore : e.contextBy Word.arithmetic e.gutterWidth (e.location.line - 1)
      (Word.arithmetic.sub e.location.line 1) = some (e.context (e.location.line - 1)) := by
    apply contextBy_word (by omega) hline
    -- A file has no line zero, so a place before which there is a line is not on line zero.
    intro line hfound
    have hpos := SourceFile.pos_of_line? hfound
    exact Word.sub?_of_le (by omega)
  have hgutter := numberedGutterBy_word (e := e) (Nat.le_succ e.location.line) hline
  have hbehind : e.contextBy Word.arithmetic e.gutterWidth (e.location.line + 1)
      (some (e.location.line + 1)) = some (e.context (e.location.line + 1)) :=
    contextBy_word (Nat.le_refl _) hline fun _ _ => rfl
  rw [lines?, lines_eq]
  simp only [linesBy, hlast, hnext, hwidth, hbefore, Option.bind_eq_bind, Option.bind_some]
  cases e.file.line? e.location.line with
  | none => rfl
  | some line =>
      simp only [hgutter, hbehind, Option.bind_some]
      rfl

/-! ## Bars -/

/-- The row begins with a gutter whose label is no wider than the line numbers. -/
def Guttered (e : Excerpt) (row : List Cell) : Prop :=
  ∃ label rest, row.map Cell.char = e.gutter label ++ rest ∧ '┃' ∉ label.toList ∧
    label.length ≤ e.gutterWidth

theorem guttered_empty (e : Excerpt) : e.Guttered (plainCells (e.gutter "")) := by
  refine ⟨"", [], ?_, by simp, Nat.zero_le _⟩
  rw [map_char_plainCells, List.append_nil]

theorem guttered_helpRow (e : Excerpt) (help : String) : e.Guttered (e.helpRow help) :=
  ⟨"", _, map_char_plainCells _, by simp, Nat.zero_le _⟩

theorem guttered_sourceRow {n : Nat} (hpos : 1 ≤ n) (hle : n ≤ e.location.line + 1)
    (marked : Nat → Bool) : e.Guttered (e.sourceRow n marked) := by
  refine ⟨toString n, _, e.map_char_sourceRow n marked, not_mem_toString rfl n, ?_⟩
  rw [length_toString_eq_digitCount hpos]
  exact digitCount_mono hle

/-- All rows but the header have a gutter. -/
theorem guttered_of_mem_tail {row : List Cell} (h : row ∈ e.rows.tail) : e.Guttered row := by
  rw [rows] at h
  simp only [List.cons_append, List.nil_append, List.tail_cons, List.mem_cons, List.mem_append,
    List.mem_ite_nil_right, List.not_mem_nil, or_false, Option.mem_toList,
    Option.map_eq_some_iff] at h
  rcases h with rfl | ⟨hbefore, rfl⟩ | ⟨hfound, rfl | (⟨help, -, rfl⟩ | ⟨hbehind, rfl⟩) | rfl⟩
  · exact e.guttered_empty
  · exact guttered_sourceRow (by omega) (by omega) _
  · exact guttered_sourceRow hfound.1 (Nat.le_succ _) _
  · exact e.guttered_helpRow help
  · exact guttered_sourceRow (Nat.succ_pos _) (Nat.le_refl _) _
  · exact e.guttered_empty

/-- The column in which the bar of a row stands, counted from one. -/
def barColumn? (row : List Char) : Option Nat := (row.idxOf? '┃').map (· + 1)

theorem barColumn?_append {front : List Char} (h : '┃' ∉ front) (rest : List Char) :
    barColumn? (front ++ '┃' :: rest) = some (front.length + 1) := by
  have hfront : front.findIdx? (· == '┃') = none := List.idxOf?_eq_none_iff.mpr h
  have hbar : ('┃' :: rest).findIdx? (· == '┃') = some 0 := List.findIdx?_cons
  rw [barColumn?, List.idxOf?, List.findIdx?_append, hfront, hbar, Option.none_or,
    Option.map_some, Option.map_some, Nat.zero_add]

/-- The bar stands behind the width of the line numbers and a space. -/
theorem barColumn?_of_guttered {row : List Cell} (h : e.Guttered row) (behind : List Char) :
    barColumn? (row.map Cell.char ++ behind) = some (e.gutterWidth + 2) := by
  obtain ⟨label, rest, hrow, hlabel, hwidth⟩ := h
  rw [gutterWidth_eq] at hwidth
  have hlength := length_gutter hwidth
  rw [gutter, List.length_append, List.length_singleton, ← gutterWidth_eq] at hlength
  have hfront : '┃' ∉ label.toList.rightpad (e.gutterWidth + 1) ' ' := by
    rw [List.rightpad, List.mem_append, not_or]
    refine ⟨hlabel, fun hmem => ?_⟩
    exact absurd (List.eq_of_mem_replicate hmem) (by decide)
  rw [hrow, gutter, ← gutterWidth_eq, List.append_assoc, List.append_assoc,
    List.singleton_append, barColumn?_append hfront, hlength]

/-! ## The text on the screen -/

/-- Of an excerpt without escape sequences in its texts a terminal shows the rows, each with a
newline behind it. -/
theorem split_screen (h : e.Clean) : Lines.split ((screen e.render).map Cell.char) =
    (e.rows.map fun row => row.map Cell.char ++ ['\n']) ++ [[]] := by
  have hscreen : (screen e.render).map Cell.char =
      (e.rows.map fun row => row.map Cell.char ++ ['\n']).flatten := by
    rw [screen_eq_rows h, List.map_flatMap, List.flatMap_def]
    simp only [List.map_append, List.map_singleton]
  rw [hscreen]
  apply Lines.split_flatten
  intro l hl
  obtain ⟨row, hrow, rfl⟩ := List.mem_map.mp hl
  exact ⟨_, newline_not_mem_rows h row hrow, rfl⟩

/-- **The gutter is aligned.**  The digits of a number are counted right, and a greater number
has no fewer of them.  So no calculation in an excerpt goes wrong in machine words, and on the
screen the bar stands in the same column of every line behind the header: one space behind the
width of the line numbers, however many digits the number in front of it has. -/
theorem gutter_aligned {e : Excerpt} (h : e.Clean) (hline : e.location.line + 1 < 2 ^ 64)
    (hcolumn : e.location.column + max e.length 1 < 2 ^ 64) :
    (∀ n, digitCount n = (Nat.digits 10 n).length) ∧ Monotone digitCount ∧
      e.lines? = some e.lines ∧
      ∃ rows, Lines.split ((screen e.render).map Cell.char) =
          (e.headerRow.map Cell.char ++ ['\n']) :: (rows ++ [[]]) ∧
        rows.length + 1 = e.lines.length ∧
        ∀ row ∈ rows, barColumn? row = some (digitCount (e.location.line + 1) + 2) := by
  have hrows : e.rows = e.headerRow :: e.rows.tail := rfl
  have hlength : e.rows.length = e.lines.length := by
    rw [← map_cells_lines, List.length_map]
  refine ⟨digitCount_eq_length_digits, fun m n => digitCount_mono, lines?_eq hline hcolumn,
    e.rows.tail.map fun row => row.map Cell.char ++ ['\n'], ?_, ?_, ?_⟩
  · rw [split_screen h, hrows]
    rfl
  · rw [← hlength, hrows, List.length_map]
    rfl
  · intro line hmem
    obtain ⟨row, hrow, rfl⟩ := List.mem_map.mp hmem
    exact barColumn?_of_guttered (guttered_of_mem_tail hrow) ['\n']

/-- A place between numbers of one digit and of two, behind a line that holds a bar itself. -/
theorem gutter_aligned_ten :
    let e : Excerpt :=
      { file := ⟨"a b", "\n\n\n\n\n\n\n\n┃\n\t!\n+"⟩
        location := ⟨10, 2⟩
        length := 1
        help := some "=" }
    e.Clean ∧ e.location.line + 1 < 2 ^ 64 ∧ e.location.column + max e.length 1 < 2 ^ 64 ∧
      e.lines? = some e.lines ∧
      (∃ rows, Lines.split ((screen e.render).map Cell.char) =
          (e.headerRow.map Cell.char ++ ['\n']) :: (rows ++ [[]]) ∧
        ∀ row ∈ rows, barColumn? row = some 4) ∧
      (e.rows.map fun row => String.ofList (row.map Cell.char)) =
        ["  --> a b:10:2", "   ┃", "9  ┃ ┃", "10 ┃     !", "   ┃     help: =", "11 ┃ +",
          "   ┃"] := by
  intro e
  have hclean : e.Clean := by
    refine ⟨by decide, by decide, ?_⟩
    rintro help ⟨⟩
    decide
  have hwidth : digitCount (e.location.line + 1) = 2 := by decide +kernel
  obtain ⟨-, -, hlines, rows, hsplit, -, hbar⟩ :=
    gutter_aligned hclean (by decide) (by decide)
  rw [hwidth] at hbar
  exact ⟨hclean, by decide, by decide, hlines, ⟨rows, hsplit, hbar⟩, by decide +kernel⟩

end Excerpt

end Lexis
