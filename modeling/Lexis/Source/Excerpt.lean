import Lexis.Diagnostic
import Lexis.Source.File

/-!
# Excerpts

An excerpt shows a place in a source file: the line it lies on, with the
characters at fault marked, between the line before and the line after. A
gutter on the left holds the line numbers; a note of help may stand under the
marked line.

Tabs are shown as four spaces, newlines and carriage returns are not shown.
Marks do not go beyond the end of the line, and at least one character is
marked. A place on a line that the file does not have is shown with no more
than the line before.

Some numbers of an excerpt are calculated from its place. `Excerpt.linesBy`
leaves open how numbers are added and subtracted, and what becomes of a sum or a
difference that does not exist; `Excerpt.lines` calculates in natural numbers.

## Main definitions

* `Excerpt.linesBy` — the lines of the excerpt as styled text, by any arithmetic.
* `Excerpt.lines` — the lines of the excerpt.
* `Excerpt.render` — the same with escape sequences and newlines.
* `SourceFile.excerptOf` — the excerpt to which a diagnostic points.

## Main statements

* `Excerpt.lines_eq` — the lines one behind the other.
-/

namespace Lexis

open Console (Line Span)

/-- A place in a source file that is to be shown. -/
structure Excerpt where
  /-- The source file. -/
  file : SourceFile
  /-- The place of the first marked character. -/
  location : Location
  /-- The number of characters to mark. -/
  length : Nat
  /-- What to do about the place. -/
  help : Option String := none
deriving DecidableEq, Repr

/-- The excerpt of the file to which a diagnostic points. -/
def SourceFile.excerptOf (f : SourceFile) (d : Diagnostic) : Excerpt where
  file := f
  location := d.location
  length := d.highlightLength
  help := d.help?

/-! ## Calculations -/

/-- How numbers are added and subtracted. -/
structure Arithmetic (m : Type → Type) where
  /-- The sum of two numbers. -/
  add : Nat → Nat → m Nat
  /-- The difference of two numbers. -/
  sub : Nat → Nat → m Nat

namespace Arithmetic

/-- Natural numbers. Their differences stop at zero. -/
def natural : Arithmetic Id where
  add m n := pure (m + n)
  sub m n := pure (m - n)

/-- Counts the decimal digits of a number, on from `count`: as long as something
is left of the number, its last digit is cut off. -/
def countDigits {m : Type → Type} [Monad m] (a : Arithmetic m) (count : Nat) : Nat → m Nat
  | 0 => pure count
  | n + 1 => do
    let count ← a.add count 1
    a.countDigits count ((n + 1) / 10)

end Arithmetic

/-- The number of decimal digits of a positive number; zero has none. -/
def digitCount (n : Nat) : Nat := (Arithmetic.natural.countDigits 0 n).run

/-- What has been counted and what is still to be counted are added up. -/
theorem countDigits_natural (count n : Nat) :
    (Arithmetic.natural.countDigits count n).run = count + digitCount n := by
  induction n using Nat.strongRecOn generalizing count with
  | ind n ih =>
    cases n with
    | zero =>
      rw [digitCount, Arithmetic.countDigits, Arithmetic.countDigits]
      rfl
    | succ n =>
      have hshorter : (n + 1) / 10 < n + 1 := by omega
      have hstep : ∀ k, (Arithmetic.natural.countDigits k (n + 1)).run =
          (Arithmetic.natural.countDigits (k + 1) ((n + 1) / 10)).run := by
        intro k
        rw [Arithmetic.countDigits]
        rfl
      rw [digitCount, hstep, hstep, ih _ hshorter, ih _ hshorter]
      omega

@[simp] theorem digitCount_zero : digitCount 0 = 0 := by
  rw [digitCount, Arithmetic.countDigits]
  rfl

theorem digitCount_succ (n : Nat) : digitCount (n + 1) = digitCount ((n + 1) / 10) + 1 := by
  have hrest := countDigits_natural 1 ((n + 1) / 10)
  rw [digitCount, Arithmetic.countDigits]
  exact hrest.trans (Nat.add_comm 1 _)

namespace Excerpt

/-- A text of `n` spaces. -/
def spaces (n : Nat) : String := String.ofList (List.replicate n ' ')

section Calculated

variable {m : Type → Type} [Monad m] (a : Arithmetic m)

/-! ## The gutter -/

/-- The bar between the line numbers and the source text. -/
def bar : Span := ⟨"┃", [.cyan, .bold]⟩

/-- The gutter of a line without a number, if line numbers are `width` wide. -/
def emptyGutterOf (width : Nat) : Line := [⟨spaces (width + 1), []⟩, bar]

/-- The gutter of the line with the number `n`, if line numbers are `width` wide. -/
def numberedGutterBy (width n : Nat) : m Line := do
  let digits ← a.countDigits 0 n
  let gap ← a.sub width digits
  let gap ← a.add gap 1
  return [⟨toString n, [.cyan, .bold]⟩, ⟨spaces gap, []⟩, bar, ⟨" ", []⟩]

/-! ## Source text -/

/-- Whether a character of the source is shown. -/
def isShown (c : Char) : Bool := c != '\n' && c != '\r'

/-- What is shown for a character of the source. -/
def image (c : Char) : String := if c = '\t' then spaces 4 else String.singleton c

/-- A line of the source as it stands. -/
def plainLine (line : List Char) : Line := (line.filter isShown).map fun c => ⟨image c, []⟩

/-- Whether the character in a column is marked, if the marks end before the
column `last`. -/
def isMarkedTo (e : Excerpt) (last column : Nat) : Bool :=
  decide (e.location.column ≤ column) && decide (column < last)

/-- A line of the source with the characters before the column `last` marked, from
the place on and one by one. -/
def markedLineTo (e : Excerpt) (last : Nat) (line : List Char) : Line :=
  (line.zipIdx 1).filter (isShown ·.1) |>.map fun (c, column) =>
    ⟨image c, if e.isMarkedTo last column then [.red, .bold, .underline] else []⟩

/-- The room under the part of a source line in front of the place: four spaces
for a tab and one for any other character, shown or not. -/
def indent (e : Excerpt) (line : List Char) : String :=
  String.join ((line.take (e.location.column - 1)).map fun c => spaces (if c = '\t' then 4 else 1))

/-! ## The excerpt -/

/-- The line that names the file and the place. -/
def headerOf (e : Excerpt) (width : Nat) : Line :=
  [⟨spaces width, []⟩, ⟨"-->", [.cyan, .bold]⟩, ⟨s!" {e.file.path}:{e.location}", []⟩]

/-- The line with the number `n` as context, if the file has it. Only then its
number is calculated once more, to be written down. -/
def contextBy (e : Excerpt) (width n : Nat) (number : m Nat) : m (List Line) :=
  match e.file.line? n with
  | none => pure []
  | some line => do
    let gutter ← numberedGutterBy a width (← number)
    return [gutter ++ plainLine line]

/-- The note of help under the line `line`, if there is help. -/
def helpLineOf (e : Excerpt) (width : Nat) (line : List Char) : List Line :=
  match e.help with
  | some help =>
    [emptyGutterOf width ++ [⟨" " ++ e.indent line, []⟩, ⟨"help", [.bold]⟩, ⟨": " ++ help, []⟩]]
  | none => []

/-- The lines of the excerpt. The line before the place is asked for by a number
that stops at zero. What is not calculated by the arithmetic are the columns of a
line, which are no more than its characters. -/
def linesBy (e : Excerpt) : m (List Line) := do
  let n := e.location.line
  let last ← a.add e.location.column (max e.length 1)
  let next ← a.add n 1
  let width ← a.countDigits 0 next
  let before ← e.contextBy a width (n - 1) (a.sub n 1)
  let located ← match e.file.line? n with
    | none => pure []
    | some line => do
      let gutter ← numberedGutterBy a width n
      let behind ← e.contextBy a width next (a.add n 1)
      pure ([gutter ++ e.markedLineTo last line] ++ e.helpLineOf width line ++ behind ++
        [emptyGutterOf width])
  return [e.headerOf width, emptyGutterOf width] ++ before ++ located

end Calculated

/-! ## The excerpt in natural numbers -/

/-- The width of the line numbers, which is that of the line after the place. -/
def gutterWidth (e : Excerpt) : Nat := digitCount (e.location.line + 1)

/-- The gutter of a line without a number. -/
def emptyGutter (e : Excerpt) : Line := emptyGutterOf e.gutterWidth

/-- The gutter of the line with the number `n`. -/
def numberedGutter (e : Excerpt) (n : Nat) : Line :=
  (numberedGutterBy .natural e.gutterWidth n).run

/-- Whether the character in a column is marked. -/
def isMarked (e : Excerpt) (column : Nat) : Bool :=
  e.isMarkedTo (e.location.column + max e.length 1) column

/-- A line of the source with the characters at fault marked. -/
def markedLine (e : Excerpt) (line : List Char) : Line :=
  e.markedLineTo (e.location.column + max e.length 1) line

/-- The line that names the file and the place. -/
def header (e : Excerpt) : Line := e.headerOf e.gutterWidth

/-- The line with the number `n` as context, if the file has it. -/
def context (e : Excerpt) (n : Nat) : List Line :=
  (e.contextBy .natural e.gutterWidth n (pure n)).run

/-- The note of help under the line `line`, if there is help. -/
def helpLine (e : Excerpt) (line : List Char) : List Line := e.helpLineOf e.gutterWidth line

/-- The lines of the excerpt. -/
def lines (e : Excerpt) : List Line := (e.linesBy .natural).run

theorem isMarked_iff (e : Excerpt) (column : Nat) :
    e.isMarked column = true ↔
      e.location.column ≤ column ∧ column < e.location.column + max e.length 1 := by
  rw [isMarked, isMarkedTo, Bool.and_eq_true, decide_eq_true_eq, decide_eq_true_eq]

theorem numberedGutter_eq (e : Excerpt) (n : Nat) :
    e.numberedGutter n =
      [⟨toString n, [.cyan, .bold]⟩, ⟨spaces (e.gutterWidth - digitCount n + 1), []⟩, bar,
        ⟨" ", []⟩] := rfl

theorem context_eq (e : Excerpt) (n : Nat) :
    e.context n =
      match e.file.line? n with
      | some line => [e.numberedGutter n ++ plainLine line]
      | none => [] := by
  rw [context, contextBy]
  cases e.file.line? n <;> rfl

theorem lines_eq (e : Excerpt) :
    e.lines =
      [e.header, e.emptyGutter] ++ e.context (e.location.line - 1) ++
        match e.file.line? e.location.line with
        | none => []
        | some line =>
          [e.numberedGutter e.location.line ++ e.markedLine line] ++ e.helpLine line ++
            e.context (e.location.line + 1) ++ [e.emptyGutter] := by
  rw [lines, linesBy]
  cases e.file.line? e.location.line <;> rfl

/-- The excerpt with its escape sequences, each line closed by a newline. -/
def render (e : Excerpt) : String := String.join (e.lines.map fun l => l.render ++ "\n")

instance : ToString Excerpt where
  toString := render

end Excerpt

end Lexis
