import Lexis.Source.Lines
import Lexis.Text.Escape

/-!
# Source files

A source text together with the path it goes by. Its lines are those of
`Lexis.Lines`, so the place at which scanning ends always lies on a line of the
file, also behind a final newline.
-/

namespace Lexis

/-- A source text and the path it goes by. -/
structure SourceFile where
  /-- The path as it is shown. -/
  path : String
  /-- The source text. -/
  content : String
deriving DecidableEq, Repr

namespace SourceFile

/-- The file made from the bytes of its content. -/
def ofBytes (path : String) (bytes : Bytes) : Except Utf8.DecodeError SourceFile :=
  (Utf8.decode bytes).map fun content => ⟨path, content⟩

/-- What is mapped into memory of a stored file that holds these bytes. An empty
file cannot be mapped. The size that is reported of a stored file is the number
of its bytes, so this is where it shows. -/
def mapping? (bytes : Bytes) : Option Bytes := if bytes.length = 0 then none else some bytes

/-- The file made from what has been mapped of its content. Where nothing has
been, there is nothing in it. -/
def ofMapping (path : String) : Option Bytes → Except Utf8.DecodeError SourceFile
  | none => .ok ⟨path, ""⟩
  | some bytes => ofBytes path bytes

/-- Mapped or not, a file is made from its bytes. -/
theorem ofMapping_mapping? (path : String) (bytes : Bytes) :
    ofMapping path (mapping? bytes) = ofBytes path bytes := by
  cases bytes with
  | nil =>
    rw [mapping?, if_pos List.length_nil, ofBytes, Utf8.decode, Utf8.decodeFrom]
    rfl
  | cons b bs => rw [mapping?, if_neg (by simp), ofMapping]

/-- The lines of the file, each with its newline. -/
def lines (f : SourceFile) : List (List Char) := Lines.split f.content.toList

/-- The number of lines. -/
def lineCount (f : SourceFile) : Nat := f.lines.length

/-- The line with the number `n`, the first being 1. -/
def line? (f : SourceFile) (n : Nat) : Option (List Char) :=
  if n = 0 then none else f.lines[n - 1]?

/-- The bytes that each line takes. -/
def lineRanges (f : SourceFile) : List Lines.ByteRange := Lines.rangesFrom 0 f.lines

/-- The number of bytes in the file. -/
def size (f : SourceFile) : Nat := Utf8.size f.content.toList

/-- The number of lines that hold something, be it only their newline: an empty
last line does not count. -/
def filledLineCount (f : SourceFile) : Nat := (f.lines.filter (!·.isEmpty)).length

/-- The path of the file and the bytes of its lines, in one line of text. -/
def summary (f : SourceFile) : String :=
  "SourceFile \x7b full_path: " ++ Text.Escape.quoted f.path ++ ", lines: [" ++
    ", ".intercalate (f.lineRanges.map toString) ++ "] \x7d"

end SourceFile

end Lexis
