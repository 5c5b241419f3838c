import Lexis.Text.CombiningMark
import Lexis.Text.Printable

/-!
# Escaped text

How a character is shown inside quotes. A backslash and the control characters
that have a short name get a backslash, the surrounding quotes get one where
the text asks for it, and whatever cannot be seen on its own is written as its
code point in hexadecimal. All other characters stand for themselves.

## Main definitions

* `Escape.char` — one character, under a choice of escaped quotes.
* `Escape.quoted` — a whole text between double quotes.
-/

namespace Lexis.Text

/-- Which of the two quotes a text escapes. -/
structure QuoteEscapes where
  /-- Whether `'` gets a backslash. -/
  single : Bool
  /-- Whether `"` gets a backslash. -/
  double : Bool
deriving DecidableEq, Repr

/-- Both quotes are escaped, whatever surrounds the text. -/
def QuoteEscapes.both : QuoteEscapes := ⟨true, true⟩

/-- Inside double quotes only the double quote has to be escaped. -/
def QuoteEscapes.doubleOnly : QuoteEscapes := ⟨false, true⟩

namespace Escape

/-- The code point of `c` in lower-case hexadecimal, without leading zeros. -/
def hex (c : Char) : String := String.ofList (Nat.toDigits 16 c.toNat)

/-- The code point form of a character that cannot be shown. -/
def codePoint (c : Char) : String := "\\u\x7b" ++ hex c ++ "\x7d"

/-- The letter that names `c` after a backslash, if it has one. -/
def letter? (quotes : QuoteEscapes) (c : Char) : Option Char :=
  match c with
  | '\x00' => some '0'
  | '\t' => some 't'
  | '\r' => some 'r'
  | '\n' => some 'n'
  | '\\' => some '\\'
  | '\x27' => if quotes.single then some c else none
  | '\x22' => if quotes.double then some c else none
  | _ => none

/-- One character as it is shown inside quotes. -/
def char (quotes : QuoteEscapes) (c : Char) : String :=
  match letter? quotes c with
  | some l => String.ofList ['\\', l]
  | none =>
    if isCombiningMark c || !isPrintable c then codePoint c else String.singleton c

/-- A text between double quotes. -/
def quoted (s : String) : String :=
  "\"" ++ String.join (s.toList.map (char .doubleOnly)) ++ "\""

end Escape

end Lexis.Text
