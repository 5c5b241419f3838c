import Lexis.Console.Message
import Lexis.Text.Escape
import Lexis.Token.Basic

/-!
# Diagnostics

The report on a malformed token: what is wrong, where, how it is worded, how
much of the source text to mark, and what to do about it where that is known.

Diagnostics are ordered by what is wrong, then by place, then by the text or
character at fault.
-/

namespace Lexis

/-- A report on a malformed token. -/
inductive Diagnostic where
  /-- A comment that starts at `location` is never closed. -/
  | unterminatedComment (location : Location)
  /-- A string literal that starts at `location` is never closed; `content` is
  all that follows its quote. -/
  | unterminatedString (location : Location) (content : String)
  /-- The quote at `location` does not enclose exactly one character; `content`
  is the character behind it, if there is one. -/
  | malformedCharacter (location : Location) (content : String)
  /-- No token starts with the character at `location`. -/
  | unexpectedCharacter (location : Location) (character : Char)
deriving DecidableEq, Repr, Ord

namespace Diagnostic

/-- The report on a token, if it is malformed. An unexpected character is the
first one of the token's text, without which there is nothing to report. -/
def ofToken? (t : Token) : Option Diagnostic :=
  match t.kind with
  | .invalid .unterminatedComment => some (.unterminatedComment t.location)
  | .invalid .unterminatedString => some (.unterminatedString t.location t.text)
  | .invalid .malformedCharacter => some (.malformedCharacter t.location t.text)
  | .invalid .unexpectedCharacter =>
    t.text.toList.head?.map (.unexpectedCharacter t.location)
  | _ => none

/-- A well-formed token is not reported. -/
theorem ofToken?_eq_none {t : Token} (h : t.kind.isInvalid = false) : ofToken? t = none := by
  obtain ⟨kind, text, place⟩ := t
  cases kind with
  | invalid defect => simp [Kind.isInvalid] at h
  | _ => rfl

/-- The place of the first character at fault. -/
def location : Diagnostic → Location
  | .unterminatedComment l => l
  | .unterminatedString l _ => l
  | .malformedCharacter l _ => l
  | .unexpectedCharacter l _ => l

/-- How many characters to mark in the source text: the opener of a comment, a
quote with what stands behind it, or the one character at fault. -/
def highlightLength : Diagnostic → Nat
  | .unterminatedComment _ => 2
  | .unterminatedString _ _ => 1
  | .malformedCharacter _ content => 1 + content.length
  | .unexpectedCharacter _ _ => 1

/-- What to do about it, where that can be told. -/
def help? : Diagnostic → Option String
  | .unterminatedComment _ => some "close the comment with `*/`"
  | .unterminatedString _ _ => some "close the string literal with `\"`"
  | .malformedCharacter _ _ => none
  | .unexpectedCharacter _ c => if c = '!' then some "did you mean `!=`?" else none

/-- What is wrong, in words. -/
def text : Diagnostic → String
  | .unterminatedComment _ => "found an unclosed `/*` comment"
  | .unterminatedString _ _ => "found an unterminated string literal"
  | .malformedCharacter _ _ =>
    "a character literal must contain exactly one character enclosed by `'`"
  | .unexpectedCharacter _ c =>
    "found an unexpected character `" ++ Text.Escape.char .both c ++ "`"

/-- The message that reports it. Every diagnostic is an error. -/
def message (d : Diagnostic) : Console.Message := ⟨.error, d.text⟩

end Diagnostic

end Lexis
