import Lexis.Location
import Lexis.Token.Kind

/-!
# Tokens

A token is a classified stretch of source text, kept with the place of its
first character. Tokens are ordered by kind, then by text, then by place.
-/

namespace Lexis

/-- A classified stretch of source text. -/
structure Token where
  /-- What the token is. -/
  kind : Kind
  /-- The spelling of words, numbers and symbols, and the inside of literals. -/
  text : String
  /-- The place of its first character. -/
  location : Location
deriving DecidableEq, Repr, Ord

namespace Token

/-- The characters that stand in the source for the token. -/
def spelling (t : Token) : List Char := t.kind.spell t.text.toList

/-- The source text that denotes the token. -/
def written (t : Token) : String := t.kind.write t.text

instance : ToString Token where
  toString t := s!"Token({t.kind}, {t.text})"

/-- Whether the token is malformed. -/
def isInvalid (t : Token) : Bool := t.kind.isInvalid

end Token

end Lexis
