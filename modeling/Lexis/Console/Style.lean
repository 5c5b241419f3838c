/-!
# Styled text

Text for a terminal is a list of spans, each with the attributes it is shown
in. `render` writes the characters with the escape sequences that switch the
attributes on and off.
-/

namespace Lexis.Console

/-- A way in which a terminal can show a text. -/
inductive Attribute where
  | bold | underline
  | red | green | yellow | cyan | white
deriving DecidableEq, Repr

namespace Attribute

/-- The escape sequence that switches the attribute on. -/
def code : Attribute → String
  | .bold => "\x1b[1m"
  | .underline => "\x1b[4m"
  | .red => "\x1b[31m"
  | .green => "\x1b[32m"
  | .yellow => "\x1b[33m"
  | .cyan => "\x1b[36m"
  | .white => "\x1b[37m"

/-- The escape sequence that switches all attributes off. -/
def reset : String := "\x1b[0m"

/-- The text with the attribute switched on before and off behind it. -/
def wrap (a : Attribute) (text : String) : String := a.code ++ text ++ reset

end Attribute

/-- A text shown in some attributes. -/
structure Span where
  /-- The characters. -/
  text : String
  /-- The attributes, the one switched on last first. -/
  attributes : List Attribute := []
deriving DecidableEq, Repr

/-- The characters with the escape sequences around them. -/
def Span.render (s : Span) : String :=
  s.attributes.foldl (fun text a => a.wrap text) s.text

/-- A line of a terminal, without its newline. -/
abbrev Line := List Span

/-- The characters of a line with the escape sequences between them. -/
def Line.render (l : Line) : String := String.join (l.map Span.render)

end Lexis.Console
