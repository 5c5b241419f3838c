import Lexis.Token.Vocabulary

/-!
# Kinds of tokens

What a stretch of source text is: a member of the fixed vocabulary, an
identifier or a literal, the end of the text, or something malformed, in which
case the kind tells the defect.

A kind and the text of a token together determine the characters that stand in
the source, `Kind.spell`, and the source text that denotes the token,
`Kind.write`. The two differ in defective tokens alone, of which only the text
can be written.

The kinds are ordered as they are declared here.
-/

namespace Lexis

/-- What is wrong with a malformed stretch of source text. -/
inductive Defect where
  /-- A `/*` comment without its `*/`. -/
  | unterminatedComment
  /-- A string literal without its closing quote. -/
  | unterminatedString
  /-- A quote that does not enclose exactly one character. -/
  | malformedCharacter
  /-- A character with which no token starts. -/
  | unexpectedCharacter
deriving DecidableEq, Repr, Ord

/-- What a token is. -/
inductive Kind where
  /-- A punctuation mark or an operator. -/
  | symbol (s : Symbol)
  /-- A reserved word. -/
  | keyword (k : Keyword)
  /-- The name of a primitive type. -/
  | primitive (p : Primitive)
  /-- Any other word. -/
  | identifier
  /-- A run of digits. -/
  | integerLiteral
  /-- Two runs of digits with a point between them. -/
  | floatLiteral
  /-- A character between single quotes. -/
  | charLiteral
  /-- A text between double quotes. -/
  | stringLiteral
  /-- The end of the source text. -/
  | endOfInput
  /-- A malformed stretch of source text. -/
  | invalid (defect : Defect)
deriving DecidableEq, Repr, Ord

namespace Kind

/-- The upper-case name of the kind. All defects share one name. -/
def name : Kind → String
  | .symbol s => s.name
  | .keyword k => k.name
  | .primitive p => p.name
  | .identifier => "IDENTIFIER"
  | .integerLiteral => "INTEGER_LITERAL"
  | .floatLiteral => "FLOAT_LITERAL"
  | .charLiteral => "CHAR_LITERAL"
  | .stringLiteral => "STRING_LITERAL"
  | .endOfInput => "END"
  | .invalid _ => "INVALID"

instance : ToString Kind where
  toString := name

/-- One kind for each name. For defects this is the unexpected character. -/
def named : List Kind :=
  Symbol.all.map .symbol ++ Keyword.all.map .keyword ++ Primitive.all.map .primitive ++
    [.identifier, .integerLiteral, .floatLiteral, .charLiteral, .stringLiteral, .endOfInput,
      .invalid .unexpectedCharacter]

/-- The kind with this name. -/
def ofName? (s : String) : Option Kind := named.find? (·.name == s)

/-- The kind with this name, or the reason why there is none. -/
def parse (s : String) : Except UnknownName Kind :=
  match ofName? s with
  | some kind => .ok kind
  | none => .error .kind

/-- The one spelling that a member of the fixed vocabulary has. -/
def spelling? : Kind → Option String
  | .symbol s => some s.spelling
  | .keyword k => some k.spelling
  | .primitive p => some p.spelling
  | _ => none

/-- Whether tokens of this kind are malformed. -/
def isInvalid : Kind → Bool
  | .invalid _ => true
  | _ => false

/-! ## From a token's text to source text -/

/-- The characters that stand in the source for a token of this kind and text.
The opening quote counts even where the closing one is missing. -/
def spell (kind : Kind) (text : List Char) : List Char :=
  match kind with
  | .charLiteral => '\x27' :: (text ++ ['\x27'])
  | .stringLiteral => '\x22' :: (text ++ ['\x22'])
  | .invalid .unterminatedString => '\x22' :: text
  | .invalid .malformedCharacter => '\x27' :: text
  | _ => text

/-- The source text that denotes a token of this kind and text: a literal is
put between its quotes, all else is its text. -/
def write (kind : Kind) (text : String) : String :=
  match kind with
  | .charLiteral => "'" ++ text ++ "'"
  | .stringLiteral => "\"" ++ text ++ "\""
  | _ => text

end Kind

end Lexis
