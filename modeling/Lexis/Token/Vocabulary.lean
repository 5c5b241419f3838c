/-!
# The fixed vocabulary of the language

The words and signs whose spelling the language fixes: keywords, names of
primitive types, and symbols. Each has its spelling in a source text and an
upper-case name, and can be found by its spelling.

`UnknownName` says of which vocabulary a word turned out not to be a member.
-/

namespace Lexis

/-- A reserved word. -/
inductive Keyword where
  | ifWord | elseWord | whileWord | forWord | breakWord | continueWord | returnWord
  | trueWord | falseWord
deriving DecidableEq, Repr, Ord

/-- The name of a type that is part of the language. -/
inductive Primitive where
  | int | float | char | bool
deriving DecidableEq, Repr, Ord

/-- A punctuation mark or an operator. -/
inductive Symbol where
  | plus | minus | star | slash | percent
  | leftParen | rightParen | leftBrace | rightBrace | leftBracket | rightBracket
  | semicolon | colon | comma | dot
  | assign | equal | notEqual | less | lessEqual | greater | greaterEqual
deriving DecidableEq, Repr, Ord

/-- The vocabulary in which a name was looked for and not found. -/
inductive UnknownName where
  /-- No keyword is spelled so. -/
  | keyword
  /-- No primitive type is spelled so. -/
  | primitive
  /-- No symbol is spelled so. -/
  | symbol
  /-- No kind of token is named so. -/
  | kind
deriving DecidableEq, Repr

/-- The wording of a failed look-up. -/
def UnknownName.message : UnknownName → String
  | .keyword => "invalid string representation of keyword."
  | .primitive => "invalid string representation of primitive type."
  | .symbol => "invalid string representation of symbol."
  | .kind => "invalid token kind name."

instance : ToString UnknownName where
  toString := UnknownName.message

/-! ## Keywords -/

namespace Keyword

/-- Every keyword, in order. -/
def all : List Keyword :=
  [.ifWord, .elseWord, .whileWord, .forWord, .breakWord, .continueWord, .returnWord,
    .trueWord, .falseWord]

/-- How the keyword is written in a source text. -/
def spelling : Keyword → String
  | .ifWord => "if"
  | .elseWord => "else"
  | .whileWord => "while"
  | .forWord => "for"
  | .breakWord => "break"
  | .continueWord => "continue"
  | .returnWord => "return"
  | .trueWord => "true"
  | .falseWord => "false"

/-- The name of the keyword as a kind of token. -/
def name : Keyword → String
  | .ifWord => "IF"
  | .elseWord => "ELSE"
  | .whileWord => "WHILE"
  | .forWord => "FOR"
  | .breakWord => "BREAK"
  | .continueWord => "CONTINUE"
  | .returnWord => "RETURN"
  | .trueWord => "TRUE"
  | .falseWord => "FALSE"

/-- The keyword with this spelling. -/
def ofSpelling? (s : String) : Option Keyword := all.find? (·.spelling == s)

theorem mem_all (k : Keyword) : k ∈ all := by cases k <;> decide

theorem ofSpelling?_spelling (k : Keyword) : ofSpelling? k.spelling = some k := by
  cases k <;> decide

/-- The keyword with this spelling, or the reason why there is none. -/
def parse (s : String) : Except UnknownName Keyword :=
  match ofSpelling? s with
  | some k => .ok k
  | none => .error .keyword

end Keyword

/-! ## Primitive types -/

namespace Primitive

/-- Every primitive type, in order. -/
def all : List Primitive := [.int, .float, .char, .bool]

/-- How the type is written in a source text. -/
def spelling : Primitive → String
  | .int => "int"
  | .float => "float"
  | .char => "char"
  | .bool => "bool"

/-- The name of the type as a kind of token. -/
def name : Primitive → String
  | .int => "INT"
  | .float => "FLOAT"
  | .char => "CHAR"
  | .bool => "BOOL"

/-- The primitive type with this spelling. -/
def ofSpelling? (s : String) : Option Primitive := all.find? (·.spelling == s)

theorem mem_all (p : Primitive) : p ∈ all := by cases p <;> decide

theorem ofSpelling?_spelling (p : Primitive) : ofSpelling? p.spelling = some p := by
  cases p <;> decide

/-- The primitive type with this spelling, or the reason why there is none. -/
def parse (s : String) : Except UnknownName Primitive :=
  match ofSpelling? s with
  | some p => .ok p
  | none => .error .primitive

end Primitive

/-! ## Symbols -/

namespace Symbol

/-- Every symbol, in order. -/
def all : List Symbol :=
  [.plus, .minus, .star, .slash, .percent,
    .leftParen, .rightParen, .leftBrace, .rightBrace, .leftBracket, .rightBracket,
    .semicolon, .colon, .comma, .dot,
    .assign, .equal, .notEqual, .less, .lessEqual, .greater, .greaterEqual]

/-- How the symbol is written in a source text. -/
def spelling : Symbol → String
  | .plus => "+"
  | .minus => "-"
  | .star => "*"
  | .slash => "/"
  | .percent => "%"
  | .leftParen => "("
  | .rightParen => ")"
  | .leftBrace => "\x7b"
  | .rightBrace => "\x7d"
  | .leftBracket => "["
  | .rightBracket => "]"
  | .semicolon => ";"
  | .colon => ":"
  | .comma => ","
  | .dot => "."
  | .assign => "="
  | .equal => "=="
  | .notEqual => "!="
  | .less => "<"
  | .lessEqual => "<="
  | .greater => ">"
  | .greaterEqual => ">="

/-- The name of the symbol as a kind of token. -/
def name : Symbol → String
  | .plus => "PLUS"
  | .minus => "MINUS"
  | .star => "STAR"
  | .slash => "SLASH"
  | .percent => "PERCENT"
  | .leftParen => "LPAREN"
  | .rightParen => "RPAREN"
  | .leftBrace => "LBRACE"
  | .rightBrace => "RBRACE"
  | .leftBracket => "LBRACKET"
  | .rightBracket => "RBRACKET"
  | .semicolon => "SEMICOLON"
  | .colon => "COLON"
  | .comma => "COMMA"
  | .dot => "DOT"
  | .assign => "ASSIGN"
  | .equal => "EQUAL"
  | .notEqual => "NOT_EQUAL"
  | .less => "LESS"
  | .lessEqual => "LESS_EQUAL"
  | .greater => "GREATER"
  | .greaterEqual => "GREATER_EQUAL"

/-- The symbol with this spelling. -/
def ofSpelling? (s : String) : Option Symbol := all.find? (·.spelling == s)

theorem mem_all (s : Symbol) : s ∈ all := by cases s <;> decide

theorem ofSpelling?_spelling (s : Symbol) : ofSpelling? s.spelling = some s := by
  cases s <;> decide

/-- The symbol with this spelling, or the reason why there is none. -/
def parse (s : String) : Except UnknownName Symbol :=
  match ofSpelling? s with
  | some symbol => .ok symbol
  | none => .error .symbol

end Symbol

end Lexis
