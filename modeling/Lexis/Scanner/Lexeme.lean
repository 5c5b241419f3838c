import Lexis.Token.Kind

/-!
# Lexemes

`Lexeme.read` looks at a text that starts with no trivia and reads off what
stands at its head: a word, a number, a literal, a symbol, the end of the
text, or something malformed. It returns the kind and text found and what
follows. It never fails, and it never looks more than two characters past what
it takes.

## Main statements

* `Lexeme.read_append` — the spelling of what is read, followed by the rest,
  is the text.
* `Lexeme.length_lt_of_read` — short of the end, something is taken.
-/

namespace Lexis

/-- The kind and the text of a token, without its place. -/
structure Lexeme where
  /-- What it is. -/
  kind : Kind
  /-- The spelling of words, numbers and symbols, and the inside of literals. -/
  text : List Char
deriving DecidableEq, Repr

namespace Lexeme

/-- The characters that stand in the source for the lexeme. -/
def spelling (l : Lexeme) : List Char := l.kind.spell l.text

/-! ## Words -/

/-- Whether a word can start with the character. Words are ASCII. -/
def isWordStart (c : Char) : Bool := c.isAlpha || c == '_'

/-- Whether a word can go on with the character. -/
def isWordPart (c : Char) : Bool := c.isAlphanum || c == '_'

/-- What a word is: a keyword, or else a primitive type, or else an identifier. -/
def wordKind (word : String) : Kind :=
  match Keyword.ofSpelling? word with
  | some k => .keyword k
  | none =>
    match Primitive.ofSpelling? word with
    | some p => .primitive p
    | none => .identifier

/-- Reads the word at the head of a text. -/
def readWord (cs : List Char) : Lexeme × List Char :=
  let word := cs.takeWhile isWordPart
  (⟨wordKind (String.ofList word), word⟩, cs.dropWhile isWordPart)

/-! ## Numbers -/

/-- Reads a point and the digits behind it, of which there must be one. -/
def fraction? : List Char → Option (List Char × List Char)
  | [] => none
  | [_] => none
  | p :: d :: cs =>
    if p = '.' ∧ d.isDigit = true then
      some (p :: (d :: cs).takeWhile Char.isDigit, (d :: cs).dropWhile Char.isDigit)
    else none

/-- Reads the number at the head of a text. A point that no digit follows is
not part of it. -/
def readNumber (cs : List Char) : Lexeme × List Char :=
  let whole := cs.takeWhile Char.isDigit
  let rest := cs.dropWhile Char.isDigit
  match fraction? rest with
  | some (fraction, rest') => (⟨.floatLiteral, whole ++ fraction⟩, rest')
  | none => (⟨.integerLiteral, whole⟩, rest)

/-! ## Quoted literals -/

/-- Reads a character literal behind its opening quote. Any one character may
stand between the quotes, also a quote or a newline. -/
def readCharacter : List Char → Lexeme × List Char
  | [] => (⟨.invalid .malformedCharacter, []⟩, [])
  | [c] => (⟨.invalid .malformedCharacter, [c]⟩, [])
  | c :: d :: cs =>
    if d = '\x27' then (⟨.charLiteral, [c]⟩, cs)
    else (⟨.invalid .malformedCharacter, [c]⟩, d :: cs)

/-- Reads a string literal behind its opening quote. It ends with the next
quote, or with the text if there is none. -/
def readString (cs : List Char) : Lexeme × List Char :=
  let body := cs.takeWhile (· != '\x22')
  match cs.dropWhile (· != '\x22') with
  | [] => (⟨.invalid .unterminatedString, body⟩, [])
  | _ :: rest => (⟨.stringLiteral, body⟩, rest)

/-! ## Symbols -/

/-- One character as a symbol, or as an unexpected character. -/
def ofSymbolCharacter (c : Char) : Lexeme :=
  match Symbol.ofSpelling? (String.ofList [c]) with
  | some s => ⟨.symbol s, [c]⟩
  | none => ⟨.invalid .unexpectedCharacter, [c]⟩

/-- Reads a symbol that starts with `c`. One of two characters wins over one
of a single character. -/
def readSymbol (c : Char) : List Char → Lexeme × List Char
  | [] => (ofSymbolCharacter c, [])
  | d :: cs =>
    match Symbol.ofSpelling? (String.ofList [c, d]) with
    | some s => (⟨.symbol s, [c, d]⟩, cs)
    | none => (ofSymbolCharacter c, d :: cs)

/-! ## The head of a text -/

/-- Reads what stands at the head of a text that starts with no trivia and no
comment. -/
def readSolid : List Char → Lexeme × List Char
  | [] => (⟨.endOfInput, []⟩, [])
  | c :: cs =>
    if isWordStart c then readWord (c :: cs)
    else if c.isDigit then readNumber (c :: cs)
    else if c = '\x27' then readCharacter cs
    else if c = '\x22' then readString cs
    else readSymbol c cs

/-- Whether a text starts with a delimited comment. -/
def opensComment (cs : List Char) : Bool := cs.head? == some '/' && cs.tail.head? == some '*'

/-- Reads what stands at the head of a text that starts with no trivia. A
`/*` there is a comment that is never closed, and takes all of the text. -/
def read (cs : List Char) : Lexeme × List Char :=
  if opensComment cs then (⟨.invalid .unterminatedComment, cs⟩, []) else readSolid cs

theorem opensComment_cons (c : Char) (cs : List Char) :
    opensComment (c :: cs) = true ↔ c = '/' ∧ cs.head? = some '*' := by
  simp [opensComment]

/-- No word, number or literal starts with the sign that starts a comment. -/
theorem read_cons (c : Char) (cs : List Char) :
    read (c :: cs) =
      if isWordStart c then readWord (c :: cs)
      else if c.isDigit then readNumber (c :: cs)
      else if c = '\x27' then readCharacter cs
      else if c = '\x22' then readString cs
      else if c = '/' ∧ cs.head? = some '*' then (⟨.invalid .unterminatedComment, c :: cs⟩, [])
      else readSymbol c cs := by
  rw [read]
  by_cases hopen : c = '/' ∧ cs.head? = some '*'
  · rw [if_pos ((opensComment_cons c cs).mpr hopen), if_pos hopen, hopen.1]
    rfl
  · rw [if_neg (mt (opensComment_cons c cs).mp hopen), if_neg hopen]
    rfl

@[simp] theorem read_nil : read [] = (⟨.endOfInput, []⟩, []) := rfl

theorem fraction?_append {cs fraction rest : List Char}
    (h : fraction? cs = some (fraction, rest)) : fraction ++ rest = cs := by
  unfold fraction? at h
  split at h
  · simp at h
  · simp at h
  · split at h
    · simp only [Option.some.injEq, Prod.mk.injEq] at h
      obtain ⟨rfl, rfl⟩ := h
      simp only [List.cons_append, List.takeWhile_append_dropWhile]
    · simp at h

theorem spelling_wordKind (word : String) (text : List Char) :
    spelling ⟨wordKind word, text⟩ = text := by
  simp only [spelling, wordKind]
  split
  · rfl
  · split <;> rfl

theorem readWord_append (cs : List Char) :
    (readWord cs).1.spelling ++ (readWord cs).2 = cs := by
  simp only [readWord, spelling_wordKind, List.takeWhile_append_dropWhile]

theorem readNumber_append (cs : List Char) :
    (readNumber cs).1.spelling ++ (readNumber cs).2 = cs := by
  simp only [readNumber]
  split
  · next fraction rest h =>
    simp only [spelling, Kind.spell, List.append_assoc, fraction?_append h,
      List.takeWhile_append_dropWhile]
  · simp only [spelling, Kind.spell, List.takeWhile_append_dropWhile]

theorem readCharacter_append (cs : List Char) :
    (readCharacter cs).1.spelling ++ (readCharacter cs).2 = '\x27' :: cs := by
  unfold readCharacter
  split
  · rfl
  · rfl
  · split
    · next h => simp [spelling, Kind.spell, h]
    · simp [spelling, Kind.spell]

theorem readString_append (cs : List Char) :
    (readString cs).1.spelling ++ (readString cs).2 = '\x22' :: cs := by
  have h := List.takeWhile_append_dropWhile (p := (· != '\x22')) (l := cs)
  simp only [readString]
  split
  · next hd => rw [hd] at h; simp_all [spelling, Kind.spell]
  · next q rest hd =>
    have hq : q = '\x22' := by
      have := List.head?_dropWhile_not (· != '\x22') cs
      rw [hd] at this
      simpa using this
    subst hq
    rw [hd] at h
    simp only [spelling, Kind.spell, List.cons_append, List.append_assoc, List.nil_append, h]

theorem spelling_ofSymbolCharacter (c : Char) : (ofSymbolCharacter c).spelling = [c] := by
  unfold ofSymbolCharacter
  split <;> rfl

theorem readSymbol_append (c : Char) (cs : List Char) :
    (readSymbol c cs).1.spelling ++ (readSymbol c cs).2 = c :: cs := by
  unfold readSymbol
  split
  · simp [spelling_ofSymbolCharacter]
  · split
    · rfl
    · simp [spelling_ofSymbolCharacter]

/-- The reading loses and adds nothing. -/
theorem read_append (cs : List Char) : (read cs).1.spelling ++ (read cs).2 = cs := by
  cases cs with
  | nil => rfl
  | cons c cs =>
    rw [read_cons]
    split
    · exact readWord_append _
    split
    · exact readNumber_append _
    split
    · next h => subst h; exact readCharacter_append _
    split
    · next h => subst h; exact readString_append _
    split
    · simp [spelling, Kind.spell]
    · exact readSymbol_append _ _

/-! ### Progress

The end of the text is read at the end of the text only. Everywhere else the
head character belongs to what is read, so reading takes something.
-/

theorem isWordPart_of_isWordStart {c : Char} (h : isWordStart c = true) :
    isWordPart c = true := by
  simp only [isWordStart, isWordPart, Char.isAlphanum, Bool.or_eq_true] at h ⊢
  rcases h with h | h
  · exact .inl (.inl h)
  · exact .inr h

theorem wordKind_ne_endOfInput (word : String) : wordKind word ≠ .endOfInput := by
  unfold wordKind
  split
  · simp
  · split <;> simp

theorem readWord_takes {c : Char} {cs : List Char} (h : isWordStart c = true) :
    (readWord (c :: cs)).1.spelling ≠ [] ∧ (readWord (c :: cs)).1.kind ≠ .endOfInput := by
  simp [readWord, spelling_wordKind, wordKind_ne_endOfInput, isWordPart_of_isWordStart h]

theorem readNumber_takes {c : Char} {cs : List Char} (h : c.isDigit = true) :
    (readNumber (c :: cs)).1.spelling ≠ [] ∧ (readNumber (c :: cs)).1.kind ≠ .endOfInput := by
  simp only [readNumber]
  split <;> simp [spelling, Kind.spell, h]

theorem readCharacter_takes (cs : List Char) :
    (readCharacter cs).1.spelling ≠ [] ∧ (readCharacter cs).1.kind ≠ .endOfInput := by
  unfold readCharacter
  split
  · simp [spelling, Kind.spell]
  · simp [spelling, Kind.spell]
  · split <;> simp [spelling, Kind.spell]

theorem readString_takes (cs : List Char) :
    (readString cs).1.spelling ≠ [] ∧ (readString cs).1.kind ≠ .endOfInput := by
  simp only [readString]
  split <;> simp [spelling, Kind.spell]

theorem kind_ofSymbolCharacter_ne_endOfInput (c : Char) :
    (ofSymbolCharacter c).kind ≠ .endOfInput := by
  unfold ofSymbolCharacter
  split <;> simp

theorem readSymbol_takes (c : Char) (cs : List Char) :
    (readSymbol c cs).1.spelling ≠ [] ∧ (readSymbol c cs).1.kind ≠ .endOfInput := by
  unfold readSymbol
  split
  · simp [spelling_ofSymbolCharacter, kind_ofSymbolCharacter_ne_endOfInput]
  · split
    · simp [spelling, Kind.spell]
    · simp [spelling_ofSymbolCharacter, kind_ofSymbolCharacter_ne_endOfInput]

theorem read_takes (c : Char) (cs : List Char) :
    (read (c :: cs)).1.spelling ≠ [] ∧ (read (c :: cs)).1.kind ≠ .endOfInput := by
  rw [read_cons]
  split
  · next h => exact readWord_takes h
  split
  · next h => exact readNumber_takes h
  split
  · exact readCharacter_takes _
  split
  · exact readString_takes _
  split
  · simp [spelling, Kind.spell]
  · exact readSymbol_takes _ _

/-- The end is read exactly at the end. -/
theorem kind_read_eq_endOfInput_iff (cs : List Char) :
    (read cs).1.kind = .endOfInput ↔ cs = [] := by
  cases cs with
  | nil => simp
  | cons c cs => simp [(read_takes c cs).2]

/-- Short of the end, reading takes at least one character. -/
theorem length_lt_of_read {cs : List Char} (h : (read cs).1.kind ≠ .endOfInput) :
    (read cs).2.length < cs.length := by
  cases cs with
  | nil => simp at h
  | cons c cs =>
    have hpos := List.length_pos_iff.mpr (read_takes c cs).1
    have hlen := congrArg List.length (read_append (c :: cs))
    rw [List.length_append] at hlen
    omega

end Lexeme

end Lexis
