/-!
# UTF-8

Reading bytes as text. A character takes one to four bytes: its lead byte
tells how many continuation bytes follow, and the range of the first of them
is narrowed after E0, ED, F0 and F4 so that overlong forms, surrogates and
numbers beyond U+10FFFF have no encoding.

## Main definitions

* `Utf8.encode` — the bytes of a text.
* `Utf8.decode` — the text of a sequence of bytes, or the first place where it
  stops being UTF-8.
* `Utf8.DecodeError` — such a place, with what is wrong there.
-/

namespace Lexis

/-- A sequence of bytes, such as the content of a file. -/
abbrev Bytes := List UInt8

namespace Utf8

/-- The bytes of a text. -/
def encode (s : String) : Bytes := s.toList.flatMap String.utf8EncodeChar

/-- The number of bytes that the characters take. -/
def size (cs : List Char) : Nat := cs.foldr (fun c n => c.utf8Size + n) 0

@[simp] theorem size_nil : size [] = 0 := rfl

@[simp] theorem size_cons (c : Char) (cs : List Char) :
    size (c :: cs) = c.utf8Size + size cs := rfl

@[simp] theorem size_append (cs ds : List Char) : size (cs ++ ds) = size cs + size ds := by
  induction cs with
  | nil => simp
  | cons c cs ih =>
      rw [List.cons_append, size_cons, size_cons, ih]
      omega

/-- What a lead byte promises: its share of the code point, the number of
continuation bytes, and the range of the first of these. -/
structure Lead where
  /-- The bits of the code point held by the lead byte. -/
  bits : Nat
  /-- The number of continuation bytes that follow. -/
  continuations : Nat
  /-- The least first continuation byte. -/
  low : UInt8 := 0x80
  /-- The greatest first continuation byte. -/
  high : UInt8 := 0xBF
deriving DecidableEq, Repr

/-- The promise of a byte, if a character can start with it. -/
def lead? (b : UInt8) : Option Lead :=
  if b < 0x80 then some { bits := b.toNat, continuations := 0 }
  else if b < 0xC2 then none
  else if b < 0xE0 then some { bits := b.toNat - 0xC0, continuations := 1 }
  else if b = 0xE0 then some { bits := 0, continuations := 2, low := 0xA0 }
  else if b = 0xED then some { bits := 0xD, continuations := 2, high := 0x9F }
  else if b < 0xF0 then some { bits := b.toNat - 0xE0, continuations := 2 }
  else if b = 0xF0 then some { bits := 0, continuations := 3, low := 0x90 }
  else if b < 0xF4 then some { bits := b.toNat - 0xF0, continuations := 3 }
  else if b = 0xF4 then some { bits := 4, continuations := 3, high := 0x8F }
  else none

/-- What stands at the head of a sequence of bytes. -/
inductive Head where
  /-- A character, encoded in `size` bytes. -/
  | character (c : Char) (size : Nat)
  /-- No character: its first `size` bytes are broken off by a wrong one. -/
  | invalid (size : Nat)
  /-- The bytes end in the middle of a character. -/
  | incomplete
deriving DecidableEq, Repr

/-- Reads the continuation bytes that are still due, each in its range, onto
the bits read so far; `size` counts the bytes taken. -/
def readContinuations (bits size : Nat) (low high : UInt8) : Nat → Bytes → Head
  | 0, _ => .character (Char.ofNat bits) size
  | _ + 1, [] => .incomplete
  | due + 1, b :: bs =>
    if low ≤ b ∧ b ≤ high then
      readContinuations (bits * 64 + (b.toNat - 0x80)) (size + 1) 0x80 0xBF due bs
    else .invalid size

/-- Reads the head of the bytes `b :: bs`. -/
def head (b : UInt8) (bs : Bytes) : Head :=
  match lead? b with
  | none => .invalid 1
  | some lead => readContinuations lead.bits 1 lead.low lead.high lead.continuations bs

/-- The first place where a sequence of bytes is not UTF-8. -/
inductive DecodeError where
  /-- After `index` good bytes, `length` bytes form no character. -/
  | invalid (length index : Nat)
  /-- After `index` good bytes, the rest is a character cut short. -/
  | incomplete (index : Nat)
deriving DecidableEq, Repr

/-- The wording of a decoding error. -/
def DecodeError.message : DecodeError → String
  | .invalid length index =>
    s!"invalid utf-8 sequence of {length} bytes from index {index}"
  | .incomplete index => s!"incomplete utf-8 byte sequence from index {index}"

instance : ToString DecodeError where
  toString := DecodeError.message

/-- The characters of the bytes, which stand behind `index` others. -/
def decodeFrom (index : Nat) : Bytes → Except DecodeError (List Char)
  | [] => .ok []
  | b :: bs =>
    match head b bs with
    | .character c size =>
      match decodeFrom (index + size) (bs.drop (size - 1)) with
      | .ok cs => .ok (c :: cs)
      | .error e => .error e
    | .invalid size => .error (.invalid size index)
    | .incomplete => .error (.incomplete index)
termination_by bytes => bytes.length
decreasing_by simp only [List.length_drop, List.length_cons]; omega

/-- Reads a sequence of bytes as text. -/
def decode (bytes : Bytes) : Except DecodeError String :=
  (decodeFrom 0 bytes).map String.ofList

end Utf8

end Lexis
