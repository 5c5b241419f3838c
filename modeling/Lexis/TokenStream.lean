import Lexis.Diagnostic
import Lexis.Handler
import Lexis.Scanner.Basic

/-!
# Token streams

The tokens of a whole source text in order, the end token last. Malformed
tokens stay in the stream, and each is also reported to a handler while the
stream is made.

## Main definitions

* `TokenStream.tokenize` — scans a source text and reports to a handler.
* `TokenStream.ofString`, `TokenStream.diagnostics` — the stream and the reports.

## Main statements

* `TokenStream.tokenize_eq` — a scan makes this stream and sends these reports.
-/

namespace Lexis

/-- The tokens of a source text. -/
structure TokenStream where
  /-- The tokens in order. -/
  toList : List Token
deriving DecidableEq, Repr, Ord

/-- An index that lies beyond the end of a stream. -/
structure IndexError where
  /-- The number of tokens. -/
  length : Nat
  /-- The index asked for. -/
  index : Nat
deriving DecidableEq, Repr

/-- The wording of an index error. -/
def IndexError.message (e : IndexError) : String :=
  s!"index out of bounds: the len is {e.length} but the index is {e.index}"

instance : ToString IndexError where
  toString := IndexError.message

namespace TokenStream

/-- The tokens of a source text. -/
def ofString (source : String) : TokenStream := ⟨(Cursor.ofString source).tokens⟩

/-- The reports on the malformed tokens, in order. -/
def diagnostics (s : TokenStream) : List Diagnostic := s.toList.filterMap Diagnostic.ofToken?

section Scan

variable {H : Type} [Handler H Diagnostic]

/-- The handler behind a token, on which it has received the report if it is malformed. -/
def report (handler : H) (token : Token) : H :=
  match Diagnostic.ofToken? token with
  | some diagnostic => Handler.receive handler diagnostic
  | none => handler

/-- Scans up to the end of the text. Every token is reported on, if it has to be,
and then put behind those that have been found. -/
def scanOn (s : Scanner) (found : Array Token) (handler : H) : Array Token × H :=
  match h : s.next? with
  | (none, _) => (found, handler)
  | (some token, behind) =>
    have : behind.remaining < s.remaining := Scanner.remaining_lt_of_next? h
    scanOn behind (found.push token) (report handler token)
termination_by s.remaining

/-- The tokens of a source text, and the handler after it has received the
reports on the malformed ones. -/
def tokenize (source : String) (handler : H) : TokenStream × H :=
  let scan := scanOn (.ofString source) #[] handler
  (⟨scan.1.toList⟩, scan.2)

/-- Scanning on finds what the scanner has still to return, and reports on it. -/
theorem scanOn_eq (s : Scanner) (found : Array Token) (handler : H) :
    scanOn s found handler =
      (found ++ s.drain.1,
        (s.drain.1.filterMap Diagnostic.ofToken?).foldl Handler.receive handler) := by
  fun_induction scanOn s found handler with
  | case1 s found handler behind h =>
    rw [Scanner.drain_of_next?_none h]
    simp
  | case2 s found handler token behind h _ ih =>
    rw [ih, Scanner.drain_of_next? h, report]
    cases hreport : Diagnostic.ofToken? token <;> simp [hreport]

/-- A scan makes the stream of the text and sends its handler the reports. -/
theorem tokenize_eq (source : String) (handler : H) :
    tokenize source handler =
      (ofString source, (ofString source).diagnostics.foldl Handler.receive handler) := by
  rw [tokenize, scanOn_eq]
  simp [Scanner.drain, Scanner.ofString, ofString, diagnostics]

@[simp] theorem tokenize_fst (source : String) (handler : H) :
    (tokenize source handler).1 = ofString source := by
  rw [tokenize_eq]

end Scan

/-- The number of tokens. -/
def length (s : TokenStream) : Nat := s.toList.length

/-- The token at an index, the first being at zero. -/
def get? (s : TokenStream) (index : Nat) : Option Token := s.toList[index]?

/-- The token at an index that is asserted to lie in the stream. -/
def get (s : TokenStream) (index : Nat) : Except IndexError Token :=
  match s.get? index with
  | some token => .ok token
  | none => .error ⟨s.length, index⟩

/-- The kinds of the tokens, in order. -/
def kinds (s : TokenStream) : List Kind := s.toList.map Token.kind

/-- The source texts that denote the tokens, with a separator between them. -/
def written (separator : String) (s : TokenStream) : String :=
  separator.intercalate (s.toList.map Token.written)

/-- The tokens in ascending order; equal ones keep their order. -/
def sorted (s : TokenStream) : List Token :=
  s.toList.mergeSort fun a b => (compare a b).isLE

/-- One line per token: its place, a tab, and the token. -/
def listing (s : TokenStream) : String :=
  String.join (s.toList.map fun token => s!"{token.location}\t{token}\n")

end TokenStream

end Lexis
