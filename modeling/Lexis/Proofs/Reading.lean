import Lexis.Proofs.Grammar
import Lexis.Proofs.Spans

/-!
# What is read at the head of a text

`Reads l rest` says when the lexeme `l` is read where `rest` follows it: one
rule for each way in which reading can end, with what must and what must not
follow.  `read_eq_iff` identifies the rules with `Lexeme.read`, so what follows
about reading is a case analysis on the rules and opens no definition.

A rule looks at the characters behind the lexeme only to see that they do not
go on with it.  The three lexemes that are broken off by the end of the text
are `Unfinished`; every other one may be followed by anything that stops it.

## Main results

* `read_eq_iff` — the rules and the function agree.
* `Reads.denotes`, `Denotes.reads_nil` — what is well formed is read by the rules.
* `Reads.append_blank` — a white space behind a text changes nothing that is
  read in it.
-/

namespace Lexis.Grammar

open Lexeme Text

/-! ## The rules -/

/-- No symbol of two characters starts with `c` and goes on in `rest`. -/
def NoPair (c : Char) (rest : List Char) : Prop :=
  ∀ d ∈ rest.head?, ∀ s : Symbol, s.spelling.toList ≠ [c, d]

/-- No point with a digit behind it stands at the head of `rest`. -/
def NoFraction (rest : List Char) : Prop :=
  ∀ d cs, rest = '.' :: d :: cs → d.isDigit = false

/-- No lexeme of the grammar starts with the character, unless it is a symbol
of two characters. -/
structure NoStart (c : Char) : Prop where
  word : isWordStart c = false
  digit : c.isDigit = false
  quote : c ≠ '\x27'
  doubleQuote : c ≠ '\x22'
  symbol : ∀ s : Symbol, s.spelling.toList ≠ [c]

/-- The lexeme `l` is read where `rest` follows it. -/
inductive Reads : Lexeme → List Char → Prop where
  | endOfInput : Reads ⟨.endOfInput, []⟩ []
  | word {w rest : List Char} : IsWord w → Stops isWordPart rest →
      Reads ⟨wordKind (String.ofList w), w⟩ rest
  | integer {w rest : List Char} : IsDigits w → Stops Char.isDigit rest →
      NoFraction rest → Reads ⟨.integerLiteral, w⟩ rest
  | float {whole fraction rest : List Char} : IsDigits whole → IsDigits fraction →
      Stops Char.isDigit rest → Reads ⟨.floatLiteral, whole ++ '.' :: fraction⟩ rest
  | character (c : Char) (rest : List Char) : Reads ⟨.charLiteral, [c]⟩ rest
  | malformed {c : Char} {rest : List Char} : Stops (· == '\x27') rest →
      Reads ⟨.invalid .malformedCharacter, [c]⟩ rest
  | malformedEnd : Reads ⟨.invalid .malformedCharacter, []⟩ []
  | string {body : List Char} (rest : List Char) : '\x22' ∉ body →
      Reads ⟨.stringLiteral, body⟩ rest
  | unterminatedString {body : List Char} : '\x22' ∉ body →
      Reads ⟨.invalid .unterminatedString, body⟩ []
  | unterminatedComment (cs : List Char) :
      Reads ⟨.invalid .unterminatedComment, '/' :: '*' :: cs⟩ []
  | pair {s : Symbol} {c d : Char} (rest : List Char) : s.spelling.toList = [c, d] →
      Reads ⟨.symbol s, [c, d]⟩ rest
  | single {s : Symbol} {c : Char} {rest : List Char} : s.spelling.toList = [c] →
      NoPair c rest → (c = '/' → Stops (· == '*') rest) → Reads ⟨.symbol s, [c]⟩ rest
  | unexpected {c : Char} {rest : List Char} : NoStart c → NoPair c rest →
      Reads ⟨.invalid .unexpectedCharacter, [c]⟩ rest

theorem noPair_nil (c : Char) : NoPair c [] := by
  intro d hd
  simp at hd

theorem noFraction_nil : NoFraction [] := by
  intro d cs h
  simp at h

/-! ## Which reader is called -/

theorem isWordStart_of_isDigit {c : Char} (h : c.isDigit = true) :
    isWordStart c = false := by
  have hdigit : 48 ≤ c.toNat ∧ c.toNat ≤ 57 := Char.isDigit_iff_toNat.mp h
  have hupper : c.isUpper = false := by
    show decide (65 ≤ c.val ∧ c.val ≤ 90) = false
    rw [decide_eq_false_iff_not]
    intro hrange
    have hlow : 65 ≤ c.toNat := UInt32.le_iff_toNat_le.mp hrange.1
    omega
  have hlower : c.isLower = false := by
    show (decide (97 ≤ c.val) && decide (c.val ≤ 122)) = false
    rw [Bool.and_eq_false_iff, decide_eq_false_iff_not]
    left
    intro hle
    have hlow : 97 ≤ c.toNat := UInt32.le_iff_toNat_le.mp hle
    omega
  have hunderscore : (c == '_') = false := by
    rw [beq_eq_false_iff_ne]
    intro heq
    subst heq
    revert hdigit
    decide
  show ((c.isUpper || c.isLower) || c == '_') = false
  rw [hupper, hlower, hunderscore]
  rfl

section Dispatch

variable {c : Char} {cs : List Char}

theorem read_word (hc : isWordStart c = true) : read (c :: cs) = readWord (c :: cs) := by
  rw [read_cons, if_pos hc]

theorem read_number (hc : c.isDigit = true) : read (c :: cs) = readNumber (c :: cs) := by
  have hword := isWordStart_of_isDigit hc
  rw [read_cons, if_neg (Bool.eq_false_iff.mp hword), if_pos hc]

theorem read_quote : read ('\x27' :: cs) = readCharacter cs := by
  rw [read_cons, if_neg (by decide), if_neg (by decide), if_pos rfl]

theorem read_doubleQuote : read ('\x22' :: cs) = readString cs := by
  rw [read_cons, if_neg (by decide), if_neg (by decide), if_neg (by decide), if_pos rfl]

theorem read_comment :
    read ('/' :: '*' :: cs) = (⟨.invalid .unterminatedComment, '/' :: '*' :: cs⟩, []) := by
  rw [read_cons, if_neg (by decide), if_neg (by decide), if_neg (by decide),
    if_neg (by decide), if_pos ⟨rfl, rfl⟩]

theorem read_symbol (hword : isWordStart c = false) (hdigit : c.isDigit = false)
    (hquote : c ≠ '\x27') (hdouble : c ≠ '\x22') (hopen : c = '/' → Stops (· == '*') cs) :
    read (c :: cs) = readSymbol c cs := by
  have hcomment : ¬ (c = '/' ∧ cs.head? = some '*') := by
    intro h
    have hstop := hopen h.1 '*' h.2
    simp at hstop
  rw [read_cons, if_neg (Bool.eq_false_iff.mp hword), if_neg (Bool.eq_false_iff.mp hdigit),
    if_neg hquote, if_neg hdouble, if_neg hcomment]

end Dispatch

/-! ## What each reader returns satisfies the rules -/

theorem reads_readWord {c : Char} {cs : List Char} (hc : isWordStart c = true) :
    Reads (readWord (c :: cs)).1 (readWord (c :: cs)).2 := by
  have hpart := isWordPart_of_isWordStart hc
  have hword : IsWord ((c :: cs).takeWhile isWordPart) := by
    rw [List.takeWhile_cons_of_pos hpart]
    exact ⟨c, _, rfl, hc, fun _ => of_mem_takeWhile⟩
  exact .word hword (stops_dropWhile _)

/-- A fraction is a point with digits behind it, up to where no digit follows. -/
theorem fraction?_eq_some {cs piece rest : List Char}
    (h : fraction? cs = some (piece, rest)) :
    ∃ fraction, piece = '.' :: fraction ∧ IsDigits fraction ∧ Stops Char.isDigit rest := by
  unfold fraction? at h
  split at h
  · simp at h
  · simp at h
  · next p d cs =>
    split at h
    · next hpd =>
      simp only [Option.some.injEq, Prod.mk.injEq] at h
      obtain ⟨rfl, rfl⟩ := h
      refine ⟨_, by rw [hpd.1], ⟨?_, fun _ => of_mem_takeWhile⟩, stops_dropWhile _⟩
      rw [List.takeWhile_cons_of_pos hpd.2]
      exact List.cons_ne_nil _ _
    · simp at h

theorem fraction?_eq_none_iff {cs : List Char} : fraction? cs = none ↔ NoFraction cs := by
  constructor
  · intro h d rest hcs
    by_cases hd : d.isDigit = true
    · simp [hcs, fraction?, hd] at h
    · exact Bool.eq_false_iff.mpr hd
  · intro h
    unfold fraction?
    split
    · rfl
    · rfl
    · next p d rest =>
      rw [if_neg]
      intro hpd
      have hd := h d rest (by rw [hpd.1])
      rw [hpd.2] at hd
      simp at hd

theorem reads_readNumber {c : Char} {cs : List Char} (hc : c.isDigit = true) :
    Reads (readNumber (c :: cs)).1 (readNumber (c :: cs)).2 := by
  have hwhole : IsDigits ((c :: cs).takeWhile Char.isDigit) := by
    refine ⟨?_, fun _ => of_mem_takeWhile⟩
    rw [List.takeWhile_cons_of_pos hc]
    exact List.cons_ne_nil _ _
  simp only [readNumber]
  split
  · next piece rest h =>
    obtain ⟨fraction, rfl, hfraction, hstop⟩ := fraction?_eq_some h
    exact .float hwhole hfraction hstop
  · next h => exact .integer hwhole (stops_dropWhile _) (fraction?_eq_none_iff.mp h)

theorem reads_readCharacter (cs : List Char) :
    Reads (readCharacter cs).1 (readCharacter cs).2 := by
  unfold readCharacter
  split
  · exact .malformedEnd
  · exact .malformed stops_nil
  · next c d cs =>
    split
    · exact .character c cs
    · next hd => exact .malformed (stops_cons.mpr (by simpa using hd))

theorem reads_readString (cs : List Char) :
    Reads (readString cs).1 (readString cs).2 := by
  have hbody : '\x22' ∉ cs.takeWhile (· != '\x22') :=
    forall_bne_iff.mp fun _ => of_mem_takeWhile
  simp only [readString]
  split
  · exact .unterminatedString hbody
  · exact .string _ hbody

/-- One character alone, where it starts neither a word, a number nor a literal
and no second character makes a symbol with it. -/
theorem reads_ofSymbolCharacter {c : Char} {rest : List Char}
    (hword : isWordStart c = false) (hdigit : c.isDigit = false) (hquote : c ≠ '\x27')
    (hdouble : c ≠ '\x22') (hpair : NoPair c rest)
    (hopen : c = '/' → Stops (· == '*') rest) : Reads (ofSymbolCharacter c) rest := by
  unfold ofSymbolCharacter
  split
  · next s h => exact .single (Symbol.ofSpelling?_ofList.mp h) hpair hopen
  · next h =>
    exact .unexpected
      ⟨hword, hdigit, hquote, hdouble, Symbol.ofSpelling?_ofList_eq_none.mp h⟩ hpair

theorem reads_readSymbol {c : Char} {cs : List Char}
    (hword : isWordStart c = false) (hdigit : c.isDigit = false) (hquote : c ≠ '\x27')
    (hdouble : c ≠ '\x22') (hopen : c = '/' → Stops (· == '*') cs) :
    Reads (readSymbol c cs).1 (readSymbol c cs).2 := by
  unfold readSymbol
  split
  · exact reads_ofSymbolCharacter hword hdigit hquote hdouble (noPair_nil c) hopen
  · next d cs =>
    split
    · next s h => exact .pair cs (Symbol.ofSpelling?_ofList.mp h)
    · next h =>
      have hpair : NoPair c (d :: cs) := by
        intro d' hd'
        obtain rfl : d = d' := by simpa using hd'
        exact Symbol.ofSpelling?_ofList_eq_none.mp h
      exact reads_ofSymbolCharacter hword hdigit hquote hdouble hpair hopen

/-- What is read satisfies the rules. -/
theorem reads_read (cs : List Char) : Reads (read cs).1 (read cs).2 := by
  cases cs with
  | nil => exact .endOfInput
  | cons c cs =>
      by_cases hword : isWordStart c = true
      · rw [read_word hword]
        exact reads_readWord hword
      by_cases hdigit : c.isDigit = true
      · rw [read_number hdigit]
        exact reads_readNumber hdigit
      by_cases hquote : c = '\x27'
      · subst hquote
        rw [read_quote]
        exact reads_readCharacter cs
      by_cases hdouble : c = '\x22'
      · subst hdouble
        rw [read_doubleQuote]
        exact reads_readString cs
      by_cases hcomment : c = '/' ∧ cs.head? = some '*'
      · obtain ⟨rfl, hhead⟩ := hcomment
        obtain ⟨rest, rfl⟩ := List.head?_eq_some_iff.mp hhead
        rw [read_comment]
        exact .unterminatedComment rest
      · have hopen : c = '/' → Stops (· == '*') cs := by
          intro hc d hd
          have hne : d ≠ '*' := fun heq => hcomment ⟨hc, heq ▸ hd⟩
          simpa using hne
        rw [Bool.not_eq_true] at hword hdigit
        rw [read_symbol hword hdigit hquote hdouble hopen]
        exact reads_readSymbol hword hdigit hquote hdouble hopen

/-! ## What satisfies the rules is read -/

theorem readWord_of_isWord {w rest : List Char} (hw : IsWord w)
    (hstop : Stops isWordPart rest) :
    readWord (w ++ rest) = (⟨wordKind (String.ofList w), w⟩, rest) := by
  have hpart := hw.forall_isWordPart
  rw [readWord, takeWhile_append_of_stops hpart hstop, dropWhile_append_of_stops hpart hstop]

theorem fraction?_point {fraction rest : List Char} (hfraction : IsDigits fraction)
    (hstop : Stops Char.isDigit rest) :
    fraction? ('.' :: (fraction ++ rest)) = some ('.' :: fraction, rest) := by
  obtain ⟨hne, hdigits⟩ := hfraction
  have htake := takeWhile_append_of_stops hdigits hstop
  have hdrop := dropWhile_append_of_stops hdigits hstop
  cases fraction with
  | nil => exact absurd rfl hne
  | cons d fraction =>
      rw [List.cons_append] at htake hdrop ⊢
      rw [fraction?, if_pos ⟨rfl, hdigits d List.mem_cons_self⟩, htake, hdrop]

theorem readNumber_integer {w rest : List Char} (hw : IsDigits w)
    (hstop : Stops Char.isDigit rest) (hfraction : NoFraction rest) :
    readNumber (w ++ rest) = (⟨.integerLiteral, w⟩, rest) := by
  have hnone := fraction?_eq_none_iff.mpr hfraction
  simp only [readNumber, takeWhile_append_of_stops hw.2 hstop,
    dropWhile_append_of_stops hw.2 hstop, hnone]

theorem readNumber_float {whole fraction rest : List Char} (hwhole : IsDigits whole)
    (hfraction : IsDigits fraction) (hstop : Stops Char.isDigit rest) :
    readNumber (whole ++ '.' :: (fraction ++ rest)) =
      (⟨.floatLiteral, whole ++ '.' :: fraction⟩, rest) := by
  have hpoint : Stops Char.isDigit ('.' :: (fraction ++ rest)) := stops_cons.mpr (by decide)
  simp only [readNumber, takeWhile_append_of_stops hwhole.2 hpoint,
    dropWhile_append_of_stops hwhole.2 hpoint, fraction?_point hfraction hstop]

theorem readCharacter_malformed {c : Char} {rest : List Char}
    (hstop : Stops (· == '\x27') rest) :
    readCharacter (c :: rest) = (⟨.invalid .malformedCharacter, [c]⟩, rest) := by
  cases rest with
  | nil => rfl
  | cons d rest =>
      have hd : d ≠ '\x27' := by simpa using hstop
      rw [readCharacter, if_neg hd]

theorem readString_closed {body : List Char} (hbody : '\x22' ∉ body) (rest : List Char) :
    readString (body ++ '\x22' :: rest) = (⟨.stringLiteral, body⟩, rest) := by
  have hrun := forall_bne_iff.mpr hbody
  have hquote : Stops (· != '\x22') ('\x22' :: rest) := stops_cons.mpr (by decide)
  simp only [readString, takeWhile_append_of_stops hrun hquote,
    dropWhile_append_of_stops hrun hquote]

theorem readString_open {body : List Char} (hbody : '\x22' ∉ body) :
    readString body = (⟨.invalid .unterminatedString, body⟩, []) := by
  have hrun := forall_bne_iff.mpr hbody
  have htake := takeWhile_append_of_stops hrun (stops_nil (p := (· != '\x22')))
  have hdrop := dropWhile_append_of_stops hrun (stops_nil (p := (· != '\x22')))
  rw [List.append_nil] at htake hdrop
  simp only [readString, htake, hdrop]

theorem readSymbol_of_noPair {c : Char} {rest : List Char} (hpair : NoPair c rest) :
    readSymbol c rest = (ofSymbolCharacter c, rest) := by
  cases rest with
  | nil => rfl
  | cons d rest =>
      have hnone := Symbol.ofSpelling?_ofList_eq_none.mpr (hpair d rfl)
      simp only [readSymbol, hnone]

/-- What satisfies the rules is read. -/
theorem Reads.read_eq {l : Lexeme} {rest : List Char} (h : Reads l rest) :
    read (l.spelling ++ rest) = (l, rest) := by
  cases h with
  | endOfInput => rfl
  | word hw hstop =>
      have hread := readWord_of_isWord hw hstop
      obtain ⟨c, cs, rfl, hc, -⟩ := hw
      rw [spelling_wordKind, List.cons_append, read_word hc]
      exact hread
  | @integer w _ hw hstop hfraction =>
      have hread := readNumber_integer hw hstop hfraction
      show read (w ++ rest) = _
      cases w with
      | nil => exact absurd rfl hw.1
      | cons c cs =>
          rw [List.cons_append, read_number (hw.2 c List.mem_cons_self)]
          exact hread
  | @float whole fraction _ hwhole hfraction hstop =>
      have hread := readNumber_float hwhole hfraction hstop
      show read ((whole ++ '.' :: fraction) ++ rest) = _
      rw [List.append_assoc, List.cons_append]
      cases whole with
      | nil => exact absurd rfl hwhole.1
      | cons c cs =>
          rw [List.cons_append, read_number (hwhole.2 c List.mem_cons_self)]
          exact hread
  | character c rest =>
      show read ('\x27' :: c :: '\x27' :: rest) = _
      rw [read_quote, readCharacter, if_pos rfl]
  | @malformed c _ hstop =>
      show read ('\x27' :: c :: rest) = _
      rw [read_quote, readCharacter_malformed hstop]
  | malformedEnd => rfl
  | @string body rest hbody =>
      show read ('\x22' :: ((body ++ ['\x22']) ++ rest)) = _
      rw [read_doubleQuote, List.append_assoc]
      exact readString_closed hbody rest
  | @unterminatedString body hbody =>
      show read ('\x22' :: (body ++ [])) = _
      rw [read_doubleQuote, List.append_nil, readString_open hbody]
  | unterminatedComment cs =>
      show read ('/' :: '*' :: (cs ++ [])) = _
      rw [List.append_nil, read_comment]
  | @pair s c d rest hs =>
      obtain ⟨hword, hdigit, hquote, hdouble, -⟩ := head_symbol hs
      have hopen : c = '/' → Stops (· == '*') (d :: rest) :=
        fun hc => absurd hc (pair_symbol hs).1
      show read (c :: d :: rest) = _
      rw [read_symbol hword hdigit hquote hdouble hopen]
      simp only [readSymbol, Symbol.ofSpelling?_ofList.mpr hs]
  | @single s c _ hs hpair hopen =>
      obtain ⟨hword, hdigit, hquote, hdouble, -⟩ := head_symbol hs
      show read (c :: rest) = _
      rw [read_symbol hword hdigit hquote hdouble hopen, readSymbol_of_noPair hpair]
      simp only [ofSymbolCharacter, Symbol.ofSpelling?_ofList.mpr hs]
  | @unexpected c _ hstart hpair =>
      -- A slash is a symbol, so the comment sign is no concern here.
      have hslash : c ≠ '/' := by
        intro hc
        exact hstart.symbol .slash (hc ▸ rfl)
      have hopen : c = '/' → Stops (· == '*') rest := fun hc => absurd hc hslash
      have hnone := Symbol.ofSpelling?_ofList_eq_none.mpr hstart.symbol
      show read (c :: rest) = _
      rw [read_symbol hstart.word hstart.digit hstart.quote hstart.doubleQuote hopen,
        readSymbol_of_noPair hpair]
      simp only [ofSymbolCharacter, hnone]

/-- The rules and the function agree. -/
theorem read_eq_iff {cs rest : List Char} {l : Lexeme} :
    read cs = (l, rest) ↔ l.spelling ++ rest = cs ∧ Reads l rest := by
  constructor
  · intro h
    have happend := read_append cs
    have hreads := reads_read cs
    rw [h] at happend hreads
    exact ⟨happend, hreads⟩
  · intro h
    rw [← h.1]
    exact h.2.read_eq

/-- The end of the text is read at the end of the text only. -/
theorem Reads.eq_endOfInput {l : Lexeme} {rest : List Char} (h : Reads l rest)
    (hend : l.kind = .endOfInput) : l = ⟨.endOfInput, []⟩ ∧ rest = [] := by
  have hread := h.read_eq
  have hnil : l.spelling ++ rest = [] := by
    rw [← kind_read_eq_endOfInput_iff, hread]
    exact hend
  rw [hnil, read_nil, Prod.mk.injEq] at hread
  exact ⟨hread.1.symm, hread.2.symm⟩

/-- Short of the end of the text, what is read has a character. -/
theorem Reads.spelling_ne_nil {l : Lexeme} {rest : List Char} (h : Reads l rest)
    (hend : l.kind ≠ .endOfInput) : l.spelling ≠ [] := by
  intro hnil
  have hread := h.read_eq
  have hkind : (read (l.spelling ++ rest)).1.kind ≠ .endOfInput := by
    rw [hread]
    exact hend
  have hlength := length_lt_of_read hkind
  rw [hread, hnil] at hlength
  exact Nat.lt_irrefl _ hlength

/-- The sign that opens a comment is read as the comment that it opens. -/
theorem Reads.not_open_comment {l : Lexeme} {rest : List Char} (h : Reads l rest)
    (hkind : l.kind ≠ .invalid .unterminatedComment) :
    ¬ ['/', '*'] <+: l.spelling ++ rest := by
  intro hprefix
  obtain ⟨cs, hopen⟩ := hprefix
  have hread := h.read_eq
  have hcomment : read (['/', '*'] ++ cs) = _ := read_comment
  rw [← hopen, hcomment, Prod.mk.injEq] at hread
  exact hkind (hread.1 ▸ rfl)

/-! ## The rules and the grammar -/

/-- What is read is well formed only if it is a lexeme of the grammar. -/
theorem Reads.denotes {l : Lexeme} {rest : List Char} (h : Reads l rest)
    (hvalid : l.kind.isInvalid = false) (hend : l.kind ≠ .endOfInput) :
    Denotes l.spelling l := by
  cases h with
  | endOfInput => exact absurd rfl hend
  | word hw hstop =>
      rw [spelling_wordKind]
      exact denotes_word hw
  | integer hw hstop hfraction => exact .integer hw
  | float hwhole hfraction hstop => exact .float hwhole hfraction
  | character c rest => exact .character c
  | string rest hbody => exact .string hbody
  | pair rest hs =>
      rw [spelling, ← hs]
      exact .symbol _
  | single hs hpair hopen =>
      rw [spelling, ← hs]
      exact .symbol _
  | malformed | malformedEnd | unterminatedString | unterminatedComment | unexpected =>
      simp [Kind.isInvalid] at hvalid

/-- A valid lexeme is read where it is all of the text. -/
theorem Denotes.reads_nil {w : List Char} {l : Lexeme} (h : Denotes w l) : Reads l [] := by
  cases h with
  | keyword k =>
      have hreads := Reads.word (isWord_keyword k) stops_nil
      rwa [String.ofList_toList, wordKind_keyword] at hreads
  | primitive p =>
      have hreads := Reads.word (isWord_primitive p) stops_nil
      rwa [String.ofList_toList, wordKind_primitive] at hreads
  | identifier hw hk hp =>
      have hreads := Reads.word hw stops_nil
      rwa [wordKind_identifier hk hp] at hreads
  | integer hw => exact .integer hw stops_nil noFraction_nil
  | float hwhole hfraction => exact .float hwhole hfraction stops_nil
  | character c => exact .character c []
  | string hbody => exact .string [] hbody
  | symbol s =>
      rcases spelling_symbol_cases s with ⟨c, hone⟩ | ⟨c, htwo, -⟩
      · rw [hone]
        exact .single hone (noPair_nil c) fun _ => stops_nil
      · rw [htwo]
        exact .pair [] htwo

/-! ## A white space behind the text -/

/-- The lexemes that the end of the text breaks off. -/
def Unfinished (l : Lexeme) : Prop :=
  l.kind = .invalid .unterminatedComment ∨ l.kind = .invalid .unterminatedString ∨
    (l.kind = .invalid .malformedCharacter ∧ l.text = [])

instance (l : Lexeme) : Decidable (Unfinished l) :=
  inferInstanceAs (Decidable (_ ∨ _ ∨ (_ ∧ _)))

theorem NoPair.append_blank {c d : Char} {rest : List Char} (h : NoPair c rest)
    (hd : Trivia.isBlank d = true) (ds : List Char) : NoPair c (rest ++ d :: ds) := by
  cases rest with
  | nil =>
      intro d' hd' s hs
      obtain rfl : d = d' := by simpa using hd'
      have hequal : d = '=' := (pair_symbol hs).2
      exact (not_part_of_isBlank hd).2.2 (by simp [hequal])
  | cons e rest => exact h

theorem NoFraction.append_blank {d : Char} {rest : List Char} (h : NoFraction rest)
    (hd : Trivia.isBlank d = true) (ds : List Char) : NoFraction (rest ++ d :: ds) := by
  obtain ⟨-, hdigit, hsign⟩ := not_part_of_isBlank hd
  intro e cs heq
  -- The digit behind a point is the blank itself, or it stands in `rest`.
  cases rest with
  | nil =>
      simp only [List.nil_append, List.cons.injEq] at heq
      exact absurd (by simp [heq.1]) hsign
  | cons p rest =>
      cases rest with
      | nil =>
          simp only [List.cons_append, List.nil_append, List.cons.injEq] at heq
          exact heq.2.1 ▸ hdigit
      | cons e' rest =>
          simp only [List.cons_append, List.cons.injEq] at heq
          exact h e rest (by rw [heq.1, heq.2.1])

/-- What is read at the head of a text is read there when a white space and
more text are put behind it, unless the end of the text broke it off. -/
theorem Reads.append_blank {l : Lexeme} {rest : List Char} (h : Reads l rest)
    (hend : l.kind ≠ .endOfInput) (hfinished : ¬ Unfinished l) {d : Char}
    (hd : Trivia.isBlank d = true) (ds : List Char) : Reads l (rest ++ d :: ds) := by
  obtain ⟨hpart, hdigit, hsign⟩ := not_part_of_isBlank hd
  simp only [List.mem_cons, not_or] at hsign
  obtain ⟨-, -, hstar, -, hquote, -⟩ := hsign
  cases h with
  | endOfInput => exact absurd rfl hend
  | word hw hstop => exact .word hw (hstop.append_cons hpart ds)
  | integer hw hstop hfraction =>
      exact .integer hw (hstop.append_cons hdigit ds) (hfraction.append_blank hd ds)
  | float hwhole hfraction hstop =>
      exact .float hwhole hfraction (hstop.append_cons hdigit ds)
  | character c rest => exact .character c _
  | malformed hstop => exact .malformed (hstop.append_cons (by simpa using hquote) ds)
  | malformedEnd => exact absurd (.inr (.inr ⟨rfl, rfl⟩)) hfinished
  | string rest hbody => exact .string _ hbody
  | unterminatedString hbody => exact absurd (.inr (.inl rfl)) hfinished
  | unterminatedComment cs => exact absurd (.inl rfl) hfinished
  | pair rest hs => exact .pair _ hs
  | single hs hpair hopen =>
      refine .single hs (hpair.append_blank hd ds) ?_
      intro hc
      exact (hopen hc).append_cons (by simpa using hstar) ds
  | unexpected hstart hpair => exact .unexpected hstart (hpair.append_blank hd ds)

theorem Denotes.not_unfinished {w : List Char} {l : Lexeme} (h : Denotes w l) :
    ¬ Unfinished l := by
  have hvalid := h.isInvalid_eq_false
  intro hunfinished
  rcases hunfinished with hkind | hkind | ⟨hkind, -⟩ <;>
    simp [hkind, Kind.isInvalid] at hvalid

end Lexis.Grammar
