import Lexis.Proofs.Walks

/-!
# Longest match

The token that a scanner returns is the longest lexeme of the grammar at the
head of what remains behind the longest run of trivia.  `MaximalMunch` states
the rule for a text that starts with no trivia.  It speaks of the grammar alone,
and of every text: where the text ends, where it opens a comment, where some
lexeme stands at its head, and where none does.

No lexeme is missed because every one that stands at the head of a text can be
taken on to the one that is read there: a word by word characters, digits by
digits and a fraction, a symbol by its second character.

## Main results

* `longest_read`, `defect_read` — the longest lexeme of the grammar is read, or
  a defect where there is none.
* `maximalMunch_read` — the rule holds of reading.
* `Scanner.next_longest_match` — it holds of every token of every walk.
-/

namespace Lexis

namespace Grammar

open Lexeme Text

/-! ## The longest lexeme is read -/

theorem IsWord.append {w more : List Char} (hw : IsWord w)
    (hmore : ∀ c ∈ more, isWordPart c = true) : IsWord (w ++ more) := by
  obtain ⟨c, cs, rfl, hc, hcs⟩ := hw
  refine ⟨c, cs ++ more, rfl, hc, ?_⟩
  intro d hd
  rcases List.mem_append.mp hd with hd | hd
  · exact hcs d hd
  · exact hmore d hd

theorem IsDigits.append {w more : List Char} (hw : IsDigits w)
    (hmore : ∀ c ∈ more, c.isDigit = true) : IsDigits (w ++ more) := by
  refine ⟨List.append_ne_nil_of_left_ne_nil hw.1 more, ?_⟩
  intro d hd
  rcases List.mem_append.mp hd with hd | hd
  · exact hw.2 d hd
  · exact hmore d hd

/-- `more` takes the valid lexeme `w` to the valid lexeme that is read where
`w ++ rest` stands. -/
def ReadsOn (w rest : List Char) : Prop :=
  ∃ more rest' l, rest = more ++ rest' ∧ Denotes (w ++ more) l ∧ Reads l rest'

theorem readsOn_word {w : List Char} (hw : IsWord w) (rest : List Char) :
    ReadsOn w rest := by
  have hmore : ∀ c ∈ rest.takeWhile isWordPart, isWordPart c = true :=
    fun _ => of_mem_takeWhile
  have hword := hw.append hmore
  refine ⟨_, _, _, List.takeWhile_append_dropWhile.symm, denotes_word hword, ?_⟩
  exact .word hword (stops_dropWhile rest)

theorem readsOn_float {whole fraction : List Char} (hwhole : IsDigits whole)
    (hfraction : IsDigits fraction) (rest : List Char) :
    ReadsOn (whole ++ '.' :: fraction) rest := by
  have hmore : ∀ c ∈ rest.takeWhile Char.isDigit, c.isDigit = true :=
    fun _ => of_mem_takeWhile
  have hdigits := hfraction.append hmore
  refine ⟨_, _, _, List.takeWhile_append_dropWhile.symm, ?_,
    .float hwhole hdigits (stops_dropWhile rest)⟩
  rw [List.append_assoc, List.cons_append]
  exact .float hwhole hdigits

theorem readsOn_integer {w : List Char} (hw : IsDigits w) (rest : List Char) :
    ReadsOn w rest := by
  have hmore : ∀ c ∈ rest.takeWhile Char.isDigit, c.isDigit = true :=
    fun _ => of_mem_takeWhile
  have hdigits := hw.append hmore
  have hrest := List.takeWhile_append_dropWhile (p := Char.isDigit) (l := rest)
  by_cases hnone : NoFraction (rest.dropWhile Char.isDigit)
  · exact ⟨_, _, _, hrest.symm, .integer hdigits,
      .integer hdigits (stops_dropWhile rest) hnone⟩
  · -- A point and a digit follow the digits: the number goes on as a fraction.
    obtain ⟨d, cs, hpoint, hd⟩ :
        ∃ d cs, rest.dropWhile Char.isDigit = '.' :: d :: cs ∧ d.isDigit = true := by
      simpa [NoFraction] using hnone
    have hd' : IsDigits [d] := ⟨List.cons_ne_nil d [], by simpa using hd⟩
    obtain ⟨more, rest', l, rfl, hdenotes, hreads⟩ := readsOn_float hdigits hd' cs
    rw [hpoint] at hrest
    refine ⟨rest.takeWhile Char.isDigit ++ '.' :: d :: more, rest', l, ?_, ?_, hreads⟩
    · rw [List.append_assoc]
      exact hrest.symm
    · simpa using hdenotes

theorem readsOn_symbol (s : Symbol) {rest : List Char}
    (hopen : ¬ ['/', '*'] <+: s.spelling.toList ++ rest) :
    ReadsOn s.spelling.toList rest := by
  rcases spelling_symbol_cases s with ⟨c, hone⟩ | ⟨c, htwo, -⟩
  · by_cases hpair : NoPair c rest
    · have hcomment : c = '/' → Stops (· == '*') rest := by
        intro hc d hd
        obtain ⟨cs, rfl⟩ := List.head?_eq_some_iff.mp hd
        have hne : d ≠ '*' := by
          intro hstar
          exact hopen ⟨cs, by rw [hone, hc, hstar]; rfl⟩
        simpa using hne
      refine ⟨[], rest, ⟨.symbol s, [c]⟩, rfl, ?_, .single hone hpair hcomment⟩
      rw [List.append_nil, ← hone]
      exact .symbol s
    · obtain ⟨d, hd, s', hs'⟩ : ∃ d ∈ rest.head?, ∃ s' : Symbol, s'.spelling.toList = [c, d] := by
        simpa [NoPair] using hpair
      obtain ⟨cs, rfl⟩ := List.head?_eq_some_iff.mp hd
      refine ⟨[d], cs, ⟨.symbol s', [c, d]⟩, rfl, ?_, .pair cs hs'⟩
      rw [hone, List.singleton_append, ← hs']
      exact .symbol s'
  · refine ⟨[], rest, ⟨.symbol s, [c, '=']⟩, rfl, ?_, .pair rest htwo⟩
    rw [List.append_nil, ← htwo]
    exact .symbol s

/-- Where a valid lexeme stands, it is read, or a longer one that starts with
it.  The one exception is a slash that opens a comment. -/
theorem Denotes.readsOn {w : List Char} {l : Lexeme} (h : Denotes w l) {rest : List Char}
    (hopen : ¬ ['/', '*'] <+: w ++ rest) : ReadsOn w rest := by
  cases h with
  | keyword k => exact readsOn_word (isWord_keyword k) rest
  | primitive p => exact readsOn_word (isWord_primitive p) rest
  | identifier hw => exact readsOn_word hw rest
  | integer hw => exact readsOn_integer hw rest
  | float hwhole hfraction => exact readsOn_float hwhole hfraction rest
  | character c => exact ⟨[], rest, _, rfl, .character c, .character c rest⟩
  | string hbody => exact ⟨[], rest, _, rfl, by simpa using .string hbody, .string rest hbody⟩
  | symbol s => exact readsOn_symbol s hopen

/-- A valid lexeme at the head of a text stands at the head of what is read. -/
theorem Denotes.isPrefix_read {w : List Char} {l : Lexeme} (h : Denotes w l)
    {rest : List Char} (hopen : ¬ ['/', '*'] <+: w ++ rest) :
    w <+: (read (w ++ rest)).1.spelling ∧
      Denotes (read (w ++ rest)).1.spelling (read (w ++ rest)).1 := by
  obtain ⟨more, rest', l', rfl, hdenotes, hreads⟩ := h.readsOn hopen
  have hread := hreads.read_eq
  rw [hdenotes.spelling_eq, List.append_assoc] at hread
  rw [hread, hdenotes.spelling_eq]
  exact ⟨List.prefix_append w more, hdenotes⟩

/-- If some lexeme stands at the head of a text, the longest one is read. -/
theorem longest_read {r w : List Char} {l : Lexeme} (hopen : ¬ ['/', '*'] <+: r)
    (h : Denotes w l) (hw : w <+: r) : Longest r (read r).1.spelling (read r).1 := by
  have hread : ∀ w' l', Denotes w' l' → w' <+: r →
      w' <+: (read r).1.spelling ∧ Denotes (read r).1.spelling (read r).1 := by
    intro w' l' h' hprefix
    obtain ⟨rest, rfl⟩ := hprefix
    exact h'.isPrefix_read hopen
  refine ⟨(hread w l h hw).2, ⟨(read r).2, read_append r⟩, ?_⟩
  intro w' l' h' hw'
  exact (hread w' l' h' hw').1.length_le

/-- If no lexeme stands at the head of a text, a defect is read, and the first
character tells which. -/
theorem defect_read {r : List Char} (hne : r ≠ []) (hopen : ¬ ['/', '*'] <+: r)
    (hnone : ∀ w l, Denotes w l → ¬ w <+: r) :
    (read r).1.kind = .invalid (defectAt r) := by
  have hreads := reads_read r
  have happend := read_append r
  have hend : (read r).1.kind ≠ .endOfInput := by
    rwa [ne_eq, kind_read_eq_endOfInput_iff]
  have hinvalid : (read r).1.kind.isInvalid ≠ false := fun hvalid =>
    hnone _ _ (hreads.denotes hvalid hend) ⟨(read r).2, happend⟩
  generalize read r = found at hreads happend hinvalid
  obtain ⟨l, rest⟩ := found
  subst happend
  cases hreads with
  | malformed | malformedEnd | unterminatedString => rfl
  | unterminatedComment cs => exact absurd ⟨cs ++ [], rfl⟩ hopen
  | @unexpected c _ hstart hpair =>
      have hdefect : defectAt (c :: rest) = .unexpectedCharacter := by
        simp [defectAt, hstart.quote, hstart.doubleQuote]
      exact congrArg Kind.invalid hdefect.symm
  | word hw hstop => exact absurd (isInvalid_wordKind _) hinvalid
  | endOfInput | integer | float | character | string | pair | single =>
      exact absurd rfl hinvalid

/-! ## Maximal munch -/

/-- Maximal munch takes the lexeme `l` off the text `r` and leaves `rest`. -/
structure MaximalMunch (r : List Char) (l : Lexeme) (rest : List Char) : Prop where
  append : l.spelling ++ rest = r
  atEnd : r = [] → l = ⟨.endOfInput, []⟩
  comment : ∀ cs, r = '/' :: '*' :: cs →
    ¬ ['*', '/'] <:+: cs ∧ l = ⟨.invalid .unterminatedComment, r⟩ ∧ rest = []
  lexeme : ¬ ['/', '*'] <+: r → (∃ w l', Denotes w l' ∧ w <+: r) →
    ∃ w, Longest r w l ∧ r = w ++ rest
  defect : r ≠ [] → ¬ ['/', '*'] <+: r → (∀ w l', Denotes w l' → ¬ w <+: r) →
    l.kind = .invalid (defectAt r)

/-- Reading a text that starts with no trivia is maximal munch. -/
theorem maximalMunch_read {r : List Char} (hstop : Trivia.first? r = none) :
    MaximalMunch r (Lexeme.read r).1 (Lexeme.read r).2 := by
  refine ⟨Lexeme.read_append r, ?_, ?_, ?_, ?_⟩
  · intro hnil
    rw [hnil]
    rfl
  · intro cs hopen
    subst hopen
    have hread : Lexeme.read ('/' :: '*' :: cs) = _ := read_comment
    exact ⟨Trivia.not_closing_infix_of_first?_none hstop, congrArg Prod.fst hread,
      congrArg Prod.snd hread⟩
  · intro hopen hsome
    obtain ⟨w, l', hdenotes, hprefix⟩ := hsome
    exact ⟨_, longest_read hopen hdenotes hprefix, (Lexeme.read_append r).symm⟩
  · intro hne hopen hnone
    exact defect_read hne hopen hnone

end Grammar

namespace Scanner

open Grammar

/-- **Longest match.**  Whatever has been consumed, the next token is what
maximal munch finds behind the longest run of trivia, and the scanner moves
over both. -/
theorem next_longest_match {source : String} {s : Scanner} (h : Reachable source s) :
    ∃ consumed trivia r : List Char,
      source.toList = consumed ++ (trivia ++ r) ∧
      s.position = Utf8.size consumed ∧
      Trivia.Longest trivia r ∧
      MaximalMunch r s.next.1.lexeme s.next.2.cursor.rest ∧
      s.next.2.position = Utf8.size (consumed ++ (trivia ++ s.next.1.spelling)) := by
  obtain ⟨consumed, hsource, hcursor⟩ := h.exists_consumed
  obtain ⟨t, l, rest, hstep⟩ := s.cursor.exists_steps
  have hlexeme : s.next.1.lexeme = l := hstep.lexeme_next
  have hspelling : s.next.1.spelling = l.spelling := by
    rw [← hlexeme, Token.spelling_lexeme]
  have hbehind : s.next.2.cursor = s.cursor.moveOver (t ++ l.spelling) rest := by
    show s.cursor.next.2 = _
    rw [hstep.next_eq]
  have hmunch : MaximalMunch (l.spelling ++ rest) l rest := by
    have hread := maximalMunch_read hstep.stop
    rwa [hstep.reads.read_eq] at hread
  refine ⟨consumed, t, l.spelling ++ rest, ?_, ?_, hstep.longest, ?_, ?_⟩
  · rw [hsource, hstep.text]
  · show s.cursor.position = _
    rw [hcursor]
    exact Nat.zero_add _
  · rw [hlexeme, hbehind]
    exact hmunch
  · show s.next.2.cursor.position = _
    rw [hbehind, hcursor, Cursor.moveOver_moveOver, hspelling]
    exact Nat.zero_add _

/-- A scanner that has read an integer in front of a lone point. -/
theorem next_longest_match_point :
    Reachable "1./*/*/2.5" (ofString "1./*/*/2.5").next.2 ∧
      ∃ consumed trivia r : List Char,
        "1./*/*/2.5".toList = consumed ++ (trivia ++ r) ∧
        (ofString "1./*/*/2.5").next.2.position = Utf8.size consumed ∧
        Trivia.Longest trivia r ∧
        MaximalMunch r (ofString "1./*/*/2.5").next.2.next.1.lexeme
          (ofString "1./*/*/2.5").next.2.next.2.cursor.rest ∧
        (ofString "1./*/*/2.5").next.2.next.2.position =
          Utf8.size (consumed ++
            (trivia ++ (ofString "1./*/*/2.5").next.2.next.1.spelling)) :=
  ⟨.next .start, next_longest_match (.next .start)⟩

end Scanner

end Lexis
