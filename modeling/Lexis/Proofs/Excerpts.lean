import Lexis.Proofs.Lines
import Lexis.Proofs.Printed

/-!
# What an excerpt underlines

An excerpt marks the characters of a line column by column, so what it marks is a
stretch of the line: the one that starts in the column of the place and is as long
as asked for, or ends with the line.  Nothing else in an excerpt is underlined.

For a report this stretch is the head of what was read.  The reports ask for the
opener of a comment, for a quote and what stands behind it, or for one character,
which is never more than what was read, and never just a line break.

## Main results

* `Excerpt.markedLine_append` — a line shown around its marked stretch.
* `Excerpt.render_marks` — marked characters are printed between escape sequences.
* `Excerpt.underlines_of_line?` — what an excerpt underlines, if it has the line.
* `TokenStream.tokenize_underlined` — tokens lie on lines of the file, and what the
  excerpt of a report underlines is the head of the malformed token.
-/

namespace Lexis

open Console (Line Span)

/-! ## Underlined text -/

/-- Whether a text is underlined. -/
def Console.Span.isUnderlined (s : Span) : Bool := s.attributes.contains .underline

/-- The underlined parts of a line. -/
def Console.Line.underlined (l : Line) : Line := l.filter Span.isUnderlined

namespace Excerpt

/-- How marked characters are shown, one by one. -/
def marks (cs : List Char) : Line :=
  (cs.filter isShown).map fun c => ⟨image c, [.red, .bold, .underline]⟩

/-- Characters in consecutive columns that are all shown in the same attributes. -/
private theorem styled_eq {e : Excerpt} {attributes : List Console.Attribute} (cs : List Char)
    (start : Nat)
    (h : ∀ column, start ≤ column → column < start + cs.length →
      (if e.isMarked column then [.red, .bold, .underline] else []) = attributes) :
    (((cs.zipIdx start).filter (isShown ·.1)).map fun (c, column) =>
        (⟨image c, if e.isMarked column then [.red, .bold, .underline] else []⟩ : Span)) =
      (cs.filter isShown).map fun c => ⟨image c, attributes⟩ := by
  have hcharacters : cs.filter isShown =
      ((cs.zipIdx start).filter (isShown ·.1)).map Prod.fst := by
    conv => lhs; rw [← List.zipIdx_map_fst start cs, List.filter_map]
    rfl
  rw [hcharacters, List.map_map]
  apply List.map_congr_left
  rintro ⟨c, column⟩ hmem
  obtain ⟨hle, hlt, -⟩ := List.mem_zipIdx (List.mem_of_mem_filter hmem)
  show Span.mk _ _ = Span.mk _ _
  rw [h column hle hlt]

/-- A line is shown plain up to the place, marked as far as it is asked for, and
plain again. -/
theorem markedLine_append {e : Excerpt} {front marked back : List Char}
    (hfront : e.location.column = 1 + front.length) (hle : marked.length ≤ max e.length 1)
    (hback : marked.length = max e.length 1 ∨ back = []) :
    e.markedLine (front ++ (marked ++ back)) =
      plainLine front ++ (marks marked ++ plainLine back) := by
  have hbefore := styled_eq (e := e) front 1 (by
    intro column _ hlt
    rw [if_neg]
    rw [isMarked_iff]
    omega)
  have hmarks := styled_eq (e := e) marked (1 + front.length) (by
    intro column hfrom hlt
    rw [if_pos]
    rw [isMarked_iff]
    omega)
  have hbehind := styled_eq (e := e) back (1 + front.length + marked.length) (by
    intro column hfrom hlt
    rw [if_neg]
    rw [isMarked_iff]
    rcases hback with hfull | hnone
    · omega
    · rw [hnone, List.length_nil] at hlt
      omega)
  show ((((front ++ (marked ++ back)).zipIdx 1).filter (isShown ·.1)).map fun (c, column) =>
    (⟨image c, if e.isMarked column then [.red, .bold, .underline] else []⟩ : Span)) = _
  rw [List.zipIdx_append, List.zipIdx_append, List.filter_append, List.filter_append,
    List.map_append, List.map_append, hbefore, hmarks, hbehind]
  rfl

/-- Marked characters are printed one by one. -/
theorem render_marks (cs : List Char) :
    Line.render (marks cs) = String.join (cs.map markedText) := by
  rw [marks, render_images (fun c => c) (fun _ => [.red, .bold, .underline])]
  simp only [printed_marked]

/-! ### Nothing else is underlined -/

theorem underlined_append (l m : Line) :
    Line.underlined (l ++ m) = Line.underlined l ++ Line.underlined m :=
  List.filter_append l m

theorem underlined_eq_nil {l : Line} (h : ∀ s ∈ l, s.isUnderlined = false) :
    Line.underlined l = [] := by
  rw [Line.underlined, List.filter_eq_nil_iff]
  intro s hs
  rw [h s hs]
  exact Bool.false_ne_true

@[simp] theorem underlined_plainLine (cs : List Char) : Line.underlined (plainLine cs) = [] := by
  apply underlined_eq_nil
  intro s hs
  obtain ⟨c, -, rfl⟩ := List.mem_map.mp hs
  rfl

@[simp] theorem underlined_marks (cs : List Char) : Line.underlined (marks cs) = marks cs := by
  rw [Line.underlined, List.filter_eq_self]
  intro s hs
  obtain ⟨c, -, rfl⟩ := List.mem_map.mp hs
  rfl

@[simp] theorem underlined_emptyGutter (e : Excerpt) : Line.underlined e.emptyGutter = [] := rfl

@[simp] theorem underlined_numberedGutter (e : Excerpt) (n : Nat) :
    Line.underlined (e.numberedGutter n) = [] := rfl

@[simp] theorem underlined_header (e : Excerpt) : Line.underlined e.header = [] := rfl

theorem underlined_context (e : Excerpt) (n : Nat) :
    (e.context n).flatMap Line.underlined = [] := by
  rw [context_eq]
  split
  · rw [List.flatMap_singleton, underlined_append, underlined_numberedGutter,
      underlined_plainLine, List.append_nil]
  · rfl

theorem underlined_helpLine (e : Excerpt) (line : List Char) :
    (e.helpLine line).flatMap Line.underlined = [] := by
  unfold helpLine helpLineOf
  split
  · rw [List.flatMap_singleton, underlined_append, ← emptyGutter, underlined_emptyGutter]
    rfl
  · rfl

/-! ## What is underlined -/

/-- The excerpt shows the whole line of its place, with the characters `marked` of it
underlined from that place on and nothing else underlined anywhere.  So it is printed: each of
these characters, as far as it is shown, stands between the sequences that switch underlining
on and off, and no other character of the line does. -/
structure Underlines (e : Excerpt) (marked : List Char) : Prop where
  shown : ∃ front back,
    e.file.line? e.location.line = some (front ++ (marked ++ back)) ∧
    e.location.column = 1 + front.length ∧
    e.lines =
      ([e.header, e.emptyGutter] ++ e.context (e.location.line - 1)) ++
      (e.numberedGutter e.location.line ++
        (plainLine front ++ (marks marked ++ plainLine back))) ::
      (e.helpLine (front ++ (marked ++ back)) ++ e.context (e.location.line + 1) ++
        [e.emptyGutter]) ∧
    e.render = e.aboveText ++ (e.numberText e.location.line ++
      (plainText front ++ (String.join (marked.map markedText) ++ plainText back)) ++ "\n" ++
      e.belowText (front ++ (marked ++ back)))
  alone : e.lines.flatMap Line.underlined = marks marked

/-- An excerpt whose place lies on a line of the file underlines the line from there
on, as far as it is asked to. -/
theorem underlines_of_line? {e : Excerpt} {front rest : List Char}
    (hline : e.file.line? e.location.line = some (front ++ rest))
    (hfront : e.location.column = 1 + front.length) :
    e.Underlines (rest.take (max e.length 1)) := by
  have hrest : rest = rest.take (max e.length 1) ++ rest.drop (max e.length 1) :=
    (List.take_append_drop _ _).symm
  have hlength : (rest.take (max e.length 1)).length = min (max e.length 1) rest.length :=
    List.length_take
  have hback : (rest.take (max e.length 1)).length = max e.length 1 ∨
      rest.drop (max e.length 1) = [] := by
    rw [List.drop_eq_nil_iff]
    omega
  rw [hrest] at hline
  have hmarked := markedLine_append hfront (by omega) hback
  have hlines : e.lines =
      ([e.header, e.emptyGutter] ++ e.context (e.location.line - 1)) ++
      (e.numberedGutter e.location.line ++
        (plainLine front ++ (marks (rest.take (max e.length 1)) ++
          plainLine (rest.drop (max e.length 1))))) ::
      (e.helpLine (front ++ (rest.take (max e.length 1) ++ rest.drop (max e.length 1))) ++
        e.context (e.location.line + 1) ++ [e.emptyGutter]) := by
    simp only [lines_eq, hline, hmarked, List.append_assoc, List.cons_append, List.nil_append]
  refine ⟨⟨front, _, hline, hfront, hlines, ?_⟩, ?_⟩
  · rw [e.render_of_line? hline, hmarked, Line.render_append, Line.render_append,
      render_plainLine, render_plainLine, render_marks]
  · rw [hlines]
    simp only [List.flatMap_append, List.flatMap_cons, List.flatMap_nil, underlined_context,
      underlined_helpLine, underlined_append, underlined_header, underlined_emptyGutter,
      underlined_numberedGutter, underlined_plainLine, underlined_marks, List.append_nil,
      List.nil_append]

end Excerpt

/-! ## Excerpts of reports -/

/-- The end of the text is not malformed. -/
theorem Token.kind_ne_endOfInput_of_isInvalid {t : Token} (h : t.isInvalid = true) :
    t.kind ≠ .endOfInput := by
  intro hkind
  rw [isInvalid, hkind] at h
  exact absurd h (by decide)

namespace Diagnostic

variable {t : Token} {d : Diagnostic}

/-- What is reported, and of which tokens. -/
theorem ofToken?_cases (h : ofToken? t = some d) :
    (t.kind = .invalid .unterminatedComment ∧ d = .unterminatedComment t.location) ∨
    (t.kind = .invalid .unterminatedString ∧ d = .unterminatedString t.location t.text) ∨
    (t.kind = .invalid .malformedCharacter ∧ d = .malformedCharacter t.location t.text) ∨
    (t.kind = .invalid .unexpectedCharacter ∧
      ∃ c cs, t.text.toList = c :: cs ∧ d = .unexpectedCharacter t.location c) := by
  unfold ofToken? at h
  split at h
  · next hkind => exact .inl ⟨hkind, (Option.some.inj h).symm⟩
  · next hkind => exact .inr (.inl ⟨hkind, (Option.some.inj h).symm⟩)
  · next hkind => exact .inr (.inr (.inl ⟨hkind, (Option.some.inj h).symm⟩))
  · next hkind =>
      obtain ⟨c, hhead, rfl⟩ := Option.map_eq_some_iff.mp h
      obtain ⟨cs, hcons⟩ := List.head?_eq_some_iff.mp hhead
      exact .inr (.inr (.inr ⟨hkind, c, cs, hcons, rfl⟩))
  · simp at h

/-- What is not malformed is not reported. -/
theorem isInvalid_of_ofToken? (h : ofToken? t = some d) : t.isInvalid = true := by
  rcases ofToken?_cases h with ⟨hkind, -⟩ | ⟨hkind, -⟩ | ⟨hkind, -⟩ | ⟨hkind, -⟩ <;>
    rw [Token.isInvalid, hkind, Kind.isInvalid]

theorem location_of_ofToken? (h : ofToken? t = some d) : d.location = t.location := by
  rcases ofToken?_cases h with ⟨-, rfl⟩ | ⟨-, rfl⟩ | ⟨-, rfl⟩ | ⟨-, _, _, -, rfl⟩ <;> rfl

/-- A report asks for some of the malformed token, and for no more than there is of it. -/
theorem highlightLength_le (h : ofToken? t = some d) (hopening : t.kind.opening <+: t.spelling) :
    1 ≤ d.highlightLength ∧ d.highlightLength ≤ t.spelling.length := by
  have hlength := hopening.length_le
  rcases ofToken?_cases h with
    ⟨hkind, rfl⟩ | ⟨hkind, rfl⟩ | ⟨hkind, rfl⟩ | ⟨hkind, c, cs, hcons, rfl⟩
  · rw [hkind] at hlength
    exact ⟨Nat.le_add_left 1 _, hlength⟩
  · rw [hkind] at hlength
    exact ⟨Nat.le_add_left 1 _, hlength⟩
  · have hspelling : t.spelling = '\x27' :: t.text.toList := by
      rw [Token.spelling, hkind]
      rfl
    rw [hspelling, List.length_cons, String.length_toList, highlightLength]
    omega
  · have hspelling : t.spelling = c :: cs := by
      rw [Token.spelling, hkind, hcons]
      rfl
    rw [hspelling, List.length_cons]
    exact ⟨Nat.le_refl 1, Nat.le_add_left 1 _⟩

end Diagnostic

/-- The first character of a token is no line break, so it is shown. -/
theorem Token.StandsIn.filter_isShown_ne_nil {source : String} {t : Token}
    {before behind : List Char} (h : t.StandsIn source before behind)
    (hend : t.kind ≠ .endOfInput) {n : Nat} (hn : 1 ≤ n) :
    (Lines.firstLine (t.spelling.take n)).filter Excerpt.isShown ≠ [] := by
  obtain ⟨c, cs, hspelling⟩ := List.exists_cons_of_ne_nil (h.reads.spelling_ne_nil hend)
  rw [Token.spelling_lexeme] at hspelling
  have hstop := h.stop
  rw [hspelling, List.cons_append] at hstop
  have hblank := Trivia.isBlank_eq_false_of_first?_none hstop
  have hnewline : c ≠ '\n' := by
    rintro rfl
    exact absurd hblank (by decide)
  have hreturn : c ≠ '\r' := by
    rintro rfl
    exact absurd hblank (by decide)
  have hshown : Excerpt.isShown c = true := by
    rw [Excerpt.isShown, bne_iff_ne.mpr hnewline, bne_iff_ne.mpr hreturn]
    rfl
  obtain ⟨k, rfl⟩ : ∃ k, n = k + 1 := ⟨n - 1, by omega⟩
  rw [hspelling, List.take_succ_cons, Lines.firstLine, if_neg hnewline,
    List.filter_cons_of_pos hshown]
  exact List.cons_ne_nil _ _

/-- The excerpt of a report underlines the head of the malformed token, as far as it
stands on the line where the token begins. -/
theorem SourceFile.underlines_excerptOf {f : SourceFile} {t : Token} {d : Diagnostic}
    {before behind : List Char} (h : t.StandsIn f.content before behind)
    (hreport : Diagnostic.ofToken? t = some d) :
    (f.excerptOf d).Underlines (Lines.firstLine (t.spelling.take d.highlightLength)) := by
  have hplace : d.location = .ofEnd before :=
    (Diagnostic.location_of_ofToken? hreport).trans h.location
  have hline : f.line? d.location.line =
      some (Lines.lastLine before ++ Lines.firstLine (t.spelling ++ behind)) :=
    hplace ▸ SourceFile.line?_ofEnd h.text
  have hcolumn : d.location.column = 1 + (Lines.lastLine before).length := by
    rw [hplace]
    rfl
  obtain ⟨hpos, hle⟩ := Diagnostic.highlightLength_le hreport h.reads.opening_isPrefix
  have hmarked := Excerpt.underlines_of_line? (e := f.excerptOf d) hline hcolumn
  have hlength : max (f.excerptOf d).length 1 = d.highlightLength := Nat.max_eq_left hpos
  rwa [hlength, Lines.take_firstLine, List.take_append_of_le_length hle] at hmarked

namespace TokenStream

/-- **Places in a file.**  Every token of a file's content lies on a line of the file,
in the column where it is located.  The excerpt of each report has that line, and
underlines in it the head of the malformed token, which is never empty: of as many
characters as the report asks for, those on the line that are no line break.  This is what
is printed, whatever the content holds. -/
theorem tokenize_underlined {H : Type} [Handler H Diagnostic] (f : SourceFile) (handler : H)
    (t : Token) (ht : t ∈ (tokenize f.content handler).1.toList) :
    (∃ line, f.Holds t line) ∧
      ∀ d, Diagnostic.ofToken? t = some d →
        (f.excerptOf d).Underlines (Lines.firstLine (t.spelling.take d.highlightLength)) ∧
          (Lines.firstLine (t.spelling.take d.highlightLength)).filter Excerpt.isShown ≠ [] := by
  rw [tokenize_fst] at ht
  refine ⟨f.exists_holds ht, ?_⟩
  intro d hreport
  obtain ⟨before, behind, hstands⟩ := Cursor.exists_standsIn ht
  obtain ⟨hpos, -⟩ := Diagnostic.highlightLength_le hreport hstands.reads.opening_isPrefix
  have hend := Token.kind_ne_endOfInput_of_isInvalid (Diagnostic.isInvalid_of_ofToken? hreport)
  exact ⟨f.underlines_excerptOf hstands hreport, hstands.filter_isShown_ne_nil hend hpos⟩

/-- A quote with a tab behind it, on a line of its own and behind another tab. -/
theorem tokenize_underlined_tab :
    (⟨.invalid .malformedCharacter, "\t", ⟨2, 2⟩⟩ : Token) ∈
        (tokenize "é\r\n\t'\t!\n" (⟨#[]⟩ : Storage Diagnostic)).1.toList ∧
      (∃ line, (⟨"main.ex", "é\r\n\t'\t!\n"⟩ : SourceFile).Holds
        ⟨.invalid .malformedCharacter, "\t", ⟨2, 2⟩⟩ line) ∧
      ((⟨"main.ex", "é\r\n\t'\t!\n"⟩ : SourceFile).excerptOf
        (.malformedCharacter ⟨2, 2⟩ "\t")).Underlines ['\x27', '\t'] ∧
      ((⟨"main.ex", "é\r\n\t'\t!\n"⟩ : SourceFile).excerptOf
        (.malformedCharacter ⟨2, 2⟩ "\t")).render =
          " \x1b[1m\x1b[36m-->\x1b[0m\x1b[0m main.ex:2:2\n" ++
          "  \x1b[1m\x1b[36m┃\x1b[0m\x1b[0m\n" ++
          "\x1b[1m\x1b[36m1\x1b[0m\x1b[0m \x1b[1m\x1b[36m┃\x1b[0m\x1b[0m é\n" ++
          "\x1b[1m\x1b[36m2\x1b[0m\x1b[0m \x1b[1m\x1b[36m┃\x1b[0m\x1b[0m     " ++
          "\x1b[4m\x1b[1m\x1b[31m'\x1b[0m\x1b[0m\x1b[0m" ++
          "\x1b[4m\x1b[1m\x1b[31m    \x1b[0m\x1b[0m\x1b[0m!\n" ++
          "\x1b[1m\x1b[36m3\x1b[0m\x1b[0m \x1b[1m\x1b[36m┃\x1b[0m\x1b[0m \n" ++
          "  \x1b[1m\x1b[36m┃\x1b[0m\x1b[0m\n" := by
  have hmem : (⟨.invalid .malformedCharacter, "\t", ⟨2, 2⟩⟩ : Token) ∈
      (tokenize "é\r\n\t'\t!\n" (⟨#[]⟩ : Storage Diagnostic)).1.toList := by
    decide +kernel
  obtain ⟨hline, hreports⟩ := tokenize_underlined ⟨"main.ex", "é\r\n\t'\t!\n"⟩
    (⟨#[]⟩ : Storage Diagnostic) _ hmem
  obtain ⟨hunderlines, -⟩ := hreports (.malformedCharacter ⟨2, 2⟩ "\t") rfl
  exact ⟨hmem, hline, hunderlines, by decide +kernel⟩

end TokenStream

end Lexis
