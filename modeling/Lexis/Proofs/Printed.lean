import Lexis.Source.Excerpt

/-!
# Printed texts

What is printed of a message or an excerpt is styled text with its escape sequences.  Here
both are written down with all of their sequences, which takes no notice of spans and lines:
a message is a heading in its colour and a text in bold, and an excerpt is what stands above
the line of the place, this line character by character, and what stands below it.

The equations hold for all texts, also for texts with escape characters of their own.  What
has to be seen for them is that the attributes of a span are switched on from the outside to
the inside, and that a line number never takes more room than there is in front of the bar.

## Main definitions

* `Console.Message.printed` — the text of a message.
* `Excerpt.expand`, `Excerpt.room` — what is shown for a character of the source, and what
  stands under it.
* `Excerpt.printed` — the text of an excerpt.

## Main results

* `Console.Message.logged_eq` — what is printed of a message.
* `length_toString_eq_digitCount`, `digitCount_mono` — how wide a number is.
* `Excerpt.render_eq` — what is printed of an excerpt.
-/

namespace Lexis

open Console (Line Span Message Severity)

/-! ## Messages -/

namespace Console

/-- The word for how serious a message is, in bold and in its colour. -/
def Severity.heading : Severity → String
  | .error => "\x1b[1m\x1b[31m[error]:\x1b[0m\x1b[0m"
  | .warning => "\x1b[1m\x1b[33m[warning]:\x1b[0m\x1b[0m"
  | .info => "\x1b[1m\x1b[32m[info]:\x1b[0m\x1b[0m"
  | .debug => "\x1b[1m\x1b[37m[debug]:\x1b[0m\x1b[0m"

/-- The text of a message: the heading and, in bold, what the matter is. -/
def Message.printed (m : Message) : String :=
  m.severity.heading ++ " \x1b[1m" ++ m.text ++ "\x1b[0m\n"

theorem Line.render_cons (s : Span) (l : Line) :
    Line.render (s :: l) = s.render ++ Line.render l := by
  rw [Line.render, List.map_cons, String.join_cons, Line.render]

@[simp] theorem Line.render_nil : Line.render [] = "" := rfl

theorem Line.render_append (l m : Line) :
    Line.render (l ++ m) = Line.render l ++ Line.render m := by
  rw [Line.render, List.map_append, String.join_append, Line.render, Line.render]

theorem Span.render_plain (text : String) : Span.render ⟨text, []⟩ = text := rfl

theorem Severity.render_heading (s : Severity) :
    Span.render ⟨"[" ++ s.name ++ "]:", [s.color, .bold]⟩ = s.heading := by
  cases s <;> rfl

/-- What is printed of a message. -/
theorem Message.logged_eq (m : Message) : m.logged = m.printed := by
  have htext : Span.render ⟨m.text, [.bold]⟩ = "\x1b[1m" ++ m.text ++ "\x1b[0m" := rfl
  rw [logged, render, line, Line.render_cons, Line.render_cons, Line.render_cons,
    Severity.render_heading, htext, Span.render_plain, Line.render_nil, printed]
  simp only [← String.toList_inj, String.toList_append, List.append_assoc]
  rfl

end Console

/-! ## The width of numbers -/

theorem digitCount_of_lt {n : Nat} (hpos : 0 < n) (hlt : n < 10) : digitCount n = 1 := by
  obtain ⟨m, rfl⟩ : ∃ m, n = m + 1 := ⟨n - 1, by omega⟩
  rw [digitCount_succ, Nat.div_eq_of_lt hlt, digitCount_zero]

theorem digitCount_of_ge {n : Nat} (h : 10 ≤ n) : digitCount n = digitCount (n / 10) + 1 := by
  obtain ⟨m, rfl⟩ : ∃ m, n = m + 1 := ⟨n - 1, by omega⟩
  rw [digitCount_succ]

/-- A positive number is written in as many characters as it has digits. -/
theorem length_toString_eq_digitCount {n : Nat} (h : 0 < n) :
    (toString n).length = digitCount n := by
  induction n using Nat.strongRecOn with
  | ind n ih =>
      by_cases hlt : n < 10
      · rw [Nat.toString_eq_repr, Nat.repr_of_lt hlt, String.length_singleton,
          digitCount_of_lt h hlt]
      · have hge : 10 ≤ n := by omega
        have hfront := ih (n / 10) (by omega) (by omega)
        rw [Nat.toString_eq_repr] at hfront ⊢
        rw [Nat.repr_of_ge hge, String.length_append, String.length_singleton, hfront,
          digitCount_of_ge hge]

/-- A greater number has no fewer digits. -/
theorem digitCount_mono {m n : Nat} (h : m ≤ n) : digitCount m ≤ digitCount n := by
  induction n using Nat.strongRecOn generalizing m with
  | ind n ih =>
      cases m with
      | zero =>
          rw [digitCount_zero]
          exact Nat.zero_le _
      | succ m =>
          obtain ⟨k, rfl⟩ : ∃ k, n = k + 1 := ⟨n - 1, by omega⟩
          rw [digitCount_succ, digitCount_succ]
          exact Nat.succ_le_succ (ih _ (by omega) (by omega))

/-- A file has no line with the number zero. -/
theorem SourceFile.pos_of_line? {f : SourceFile} {n : Nat} {line : List Char}
    (h : f.line? n = some line) : 1 ≤ n := by
  rw [line?] at h
  split at h
  · simp at h
  · omega

namespace Excerpt

variable (e : Excerpt)

/-- The room for line numbers is as wide as the number of the line behind the place. -/
theorem gutterWidth_eq : e.gutterWidth = (toString (e.location.line + 1)).length :=
  (length_toString_eq_digitCount (Nat.succ_pos _)).symm

/-! ## Characters of the source -/

/-- What is shown for a character of the source: a tab is four spaces, and line breaks are
left out. -/
def expand (c : Char) : List Char :=
  if c = '\t' then [' ', ' ', ' ', ' '] else if c = '\n' ∨ c = '\r' then [] else [c]

/-- The room that the note of help leaves for a character of the source. -/
def room (c : Char) : List Char := if c = '\t' then [' ', ' ', ' ', ' '] else [' ']

/-- The text of characters of the source as they stand. -/
def plainText (cs : List Char) : String := String.ofList (cs.flatMap expand)

/-- The text of a character of the source that is marked: what is shown for it, if anything,
is underlined, in bold and in red. -/
def markedText (c : Char) : String :=
  if expand c = [] then ""
  else "\x1b[4m\x1b[1m\x1b[31m" ++ String.ofList (expand c) ++ "\x1b[0m\x1b[0m\x1b[0m"

theorem toList_spaces (n : Nat) : (spaces n).toList = List.replicate n ' ' :=
  String.toList_ofList

theorem isShown_eq_false_iff {c : Char} : isShown c = false ↔ c = '\n' ∨ c = '\r' := by
  rw [isShown, Bool.and_eq_false_iff, bne_eq_false_iff_eq, bne_eq_false_iff_eq]

theorem expand_of_not_isShown {c : Char} (h : isShown c = false) : expand c = [] := by
  rw [isShown_eq_false_iff] at h
  have htab : c ≠ '\t' := by
    rcases h with rfl | rfl <;> decide
  rw [expand, if_neg htab, if_pos h]

theorem expand_of_isShown {c : Char} (h : isShown c = true) :
    expand c = if c = '\t' then [' ', ' ', ' ', ' '] else [c] := by
  have hbreak : ¬ (c = '\n' ∨ c = '\r') := by
    rw [← isShown_eq_false_iff, h]
    exact Bool.noConfusion
  rw [expand, if_neg hbreak]

theorem expand_ne_nil {c : Char} (h : isShown c = true) : expand c ≠ [] := by
  rw [expand_of_isShown h]
  split <;> exact List.cons_ne_nil _ _

theorem toList_image {c : Char} (h : isShown c = true) : (image c).toList = expand c := by
  rw [image, expand_of_isShown h]
  split
  · exact toList_spaces 4
  · exact String.toList_singleton c

theorem image_eq {c : Char} (h : isShown c = true) : image c = String.ofList (expand c) := by
  rw [← toList_image h, String.ofList_toList]

/-- Characters of the source, each in attributes of its own, are printed one by one. -/
theorem render_images {α : Type} (char : α → Char) (attributes : α → List Console.Attribute)
    (l : List α) :
    Line.render ((l.filter fun a => isShown (char a)).map fun a =>
        ⟨image (char a), attributes a⟩) =
      String.join (l.map fun a =>
        if isShown (char a) then Span.render ⟨image (char a), attributes a⟩ else "") := by
  induction l with
  | nil => rfl
  | cons a l ih =>
      rw [List.map_cons, String.join_cons, ← ih, List.filter_cons]
      cases hshown : isShown (char a) with
      | false => exact (String.empty_append).symm
      | true => exact Line.render_cons _ _

/-- A character that is not marked. -/
theorem printed_plain (c : Char) :
    (if isShown c then Span.render ⟨image c, []⟩ else "") = plainText [c] := by
  rw [plainText, List.flatMap_singleton]
  cases hshown : isShown c with
  | false => rw [expand_of_not_isShown hshown]; rfl
  | true => exact image_eq hshown

/-- A character that is marked. -/
theorem printed_marked (c : Char) :
    (if isShown c then Span.render ⟨image c, [.red, .bold, .underline]⟩ else "") =
      markedText c := by
  rw [markedText]
  cases hshown : isShown c with
  | false => rw [if_pos (expand_of_not_isShown hshown)]; rfl
  | true =>
      rw [if_neg (expand_ne_nil hshown), ← image_eq hshown]
      simp only [Span.render, List.foldl_cons, List.foldl_nil, Console.Attribute.wrap,
        if_true, ← String.toList_inj, String.toList_append, List.append_assoc]
      rfl

theorem join_plainText (cs : List Char) :
    String.join (cs.map fun c => plainText [c]) = plainText cs := by
  rw [← String.toList_inj, String.toList_join, List.flatMap_map, plainText, String.toList_ofList]
  simp only [plainText, List.flatMap_singleton, String.toList_ofList]

theorem render_plainLine (cs : List Char) : Line.render (plainLine cs) = plainText cs := by
  rw [plainLine, render_images (fun c => c) (fun _ => [])]
  simp only [printed_plain, join_plainText]

theorem render_markedLine (line : List Char) :
    Line.render (e.markedLine line) = String.join ((line.zipIdx 1).map fun (c, column) =>
      if e.location.column ≤ column ∧ column < e.location.column + max e.length 1 then
        markedText c
      else plainText [c]) := by
  have himages := render_images (α := Char × Nat) (fun p => p.1)
    (fun p => if e.isMarked p.2 then [.red, .bold, .underline] else []) (line.zipIdx 1)
  refine Eq.trans himages ?_
  congr 2
  funext p
  by_cases hp : e.isMarked p.2 = true
  · rw [if_pos hp, printed_marked]
    exact (if_pos ((e.isMarked_iff p.2).mp hp)).symm
  · rw [if_neg hp, printed_plain]
    exact (if_neg (mt (e.isMarked_iff p.2).mpr hp)).symm

theorem toList_indent (line : List Char) :
    (e.indent line).toList = (line.take (e.location.column - 1)).flatMap room := by
  have hroom : ∀ c : Char, (spaces (if c = '\t' then 4 else 1)).toList = room c := by
    intro c
    rw [toList_spaces, room]
    split <;> rfl
  rw [indent, String.toList_join, List.flatMap_map]
  simp only [hroom]

/-! ## Excerpts -/

/-- The bar between the line numbers and the source text. -/
def barText : String := "\x1b[1m\x1b[36m┃\x1b[0m\x1b[0m"

/-- What stands in front of a line without a number. -/
def emptyText : String := spaces ((toString (e.location.line + 1)).length + 1) ++ barText

/-- What stands in front of the line with the number `n`. -/
def numberText (n : Nat) : String :=
  "\x1b[1m\x1b[36m" ++ toString n ++ "\x1b[0m\x1b[0m" ++
    spaces ((toString (e.location.line + 1)).length + 1 - (toString n).length) ++ barText ++ " "

/-- The line with the number `n` as it stands, if the file has it. -/
def contextText (n : Nat) : String :=
  match e.file.line? n with
  | some line => e.numberText n ++ plainText line ++ "\n"
  | none => ""

/-- The name of the place. -/
def headerText : String :=
  spaces (toString (e.location.line + 1)).length ++ "\x1b[1m\x1b[36m-->\x1b[0m\x1b[0m " ++
    e.file.path ++ ":" ++ toString e.location.line ++ ":" ++ toString e.location.column

/-- What stands above the line of the place: its name, and the line before. -/
def aboveText : String :=
  e.headerText ++ "\n" ++ e.emptyText ++ "\n" ++ e.contextText (e.location.line - 1)

/-- The note of help under the line of the place, if there is help. -/
def helpText (line : List Char) : String :=
  match e.help with
  | some help =>
    e.emptyText ++ " " ++ String.ofList ((line.take (e.location.column - 1)).flatMap room) ++
      "\x1b[1mhelp\x1b[0m: " ++ help ++ "\n"
  | none => ""

/-- What stands below the line of the place: the help, and the line behind. -/
def belowText (line : List Char) : String :=
  e.helpText line ++ e.contextText (e.location.line + 1) ++ e.emptyText ++ "\n"

/-- The text of an excerpt.  In the line of the place, if the file has it, the characters from
the place on are marked, as many as are asked for and at least one. -/
def printed : String :=
  e.aboveText ++
    match e.file.line? e.location.line with
    | some line =>
      e.numberText e.location.line ++
        String.join ((line.zipIdx 1).map fun (c, column) =>
          if e.location.column ≤ column ∧ column < e.location.column + max e.length 1 then
            markedText c
          else plainText [c]) ++ "\n" ++ e.belowText line
    | none => ""

theorem render_bar : Span.render bar = barText := rfl

theorem render_emptyGutter : Line.render e.emptyGutter = e.emptyText := by
  rw [emptyGutter, emptyGutterOf, Line.render_cons, Line.render_cons, Line.render_nil,
    Span.render_plain, render_bar, String.append_empty, gutterWidth_eq, emptyText]

/-- The gutter of a line that an excerpt can show. -/
theorem render_numberedGutter {n : Nat} (hpos : 1 ≤ n) (hle : n ≤ e.location.line + 1) :
    Line.render (e.numberedGutter n) = e.numberText n := by
  have hwidth : digitCount n ≤ e.gutterWidth := digitCount_mono hle
  have hpad : e.gutterWidth - digitCount n + 1 =
      (toString (e.location.line + 1)).length + 1 - (toString n).length := by
    rw [length_toString_eq_digitCount hpos, ← gutterWidth_eq]
    omega
  have hnumber : Span.render ⟨toString n, [.cyan, .bold]⟩ =
      "\x1b[1m" ++ ("\x1b[36m" ++ toString n ++ "\x1b[0m") ++ "\x1b[0m" := rfl
  rw [numberedGutter_eq, Line.render_cons, Line.render_cons, Line.render_cons, Line.render_cons,
    Line.render_nil, hnumber, Span.render_plain, Span.render_plain, render_bar, hpad, numberText]
  simp only [← String.toList_inj, String.toList_append, List.append_assoc]
  rfl

theorem render_header : Line.render e.header = e.headerText := by
  have harrow : Span.render ⟨"-->", [.cyan, .bold]⟩ = "\x1b[1m\x1b[36m-->\x1b[0m\x1b[0m" := rfl
  have hplace : s!" {e.file.path}:{e.location}" =
      " " ++ e.file.path ++ ":" ++
        (toString e.location.line ++ ":" ++ toString e.location.column) := rfl
  rw [header, headerOf, Line.render_cons, Line.render_cons, Line.render_cons, Line.render_nil,
    Span.render_plain, Span.render_plain, harrow, hplace, gutterWidth_eq, headerText,
    String.append_empty]
  simp only [← String.toList_inj, String.toList_append, List.append_assoc]
  rfl

/-- The line with a number is printed if the file has it. -/
theorem join_context {n : Nat} (hle : n ≤ e.location.line + 1) :
    String.join ((e.context n).map fun l => l.render ++ "\n") = e.contextText n := by
  rw [context_eq, contextText]
  cases hline : e.file.line? n with
  | none => rfl
  | some line =>
      rw [List.map_singleton, String.join_cons, String.join_nil, String.append_empty,
        Line.render_append, e.render_numberedGutter (SourceFile.pos_of_line? hline) hle,
        render_plainLine]

theorem join_helpLine (line : List Char) :
    String.join ((e.helpLine line).map fun l => l.render ++ "\n") = e.helpText line := by
  rw [helpLine, helpLineOf, helpText]
  cases e.help with
  | none => rfl
  | some help =>
      have hword : Span.render ⟨"help", [.bold]⟩ = "\x1b[1mhelp\x1b[0m" := rfl
      rw [List.map_singleton, String.join_cons, String.join_nil, String.append_empty,
        Line.render_append, ← emptyGutter, render_emptyGutter, Line.render_cons,
        Line.render_cons, Line.render_cons, Line.render_nil, Span.render_plain,
        Span.render_plain, hword]
      simp only [← String.toList_inj, String.toList_append, List.append_assoc, toList_indent,
        String.toList_ofList]
      rfl

/-- The lines that every excerpt has. -/
theorem join_above :
    String.join (([e.header, e.emptyGutter] ++ e.context (e.location.line - 1)).map
      fun l => l.render ++ "\n") = e.aboveText := by
  have hbefore := e.join_context (Nat.le_trans (Nat.sub_le e.location.line 1) (Nat.le_succ _))
  rw [List.map_append, String.join_append, hbefore, List.map_cons, List.map_singleton,
    String.join_cons, String.join_cons, String.join_nil, render_header, render_emptyGutter,
    aboveText]
  simp only [String.append_assoc, String.append_empty]

/-- What is printed of an excerpt that has the line of its place. -/
theorem render_of_line? {line : List Char} (h : e.file.line? e.location.line = some line) :
    e.render = e.aboveText ++ (e.numberText e.location.line ++ Line.render (e.markedLine line) ++
      "\n" ++ e.belowText line) := by
  have hgutter := e.render_numberedGutter (SourceFile.pos_of_line? h) (Nat.le_succ _)
  have hbehind := e.join_context (Nat.le_refl (e.location.line + 1))
  rw [render, lines_eq, h, List.map_append, String.join_append, join_above]
  simp only [List.map_append, String.join_append, List.map_cons, List.map_nil, String.join_cons,
    String.join_nil, String.append_empty, Line.render_append, hgutter, hbehind, join_helpLine,
    render_emptyGutter, belowText, String.append_assoc]

/-- What is printed of an excerpt, whatever its texts hold. -/
theorem render_eq : e.render = e.printed := by
  rw [printed]
  cases hline : e.file.line? e.location.line with
  | some line => rw [e.render_of_line? hline, render_markedLine]
  | none => rw [render, lines_eq, hline, List.append_nil, join_above, String.append_empty]

end Excerpt

end Lexis
