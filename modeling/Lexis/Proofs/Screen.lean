import Lexis.Proofs.Excerpts

/-!
# What a terminal shows of styled text

Styled text is sent to a terminal with escape sequences in it.  What is shown is the text
without them, and a character is underlined if the last sequence that matters for it has
switched underlining on.  `screen` reads this off the characters that are sent, and knows
nothing of spans.

A span switches its attributes on one by one and off again all at once, so behind a span
nothing is switched on.  This is why the spans of a line can be read one after another.
It goes wrong where a text holds an escape character of its own.

## Main definitions

* `screen` — what is shown, character by character.
* `Span.cells`, `Line.cells` — what is to be shown of a span and of a line.

## Main results

* `screenFrom_line` — a line is shown as it is meant, and leaves nothing switched on.
* `screen_join` — so are lines that are sent one after another.
* `Message.screen_logged` — what is shown of a message.
-/

namespace Lexis.Console

/-- A character on the screen. -/
structure Cell where
  /-- The character. -/
  char : Char
  /-- Whether it is underlined. -/
  underlined : Bool := false
deriving DecidableEq, Repr

/-- Whether text is underlined behind the escape sequence, if it was so before as `on` tells.
The other sequences switch on what cannot be seen here. -/
def underlinedAfter (on : Bool) (sequence : List Char) : Bool :=
  if sequence = ['[', '4'] then true else if sequence = ['[', '0'] then false else on

/-- What a terminal shows of the characters that it is sent.  `on` tells whether text is being
underlined, and `begun` is what has come of an escape sequence that has begun.  A sequence
runs from the escape character to the next `m`. -/
def screenFrom (on : Bool) (begun : Option (List Char)) : List Char → List Cell
  | [] => []
  | c :: cs =>
    match begun with
    | none =>
      if c = '\x1b' then screenFrom on (some []) cs else ⟨c, on⟩ :: screenFrom on none cs
    | some sequence =>
      if c = 'm' then screenFrom (underlinedAfter on sequence) none cs
      else screenFrom on (some (sequence ++ [c])) cs

/-- What a terminal shows of a text. -/
def screen (text : String) : List Cell := screenFrom false none text.toList

/-- What is to be shown of a span. -/
def Span.cells (s : Span) : List Cell := s.text.toList.map (⟨·, s.isUnderlined⟩)

/-- What is to be shown of a line. -/
def Line.cells (l : Line) : List Cell := l.flatMap Span.cells

@[simp] theorem Line.cells_nil : Line.cells [] = [] := rfl

@[simp] theorem Line.cells_cons (s : Span) (l : Line) :
    Line.cells (s :: l) = s.cells ++ Line.cells l := List.flatMap_cons

@[simp] theorem Line.cells_append (l m : Line) :
    Line.cells (l ++ m) = Line.cells l ++ Line.cells m := List.flatMap_append

/-! ## Spans -/

variable {on : Bool} {rest : List Char}

theorem screenFrom_text {text : List Char} (h : '\x1b' ∉ text) :
    screenFrom on none (text ++ rest) = text.map (⟨·, on⟩) ++ screenFrom on none rest := by
  induction text with
  | nil => rfl
  | cons c text ih =>
      rw [List.mem_cons, not_or] at h
      rw [List.cons_append, screenFrom, if_neg (Ne.symm h.1), ih h.2]
      rfl

theorem screenFrom_code (a : Attribute) :
    screenFrom on none (a.code.toList ++ rest) =
      screenFrom (on || a == .underline) none rest := by
  cases a <;> cases on <;> rfl

theorem screenFrom_reset :
    screenFrom on none (Attribute.reset.toList ++ rest) = screenFrom false none rest := rfl

/-- A text between the sequences that switch attributes on and off is shown in these. -/
theorem screenFrom_wrapped {text : String} (h : '\x1b' ∉ text.toList)
    (attributes : List Attribute) (on : Bool) (rest : List Char) :
    screenFrom on none ((attributes.foldl (fun t a => a.wrap t) text).toList ++ rest) =
      text.toList.map (⟨·, on || attributes.contains .underline⟩) ++
        screenFrom (on && attributes.isEmpty) none rest := by
  -- The attribute that is switched on last stands outermost.
  induction attributes using List.reverseRecOn generalizing on rest with
  | nil =>
      rw [List.foldl_nil, screenFrom_text h]
      simp
  | append_singleton attributes a ih =>
      rw [List.foldl_append, List.foldl_cons, List.foldl_nil, Attribute.wrap,
        String.toList_append, String.toList_append, List.append_assoc, List.append_assoc,
        screenFrom_code, ih, screenFrom_reset]
      have hcontains : (attributes ++ [a]).contains .underline =
          (a == .underline || attributes.contains .underline) := by
        rw [List.contains_append, List.contains_cons, Bool.or_comm, BEq.comm]
        simp
      have hempty : (attributes ++ [a]).isEmpty = false := by simp
      rw [hcontains, hempty, Bool.or_assoc, Bool.and_false]

/-! ## Lines -/

/-- No text of the line holds an escape character. -/
def Line.EscapeFree (l : Line) : Prop := ∀ s ∈ l, '\x1b' ∉ s.text.toList

theorem Line.escapeFree_of_cells {l : Line} (h : '\x1b' ∉ l.cells.map Cell.char) :
    l.EscapeFree := by
  intro s hs hmem
  apply h
  rw [cells, List.map_flatMap, List.mem_flatMap]
  refine ⟨s, hs, ?_⟩
  rw [Span.cells, List.map_map]
  exact List.mem_map.mpr ⟨_, hmem, rfl⟩

theorem screenFrom_span {s : Span} (h : '\x1b' ∉ s.text.toList) (rest : List Char) :
    screenFrom false none (s.render.toList ++ rest) =
      s.cells ++ screenFrom false none rest := by
  rw [Span.render, screenFrom_wrapped h, Bool.false_or, Bool.false_and]
  rfl

theorem screenFrom_line {l : Line} (h : l.EscapeFree) (rest : List Char) :
    screenFrom false none (l.render.toList ++ rest) = l.cells ++ screenFrom false none rest := by
  rw [Line.render, String.toList_join, List.flatMap_map]
  induction l with
  | nil => rfl
  | cons s l ih =>
      have hbehind := ih fun s' hs' => h s' (List.mem_cons_of_mem s hs')
      rw [List.flatMap_cons, List.append_assoc, screenFrom_span (h s List.mem_cons_self),
        hbehind, Line.cells_cons, List.append_assoc]

/-- A line is shown as it is meant. -/
theorem screen_render {l : Line} (h : l.EscapeFree) :
    screen l.render = l.cells := by
  have hline := screenFrom_line h []
  rw [List.append_nil] at hline
  rw [screen, hline]
  exact List.append_nil _

/-- Lines that are sent one after another are shown as they are meant. -/
theorem screen_join {ls : List Line} (h : ∀ l ∈ ls, l.EscapeFree) :
    screen (String.join (ls.map fun l => l.render ++ "\n")) =
      ls.flatMap fun l => l.cells ++ [⟨'\n', false⟩] := by
  rw [screen, String.toList_join, List.flatMap_map]
  induction ls with
  | nil => rfl
  | cons l ls ih =>
      have hbehind := ih fun l' hl' => h l' (List.mem_cons_of_mem l hl')
      rw [List.flatMap_cons, String.toList_append, List.append_assoc,
        screenFrom_line (h l List.mem_cons_self), List.flatMap_cons, ← hbehind, List.append_assoc]
      rfl

/-! ## Messages -/

/-- Of a message a terminal shows how serious it is and what the matter is, on a line of its
own. -/
theorem Message.screen_logged {m : Message} (h : '\x1b' ∉ m.text.toList) :
    screen m.logged =
      ("[" ++ m.severity.name ++ "]: " ++ m.text ++ "\n").toList.map (⟨·, false⟩) := by
  have hheading : '\x1b' ∉ ("[" ++ m.severity.name ++ "]:").toList := by
    cases m.severity <;> decide
  have hescape : m.line.EscapeFree := by
    intro s hs
    simp only [line, List.mem_cons, List.not_mem_nil, or_false] at hs
    rcases hs with rfl | rfl | rfl
    · exact hheading
    · decide
    · exact h
  have hcells : m.line.cells =
      ("[" ++ m.severity.name ++ "]: " ++ m.text).toList.map (⟨·, false⟩) := by
    have hcolor : [m.severity.color, .bold].contains Attribute.underline = false := by
      cases m.severity <;> rfl
    simp only [line, Line.cells_cons, Line.cells_nil, Span.cells, Span.isUnderlined, hcolor,
      String.toList_append, List.map_append, List.append_assoc, List.append_nil]
    rfl
  have hnewline : screenFrom false none "\n".toList = "\n".toList.map (⟨·, false⟩) := rfl
  rw [logged, render, screen, String.toList_append, screenFrom_line hescape, hcells, hnewline,
    ← List.map_append, ← String.toList_append]

end Lexis.Console
