import Lexis.Proofs.Lines
import Lexis.CommandLine.Run

/-!
# The line table of a file

A file answers for its lines by number, and keeps for each line the range of bytes
that it takes.  The ranges are added up from the sizes of the lines and never looked
up in the content, so that they cut the content where the lines end is something to
be shown: the lines before a line take as many bytes as the position at which it
begins, and a position of a string never lies within a character.

The lines are counted in two ways.  The table has a last line behind the last
newline even if nothing stands there; what is told about a file that has been read
leaves such a line out.

## Main results

* `Lines.exists_split_eq` — closed lines and an open one behind them.
* `Lines.getElem?_rangesFrom` — the range of a line, from the sizes of the lines.
* `SourceFile.filledLineCount_eq` — the two ways to count lines.
* `SourceFile.tabulated` — the line table of any file.
-/

namespace Lexis

namespace Lines

/-! ## Closed lines -/

/-- The line ends with its only newline. -/
def Closed (line : List Char) : Prop := ∃ body, line = body ++ ['\n'] ∧ '\n' ∉ body

theorem Closed.ne_nil {line : List Char} (h : Closed line) : line ≠ [] := by
  obtain ⟨body, rfl, -⟩ := h
  exact List.append_ne_nil_of_right_ne_nil body (List.cons_ne_nil _ _)

theorem closed_newline : Closed ['\n'] := ⟨[], rfl, List.not_mem_nil⟩

theorem Closed.cons {c : Char} {line : List Char} (hc : c ≠ '\n') (h : Closed line) :
    Closed (c :: line) := by
  obtain ⟨body, rfl, hbody⟩ := h
  exact ⟨c :: body, rfl, List.not_mem_cons_of_ne_of_not_mem (Ne.symm hc) hbody⟩

/-- A text is cut into closed lines and, behind them, one that no newline closes. -/
theorem exists_split_eq (cs : List Char) :
    ∃ closed last, split cs = closed ++ [last] ∧ (∀ line ∈ closed, Closed line) ∧
      '\n' ∉ last := by
  induction cs with
  | nil => exact ⟨[], [], rfl, fun line hline => absurd hline List.not_mem_nil, List.not_mem_nil⟩
  | cons c cs ih =>
      obtain ⟨closed, last, hsplit, hclosed, hlast⟩ := ih
      rw [split, hsplit]
      split
      · next hc =>
          subst hc
          exact ⟨['\n'] :: closed, last, rfl,
            List.forall_mem_cons.mpr ⟨closed_newline, hclosed⟩, hlast⟩
      · next hc =>
          -- The character goes to the first line, which is the open one if no other is left.
          cases closed with
          | nil =>
              exact ⟨[], c :: last, rfl, hclosed,
                List.not_mem_cons_of_ne_of_not_mem (Ne.symm hc) hlast⟩
          | cons line closed =>
              obtain ⟨hline, hclosed⟩ := List.forall_mem_cons.mp hclosed
              exact ⟨(c :: line) :: closed, last, rfl,
                List.forall_mem_cons.mpr ⟨hline.cons hc, hclosed⟩, hlast⟩

/-- Nothing stands behind a newline at the end of a text, or if there is no text. -/
theorem last_eq_nil_iff {cs last : List Char} {closed : List (List Char)}
    (hsplit : split cs = closed ++ [last]) (hclosed : ∀ line ∈ closed, Closed line)
    (hlast : '\n' ∉ last) : last = [] ↔ cs = [] ∨ cs.getLast? = some '\n' := by
  have hcs : cs = closed.flatten ++ last := by
    rw [← flatten_split cs, hsplit, List.flatten_append, List.flatten_singleton]
  constructor
  · rintro rfl
    rw [List.append_nil] at hcs
    rcases List.eq_nil_or_concat' closed with rfl | ⟨front, line, rfl⟩
    · exact Or.inl hcs
    · obtain ⟨body, rfl, -⟩ := hclosed line List.mem_concat_self
      right
      rw [hcs, List.flatten_append, List.flatten_singleton, ← List.append_assoc,
        List.getLast?_concat]
  · intro h
    by_contra hne
    rcases h with hnil | hnewline
    · exact hne (List.append_eq_nil_iff.mp (hcs ▸ hnil)).2
    · rw [hcs, List.getLast?_append_of_ne_nil _ hne] at hnewline
      exact hlast (List.mem_of_getLast? hnewline)

/-! ## Ranges of lines -/

/-- The range cuts `cs` out of the text: it begins and ends at positions of the text,
the slice between which is `cs`. -/
def ByteRange.Cuts (r : ByteRange) (source : String) (cs : List Char) : Prop :=
  ∃ a b : source.Pos, a.offset.byteIdx = r.start ∧ b.offset.byteIdx = r.stop ∧
    ∃ hle : a ≤ b, (source.slice a b hle).copy.toList = cs

/-- Characters are cut out by the range that the text before them tells. -/
theorem cuts_of_toList {source : String} {before cs behind : List Char}
    (h : source.toList = before ++ (cs ++ behind)) :
    ByteRange.Cuts ⟨Utf8.size before, Utf8.size (before ++ cs)⟩ source cs := by
  obtain ⟨a, ha, -⟩ := (Cursor.standsAt_ofString source).exists_moveOver h
  obtain ⟨b, hb, hslice⟩ := ha.exists_moveOver rfl
  refine ⟨a, b, ?_, ?_, hslice⟩
  · rw [← ha.position]
    exact Nat.zero_add _
  · rw [← hb.position, Utf8.size_append]
    show 0 + Utf8.size before + Utf8.size cs = _
    rw [Nat.zero_add]

section Ranges

variable (start : Nat) (ls : List (List Char))

theorem length_rangesFrom : (rangesFrom start ls).length = ls.length := by
  induction ls generalizing start with
  | nil => rfl
  | cons l ls ih => rw [rangesFrom, List.length_cons, ih, List.length_cons]

/-- The range of a line lies between the sizes of the text before it and with it. -/
theorem getElem?_rangesFrom (n : Nat) :
    (rangesFrom start ls)[n]? = ls[n]?.map fun _ =>
      ⟨start + Utf8.size (ls.take n).flatten, start + Utf8.size (ls.take (n + 1)).flatten⟩ := by
  induction ls generalizing start n with
  | nil => rfl
  | cons l ls ih =>
      cases n with
      | zero => simp [rangesFrom]
      | succ n =>
          rw [rangesFrom, List.getElem?_cons_succ, ih, List.getElem?_cons_succ]
          simp only [List.take_succ_cons, List.flatten_cons, Utf8.size_append, Nat.add_assoc]

/-- Each range begins where the one before it ends. -/
theorem isChain_rangesFrom : (rangesFrom start ls).IsChain fun r s => r.stop = s.start := by
  rw [List.isChain_iff_getElem]
  intro n hn
  have hlength := length_rangesFrom start ls
  have hr := getElem?_rangesFrom start ls n
  have hs := getElem?_rangesFrom start ls (n + 1)
  rw [List.getElem?_eq_getElem (by omega), List.getElem?_eq_getElem (by omega), Option.map_some,
    Option.some.injEq] at hr hs
  rw [hr, hs]

end Ranges

end Lines

namespace SourceFile

open Lines

/-! ## The lines of a file -/

section Lines

variable (f : SourceFile)

/-- Lines have the numbers from 1 up to their count. -/
theorem line?_succ (n : Nat) : f.line? (n + 1) = f.lines[n]? := by
  rw [line?, if_neg (Nat.succ_ne_zero n), Nat.add_sub_cancel]

theorem line?_eq_none_iff (n : Nat) : f.line? n = none ↔ n = 0 ∨ f.lineCount < n := by
  cases n with
  | zero => exact ⟨fun _ => Or.inl rfl, fun _ => rfl⟩
  | succ n =>
      rw [line?_succ, List.getElem?_eq_none_iff, lineCount]
      omega

/-- Asked for by number, one after another, the lines are all there. -/
theorem map_line? : (List.range' 1 f.lineCount).map f.line? = f.lines.map some := by
  apply List.ext_getElem?
  intro n
  rw [List.getElem?_map, List.getElem?_map]
  by_cases hn : n < f.lineCount
  · rw [List.getElem?_range' hn, Nat.one_mul, Nat.add_comm, Option.map_some, line?_succ,
      List.getElem?_eq_getElem hn, Option.map_some]
  · have hle := Nat.not_lt.mp hn
    rw [List.getElem?_eq_none (by rwa [List.length_range']), List.getElem?_eq_none hle]
    rfl

/-- Lines that hold something are all but an empty last one, which stands behind a
newline at the end of the content or is all that an empty file has. -/
theorem filledLineCount_eq :
    f.filledLineCount =
      if f.content = "" ∨ f.content.toList.getLast? = some '\n' then f.lineCount - 1
      else f.lineCount := by
  obtain ⟨closed, last, hsplit, hclosed, hlast⟩ := exists_split_eq f.content.toList
  have hnil := last_eq_nil_iff hsplit hclosed hlast
  have hfilled : closed.filter (!·.isEmpty) = closed :=
    List.filter_eq_self.mpr fun line hline => by simpa using (hclosed line hline).ne_nil
  rw [String.toList_eq_nil_iff] at hnil
  rw [filledLineCount, lineCount, lines, hsplit, List.filter_append, hfilled,
    List.length_append, List.length_append]
  by_cases hempty : last = []
  · rw [if_pos (hnil.mp hempty), hempty]
    rfl
  · have hself : [last].filter (!·.isEmpty) = [last] :=
      List.filter_eq_self.mpr (by simpa using hempty)
    rw [if_neg (mt hnil.mpr hempty), hself]

/-- A line is closed if another one follows, and the last one is not. -/
theorem exists_line?_lineCount :
    (∀ n line, f.line? n = some line → n < f.lineCount → Closed line) ∧
      ∃ line, f.line? f.lineCount = some line ∧ '\n' ∉ line := by
  obtain ⟨closed, last, hsplit, hclosed, hlast⟩ := exists_split_eq f.content.toList
  have hlines : f.lines = closed ++ [last] := hsplit
  have hcount : f.lineCount = closed.length + 1 := by
    rw [lineCount, hlines, List.length_append, List.length_singleton]
  constructor
  · intro n line hline hn
    cases n with
    | zero => simp [line?] at hline
    | succ n =>
        rw [line?_succ, hlines, List.getElem?_append_left (by omega)] at hline
        exact hclosed line (List.mem_of_getElem? hline)
  · refine ⟨last, ?_, hlast⟩
    rw [hcount, line?_succ, hlines, List.getElem?_concat_length]

end Lines

/-! ## The ranges of a file -/

section Ranges

variable (f : SourceFile)

theorem flatten_lines : f.lines.flatten = f.content.toList := flatten_split _

theorem size_eq : f.size = f.content.utf8ByteSize := by
  rw [size, ← Utf8.utf8ByteSize_ofList, String.ofList_toList]

theorem lineCount_pos : 0 < f.lineCount := by
  rw [lineCount, lines, length_split]
  omega

theorem length_lineRanges : f.lineRanges.length = f.lineCount := length_rangesFrom 0 f.lines

/-- The range of a line lies between the sizes of the lines before it and with it. -/
theorem getElem?_lineRanges {n : Nat} (hn : n < f.lineCount) :
    f.lineRanges[n]? =
      some ⟨Utf8.size (f.lines.take n).flatten, Utf8.size (f.lines.take (n + 1)).flatten⟩ := by
  rw [lineRanges, getElem?_rangesFrom, List.getElem?_eq_getElem hn, Option.map_some,
    Nat.zero_add, Nat.zero_add]

/-- The ranges begin with the content. -/
theorem exists_head?_lineRanges : ∃ r, f.lineRanges.head? = some r ∧ r.start = 0 := by
  rw [List.head?_eq_getElem?, getElem?_lineRanges f f.lineCount_pos]
  exact ⟨_, rfl, rfl⟩

/-- The ranges end with the content. -/
theorem exists_getLast?_lineRanges :
    ∃ r, f.lineRanges.getLast? = some r ∧ r.stop = f.content.utf8ByteSize := by
  have hpos := f.lineCount_pos
  rw [List.getLast?_eq_getElem?, length_lineRanges,
    getElem?_lineRanges f (Nat.sub_one_lt_of_lt hpos), Nat.sub_add_cancel hpos, lineCount,
    List.take_length, flatten_lines]
  exact ⟨_, rfl, f.size_eq⟩

/-- The range of a line cuts the line out of the content. -/
theorem cuts_lineRanges {n : Nat} {r : ByteRange} (h : f.lineRanges[n]? = some r) :
    ∃ line, f.line? (n + 1) = some line ∧ r.Cuts f.content line := by
  have hn : n < f.lineCount := by
    rw [← length_lineRanges]
    exact (List.getElem?_eq_some_iff.mp h).1
  rw [getElem?_lineRanges f hn, Option.some.injEq] at h
  subst h
  have hline : f.lines[n]? = some f.lines[n] := List.getElem?_eq_getElem hn
  generalize f.lines[n] = line at hline
  refine ⟨line, by rw [line?_succ, hline], ?_⟩
  have hthis : f.lines.take (n + 1) = f.lines.take n ++ [line] := by
    rw [List.take_add_one, hline, Option.toList_some]
  have hcontent : f.content.toList =
      (f.lines.take n).flatten ++ (line ++ (f.lines.drop (n + 1)).flatten) := by
    rw [← f.flatten_lines, ← List.append_assoc]
    nth_rewrite 1 [← List.take_append_drop (n + 1) f.lines]
    rw [List.flatten_append, hthis, List.flatten_append, List.flatten_singleton]
  have hcuts := cuts_of_toList hcontent
  rwa [hthis, List.flatten_append, List.flatten_singleton]

end Ranges

/-- The line table of a file cuts its content into lines. -/
structure Tabulated (f : SourceFile) : Prop where
  /-- The lines with the numbers from 1 up to their count make up the content. -/
  content : ∃ ls, (List.range' 1 f.lineCount).map f.line? = List.map some ls ∧
    List.flatten ls = f.content.toList
  line?_eq_none_iff : ∀ n, f.line? n = none ↔ n = 0 ∨ f.lineCount < n
  closed : ∀ n line, f.line? n = some line → n < f.lineCount → Closed line
  last : ∃ line, f.line? f.lineCount = some line ∧ '\n' ∉ line
  lineCount_eq : f.lineCount = 1 + f.content.toList.count '\n'
  /-- There is a range for each line.  The first begins with the content, the last ends with
  it, and each of the others begins where the one before it ends. -/
  length_lineRanges : f.lineRanges.length = f.lineCount
  start : ∃ r, f.lineRanges.head? = some r ∧ r.start = 0
  stop : ∃ r, f.lineRanges.getLast? = some r ∧ r.stop = f.content.utf8ByteSize
  contiguous : f.lineRanges.IsChain fun r s => r.stop = s.start
  cuts : ∀ n r, f.lineRanges[n]? = some r →
    ∃ line, f.line? (n + 1) = some line ∧ r.Cuts f.content line
  /-- What is told about the file counts its lines without an empty last one. -/
  description_eq : f.description =
    "read " ++ toString f.content.utf8ByteSize ++ " bytes (" ++
      toString (if f.content = "" ∨ f.content.toList.getLast? = some '\n' then f.lineCount - 1
        else f.lineCount) ++ " lines) from " ++ f.path

/-- **The line table.**  The lines of any file partition its content, and so do their
ranges: no range leaves the content or ends within a character. -/
theorem tabulated (f : SourceFile) : f.Tabulated where
  content := ⟨f.lines, f.map_line?, f.flatten_lines⟩
  line?_eq_none_iff := f.line?_eq_none_iff
  closed := f.exists_line?_lineCount.1
  last := f.exists_line?_lineCount.2
  lineCount_eq := length_split _
  length_lineRanges := f.length_lineRanges
  start := f.exists_head?_lineRanges
  stop := f.exists_getLast?_lineRanges
  contiguous := isChain_rangesFrom 0 f.lines
  cuts := fun _ _ h => f.cuts_lineRanges h
  description_eq := by
    rw [← filledLineCount_eq, ← size_eq]
    rfl

end SourceFile
end Lexis
