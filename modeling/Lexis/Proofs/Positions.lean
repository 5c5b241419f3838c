import Lexis.Proofs.Walks
import Lexis.TokenStream
import Mathlib.Data.List.DropRight

/-!
# Positions in the source

A cursor keeps three accounts of the place where it stands: the text that remains,
the bytes before it, and a line with a column.  Each is moved on by what is taken
and none is ever compared with the source again.  Here they are tied to the source
itself: `Cursor.StandsAt c p` says that the cursor stands at the position `p` of
the source text, and that line and column are those that the text before `p` has
when its newlines and its last characters are counted.

A position of a string lies between two of its characters, so whatever is cut out
between two positions is a slice of the source, and no cut goes through a
character.

## Main results

* `Location.after_start` — moving over a text arrives where counting says.
* `Cursor.StandsAt.exists_moveOver` — moving over text keeps all three accounts right.
* `Cursor.pairwise_location_tokens` — every token is located behind the one before.
* `Scanner.reachable_placed` — a scanner always stands at a position of its source,
  and so does every token that it returns.
-/

namespace Lexis

/-! ## Places counted from the text -/

namespace Location

/-- The place where a text ends, read off the text: its line is one more than the
newlines, its column one more than the characters behind the last of them. -/
def ofEnd (cs : List Char) : Location :=
  ⟨1 + cs.count '\n', 1 + (cs.rtakeWhile (· != '\n')).length⟩

theorem ofEnd_concat (cs : List Char) (c : Char) :
    ofEnd (cs ++ [c]) = (ofEnd cs).advance c := by
  by_cases hc : c = '\n'
  · subst hc
    rw [ofEnd, List.rtakeWhile_concat_neg (· != '\n') _ _ (by decide), List.count_append]
    rfl
  · have hother : (c != '\n') = true := by simpa using hc
    rw [ofEnd, List.rtakeWhile_concat_pos (· != '\n') _ _ hother, List.count_append,
      List.count_singleton, List.length_append, advance, if_neg hc]
    simp only [beq_iff_eq, hc, if_false]
    rfl

/-- Moving over more text goes on from where the text before it ends. -/
theorem ofEnd_append (cs ds : List Char) : ofEnd (cs ++ ds) = (ofEnd cs).after ds := by
  induction ds generalizing cs with
  | nil => rw [List.append_nil, after_nil]
  | cons d ds ih =>
      rw [after_cons, ← ofEnd_concat, ← ih, List.append_assoc, List.singleton_append]

theorem after_start (cs : List Char) : start.after cs = ofEnd cs := by
  rw [← List.nil_append cs, ofEnd_append]
  rfl

/-! ### The order of places -/

/-- Places are compared by line, and within a line by column. -/
theorem compare_eq_lt_iff {l m : Location} :
    compare l m = .lt ↔ l.line < m.line ∨ (l.line = m.line ∧ l.column < m.column) := by
  show (compare l.line m.line).then ((compare l.column m.column).then .eq) = .lt ↔ _
  rw [Ordering.then_eq, Ordering.then_eq_lt, Nat.compare_eq_lt, Nat.compare_eq_lt,
    Nat.compare_eq_eq]

theorem compare_advance (l : Location) (c : Char) : compare l (l.advance c) = .lt := by
  rw [compare_eq_lt_iff, advance]
  split
  · left
    exact Nat.lt_succ_self _
  · right
    exact ⟨rfl, Nat.lt_succ_self _⟩

/-- Text takes up place. -/
theorem compare_after {cs : List Char} (hne : cs ≠ []) (l : Location) :
    compare l (l.after cs) = .lt := by
  induction cs generalizing l with
  | nil => exact absurd rfl hne
  | cons c cs ih =>
      have hadvance := compare_advance l c
      rw [after_cons]
      by_cases hcs : cs = []
      · rw [hcs, after_nil]
        exact hadvance
      · have hbehind := ih hcs (l.advance c)
        rw [compare_eq_lt_iff] at hadvance hbehind ⊢
        omega

end Location

/-! ## Cursors at positions -/

/-- A string takes as many bytes as the characters that it is made of. -/
theorem Utf8.utf8ByteSize_ofList (cs : List Char) :
    (String.ofList cs).utf8ByteSize = size cs := by
  induction cs with
  | nil => rfl
  | cons c cs ih =>
      rw [size_cons, ← ih, String.ofList_cons, String.utf8ByteSize_append,
        String.utf8ByteSize_singleton]

namespace Cursor

/-- The cursor stands at the position `p` of the source text. -/
structure StandsAt (c : Cursor) {source : String} (p : source.Pos) : Prop where
  position : c.position = p.offset.byteIdx
  rest : c.rest = (source.sliceFrom p).copy.toList
  location : c.location = .ofEnd (source.sliceTo p).copy.toList

section StandsAt

variable {c : Cursor} {source : String} {p q : source.Pos} {taken left : List Char}

theorem standsAt_ofString (source : String) :
    (ofString source).StandsAt source.startPos := by
  have hsplits := source.splits_startPos
  constructor
  · rfl
  · rw [hsplits.copy_sliceFrom_eq]
    rfl
  · rw [hsplits.copy_sliceTo_eq]
    rfl

/-- A cursor stands at one position only. -/
theorem StandsAt.pos_eq (hp : c.StandsAt p) (hq : c.StandsAt q) : p = q := by
  rw [String.Pos.ext_iff, String.Pos.Raw.ext_iff, ← hp.position, ← hq.position]

/-- Moving over text leads to another position, and the text is the slice between
the two. -/
theorem StandsAt.exists_moveOver (h : c.StandsAt p) (hrest : c.rest = taken ++ left) :
    ∃ q : source.Pos, (c.moveOver taken left).StandsAt q ∧
      ∃ hle : p ≤ q, (source.slice p q hle).copy.toList = taken := by
  have hbehind : (source.sliceFrom p).copy = String.ofList taken ++ String.ofList left := by
    rw [← String.toList_inj, ← h.rest, hrest, String.toList_append, String.toList_ofList,
      String.toList_ofList]
  have hp := p.splits
  rw [hbehind] at hp
  have hq := hp.splits_rotateRight
  refine ⟨hp.rotateRight, ⟨?_, ?_, ?_⟩, ?_⟩
  · show c.position + Utf8.size taken = _
    rw [hq.offset_eq_rawEndPos, String.byteIdx_rawEndPos, String.utf8ByteSize_append,
      Utf8.utf8ByteSize_ofList, h.position, hp.offset_eq_rawEndPos, String.byteIdx_rawEndPos]
  · rw [hq.copy_sliceFrom_eq, String.toList_ofList]
    rfl
  · show c.location.after taken = _
    rw [hq.copy_sliceTo_eq, String.toList_append, String.toList_ofList,
      Location.ofEnd_append, h.location]
  · obtain ⟨hle, hslice⟩ := String.copy_slice_eq_iff_splits.mpr ⟨_, _, hp, hq⟩
    exact ⟨hle, by rw [hslice, String.toList_ofList]⟩

/-- The slice between two positions is what the cursor has moved over. -/
theorem StandsAt.slice_eq (hp : c.StandsAt p) (hrest : c.rest = taken ++ left)
    (hq : (c.moveOver taken left).StandsAt q) :
    ∃ hle : p ≤ q, (source.slice p q hle).copy.toList = taken := by
  obtain ⟨q', hq', hslice⟩ := hp.exists_moveOver hrest
  rwa [← hq.pos_eq hq'] at hslice

/-- Nothing remains at the end of the source alone. -/
theorem StandsAt.eq_endPos (h : c.StandsAt p) (hrest : c.rest = []) : p = source.endPos := by
  rw [p.splits.eq_endPos_iff, ← String.toList_eq_nil_iff, ← h.rest]
  exact hrest

end StandsAt

end Cursor

/-! ## Tokens at positions -/

/-- The sign that opens a token of this kind: a quote, or the one of a comment. -/
def Kind.opening : Kind → List Char
  | .charLiteral | .invalid .malformedCharacter => ['\x27']
  | .stringLiteral | .invalid .unterminatedString => ['\x22']
  | .invalid .unterminatedComment => ['/', '*']
  | _ => []

/-- What stands for a token is its text, between quotes if it has any. -/
theorem Kind.exists_spell_eq (kind : Kind) (text : List Char) :
    ∃ front back, kind.spell text = front ++ (text ++ back) := by
  cases kind with
  | charLiteral | stringLiteral => exact ⟨[_], [_], rfl⟩
  | invalid defect =>
      cases defect with
      | unterminatedString | malformedCharacter =>
          exact ⟨[_], [], congrArg _ (List.append_nil _).symm⟩
      | unterminatedComment | unexpectedCharacter => exact ⟨[], [], (List.append_nil _).symm⟩
  | _ => exact ⟨[], [], (List.append_nil _).symm⟩

/-- What is read begins with its opening sign. -/
theorem Grammar.Reads.opening_isPrefix {l : Lexeme} {rest : List Char} (h : Reads l rest) :
    l.kind.opening <+: l.spelling := by
  cases h with
  | @word w _ hw hstop =>
      have hkind : (Lexeme.wordKind (String.ofList w)).opening = [] := by
        unfold Lexeme.wordKind
        split
        · rfl
        · split <;> rfl
      rw [hkind]
      exact List.nil_prefix
  | character c | malformed | malformedEnd | string | unterminatedString =>
      exact List.prefix_append [_] _
  | unterminatedComment cs => exact List.prefix_append ['/', '*'] cs
  | _ => exact List.nil_prefix

/-- The token stands in the source text between the positions `p` and `q`.  What
stands there is its spelling, with its text in it, and its location is that of the
first character there. -/
structure Token.Occupies (t : Token) {source : String} (p q : source.Pos) : Prop where
  spelling : ∃ hle : p ≤ q, (source.slice p q hle).copy.toList = t.spelling
  opening : t.kind.opening <+: t.spelling
  text : ∃ a b : source.Pos, p ≤ a ∧ b ≤ q ∧ ∃ hle : a ≤ b, (source.slice a b hle).copy = t.text
  location : t.location = .ofEnd (source.sliceTo p).copy.toList
  atEnd : t.kind = .endOfInput → p = source.endPos

namespace Cursor

section Steps

variable {c : Cursor} {source : String} {p : source.Pos} {t rest : List Char} {l : Lexeme}

/-- The token that a step finds occupies the slice behind the trivia, and the cursor
goes on at its end. -/
theorem Steps.exists_occupies (h : c.Steps t l rest) (hp : c.StandsAt p) :
    ∃ a b : source.Pos, p ≤ a ∧ c.next.1.Occupies a b ∧ c.next.2.StandsAt b := by
  obtain ⟨front, back, hspelling⟩ := l.kind.exists_spell_eq l.text
  change l.spelling = front ++ (l.text ++ back) at hspelling
  rw [h.next_eq, ← moveOver_moveOver _ _ _ (l.spelling ++ rest)]
  -- The cursor goes over the trivia, and then over the spelling in three parts.
  obtain ⟨a, ha, hpa, -⟩ := hp.exists_moveOver h.text
  have hsplit : l.spelling ++ rest = front ++ (l.text ++ (back ++ rest)) := by
    rw [hspelling, List.append_assoc, List.append_assoc]
  obtain ⟨a', ha', haa', -⟩ := ha.exists_moveOver hsplit
  obtain ⟨b', hb', hslice⟩ := ha'.exists_moveOver rfl
  obtain ⟨b, hb, hbb', -⟩ := hb'.exists_moveOver rfl
  rw [moveOver_moveOver, moveOver_moveOver, ← hspelling] at hb
  refine ⟨a, b, hpa, ⟨?_, ?_, ?_, ?_, ?_⟩, hb⟩
  · rw [Lexeme.spelling_token]
    exact ha.slice_eq rfl hb
  · rw [Lexeme.spelling_token]
    exact h.reads.opening_isPrefix
  · obtain ⟨hle, htext⟩ := hslice
    refine ⟨a', b', haa', hbb', hle, ?_⟩
    rw [← String.toList_inj, htext]
    exact String.toList_ofList.symm
  · exact ha.location
  · intro hend
    obtain ⟨rfl, rfl⟩ := h.reads.eq_endOfInput hend
    exact ha.eq_endPos rfl

end Steps

/-- Every token is located behind some of the text that remains. -/
theorem exists_location_of_mem {c : Cursor} {token : Token} (htoken : token ∈ c.tokens) :
    ∃ cs, token.location = c.location.after cs := by
  obtain ⟨tokens, d, t, l, rest, hwalk, -, rfl⟩ := exists_walk_of_mem htoken
  obtain ⟨taken, -, hd⟩ := hwalk.exists_moveOver
  refine ⟨taken ++ t, ?_⟩
  rw [hd, Location.after_append]
  rfl

/-- Every token is located behind all the tokens before it. -/
theorem pairwise_location_tokens (c : Cursor) :
    c.tokens.Pairwise fun a b => compare a.location b.location = .lt := by
  induction c using Cursor.induction_steps with
  | hlast c t h =>
      rw [h.tokens_eq_last]
      exact List.pairwise_singleton _ _
  | hstep c t l rest h hend ih =>
      rw [h.tokens_eq hend, List.pairwise_cons]
      refine ⟨?_, ih⟩
      intro token htoken
      -- Between the two places lies at least the spelling of the first token.
      obtain ⟨cs, hlocation⟩ := exists_location_of_mem htoken
      have hne : l.spelling ++ cs ≠ [] :=
        List.append_ne_nil_of_left_ne_nil (h.reads.spelling_ne_nil hend) cs
      have hbetween := Location.compare_after hne (c.location.after t)
      rw [Location.after_append, ← Location.after_append _ t] at hbetween
      rw [hlocation]
      exact hbetween

end Cursor

/-! ## Scanners at positions -/

namespace Scanner

/-- The scanner stands at the position `p` of its source.  Whatever can be taken
from there, character by character, is a slice of the source, and so is what the
next token takes. -/
structure Placed {source : String} (s : Scanner) (p : source.Pos) : Prop where
  standsAt : s.cursor.StandsAt p
  position_le : s.position ≤ source.utf8ByteSize
  peek : ∀ offset, s.peek? offset = (source.sliceFrom p).copy.toList[offset]?
  slices : ∀ passed taken left, s.cursor.rest = passed ++ (taken ++ left) →
    ∃ a b : source.Pos, (s.cursor.moveOver passed (taken ++ left)).StandsAt a ∧
      (s.cursor.moveOver (passed ++ taken) left).StandsAt b ∧
      ∃ hle : a ≤ b, (source.slice a b hle).copy.toList = taken
  returned : ∀ token, token = s.next.1 ∨ s.next?.1 = some token →
    ∃ a b : source.Pos, p ≤ a ∧ token.Occupies a b ∧ s.next.2.cursor.StandsAt b

/-- A walk never leaves the positions of its source. -/
theorem Reachable.exists_standsAt {source : String} {s : Scanner} (h : Reachable source s) :
    ∃ p : source.Pos, s.cursor.StandsAt p := by
  obtain ⟨consumed, hsource, hcursor⟩ := h.exists_consumed
  obtain ⟨p, hp, -⟩ := (Cursor.standsAt_ofString source).exists_moveOver hsource
  exact ⟨p, hcursor ▸ hp⟩

/-- The token that `next?` returns is the one that `next` returns. -/
theorem eq_of_next? {s : Scanner} {token : Token} (h : s.next?.1 = some token) :
    token = s.next.1 := by
  by_cases hend : s.endYielded = true
  · rw [next?, if_pos hend] at h
    simp at h
  · rw [next?, if_neg hend, Option.some.injEq] at h
    exact h.symm

theorem placed_of_standsAt {source : String} {s : Scanner} {p : source.Pos}
    (hp : s.cursor.StandsAt p) : s.Placed p where
  standsAt := hp
  position_le := by
    show s.cursor.position ≤ _
    rw [hp.position]
    exact p.isValid.le_utf8ByteSize
  peek := by
    intro offset
    rw [peek?, hp.rest]
  slices := by
    intro passed taken left hrest
    obtain ⟨a, ha, -⟩ := hp.exists_moveOver hrest
    obtain ⟨b, hb, hslice⟩ := ha.exists_moveOver rfl
    rw [Cursor.moveOver_moveOver] at hb
    exact ⟨a, b, ha, hb, hslice⟩
  returned := by
    intro token hreturned
    have htoken : token = s.next.1 := hreturned.elim id eq_of_next?
    obtain ⟨t, l, rest, h⟩ := s.cursor.exists_steps
    rw [htoken]
    exact h.exists_occupies hp

/-- **Exact positions.**  However a scanner is driven, it stands at a position of its
source, line and column are those of the text before it, and so are those of the
tokens that it returns.  In the stream of all tokens the places increase.

Looking ahead with `peek?` gives no scanner back, so it leads to no other state. -/
theorem reachable_placed {H : Type} [Handler H Diagnostic] (source : String) (handler : H) :
    (∀ s, Reachable source s → ∃ p : source.Pos, s.Placed p) ∧
      (TokenStream.tokenize source handler).1.toList.Pairwise fun a b =>
        compare a.location b.location = .lt := by
  rw [TokenStream.tokenize_fst]
  refine ⟨?_, Cursor.pairwise_location_tokens (.ofString source)⟩
  intro s h
  obtain ⟨p, hp⟩ := h.exists_standsAt
  exact ⟨p, placed_of_standsAt hp⟩

/-- A scanner between a comment that holds a newline and a character of two bytes. -/
theorem reachable_placed_comment :
    Reachable "1/*\n*/\"é\" ¡" (ofString "1/*\n*/\"é\" ¡").next.2.next?.2 ∧
      (∃ p : "1/*\n*/\"é\" ¡".Pos, (ofString "1/*\n*/\"é\" ¡").next.2.next?.2.Placed p) ∧
      (TokenStream.tokenize "1/*\n*/\"é\" ¡" (⟨#[]⟩ : Storage Diagnostic)).1.toList.Pairwise
        fun a b => compare a.location b.location = .lt := by
  obtain ⟨hplaced, hincreasing⟩ :=
    reachable_placed "1/*\n*/\"é\" ¡" (⟨#[]⟩ : Storage Diagnostic)
  have hstart : Reachable "1/*\n*/\"é\" ¡" (ofString "1/*\n*/\"é\" ¡") := .start
  have hreachable := hstart.next.next?
  exact ⟨hreachable, hplaced _ hreachable, hincreasing⟩

end Scanner

end Lexis
