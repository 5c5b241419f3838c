import Lexis.Proofs.Reports

/-!
# Lines of a listing

A listing has a row for each token, and the text of the token stands in its row as it is.
A text can hold newlines: a string may, and so may a character literal and what is left
open at the end of a source.  Then its row is several lines, and these may look like rows
of other tokens.  Where no text holds a newline, the rows are the lines.  A row can be
taken apart again, because neither a number nor the name of a kind holds the sign that
ends it.

## Main definitions

* `TokenStream.IsFlat` — no text of a token holds a newline.

## Main results

* `TokenStream.length_split_listing` — how many lines a listing has.
* `TokenStream.split_listing` — the lines of a flat stream are its rows.
* `Token.row_inj` — a row tells what it shows of its token.
* `TokenStream.listing_lines` — when a listing has one line for each token, and that it
  then tells them apart.
-/

namespace Lexis

/-! ## Lines -/

namespace Lines

/-- The first line of a text that begins with a whole line. -/
theorem split_line_append {l : List Char} (h : '\n' ∉ l) (cs : List Char) :
    split (l ++ '\n' :: cs) = (l ++ ['\n']) :: split cs := by
  induction l with
  | nil => rfl
  | cons c l ih =>
      rw [List.mem_cons, not_or] at h
      rw [List.cons_append, split, if_neg (Ne.symm h.1), ih h.2]
      rfl

/-- A text that is made of whole lines has these lines and an empty one behind them. -/
theorem split_flatten {ls : List (List Char)} (h : ∀ l ∈ ls, ∃ body, '\n' ∉ body ∧
    l = body ++ ['\n']) : split ls.flatten = ls ++ [[]] := by
  induction ls with
  | nil => rfl
  | cons l ls ih =>
      obtain ⟨body, hbody, rfl⟩ := h l List.mem_cons_self
      rw [List.flatten_cons, List.append_assoc, List.singleton_append, split_line_append hbody,
        ih fun l hl => h l (List.mem_cons_of_mem _ hl)]
      rfl

end Lines

/-! ## What separates the parts of a row -/

/-- A number is written in digits. -/
theorem not_mem_toString {c : Char} (hc : c.isDigit = false) (n : Nat) :
    c ∉ (toString n).toList := by
  intro hmem
  rw [Nat.toString_eq_repr, Nat.toList_repr] at hmem
  rw [Nat.isDigit_of_mem_toDigits (by decide) (by decide) hmem] at hc
  exact absurd hc (by decide)

/-- A number can be read off its digits. -/
theorem eq_of_toList_toString {m n : Nat} (h : (toString m).toList = (toString n).toList) :
    m = n := by
  rw [Nat.toString_eq_repr, Nat.toString_eq_repr, Nat.toList_repr, Nat.toList_repr] at h
  rw [← Nat.ofDigitChars_toDigits (b := 10) (n := m) (by decide) (by decide), h,
    Nat.ofDigitChars_toDigits (by decide) (by decide)]

/-- The name of a kind is one word. -/
theorem Kind.all_isWordPart_name (kind : Kind) :
    kind.name.toList.all Lexeme.isWordPart = true := by
  cases kind with
  | symbol s => cases s <;> decide
  | keyword k => cases k <;> decide
  | primitive p => cases p <;> decide
  | invalid defect =>
      show "INVALID".toList.all Lexeme.isWordPart = true
      decide
  | _ => decide

theorem Kind.not_mem_name {c : Char} (hc : Lexeme.isWordPart c = false) (kind : Kind) :
    c ∉ kind.name.toList := by
  intro hmem
  rw [List.all_eq_true.mp kind.all_isWordPart_name c hmem] at hc
  exact absurd hc (by decide)

/-- A text is divided in one way only at the first `q` in it. -/
theorem append_cons_inj {q : Char} {as as' bs bs' : List Char} (has : q ∉ as) (has' : q ∉ as')
    (h : as ++ q :: bs = as' ++ q :: bs') : as = as' ∧ bs = bs' := by
  have hstop : ∀ cs, Text.Stops (· != q) (q :: cs) := fun cs => Text.stops_cons.mpr (by simp)
  have hfront := congrArg (List.takeWhile (· != q)) h
  rw [Text.takeWhile_append_of_stops (Text.forall_bne_iff.mpr has) (hstop bs),
    Text.takeWhile_append_of_stops (Text.forall_bne_iff.mpr has') (hstop bs')] at hfront
  subst hfront
  exact ⟨rfl, (List.cons.inj (List.append_cancel_left h)).2⟩

/-! ## Rows -/

namespace Token

/-- What the row of a token shows of it. -/
def shown (t : Token) : String × String × Location := (t.kind.name, t.text, t.location)

/-- The characters of a row in front of the text. -/
def heading (t : Token) : List Char :=
  (toString t.location.line).toList ++ ':' :: ((toString t.location.column).toList ++
    '\t' :: ("Token(".toList ++ (t.kind.name.toList ++ [',', ' '])))

theorem toList_row (t : Token) :
    t.row.toList = (t.heading ++ (t.text.toList ++ [')'])) ++ ['\n'] := by
  simp only [row, heading, String.toList_append, List.append_assoc, List.cons_append]
  rfl

theorem not_mem_heading (t : Token) : '\n' ∉ t.heading := by
  simp only [heading, List.mem_append, List.mem_cons, not_or]
  exact ⟨not_mem_toString rfl _, by decide, not_mem_toString rfl _, by decide, by decide,
    t.kind.not_mem_name rfl, by decide, by decide, List.not_mem_nil⟩

/-- A row has its own newline and those of the text. -/
theorem count_row (t : Token) : t.row.toList.count '\n' = t.text.toList.count '\n' + 1 := by
  rw [toList_row, List.count_append, List.count_append, List.count_append,
    List.count_eq_zero.mpr t.not_mem_heading, Nat.zero_add]
  rfl

/-- A row tells what it shows. -/
theorem row_inj {t u : Token} : t.row = u.row ↔ t.shown = u.shown := by
  constructor
  · intro h
    rw [← String.toList_inj, toList_row, toList_row] at h
    have hentry := List.append_cancel_right h
    simp only [heading, List.append_assoc, List.cons_append, List.nil_append] at hentry
    obtain ⟨hline, hbehind⟩ :=
      append_cons_inj (not_mem_toString rfl _) (not_mem_toString rfl _) hentry
    obtain ⟨hcolumn, hbehind⟩ :=
      append_cons_inj (not_mem_toString rfl _) (not_mem_toString rfl _) hbehind
    obtain ⟨hname, hbehind⟩ := append_cons_inj (Kind.not_mem_name rfl _) (Kind.not_mem_name rfl _)
      (List.append_cancel_left hbehind)
    have htext := List.append_cancel_right (List.cons.inj hbehind).2
    have hlocation : t.location = u.location := (Location.mk.injEq ..).mpr
      ⟨eq_of_toList_toString hline, eq_of_toList_toString hcolumn⟩
    rw [shown, shown, String.toList_inj.mp hname, String.toList_inj.mp htext, hlocation]
  · intro h
    simp only [shown, Prod.mk.injEq] at h
    obtain ⟨hname, htext, hlocation⟩ := h
    rw [row, row, hname, htext, hlocation]

end Token

namespace TokenStream

variable {s s' : TokenStream}

/-- No text of a token holds a newline. -/
def IsFlat (s : TokenStream) : Prop := ∀ t ∈ s.toList, '\n' ∉ t.text.toList

instance (s : TokenStream) : Decidable s.IsFlat :=
  inferInstanceAs (Decidable (∀ t ∈ s.toList, '\n' ∉ t.text.toList))

theorem toList_listing (s : TokenStream) :
    s.listing.toList = (s.toList.map fun t => t.row.toList).flatten := by
  rw [listing_eq, String.toList_join, List.flatMap_map, List.flatMap_def]

/-- A listing has one newline for each token, and the newlines of the texts. -/
theorem count_listing (s : TokenStream) :
    s.listing.toList.count '\n' =
      s.length + (s.toList.flatMap fun t => t.text.toList).count '\n' := by
  rw [toList_listing, length]
  induction s.toList with
  | nil => rfl
  | cons t ts ih =>
      rw [List.map_cons, List.flatten_cons, List.count_append, ih, t.count_row,
        List.length_cons, List.flatMap_cons, List.count_append]
      omega

theorem length_split_listing (s : TokenStream) :
    (Lines.split s.listing.toList).length =
      1 + s.length + (s.toList.flatMap fun t => t.text.toList).count '\n' := by
  rw [Lines.length_split, count_listing, Nat.add_assoc]

theorem isFlat_iff : s.IsFlat ↔ (s.toList.flatMap fun t => t.text.toList).count '\n' = 0 := by
  rw [List.count_eq_zero, List.mem_flatMap]
  constructor
  · rintro h ⟨t, ht, hmem⟩
    exact h t ht hmem
  · intro h t ht hmem
    exact h ⟨t, ht, hmem⟩

/-- The rows of a flat stream are the lines of its listing. -/
theorem split_listing (h : s.IsFlat) :
    Lines.split s.listing.toList = (s.toList.map fun t => t.row.toList) ++ [[]] := by
  rw [toList_listing]
  apply Lines.split_flatten
  intro l hl
  obtain ⟨t, ht, rfl⟩ := List.mem_map.mp hl
  refine ⟨t.heading ++ (t.text.toList ++ [')']), ?_, t.toList_row⟩
  simp only [List.mem_append, not_or]
  exact ⟨t.not_mem_heading, h t ht, by decide⟩

/-- Two streams have the same rows if the rows show the same. -/
theorem map_row_inj :
    (s.toList.map fun t => t.row.toList) = (s'.toList.map fun t => t.row.toList) ↔
      s.toList.map Token.shown = s'.toList.map Token.shown := by
  have hmap : ∀ {β : Type} (f : Token → β), s.toList.map f = s'.toList.map f ↔
      List.Forall₂ (fun t u => f t = f u) s.toList s'.toList := by
    intro β f
    rw [← List.forall₂_eq_eq_eq, List.forall₂_map_left_iff, List.forall₂_map_right_iff]
  rw [hmap, hmap]
  simp only [String.toList_inj, Token.row_inj]

/-- The listing of a flat stream tells what its rows show. -/
theorem listing_inj (h : s.IsFlat) (h' : s'.IsFlat) :
    s.listing = s'.listing ↔ s.toList.map Token.shown = s'.toList.map Token.shown := by
  rw [← map_row_inj]
  constructor
  · intro heq
    have hlines := congrArg (fun listing => Lines.split listing.toList) heq
    rwa [split_listing h, split_listing h', List.append_left_inj] at hlines
  · intro heq
    rw [← String.toList_inj, toList_listing, toList_listing, heq]

/-- **One line for each token.**  The listing of a source has as many lines as the source
has tokens, and an empty one behind them, exactly if no text of a token holds a newline.
Then its lines are the rows of the tokens.  Two sources of which this is true have the same
listing exactly if their tokens show the same, one after another. -/
theorem listing_lines {H : Type} [Handler H Diagnostic] (handler : H) (source source' : String) :
    ((Lines.split (tokenize source handler).1.listing.toList).length =
        (tokenize source handler).1.length + 1 ↔ (tokenize source handler).1.IsFlat) ∧
      ((tokenize source handler).1.IsFlat →
        Lines.split (tokenize source handler).1.listing.toList =
          ((tokenize source handler).1.toList.map fun t => t.row.toList) ++ [[]]) ∧
      ((tokenize source handler).1.IsFlat → (tokenize source' handler).1.IsFlat →
        ((tokenize source handler).1.listing = (tokenize source' handler).1.listing ↔
          (tokenize source handler).1.toList.map Token.shown =
            (tokenize source' handler).1.toList.map Token.shown)) := by
  refine ⟨?_, split_listing, listing_inj⟩
  rw [isFlat_iff, length_split_listing]
  omega

/-- Two sources of flat streams that differ in a space. -/
theorem listing_lines_flat :
    (ofString "'\t' x").IsFlat ∧ (ofString "'\t'  x").IsFlat ∧
      Lines.split (ofString "'\t' x").listing.toList =
        ["1:1\tToken(CHAR_LITERAL, \t)\n".toList, "1:5\tToken(IDENTIFIER, x)\n".toList,
          "1:6\tToken(END, )\n".toList, []] ∧
      (ofString "'\t' x").listing ≠ (ofString "'\t'  x").listing := by
  have hflat : (ofString "'\t' x").IsFlat := by decide +kernel
  have hflat' : (ofString "'\t'  x").IsFlat := by decide +kernel
  have hshown : (ofString "'\t' x").toList.map Token.shown ≠
      (ofString "'\t'  x").toList.map Token.shown := by decide +kernel
  have hrows : ((ofString "'\t' x").toList.map fun t => t.row.toList) =
      ["1:1\tToken(CHAR_LITERAL, \t)\n".toList, "1:5\tToken(IDENTIFIER, x)\n".toList,
        "1:6\tToken(END, )\n".toList] := by decide +kernel
  obtain ⟨-, hlines, hinj⟩ :=
    listing_lines (⟨#[]⟩ : Storage Diagnostic) "'\t' x" "'\t'  x"
  rw [tokenize_fst] at hlines
  rw [tokenize_fst, tokenize_fst] at hinj
  refine ⟨hflat, hflat', ?_, fun heq => hshown ((hinj hflat hflat').mp heq)⟩
  exact (hlines hflat).trans (congrArg (· ++ [[]]) hrows)

/-- A string whose body looks like the end of its own row and most of another row: the
listing has more lines than there are tokens, and it is the listing of another source. -/
theorem listing_not_injective :
    (Lines.split (ofString "\")\n2:1\tToken(IDENTIFIER, x\"").listing.toList).length ≠
        (ofString "\")\n2:1\tToken(IDENTIFIER, x\"").length + 1 ∧
      (ofString "\")\n2:1\tToken(IDENTIFIER, x\"").listing =
        (ofString "\"\"\nx                       ").listing ∧
      (ofString "\")\n2:1\tToken(IDENTIFIER, x\"").toList.map Token.shown ≠
        (ofString "\"\"\nx                       ").toList.map Token.shown := by
  decide +kernel

end TokenStream

end Lexis
