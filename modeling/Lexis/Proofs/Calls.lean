import Lexis.Proofs.Lookahead
import Lexis.Proofs.Positions

/-!
# Calls of a scanner

A scanner can be asked for a token in two ways and for a character ahead, in any order.
One equation holds after whatever calls: what they have returned, and behind it what is
still to come, is the stream of the source with its end token some more times behind it.
A call takes the first of the tokens to come and returns it.  Only the end stays where it
is, and so it is there again for the next call.

`Scanner.next` neither looks at the flag that stops `Scanner.next?` nor sets it.  The
flag tells one thing only, whether some earlier `next?` has returned the end.

## Main definitions

* `Scanner.call` — a call of any kind.
* `Scanner.history` — any calls, with the answer to each of them.

## Main results

* `Cursor.next_next_of_end`, `Cursor.position_lt_of_next` — the end token is found where
  it was, and every other token further on.
* `Scanner.exists_returned_append` — the equation.
* `Scanner.next_history_of_end` — the end, once returned, is all that is left.
* `Scanner.endYielded_history_iff` — what the flag tells.
* `Scanner.history_filter_takes` — looking ahead makes no difference to other calls.
* `Scanner.history_conforms` — what calls return, for all sequences of calls.
-/

namespace Lexis

/-! ## One token -/

namespace Cursor

variable {c : Cursor}

/-- The end token of the text. -/
def final (c : Cursor) : Token := ⟨.endOfInput, "", c.toEnd.location⟩

theorem final_next (c : Cursor) : c.next.2.final = c.final := by
  rw [final, toEnd_next]
  rfl

/-- The end token stands where the text ends, and the cursor goes there. -/
theorem next_of_end (h : c.next.1.kind = .endOfInput) : c.next = (c.final, c.toEnd) := by
  obtain ⟨t, l, rest, hstep⟩ := c.exists_steps
  have hkind : l.kind = .endOfInput := by
    rw [hstep.next_eq] at h
    exact h
  obtain ⟨rfl, rfl⟩ := hstep.reads.eq_endOfInput hkind
  rw [hstep.next_eq, final, toEnd, hstep.rest_eq_of_last]
  show (_, c.moveOver (t ++ []) []) = _
  rw [List.append_nil]
  rfl

theorem next_toEnd (c : Cursor) : c.toEnd.next = (c.final, c.toEnd) := by
  have hlast : c.toEnd.Steps [] ⟨.endOfInput, []⟩ [] := ⟨rfl, .nil _, rfl, .endOfInput⟩
  have hkind : c.toEnd.next.1.kind = .endOfInput := by
    rw [hlast.next_eq]
    rfl
  rw [next_of_end hkind, final, toEnd_of_rest_eq_nil rfl]
  rfl

/-- Asked for once more, the end token is found where it was. -/
theorem next_next_of_end (h : c.next.1.kind = .endOfInput) : c.next.2.next = c.next := by
  rw [next_of_end h]
  exact c.next_toEnd

/-- Every token but the end takes some bytes. -/
theorem position_lt_of_next (h : c.next.1.kind ≠ .endOfInput) :
    c.position < c.next.2.position := by
  obtain ⟨t, l, rest, hstep⟩ := c.exists_steps
  rw [hstep.next_eq] at h ⊢
  obtain ⟨d, ds, hspelling⟩ := List.exists_cons_of_ne_nil (hstep.reads.spelling_ne_nil h)
  have hpos := d.utf8Size_pos
  show c.position < c.position + Utf8.size (t ++ l.spelling)
  rw [hspelling, Utf8.size_append, Utf8.size_cons]
  omega

/-- The end token is the last of the tokens, and there is one only. -/
theorem exists_tokens_eq (c : Cursor) :
    ∃ front, c.tokens = front ++ [c.final] ∧ ∀ token ∈ front, token.kind ≠ .endOfInput := by
  induction c using Cursor.induction_steps with
  | hlast c t h =>
      have hkind : c.next.1.kind = .endOfInput := by
        rw [h.next_eq]
        rfl
      refine ⟨[], ?_, ?_⟩
      · rw [tokens_of_next_end hkind, next_of_end hkind]
        rfl
      · intro token htoken
        simp at htoken
  | hstep c t l rest h hend ih =>
      obtain ⟨front, htokens, hfront⟩ := ih
      have hfinal := c.final_next
      rw [h.next_eq] at hfinal
      refine ⟨l.token (c.location.after t) :: front, ?_, ?_⟩
      · rw [h.tokens_eq hend, htokens, hfinal]
        rfl
      · intro token htoken
        rcases List.mem_cons.mp htoken with rfl | htoken
        · exact hend
        · exact hfront token htoken

end Cursor

/-! ## Calls in any order -/

namespace Scanner

/-- What a scanner can be asked for. -/
inductive Call where
  /-- The next token. -/
  | next
  /-- The next token, unless the end has already been returned to such a call. -/
  | next?
  /-- The character that stands some characters ahead. -/
  | peek (offset : Nat)
deriving DecidableEq, Repr

/-- The call may take something from the text; one that looks ahead does not. -/
def Call.takes : Call → Bool
  | .next | .next? => true
  | .peek _ => false

/-- What a scanner answers to a call. -/
inductive Answer where
  | token (found : Option Token)
  | character (ahead : Option Char)
deriving DecidableEq, Repr

/-- The token that is returned, if one is. -/
def Answer.token? : Answer → Option Token
  | .token found => found
  | .character _ => none

/-- The answer to a call, and the scanner behind it. -/
def call (s : Scanner) : Call → Answer × Scanner
  | .next => (.token (some s.next.1), s.next.2)
  | .next? => (.token s.next?.1, s.next?.2)
  | .peek offset => (.character (s.peek? offset), s)

/-- Calls, each with the answer to it, and the scanner behind them all. -/
def history (s : Scanner) : List Call → List (Call × Answer) × Scanner
  | [] => ([], s)
  | c :: calls =>
    let behind := (s.call c).2.history calls
    ((c, (s.call c).1) :: behind.1, behind.2)

/-- The tokens that calls have returned, whichever calls these were. -/
def returned (answers : List (Call × Answer)) : List Token :=
  answers.filterMap fun a => a.2.token?

section Returned

variable {c : Call} {a : Answer} {token : Token} (answers : List (Call × Answer))

theorem returned_cons_none (h : a.token? = none) :
    returned ((c, a) :: answers) = returned answers :=
  List.filterMap_cons_none h

theorem returned_cons_some (h : a.token? = some token) :
    returned ((c, a) :: answers) = token :: returned answers :=
  List.filterMap_cons_some h

end Returned

/-! ### What one call does -/

theorem call_next?_of_endYielded {s : Scanner} (h : s.endYielded = true) :
    s.call .next? = (.token none, s) := by
  rw [call, next?, if_pos h]

theorem call_next?_of_not_endYielded {s : Scanner} (h : ¬ s.endYielded = true) :
    s.call .next? = (.token (some s.next.1),
      { s.next.2 with endYielded := s.next.1.kind == .endOfInput }) := by
  rw [call, next?, if_neg h]

/-- A call returns no token and changes nothing, or it takes one token. -/
theorem call_cases (s : Scanner) (c : Call) :
    ((s.call c).1.token? = none ∧ (s.call c).2 = s) ∨
      ((s.call c).1.token? = some s.next.1 ∧ (s.call c).2.cursor = s.cursor.next.2) := by
  cases c with
  | next => exact .inr ⟨rfl, rfl⟩
  | next? =>
      by_cases h : s.endYielded = true
      · rw [call_next?_of_endYielded h]
        exact .inl ⟨rfl, rfl⟩
      · rw [call_next?_of_not_endYielded h]
        exact .inr ⟨rfl, rfl⟩
  | peek offset => exact .inl ⟨rfl, rfl⟩

/-- The token that a call returns is the next one. -/
theorem next_of_call {s : Scanner} {c : Call} {token : Token}
    (h : (s.call c).1.token? = some token) :
    s.cursor.next = (token, (s.call c).2.cursor) := by
  rcases call_cases s c with ⟨hnone, -⟩ | ⟨hsome, hcursor⟩
  · rw [hnone] at h
    simp at h
  · rw [hsome] at h
    rw [hcursor, ← Option.some.inj h]
    rfl

/-- Every token but the end takes the scanner on. -/
theorem position_lt_of_call {s : Scanner} {c : Call} {token : Token}
    (h : (s.call c).1.token? = some token) (hend : token.kind ≠ .endOfInput) :
    s.position < (s.call c).2.position := by
  have hnext := next_of_call h
  have hlt := Cursor.position_lt_of_next (c := s.cursor) (by rwa [hnext])
  rwa [hnext] at hlt

theorem call_next?_eq_none_iff {s : Scanner} :
    (s.call .next?).1 = .token none ↔ s.endYielded = true := by
  by_cases h : s.endYielded = true
  · simp [call_next?_of_endYielded h, h]
  · simp [call_next?_of_not_endYielded h, h]

theorem Reachable.call {source : String} {s : Scanner} (h : Reachable source s) (c : Call) :
    Reachable source (s.call c).2 := by
  cases c with
  | next => exact h.next
  | next? => exact h.next?
  | peek offset => exact h

/-! ### What any calls do -/

theorem Reachable.history {source : String} {s : Scanner} (h : Reachable source s)
    (calls : List Call) : Reachable source (s.history calls).2 := by
  induction calls generalizing s with
  | nil => exact h
  | cons c calls ih => exact ih (h.call c)

/-- What calls have returned, and behind it what is still to come, is what was to come
before them and the end some more times. -/
theorem exists_returned_append (s : Scanner) (calls : List Call) :
    ∃ n, returned (s.history calls).1 ++ (s.history calls).2.cursor.tokens =
      s.cursor.tokens ++ List.replicate n s.cursor.final := by
  induction calls generalizing s with
  | nil => exact ⟨0, (List.append_nil _).symm⟩
  | cons c calls ih =>
      obtain ⟨n, hn⟩ := ih (s.call c).2
      show ∃ n', returned ((c, (s.call c).1) :: ((s.call c).2.history calls).1) ++
        ((s.call c).2.history calls).2.cursor.tokens = _
      rcases call_cases s c with ⟨hnone, hstay⟩ | ⟨hsome, hcursor⟩
      · refine ⟨n, ?_⟩
        rw [returned_cons_none _ hnone, hn, hstay]
      · rw [returned_cons_some _ hsome, List.cons_append, hn, hcursor, Cursor.final_next]
        show ∃ n', s.cursor.next.1 :: _ = _
        by_cases hend : s.cursor.next.1.kind = .endOfInput
        · -- The end has been returned and is still to come.
          have hagain : s.cursor.next.2.next.1.kind = .endOfInput := by
            rw [Cursor.next_next_of_end hend]
            exact hend
          refine ⟨n + 1, ?_⟩
          rw [Cursor.tokens_of_next_end hend, Cursor.tokens_of_next_end hagain,
            Cursor.next_next_of_end hend, Cursor.next_of_end hend, List.replicate_succ]
          rfl
        · exact ⟨n, by rw [Cursor.tokens_of_next hend, List.cons_append]⟩

/-- The flag is set exactly if it was, or if the end has been returned by `next?`. -/
theorem endYielded_history_iff (s : Scanner) (calls : List Call) :
    (s.history calls).2.endYielded = true ↔ s.endYielded = true ∨
      ∃ token, (Call.next?, Answer.token (some token)) ∈ (s.history calls).1 ∧
        token.kind = .endOfInput := by
  induction calls generalizing s with
  | nil => simp [history]
  | cons c calls ih =>
      show ((s.call c).2.history calls).2.endYielded = true ↔ _ ∨ ∃ token,
        _ ∈ (c, (s.call c).1) :: ((s.call c).2.history calls).1 ∧ _
      rw [ih]
      cases c with
      | next => simp [call, next]
      | peek offset => simp [call]
      | next? =>
          by_cases h : s.endYielded = true
          · simp [call_next?_of_endYielded h, h]
          · simp [call_next?_of_not_endYielded h, h, or_and_right, exists_or]

/-- Left out, the calls that look ahead are not missed by any other call. -/
theorem history_filter_takes (s : Scanner) (calls : List Call) :
    s.history (calls.filter Call.takes) =
      ((s.history calls).1.filter fun a => a.1.takes, (s.history calls).2) := by
  induction calls generalizing s with
  | nil => rfl
  | cons c calls ih =>
      cases c with
      | peek offset => exact ih s
      | next | next? =>
          rw [List.filter_cons_of_pos rfl, history, ih]
          rfl

/-- A cursor that is not moved by asking for a token is not moved by any calls. -/
theorem cursor_history_of_next {s : Scanner} (h : s.cursor.next.2 = s.cursor)
    (calls : List Call) : (s.history calls).2.cursor = s.cursor := by
  induction calls generalizing s with
  | nil => rfl
  | cons c calls ih =>
      have hstay : (s.call c).2.cursor = s.cursor := by
        rcases call_cases s c with ⟨-, hscanner⟩ | ⟨-, hcursor⟩
        · rw [hscanner]
        · exact hcursor.trans h
      show ((s.call c).2.history calls).2.cursor = s.cursor
      rw [ih (by rw [hstay, h]), hstay]

/-- The end stays where it is: whatever has been called since it was returned, it is
returned again and moves nothing. -/
theorem next_history_of_end {s : Scanner} {c : Call} {token : Token}
    (h : (s.call c).1.token? = some token) (hend : token.kind = .endOfInput)
    (calls : List Call) :
    ((s.call c).2.history calls).2.next = (token, ((s.call c).2.history calls).2) := by
  have hnext := next_of_call h
  have hagain := Cursor.next_next_of_end (c := s.cursor) (by rwa [hnext])
  rw [hnext] at hagain
  have hcursor := cursor_history_of_next (congrArg Prod.snd hagain) calls
  generalize ((s.call c).2.history calls).2 = s' at hcursor ⊢
  show (s'.cursor.next.1, { s' with cursor := s'.cursor.next.2 }) = (token, s')
  rw [hcursor, hagain, ← hcursor]

/-- The end is returned where the source ends. -/
theorem Reachable.position_eq {source : String} {s : Scanner} (hs : Reachable source s)
    {c : Call} {token : Token} (h : (s.call c).1.token? = some token)
    (hend : token.kind = .endOfInput) : (s.call c).2.position = source.utf8ByteSize := by
  have hnext := next_of_call h
  have hrest := Cursor.rest_eq_nil_of_next (c := s.cursor) (by rwa [hnext])
  rw [hnext] at hrest
  obtain ⟨p, hp⟩ := (hs.call c).exists_standsAt
  show (s.call c).2.cursor.position = _
  rw [hp.position, hp.eq_endPos hrest]
  rfl

/-- What a scanner of the source does next, where `tokens` is its stream and `answers` are
the calls up to now with the answers to them. -/
structure Conforms (source : String) (tokens : List Token)
    (answers : List (Call × Answer)) (s : Scanner) : Prop where
  /-- The stream has been returned, one token after another, and then its end. -/
  returned : ∃ final n, tokens.getLast? = some final ∧
    returned answers <+: tokens ++ List.replicate n final
  /-- What is ahead is what the source holds behind the position, and nothing moves. -/
  peek : ∃ p : source.Pos, p.offset.byteIdx = s.position ∧ ∀ offset,
    s.call (.peek offset) = (.character (source.sliceFrom p).copy.toList[offset]?, s)
  progress : ∀ c token, (s.call c).1.token? = some token → token.kind ≠ .endOfInput →
    s.position < (s.call c).2.position
  /-- The end comes at the end of the source and, whatever is called behind it, is all
  that is still to be had. -/
  final : ∀ c token, (s.call c).1.token? = some token → token.kind = .endOfInput →
    (s.call c).2.position = source.utf8ByteSize ∧
      ∀ calls, ((s.call c).2.history calls).2.next = (token, ((s.call c).2.history calls).2)
  stops : (s.call .next?).1 = .token none ↔
    ∃ token, (Call.next?, Answer.token (some token)) ∈ answers ∧ token.kind = .endOfInput
  stays : (s.call .next?).1 = .token none → (s.call .next?).2 = s

open TokenStream (tokenize) in
/-- **Any calls in any order.**  A stream has its end token once, as the last, and before it
no more tokens than the source has characters.  However a scanner is called, the tokens
returned are those of the stream and then the end again and again; each takes some of the
source but the end, at which everything stays as it is; and `next?` returns no token just
if it has returned the end before.  Nothing but what they answer would be different without
the calls that look ahead. -/
theorem history_conforms {H : Type} [Handler H Diagnostic] (source : String) (handler : H) :
    (∃ front final, (tokenize source handler).1.toList = front ++ [final] ∧
        final.kind = .endOfInput ∧ (∀ token ∈ front, token.kind ≠ .endOfInput) ∧
        (tokenize source handler).1.toList.length ≤ source.length + 1) ∧
      ∀ calls, Conforms source (tokenize source handler).1.toList
          ((ofString source).history calls).1 ((ofString source).history calls).2 ∧
        (ofString source).history (calls.filter Call.takes) =
          (((ofString source).history calls).1.filter fun a => a.1.takes,
            ((ofString source).history calls).2) := by
  rw [TokenStream.tokenize_fst]
  obtain ⟨front, htokens, hfront⟩ := (Cursor.ofString source).exists_tokens_eq
  refine ⟨⟨front, _, htokens, rfl, hfront, ?_⟩, ?_⟩
  · have hlength := (Cursor.ofString source).length_tokens_le
    change _ ≤ source.toList.length + 1 at hlength
    rwa [String.length_toList] at hlength
  intro calls
  refine ⟨?_, (ofString source).history_filter_takes calls⟩
  have hreachable : Reachable source ((ofString source).history calls).2 :=
    Reachable.start.history calls
  obtain ⟨n, hreturned⟩ := (ofString source).exists_returned_append calls
  have hflag := (ofString source).endYielded_history_iff calls
  generalize ((ofString source).history calls).1 = answers at hreturned hflag ⊢
  generalize ((ofString source).history calls).2 = s at hreturned hflag hreachable ⊢
  constructor
  · refine ⟨(Cursor.ofString source).final, n, ?_, ?_⟩
    · show (Cursor.ofString source).tokens.getLast? = _
      rw [htokens, List.getLast?_concat]
    · exact ⟨s.cursor.tokens, hreturned⟩
  · obtain ⟨p, hp⟩ := hreachable.exists_standsAt
    refine ⟨p, hp.position.symm, ?_⟩
    intro offset
    rw [call, (placed_of_standsAt hp).peek]
  · intro c token htoken hend
    exact position_lt_of_call htoken hend
  · intro c token htoken hend
    exact ⟨hreachable.position_eq htoken hend, next_history_of_end htoken hend⟩
  · rw [call_next?_eq_none_iff, hflag]
    exact or_iff_right Bool.false_ne_true
  · intro hnone
    rw [call_next?_of_endYielded (call_next?_eq_none_iff.mp hnone)]

/-- The end is returned by both calls, and it is the one to `next?` that counts. -/
theorem history_conforms_both :
    ((ofString "é!").history [.next, .peek 0, .next, .next, .next?, .next?, .next]).1 =
        [(.next, .token (some ⟨.invalid .unexpectedCharacter, "é", ⟨1, 1⟩⟩)),
          (.peek 0, .character (some '!')),
          (.next, .token (some ⟨.invalid .unexpectedCharacter, "!", ⟨1, 2⟩⟩)),
          (.next, .token (some ⟨.endOfInput, "", ⟨1, 3⟩⟩)),
          (.next?, .token (some ⟨.endOfInput, "", ⟨1, 3⟩⟩)), (.next?, .token none),
          (.next, .token (some ⟨.endOfInput, "", ⟨1, 3⟩⟩))] ∧
      Conforms "é!" (TokenStream.tokenize "é!" (⟨#[]⟩ : Storage Diagnostic)).1.toList
        ((ofString "é!").history [.next, .peek 0, .next, .next, .next?, .next?, .next]).1
        ((ofString "é!").history [.next, .peek 0, .next, .next, .next?, .next?, .next]).2 := by
  obtain ⟨-, hconforms⟩ := history_conforms "é!" (⟨#[]⟩ : Storage Diagnostic)
  exact ⟨by decide +kernel, (hconforms _).1⟩

end Scanner

end Lexis
