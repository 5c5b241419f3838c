import Lexis.Proofs.Encoding
import Lexis.Source.File
import Mathlib.Order.Bounds.Defs

/-!
# Where decoding fails

Decoding stops at the first bytes that begin no character, and tells where they are
and how many of them could still have begun one.  Neither answer is computed by
trying: the place is where the characters before it end, the length is the number of
bytes in their ranges.  Here both are compared with what they are to mean, in terms
of the encoding alone.

What carries this is how reading the continuation bytes goes on if the bytes are cut
off or carried on.  A character that is cut off reads as incomplete, whatever reads
as incomplete can be completed, and a wrong byte is found behind the bytes before it
no matter what follows.

## Main results

* `Utf8.head_eq_incomplete_iff` — bytes read as incomplete if they are a character cut off.
* `Utf8.isGreatest_of_head_invalid` — the length of an error is that of the longest
  part of a character.
* `Utf8.locates_of_decode` — an error of decoding tells where and why the bytes are no text.
* `SourceFile.load_exact` — a file that is read and one that is mapped give the same source,
  or fail with the same error.
-/

namespace Lexis

namespace Utf8

open String (utf8EncodeChar)

/-! ## Texts and parts of characters -/

/-- The bytes are the encoding of a text. -/
def IsText (bytes : Bytes) : Prop := ∃ s, bytes = encode s

theorem isText_iff {bytes : Bytes} :
    IsText bytes ↔ ∃ cs : List Char, bytes = cs.flatMap utf8EncodeChar := by
  constructor
  · rintro ⟨s, h⟩
    exact ⟨s.toList, h⟩
  · rintro ⟨cs, h⟩
    exact ⟨String.ofList cs, by rwa [encode, String.toList_ofList]⟩

/-- The bytes are the encoding of a character, less one or more of its last bytes. -/
def CutOff (bytes : Bytes) : Prop := ∃ c, bytes <+: utf8EncodeChar c ∧ bytes ≠ utf8EncodeChar c

theorem cutOff_nil : CutOff [] := ⟨'a', List.nil_prefix, String.utf8EncodeChar_ne_nil.symm⟩

/-! ## Continuation bytes cut off and carried on -/

section Continuations

variable {bits size due n : Nat} {low high : UInt8} {bs : Bytes} {c : Char}

/-- A character takes all the bytes that are due. -/
theorem eq_add_of_readContinuations
    (h : readContinuations bits size low high due bs = .character c n) : n = size + due := by
  induction due generalizing bits size low high bs with
  | zero => exact (readContinuations_zero_eq_character.mp h).2.symm
  | succ due ih =>
      obtain ⟨b, more, -, -, h⟩ := readContinuations_succ_eq_character.mp h
      rw [ih h]
      omega

/-- A character that is cut off reads as incomplete. -/
theorem readContinuations_of_append {more : Bytes}
    (h : readContinuations bits size low high due (bs ++ more) = .character c n)
    (hbs : bs.length < due) : readContinuations bits size low high due bs = .incomplete := by
  induction due generalizing bits size low high bs with
  | zero => exact absurd hbs (Nat.not_lt_zero _)
  | succ due ih =>
      cases bs with
      | nil => rw [readContinuations]
      | cons b bs =>
          rw [List.cons_append, readContinuations] at h
          rw [readContinuations]
          split at h
          · next hrange =>
              rw [if_pos hrange]
              exact ih h (Nat.lt_of_succ_lt_succ hbs)
          · simp at h

/-- Some bytes make up the rest of a character. -/
theorem exists_readContinuations (hrange : low ≤ high) (bits size due : Nat) :
    ∃ more c, more.length = due ∧
      readContinuations bits size low high due more = .character c (size + due) := by
  induction due generalizing bits size low high with
  | zero => exact ⟨[], _, rfl, by rw [readContinuations]; rfl⟩
  | succ due ih =>
      have htail : (0x80 : UInt8) ≤ 0xBF := by decide
      obtain ⟨more, c, hlength, hread⟩ :=
        ih htail (bits * 64 + (low.toNat - 0x80)) (size + 1)
      refine ⟨low :: more, c, congrArg _ hlength, ?_⟩
      rw [readContinuations, if_pos ⟨UInt8.le_refl low, hrange⟩, hread]
      congr 1
      omega

/-- What reads as incomplete can be completed. -/
theorem exists_append_of_incomplete (hrange : low ≤ high)
    (h : readContinuations bits size low high due bs = .incomplete) :
    ∃ more c, more ≠ [] ∧ (bs ++ more).length = due ∧
      readContinuations bits size low high due (bs ++ more) = .character c (size + due) := by
  induction due generalizing bits size low high bs with
  | zero => simp [readContinuations] at h
  | succ due ih =>
      cases bs with
      | nil =>
          obtain ⟨more, c, hlength, hread⟩ := exists_readContinuations hrange bits size (due + 1)
          refine ⟨more, c, ?_, hlength, hread⟩
          exact List.ne_nil_of_length_eq_add_one hlength
      | cons b bs =>
          rw [readContinuations] at h
          split at h
          · next hb =>
              obtain ⟨more, c, hmore, hlength, hread⟩ := ih (by decide) h
              refine ⟨more, c, hmore, congrArg _ hlength, ?_⟩
              rw [List.cons_append, readContinuations, if_pos hb, hread]
              congr 1
              omega
          · simp at h

/-- A wrong byte is found once it is there: the bytes before it read as incomplete, and
with it they read as invalid, whatever follows. -/
theorem exists_readContinuations_take
    (h : readContinuations bits size low high due bs = .invalid n) :
    ∃ k, n = size + k ∧ k < due ∧ k < bs.length ∧ ∀ j,
      readContinuations bits size low high due (bs.take j) =
        if j ≤ k then .incomplete else .invalid n := by
  induction due generalizing bits size low high bs with
  | zero => simp [readContinuations] at h
  | succ due ih =>
      cases bs with
      | nil => simp [readContinuations] at h
      | cons b bs =>
          rw [readContinuations] at h
          split at h
          · next hb =>
              obtain ⟨k, rfl, hdue, hk, htake⟩ := ih h
              refine ⟨k + 1, by omega, by omega, Nat.succ_lt_succ hk, ?_⟩
              intro j
              cases j with
              | zero => rw [List.take_zero, readContinuations, if_pos (Nat.zero_le _)]
              | succ j =>
                  rw [List.take_succ_cons, readContinuations, if_pos hb, htake]
                  simp only [Nat.add_le_add_iff_right]
          · next hb =>
              refine ⟨0, (Head.invalid.inj h).symm, Nat.succ_pos _, Nat.succ_pos _, ?_⟩
              intro j
              cases j with
              | zero => rw [List.take_zero, readContinuations, if_pos (Nat.zero_le _)]
              | succ j =>
                  rw [List.take_succ_cons, readContinuations, if_neg hb, if_neg (by omega), h]

end Continuations

/-! ## The head of some bytes -/

section Head

variable {b : UInt8} {bs : Bytes} {n : Nat} {lead : Lead}

/-- Every lead byte can be followed up, by three bytes at most. -/
theorem low_le_high_of_lead? (h : lead? b = some lead) :
    lead.low ≤ lead.high ∧ lead.continuations ≤ 3 := by
  unfold lead? at h
  split_ifs at h <;> obtain rfl := Option.some.inj h <;> dsimp only <;> decide

/-- Bytes read as incomplete exactly if they are the encoding of a character cut off. -/
theorem head_eq_incomplete_iff : head b bs = .incomplete ↔ CutOff (b :: bs) := by
  constructor
  · intro h
    rw [head] at h
    split at h
    · simp at h
    next lead hlead =>
    obtain ⟨more, c, hmore, hlength, hread⟩ :=
      exists_append_of_incomplete (low_le_high_of_lead? hlead).1 h
    have hhead : head b (bs ++ more) = .character c (1 + lead.continuations) := by
      rw [head, hlead]
      exact hread
    obtain ⟨left, hcons, hsize⟩ := eq_utf8EncodeChar_of_head hhead
    -- The character takes all the bytes, so nothing is left behind it.
    obtain rfl : left = [] := by
      have hlengths := congrArg List.length hcons
      rw [List.length_cons, hlength, List.length_append] at hlengths
      exact List.eq_nil_of_length_eq_zero (by omega)
    rw [List.append_nil, ← List.cons_append] at hcons
    refine ⟨c, ⟨more, hcons⟩, ?_⟩
    rw [← hcons]
    exact fun h => hmore (List.self_eq_append_right.mp h)
  · rintro ⟨c, ⟨more, hcons⟩, hne⟩
    have hmore : more ≠ [] := by
      rintro rfl
      exact hne (by rw [← hcons, List.append_nil])
    obtain ⟨b', bs', heq, hhead⟩ := head_utf8EncodeChar c []
    rw [List.append_nil, ← hcons, List.cons_append, List.cons_eq_cons] at heq
    obtain ⟨rfl, rfl⟩ := heq
    rw [← hcons] at hhead
    rw [head] at hhead ⊢
    split at hhead
    · simp at hhead
    · next lead hlead =>
        have hdue := eq_add_of_readContinuations hhead
        have hpos := List.length_pos_iff.mpr hmore
        rw [List.length_append, List.length_cons] at hdue
        exact readContinuations_of_append hhead (by omega)

/-- Bytes that read as invalid tell how many of them could still begin a character. -/
theorem isGreatest_of_head_invalid (h : head b bs = .invalid n) :
    (1 ≤ n ∧ n ≤ 3) ∧ ∃ m, n = max 1 m ∧
      IsGreatest {k | k ≤ (b :: bs).length ∧ CutOff ((b :: bs).take k)} m := by
  have hcut : ∀ k, CutOff ((b :: bs).take (k + 1)) ↔ head b (bs.take k) = .incomplete :=
    fun k => head_eq_incomplete_iff.symm
  rw [head] at h
  split at h
  · next hlead =>
      obtain rfl := Head.invalid.inj h
      refine ⟨by decide, 0, rfl, ⟨Nat.zero_le _, cutOff_nil⟩, ?_⟩
      rintro k ⟨-, hk⟩
      cases k with
      | zero => exact Nat.le_refl _
      | succ k =>
          rw [hcut, head, hlead] at hk
          simp at hk
  · next lead hlead =>
      obtain ⟨k, rfl, hdue, hk, htake⟩ := exists_readContinuations_take h
      have hthree := (low_le_high_of_lead? hlead).2
      have hcut' : ∀ j, CutOff ((b :: bs).take (j + 1)) ↔ j ≤ k := by
        intro j
        rw [hcut, head, hlead]
        show readContinuations _ _ _ _ _ _ = _ ↔ _
        rw [htake]
        split <;> simp_all
      refine ⟨⟨Nat.le_add_right 1 k, by omega⟩, k + 1, by omega,
        ⟨Nat.succ_le_succ (Nat.le_of_lt hk), ?_⟩, ?_⟩
      · exact (hcut' k).mpr (Nat.le_refl k)
      · rintro j ⟨-, hj⟩
        cases j with
        | zero => exact Nat.zero_le _
        | succ j => exact Nat.succ_le_succ ((hcut' j).mp hj)

end Head

/-! ## The place of an error -/

/-- Encodings of two characters, each with more behind it, are told apart. -/
theorem utf8EncodeChar_append_inj {c d : Char} {more more' : Bytes}
    (h : utf8EncodeChar c ++ more = utf8EncodeChar d ++ more') : c = d ∧ more = more' := by
  obtain ⟨b, bs, hc, hheadc⟩ := head_utf8EncodeChar c more
  obtain ⟨b', bs', hd, hheadd⟩ := head_utf8EncodeChar d more'
  obtain ⟨rfl, rfl⟩ := List.cons_eq_cons.mp (hc.symm.trans (h.trans hd))
  rw [hheadc] at hheadd
  obtain rfl := (Head.character.inj hheadd).1
  exact ⟨rfl, List.append_cancel_left h⟩

/-- What follows a text within a text is a text. -/
theorem exists_of_flatMap_append {cs ds : List Char} {bytes : Bytes}
    (h : cs.flatMap utf8EncodeChar ++ bytes = ds.flatMap utf8EncodeChar) :
    ∃ ds' : List Char, bytes = ds'.flatMap utf8EncodeChar := by
  induction cs generalizing ds with
  | nil => exact ⟨ds, h⟩
  | cons c cs ih =>
      rw [List.flatMap_cons, List.append_assoc] at h
      cases ds with
      | nil => exact absurd (List.append_eq_nil_iff.mp h).1 String.utf8EncodeChar_ne_nil
      | cons d ds =>
          rw [List.flatMap_cons] at h
          exact ih (utf8EncodeChar_append_inj h).2

/-- The number of good bytes before the error. -/
def DecodeError.index : DecodeError → Nat
  | .invalid _ index | .incomplete index => index

/-- Decoding fails behind some characters, at bytes that do not read as one. -/
theorem exists_of_decodeFrom_error {index : Nat} {bytes : Bytes} {e : DecodeError}
    (h : decodeFrom index bytes = .error e) :
    ∃ (cs : List Char) (b : UInt8) (bs : Bytes), bytes = cs.flatMap utf8EncodeChar ++ b :: bs ∧
      e.index = index + (cs.flatMap utf8EncodeChar).length ∧
      ((∃ n, head b bs = .invalid n ∧ e = .invalid n e.index) ∨
        head b bs = .incomplete ∧ e = .incomplete e.index) := by
  fun_induction decodeFrom index bytes with
  | case1 | case2 => simp at h
  | case3 index b bs c n hhead e' he' ih =>
      obtain rfl := Except.error.inj h
      obtain ⟨more, hcons, rfl⟩ := eq_utf8EncodeChar_of_head hhead
      rw [drop_behind hcons] at he' ih
      obtain ⟨cs, b', bs', hmore, hindex, herror⟩ := ih he'
      refine ⟨c :: cs, b', bs', ?_, ?_, herror⟩
      · rw [hcons, hmore, List.flatMap_cons, List.append_assoc]
      · rw [hindex, List.flatMap_cons, List.length_append, Nat.add_assoc]
  | case4 index b bs n hhead =>
      obtain rfl := Except.error.inj h
      exact ⟨[], b, bs, rfl, rfl, .inl ⟨n, hhead, rfl⟩⟩
  | case5 index b bs hhead =>
      obtain rfl := Except.error.inj h
      exact ⟨[], b, bs, rfl, rfl, .inr ⟨hhead, rfl⟩⟩

/-- Behind some characters, at bytes that do not read as one, the longest text ends. -/
theorem isGreatest_of_head {cs : List Char} {b : UInt8} {bs : Bytes}
    (h : ∀ c n, head b bs ≠ .character c n) :
    IsGreatest {i | i ≤ (cs.flatMap utf8EncodeChar ++ b :: bs).length ∧
        IsText ((cs.flatMap utf8EncodeChar ++ b :: bs).take i)}
      (cs.flatMap utf8EncodeChar).length := by
  constructor
  · refine ⟨by rw [List.length_append]; exact Nat.le_add_right _ _, ?_⟩
    rw [List.take_left]
    exact isText_iff.mpr ⟨cs, rfl⟩
  · rintro i ⟨-, hi⟩
    refine Nat.not_lt.mp fun hlt => ?_
    obtain ⟨k, rfl⟩ := Nat.exists_eq_add_of_lt hlt
    -- A longer text would go on with a character that stands at the bytes.
    rw [Nat.add_assoc, List.take_length_add_append, List.take_succ_cons, isText_iff] at hi
    obtain ⟨ds, hds⟩ := hi
    obtain ⟨ds, hrest⟩ := exists_of_flatMap_append hds
    cases ds with
    | nil => simp at hrest
    | cons d ds =>
        rw [List.flatMap_cons] at hrest
        have hbytes : b :: bs =
            utf8EncodeChar d ++ (ds.flatMap utf8EncodeChar ++ bs.drop k) := by
          rw [← List.append_assoc, ← hrest, List.cons_append, List.take_append_drop]
        obtain ⟨b', bs', hcons, hhead⟩ :=
          head_utf8EncodeChar d (ds.flatMap utf8EncodeChar ++ bs.drop k)
        obtain ⟨rfl, rfl⟩ := List.cons_eq_cons.mp (hbytes.trans hcons)
        exact h _ _ hhead

/-- The error tells where the longest text at the beginning of the bytes ends, and what
follows there: a character cut off if nothing else is left, or else as many bytes as can
still be part of a character, and at least one. -/
structure DecodeError.Locates (e : DecodeError) (bytes : Bytes) : Prop where
  index : IsGreatest {i | i ≤ bytes.length ∧ IsText (bytes.take i)} e.index
  incomplete_iff : e = .incomplete e.index ↔ CutOff (bytes.drop e.index)
  length : ∀ n, e = .invalid n e.index → (1 ≤ n ∧ n ≤ 3) ∧ ∃ m, n = max 1 m ∧
    IsGreatest {k | k ≤ (bytes.drop e.index).length ∧ CutOff ((bytes.drop e.index).take k)} m

theorem locates_of_decode {bytes : Bytes} {e : DecodeError} (h : decode bytes = .error e) :
    e.Locates bytes := by
  have herror : decodeFrom 0 bytes = .error e := by
    rw [decode] at h
    cases hchars : decodeFrom 0 bytes with
    | ok cs => simp [hchars, Except.map] at h
    | error e' =>
        rw [hchars] at h
        exact congrArg _ (Except.error.inj h)
  obtain ⟨cs, b, bs, rfl, hindex, hkind⟩ := exists_of_decodeFrom_error herror
  rw [Nat.zero_add] at hindex
  have hdrop : (cs.flatMap utf8EncodeChar ++ b :: bs).drop e.index = b :: bs := by
    rw [hindex, List.drop_left]
  constructor
  · rw [hindex]
    refine isGreatest_of_head fun c n hchar => ?_
    rcases hkind with ⟨m, hhead, -⟩ | ⟨hhead, -⟩ <;> simp [hchar] at hhead
  · rw [hdrop, ← head_eq_incomplete_iff]
    rcases hkind with ⟨m, hhead, he⟩ | ⟨hhead, he⟩
    · rw [hhead, he]
      simp
    · exact iff_of_true he hhead
  · intro n hn
    rw [hdrop]
    rcases hkind with ⟨m, hhead, he⟩ | ⟨-, he⟩
    · obtain rfl := (DecodeError.invalid.inj (he.symm.trans hn)).1
      exact isGreatest_of_head_invalid hhead
    · rw [he] at hn
      simp at hn

/-- Two bytes behind the letter could still begin a character; the third, a letter, is
none of its bytes. -/
example : decode [0x61, 0xF0, 0x9F, 0x41] = .error (.invalid 2 1) := by cbv

end Utf8

namespace SourceFile

open Utf8

/-- **Loading a source.**  Whether the bytes of a source are read into memory or mapped,
it is loaded exactly if they are the encoding of a text.  Then its content is that text,
with the same lines either way, and otherwise there is the same error, which tells where
and why the bytes are no text. -/
theorem load_exact (path mappedPath : String) (bytes : Bytes) :
    (IsText bytes → ∃ read mapped, ofBytes path bytes = .ok read ∧
        ofMapping mappedPath (mapping? bytes) = .ok mapped ∧
        encode read.content = bytes ∧ mapped.content = read.content ∧
        mapped.lineRanges = read.lineRanges) ∧
      (¬ IsText bytes → ∃ e, ofBytes path bytes = .error e ∧
        ofMapping mappedPath (mapping? bytes) = .error e ∧ e.Locates bytes) := by
  rw [ofMapping_mapping?]
  constructor
  · rintro ⟨s, hs⟩
    have hfile : ∀ p, ofBytes p bytes = .ok ⟨p, s⟩ := by
      intro p
      rw [ofBytes, decode_eq_ok_iff.mpr hs]
      rfl
    exact ⟨⟨path, s⟩, ⟨mappedPath, s⟩, hfile path, hfile mappedPath, hs.symm, rfl, rfl⟩
  · intro htext
    cases hdecode : decode bytes with
    | ok s => exact absurd ⟨s, decode_eq_ok_iff.mp hdecode⟩ htext
    | error e =>
        have herror : ∀ p, ofBytes p bytes = .error e := by
          intro p
          rw [ofBytes, hdecode]
          rfl
        exact ⟨e, herror path, herror mappedPath, locates_of_decode hdecode⟩

end SourceFile

end Lexis
