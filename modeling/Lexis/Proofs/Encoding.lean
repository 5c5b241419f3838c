import Lexis.Text.Utf8
import Mathlib.Tactic.SplitIfs

/-!
# Decoding undoes encoding

Bytes are decoded by what each lead byte promises, and characters are encoded by
dividing their code points.  The two meet in numbers: a lead byte and its
continuation bytes are the digits of the code point to the base 64, and the ranges
that decoding asks for are those in which the code point needs that many digits
and is a character.

## Main results

* `Utf8.head_utf8EncodeChar`, `Utf8.eq_utf8EncodeChar_of_head` — a character is read off
  where its encoding stands, and nowhere else.
* `Utf8.decode_eq_ok_iff` — a text is decoded from its encoding and from nothing else.
-/

namespace Lexis.Utf8

open String (utf8EncodeChar)

/-! ## Lead bytes -/

/-- The promise of a byte, by its number. -/
theorem lead?_eq (b : UInt8) : lead? b =
    if b.toNat < 0x80 then some { bits := b.toNat, continuations := 0 }
    else if b.toNat < 0xC2 then none
    else if b.toNat < 0xE0 then some { bits := b.toNat - 0xC0, continuations := 1 }
    else if b.toNat = 0xE0 then some { bits := 0, continuations := 2, low := 0xA0 }
    else if b.toNat = 0xED then some { bits := 0xD, continuations := 2, high := 0x9F }
    else if b.toNat < 0xF0 then some { bits := b.toNat - 0xE0, continuations := 2 }
    else if b.toNat = 0xF0 then some { bits := 0, continuations := 3, low := 0x90 }
    else if b.toNat < 0xF4 then some { bits := b.toNat - 0xF0, continuations := 3 }
    else if b.toNat = 0xF4 then some { bits := 4, continuations := 3, high := 0x8F }
    else none := by
  simp only [lead?, UInt8.lt_iff_toNat_lt, ← UInt8.toNat_inj]
  rfl

section Lead

variable {b : UInt8}

theorem lead?_zero (h : b.toNat < 0x80) :
    lead? b = some { bits := b.toNat, continuations := 0 } := by
  rw [lead?_eq, if_pos h]

theorem lead?_one (hlow : 0xC2 ≤ b.toNat) (hhigh : b.toNat < 0xE0) :
    lead? b = some { bits := b.toNat - 0xC0, continuations := 1 } := by
  rw [lead?_eq, if_neg (by omega), if_neg (by omega), if_pos hhigh]

/-- Before two continuation bytes the first one is such that the code point needs
them both, and that it is no surrogate. -/
theorem exists_lead?_two (hlow : 0xE0 ≤ b.toNat) (hhigh : b.toNat < 0xF0) :
    ∃ low high : UInt8, lead? b = some ⟨b.toNat - 0xE0, 2, low, high⟩ ∧
      ∀ x, low.toNat ≤ x ∧ x ≤ high.toNat ↔
        (0x80 ≤ x ∧ x ≤ 0xBF) ∧ 0x20 ≤ (b.toNat - 0xE0) * 64 + (x - 0x80) ∧
          ((b.toNat - 0xE0) * 64 + (x - 0x80) < 0x360 ∨
            0x37F < (b.toNat - 0xE0) * 64 + (x - 0x80)) := by
  by_cases hfirst : b.toNat = 0xE0
  · refine ⟨0xA0, 0xBF, ?_, ?_⟩
    · rw [lead?_eq, if_neg (by omega), if_neg (by omega), if_neg (by omega), if_pos hfirst, hfirst]
    · intro x
      show 0xA0 ≤ x ∧ x ≤ 0xBF ↔ _
      omega
  by_cases hsurrogate : b.toNat = 0xED
  · refine ⟨0x80, 0x9F, ?_, ?_⟩
    · rw [lead?_eq, if_neg (by omega), if_neg (by omega), if_neg (by omega), if_neg hfirst,
        if_pos hsurrogate, hsurrogate]
    · intro x
      show 0x80 ≤ x ∧ x ≤ 0x9F ↔ _
      omega
  · refine ⟨0x80, 0xBF, ?_, ?_⟩
    · rw [lead?_eq, if_neg (by omega), if_neg (by omega), if_neg (by omega), if_neg hfirst,
        if_neg hsurrogate, if_pos hhigh]
    · intro x
      show 0x80 ≤ x ∧ x ≤ 0xBF ↔ _
      omega

/-- Before three continuation bytes the first one is such that the code point needs
them all, and that there are so many code points. -/
theorem exists_lead?_three (hlow : 0xF0 ≤ b.toNat) (hhigh : b.toNat ≤ 0xF4) :
    ∃ low high : UInt8, lead? b = some ⟨b.toNat - 0xF0, 3, low, high⟩ ∧
      ∀ x, low.toNat ≤ x ∧ x ≤ high.toNat ↔
        (0x80 ≤ x ∧ x ≤ 0xBF) ∧ 0x10 ≤ (b.toNat - 0xF0) * 64 + (x - 0x80) ∧
          (b.toNat - 0xF0) * 64 + (x - 0x80) < 0x110 := by
  by_cases hfirst : b.toNat = 0xF0
  · refine ⟨0x90, 0xBF, ?_, ?_⟩
    · rw [lead?_eq, if_neg (by omega), if_neg (by omega), if_neg (by omega), if_neg (by omega),
        if_neg (by omega), if_neg (by omega), if_pos hfirst, hfirst]
    · intro x
      show 0x90 ≤ x ∧ x ≤ 0xBF ↔ _
      omega
  by_cases hlast : b.toNat = 0xF4
  · refine ⟨0x80, 0x8F, ?_, ?_⟩
    · rw [lead?_eq, if_neg (by omega), if_neg (by omega), if_neg (by omega), if_neg (by omega),
        if_neg (by omega), if_neg (by omega), if_neg hfirst, if_neg (by omega), if_pos hlast, hlast]
    · intro x
      show 0x80 ≤ x ∧ x ≤ 0x8F ↔ _
      omega
  · refine ⟨0x80, 0xBF, ?_, ?_⟩
    · rw [lead?_eq, if_neg (by omega), if_neg (by omega), if_neg (by omega), if_neg (by omega),
        if_neg (by omega), if_neg (by omega), if_neg hfirst, if_pos (by omega)]
    · intro x
      show 0x80 ≤ x ∧ x ≤ 0xBF ↔ _
      omega

/-- No character starts with any other byte. -/
theorem lead?_eq_none (h : 0x80 ≤ b.toNat ∧ b.toNat < 0xC2 ∨ 0xF4 < b.toNat) :
    lead? b = none := by
  rw [lead?_eq, if_neg (by omega)]
  rcases h with hcontinuation | hlarge
  · rw [if_pos hcontinuation.2]
  · rw [if_neg (by omega), if_neg (by omega), if_neg (by omega), if_neg (by omega),
      if_neg (by omega), if_neg (by omega), if_neg (by omega), if_neg (by omega)]

end Lead

/-! ## Continuation bytes -/

section Continuations

variable {bits size due n : Nat} {low high : UInt8} {bs : Bytes} {c : Char}

theorem readContinuations_zero_eq_character :
    readContinuations bits size low high 0 bs = .character c n ↔
      Char.ofNat bits = c ∧ size = n := by
  rw [readContinuations, Head.character.injEq]

/-- One continuation byte that is still due. -/
theorem readContinuations_succ_eq_character :
    readContinuations bits size low high (due + 1) bs = .character c n ↔
      ∃ b more, bs = b :: more ∧ (low.toNat ≤ b.toNat ∧ b.toNat ≤ high.toNat) ∧
        readContinuations (bits * 64 + (b.toNat - 0x80)) (size + 1) 0x80 0xBF due more =
          .character c n := by
  cases bs with
  | nil =>
      constructor
      · intro h
        simp [readContinuations] at h
      · rintro ⟨b, more, h, -⟩
        simp at h
  | cons b bs =>
      rw [readContinuations]
      constructor
      · intro h
        split at h
        · next hrange =>
            exact ⟨b, bs, rfl, ⟨UInt8.le_iff_toNat_le.mp hrange.1,
              UInt8.le_iff_toNat_le.mp hrange.2⟩, h⟩
        · simp at h
      · rintro ⟨b', more, hcons, ⟨hlow, hhigh⟩, h⟩
        obtain ⟨rfl, rfl⟩ := List.cons_eq_cons.mp hcons
        rw [if_pos ⟨UInt8.le_iff_toNat_le.mpr hlow, UInt8.le_iff_toNat_le.mpr hhigh⟩]
        exact h

end Continuations

/-! ## Characters -/

/-- What is read off the bytes `b :: bs` is the promise of `b`. -/
theorem head_eq {b : UInt8} {bits due : Nat} {low high : UInt8}
    (h : lead? b = some ⟨bits, due, low, high⟩) (bs : Bytes) :
    head b bs = readContinuations bits 1 low high due bs := by
  rw [head, h]

/-- Where the encoding of a character stands, the character is read off. -/
theorem head_utf8EncodeChar (c : Char) (more : Bytes) :
    ∃ b bs, utf8EncodeChar c ++ more = b :: bs ∧
      head b bs = .character c (utf8EncodeChar c).length := by
  have hvalid : c.val.toNat < 0xD800 ∨ 0xDFFF < c.val.toNat ∧ c.val.toNat < 0x110000 := c.valid
  have hc : ∀ v, v = c.val.toNat → Char.ofNat v = c := by
    rintro v rfl
    exact Char.ofNat_toNat c
  unfold utf8EncodeChar
  generalize c.val.toNat = v at hvalid hc ⊢
  have hbyte : ∀ n, n < 256 → (UInt8.ofNat n).toNat = n := by
    intro n hn
    rw [UInt8.toNat_ofNat', Nat.mod_eq_of_lt hn]
  -- One case for each number of bytes; the last digit is v % 64.
  have hlast := hbyte (v % 64 + 128) (by omega)
  simp only
  split_ifs with h₁ h₂ h₃
  · have hlead := hbyte v (by omega)
    refine ⟨_, _, rfl, ?_⟩
    rw [head_eq (lead?_zero (by omega)), readContinuations_zero_eq_character]
    exact ⟨hc _ hlead, rfl⟩
  · have hlead := hbyte (v / 64 % 32 + 192) (by omega)
    refine ⟨_, _, rfl, ?_⟩
    rw [head_eq (lead?_one (by omega) (by omega)), readContinuations_succ_eq_character]
    refine ⟨_, _, rfl, ?_, readContinuations_zero_eq_character.mpr ⟨hc _ ?_, rfl⟩⟩
    · show 0x80 ≤ _ ∧ _ ≤ 0xBF
      omega
    · omega
  · have hlead := hbyte (v / 4096 % 16 + 224) (by omega)
    have hmiddle := hbyte (v / 64 % 64 + 128) (by omega)
    obtain ⟨low, high, hpromise, hrange⟩ :=
      exists_lead?_two (b := .ofNat (v / 4096 % 16 + 224)) (by omega) (by omega)
    refine ⟨_, _, rfl, ?_⟩
    rw [head_eq hpromise, readContinuations_succ_eq_character]
    refine ⟨_, _, rfl, (hrange _).mpr (by omega), readContinuations_succ_eq_character.mpr
      ⟨_, _, rfl, ?_, readContinuations_zero_eq_character.mpr ⟨hc _ ?_, rfl⟩⟩⟩
    · show 0x80 ≤ _ ∧ _ ≤ 0xBF
      omega
    · omega
  · have hlead := hbyte (v / 262144 % 8 + 240) (by omega)
    have hsecond := hbyte (v / 4096 % 64 + 128) (by omega)
    have hthird := hbyte (v / 64 % 64 + 128) (by omega)
    obtain ⟨low, high, hpromise, hrange⟩ :=
      exists_lead?_three (b := .ofNat (v / 262144 % 8 + 240)) (by omega) (by omega)
    refine ⟨_, _, rfl, ?_⟩
    rw [head_eq hpromise, readContinuations_succ_eq_character]
    refine ⟨_, _, rfl, (hrange _).mpr (by omega), readContinuations_succ_eq_character.mpr
      ⟨_, _, rfl, ?_, readContinuations_succ_eq_character.mpr
        ⟨_, _, rfl, ?_, readContinuations_zero_eq_character.mpr ⟨hc _ ?_, rfl⟩⟩⟩⟩
    · show 0x80 ≤ _ ∧ _ ≤ 0xBF
      omega
    · show 0x80 ≤ _ ∧ _ ≤ 0xBF
      omega
    · omega

/-- The encoding of a code point, by the number of bytes that it takes. -/
theorem utf8EncodeChar_ofNat {v : Nat} (hv : v.isValidChar) :
    utf8EncodeChar (Char.ofNat v) =
      if v ≤ 0x7F then [UInt8.ofNat v]
      else if v ≤ 0x7FF then [UInt8.ofNat (v / 64 % 32 + 192), UInt8.ofNat (v % 64 + 128)]
      else if v ≤ 0xFFFF then
        [UInt8.ofNat (v / 4096 % 16 + 224), UInt8.ofNat (v / 64 % 64 + 128),
          UInt8.ofNat (v % 64 + 128)]
      else
        [UInt8.ofNat (v / 262144 % 8 + 240), UInt8.ofNat (v / 4096 % 64 + 128),
          UInt8.ofNat (v / 64 % 64 + 128), UInt8.ofNat (v % 64 + 128)] := by
  have hval : (Char.ofNat v).val.toNat = v := by
    show (Char.ofNat v).toNat = v
    rw [Char.ofNat, dif_pos hv]
    rfl
  simp only [utf8EncodeChar, hval]

/-- Where a character is read off, its encoding stands. -/
theorem eq_utf8EncodeChar_of_head {b : UInt8} {bs : Bytes} {c : Char} {n : Nat}
    (h : head b bs = .character c n) :
    ∃ more, b :: bs = utf8EncodeChar c ++ more ∧ n = (utf8EncodeChar c).length := by
  have hbyte : ∀ (b : UInt8) (n : Nat), b.toNat = n → UInt8.ofNat n = b := by
    rintro b n rfl
    exact UInt8.ofNat_toNat
  by_cases h₀ : b.toNat < 0x80
  · rw [head_eq (lead?_zero h₀), readContinuations_zero_eq_character] at h
    obtain ⟨rfl, rfl⟩ := h
    rw [utf8EncodeChar_ofNat (Or.inl (by omega)), if_pos (by omega), hbyte b _ rfl]
    exact ⟨bs, rfl, rfl⟩
  by_cases h₁ : 0xC2 ≤ b.toNat ∧ b.toNat < 0xE0
  · rw [head_eq (lead?_one h₁.1 h₁.2), readContinuations_succ_eq_character] at h
    obtain ⟨b₁, more, rfl, hrange, h⟩ := h
    change 0x80 ≤ b₁.toNat ∧ b₁.toNat ≤ 0xBF at hrange
    obtain ⟨rfl, rfl⟩ := readContinuations_zero_eq_character.mp h
    rw [utf8EncodeChar_ofNat (Or.inl (by omega)), if_neg (by omega), if_pos (by omega),
      hbyte b _ (by omega), hbyte b₁ _ (by omega)]
    exact ⟨more, rfl, rfl⟩
  by_cases h₂ : 0xE0 ≤ b.toNat ∧ b.toNat < 0xF0
  · obtain ⟨low, high, hpromise, hrange⟩ := exists_lead?_two h₂.1 h₂.2
    rw [head_eq hpromise, readContinuations_succ_eq_character] at h
    obtain ⟨b₁, bs₁, rfl, hb₁, h⟩ := h
    rw [hrange] at hb₁
    obtain ⟨b₂, more, rfl, hb₂, h⟩ := readContinuations_succ_eq_character.mp h
    change 0x80 ≤ b₂.toNat ∧ b₂.toNat ≤ 0xBF at hb₂
    obtain ⟨rfl, rfl⟩ := readContinuations_zero_eq_character.mp h
    rw [utf8EncodeChar_ofNat (by rw [Nat.isValidChar]; omega), if_neg (by omega),
      if_neg (by omega), if_pos (by omega), hbyte b _ (by omega), hbyte b₁ _ (by omega),
      hbyte b₂ _ (by omega)]
    exact ⟨more, rfl, rfl⟩
  by_cases h₃ : 0xF0 ≤ b.toNat ∧ b.toNat ≤ 0xF4
  · obtain ⟨low, high, hpromise, hrange⟩ := exists_lead?_three h₃.1 h₃.2
    rw [head_eq hpromise, readContinuations_succ_eq_character] at h
    obtain ⟨b₁, bs₁, rfl, hb₁, h⟩ := h
    rw [hrange] at hb₁
    obtain ⟨b₂, bs₂, rfl, hb₂, h⟩ := readContinuations_succ_eq_character.mp h
    change 0x80 ≤ b₂.toNat ∧ b₂.toNat ≤ 0xBF at hb₂
    obtain ⟨b₃, more, rfl, hb₃, h⟩ := readContinuations_succ_eq_character.mp h
    change 0x80 ≤ b₃.toNat ∧ b₃.toNat ≤ 0xBF at hb₃
    obtain ⟨rfl, rfl⟩ := readContinuations_zero_eq_character.mp h
    rw [utf8EncodeChar_ofNat (by rw [Nat.isValidChar]; omega), if_neg (by omega),
      if_neg (by omega), if_neg (by omega), hbyte b _ (by omega), hbyte b₁ _ (by omega),
      hbyte b₂ _ (by omega), hbyte b₃ _ (by omega)]
    exact ⟨more, rfl, rfl⟩
  · rw [head, lead?_eq_none (by omega)] at h
    simp at h

/-! ## Texts -/

/-- Behind the head of some bytes stands what follows its encoding. -/
theorem drop_behind {c : Char} {b : UInt8} {bs more : Bytes}
    (h : b :: bs = utf8EncodeChar c ++ more) :
    bs.drop ((utf8EncodeChar c).length - 1) = more := by
  obtain ⟨b', taken, htaken⟩ := List.exists_cons_of_ne_nil (String.utf8EncodeChar_ne_nil (c := c))
  rw [htaken, List.cons_append, List.cons_eq_cons] at h
  rw [htaken, List.length_cons, Nat.add_sub_cancel, h.2, List.drop_left]

theorem decodeFrom_utf8Encode (index : Nat) (cs : List Char) :
    decodeFrom index (cs.flatMap utf8EncodeChar) = .ok cs := by
  induction cs generalizing index with
  | nil => rw [List.flatMap_nil, decodeFrom]
  | cons c cs ih =>
      obtain ⟨b, bs, hcons, hhead⟩ := head_utf8EncodeChar c (cs.flatMap utf8EncodeChar)
      rw [List.flatMap_cons, hcons, decodeFrom, hhead]
      simp only [drop_behind hcons.symm, ih]

theorem eq_utf8Encode_of_decodeFrom {index : Nat} {bytes : Bytes} {cs : List Char}
    (h : decodeFrom index bytes = .ok cs) : bytes = cs.flatMap utf8EncodeChar := by
  fun_induction decodeFrom index bytes generalizing cs with
  | case1 index =>
      obtain rfl := Except.ok.inj h
      rfl
  | case2 index b bs c n hhead cs' hcs ih =>
      obtain rfl := Except.ok.inj h
      obtain ⟨more, hcons, rfl⟩ := eq_utf8EncodeChar_of_head hhead
      rw [drop_behind hcons] at hcs ih
      rw [hcons, List.flatMap_cons, ih hcs]
  | _ => simp at h

/-- **UTF-8.**  Bytes are decoded to a text exactly if they are its encoding. -/
theorem decode_eq_ok_iff {bytes : Bytes} {s : String} :
    decode bytes = .ok s ↔ bytes = encode s := by
  rw [decode, encode]
  constructor
  · intro h
    cases hchars : decodeFrom 0 bytes with
    | error e =>
        rw [hchars] at h
        simp [Except.map] at h
    | ok cs =>
        rw [hchars] at h
        obtain rfl := Except.ok.inj h
        rw [eq_utf8Encode_of_decodeFrom hchars, String.toList_ofList]
  · rintro rfl
    rw [decodeFrom_utf8Encode]
    show Except.ok (String.ofList s.toList) = .ok s
    rw [String.ofList_toList]

end Lexis.Utf8
