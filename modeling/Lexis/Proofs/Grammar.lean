import Lexis.Scanner.Lexeme
import Lexis.Scanner.Trivia

/-!
# The grammar of lexemes

Which strings are lexemes of the language, and what each of them denotes.  The
grammar is a relation `Denotes` between a string and the kind and text that it
stands for.  It knows nothing of reading: no string is cut off from a longer
one here.

A word is a keyword if it is spelled like one, else the name of a primitive
type if it is spelled like one, else an identifier.  No keyword is spelled like
a type, so the first two rules need no order.

## Main definitions

* `Denotes` — the valid lexemes, with the kind and the text of each.
* `Longest` — the longest valid lexeme at the head of a text.

## Main results

* `Denotes.spelling_eq` — a lexeme is spelled as its kind and text say.
* `Denotes.exists_cons` — how a lexeme starts.
* `denotes_word` — every word is a lexeme, of the kind that `Lexeme.wordKind`
  finds.
* `Symbol.ofSpelling?_eq_some_iff` — looking up a symbol finds the one that is
  spelled so.
-/

namespace Lexis

/-! ## Looking up spellings -/

/-- A table in which every entry is found under its spelling has no other entry
under it. -/
private theorem find?_spelling_eq_some_iff {α : Type} {spelling : α → String} {all : List α}
    (hall : ∀ a, all.find? (fun b => spelling b == spelling a) = some a) {word : String}
    {a : α} : all.find? (fun b => spelling b == word) = some a ↔ spelling a = word := by
  constructor
  · intro h
    have hfound := List.find?_some h
    simpa using hfound
  · intro h
    rw [← h]
    exact hall a

theorem Keyword.ofSpelling?_eq_some_iff {word : String} {k : Keyword} :
    Keyword.ofSpelling? word = some k ↔ k.spelling = word :=
  find?_spelling_eq_some_iff Keyword.ofSpelling?_spelling

theorem Primitive.ofSpelling?_eq_some_iff {word : String} {p : Primitive} :
    Primitive.ofSpelling? word = some p ↔ p.spelling = word :=
  find?_spelling_eq_some_iff Primitive.ofSpelling?_spelling

theorem Symbol.ofSpelling?_eq_some_iff {sign : String} {s : Symbol} :
    Symbol.ofSpelling? sign = some s ↔ s.spelling = sign :=
  find?_spelling_eq_some_iff Symbol.ofSpelling?_spelling

/-- The characters of a string that is built from them. -/
private theorem eq_ofList_iff {s : String} {cs : List Char} :
    s = String.ofList cs ↔ s.toList = cs := by
  rw [← String.toList_inj, String.toList_ofList]

theorem Symbol.ofSpelling?_ofList {cs : List Char} {s : Symbol} :
    Symbol.ofSpelling? (String.ofList cs) = some s ↔ s.spelling.toList = cs := by
  rw [Symbol.ofSpelling?_eq_some_iff, eq_ofList_iff]

theorem Symbol.ofSpelling?_ofList_eq_none {cs : List Char} :
    Symbol.ofSpelling? (String.ofList cs) = none ↔ ∀ s : Symbol, s.spelling.toList ≠ cs := by
  rw [Option.eq_none_iff_forall_ne_some]
  simp only [ne_eq, Symbol.ofSpelling?_ofList]

namespace Grammar

open Lexeme (isWordStart isWordPart wordKind)

/-! ## The lexemes of the language -/

/-- A letter or an underscore, and any number of letters, digits and
underscores behind it. -/
def IsWord (w : List Char) : Prop :=
  ∃ c cs, w = c :: cs ∧ isWordStart c = true ∧ ∀ d ∈ cs, isWordPart d = true

/-- One digit or more. -/
def IsDigits (w : List Char) : Prop :=
  w ≠ [] ∧ ∀ d ∈ w, d.isDigit = true

/-- The string `w` is a valid lexeme, and `l` is the kind and the text that it
denotes. -/
inductive Denotes : List Char → Lexeme → Prop where
  | keyword (k : Keyword) : Denotes k.spelling.toList ⟨.keyword k, k.spelling.toList⟩
  | primitive (p : Primitive) :
      Denotes p.spelling.toList ⟨.primitive p, p.spelling.toList⟩
  | identifier {w : List Char} : IsWord w → (∀ k : Keyword, k.spelling.toList ≠ w) →
      (∀ p : Primitive, p.spelling.toList ≠ w) → Denotes w ⟨.identifier, w⟩
  | integer {w : List Char} : IsDigits w → Denotes w ⟨.integerLiteral, w⟩
  | float {whole fraction : List Char} : IsDigits whole → IsDigits fraction →
      Denotes (whole ++ '.' :: fraction) ⟨.floatLiteral, whole ++ '.' :: fraction⟩
  | character (c : Char) : Denotes ['\x27', c, '\x27'] ⟨.charLiteral, [c]⟩
  | string {body : List Char} : '\x22' ∉ body →
      Denotes ('\x22' :: (body ++ ['\x22'])) ⟨.stringLiteral, body⟩
  | symbol (s : Symbol) : Denotes s.spelling.toList ⟨.symbol s, s.spelling.toList⟩

/-- `w` is the longest valid lexeme at the head of the text `r`, and it
denotes `l`. -/
structure Longest (r w : List Char) (l : Lexeme) : Prop where
  denotes : Denotes w l
  isPrefix : w <+: r
  le : ∀ w' l', Denotes w' l' → w' <+: r → w'.length ≤ w.length

/-- What is wrong with a text at whose head there is no lexeme. -/
def defectAt (r : List Char) : Defect :=
  if r.head? = some '\x27' then .malformedCharacter
  else if r.head? = some '\x22' then .unterminatedString
  else .unexpectedCharacter

/-! ## Words -/

theorem isWord_of_all {c : Char} {cs : List Char} (hc : isWordStart c = true)
    (hcs : cs.all isWordPart = true) : IsWord (c :: cs) :=
  ⟨c, cs, rfl, hc, List.all_eq_true.mp hcs⟩

theorem isWord_keyword (k : Keyword) : IsWord k.spelling.toList := by
  cases k <;> exact isWord_of_all rfl rfl

theorem isWord_primitive (p : Primitive) : IsWord p.spelling.toList := by
  cases p <;> exact isWord_of_all rfl rfl

theorem IsWord.forall_isWordPart {w : List Char} (h : IsWord w) :
    ∀ c ∈ w, isWordPart c = true := by
  obtain ⟨c, cs, rfl, hc, hcs⟩ := h
  intro d hd
  rcases List.mem_cons.mp hd with rfl | hd
  · exact Lexeme.isWordPart_of_isWordStart hc
  · exact hcs d hd

theorem wordKind_keyword (k : Keyword) : wordKind k.spelling = .keyword k := by
  rw [wordKind, Keyword.ofSpelling?_spelling]

theorem wordKind_primitive (p : Primitive) : wordKind p.spelling = .primitive p := by
  have hkeyword : Keyword.ofSpelling? p.spelling = none := by cases p <;> decide
  simp only [wordKind, hkeyword, Primitive.ofSpelling?_spelling]

theorem wordKind_identifier {w : List Char} (hk : ∀ k : Keyword, k.spelling.toList ≠ w)
    (hp : ∀ p : Primitive, p.spelling.toList ≠ w) :
    wordKind (String.ofList w) = .identifier := by
  have hkeyword : Keyword.ofSpelling? (String.ofList w) = none := by
    rw [Option.eq_none_iff_forall_ne_some]
    intro k hfound
    exact hk k (eq_ofList_iff.mp (Keyword.ofSpelling?_eq_some_iff.mp hfound))
  have hprimitive : Primitive.ofSpelling? (String.ofList w) = none := by
    rw [Option.eq_none_iff_forall_ne_some]
    intro p hfound
    exact hp p (eq_ofList_iff.mp (Primitive.ofSpelling?_eq_some_iff.mp hfound))
  simp only [wordKind, hkeyword, hprimitive]

theorem isInvalid_wordKind (word : String) : (wordKind word).isInvalid = false := by
  unfold wordKind
  split
  · rfl
  · split <;> rfl

/-- Every word is a lexeme. -/
theorem denotes_word {w : List Char} (h : IsWord w) :
    Denotes w ⟨wordKind (String.ofList w), w⟩ := by
  by_cases hk : ∃ k : Keyword, k.spelling.toList = w
  · obtain ⟨k, rfl⟩ := hk
    rw [String.ofList_toList, wordKind_keyword]
    exact .keyword k
  by_cases hp : ∃ p : Primitive, p.spelling.toList = w
  · obtain ⟨p, rfl⟩ := hp
    rw [String.ofList_toList, wordKind_primitive]
    exact .primitive p
  · have hk' : ∀ k : Keyword, k.spelling.toList ≠ w := fun k hkw => hk ⟨k, hkw⟩
    have hp' : ∀ p : Primitive, p.spelling.toList ≠ w := fun p hpw => hp ⟨p, hpw⟩
    rw [wordKind_identifier hk' hp']
    exact .identifier h hk' hp'

/-! ## Symbols -/

/-- A symbol is one character or two.  The second of two is an equals sign, and
the first of two is no slash. -/
theorem spelling_symbol_cases (s : Symbol) :
    (∃ c, s.spelling.toList = [c]) ∨ ∃ c, s.spelling.toList = [c, '='] ∧ c ≠ '/' := by
  cases s <;> simp [Symbol.spelling]

/-- No symbol starts as another lexeme or as a white space does. -/
theorem head_symbol {s : Symbol} {c : Char} {cs : List Char}
    (h : s.spelling.toList = c :: cs) :
    isWordStart c = false ∧ c.isDigit = false ∧ c ≠ '\x27' ∧ c ≠ '\x22' ∧
      Trivia.isBlank c = false := by
  obtain rfl : s.spelling.toList.headD ' ' = c := by rw [h]; rfl
  clear h
  cases s <;> decide

/-- The second character of a symbol of two characters. -/
theorem pair_symbol {s : Symbol} {c d : Char} (h : s.spelling.toList = [c, d]) :
    c ≠ '/' ∧ d = '=' := by
  rcases spelling_symbol_cases s with ⟨c', hone⟩ | ⟨c', htwo, hslash⟩
  · rw [h] at hone
    simp at hone
  · rw [h] at htwo
    simp only [List.cons.injEq, and_true] at htwo
    exact ⟨htwo.1 ▸ hslash, htwo.2⟩

/-! ## Lexemes as wholes -/

/-- A lexeme stands in the source as its kind and its text say. -/
theorem Denotes.spelling_eq {w : List Char} {l : Lexeme} (h : Denotes w l) :
    l.spelling = w := by
  cases h <;> rfl

theorem Denotes.isInvalid_eq_false {w : List Char} {l : Lexeme} (h : Denotes w l) :
    l.kind.isInvalid = false := by
  cases h <;> rfl

theorem Denotes.kind_ne_endOfInput {w : List Char} {l : Lexeme} (h : Denotes w l) :
    l.kind ≠ .endOfInput := by
  cases h <;> simp

/-! ## How a lexeme starts -/

/-- No lexeme goes on with a white space, except inside quotes and comments. -/
theorem not_part_of_isBlank {d : Char} (h : Trivia.isBlank d = true) :
    isWordPart d = false ∧ d.isDigit = false ∧ d ∉ ['.', '=', '*', '/', '\x27'] := by
  simp only [Trivia.isBlank, Bool.or_eq_true, beq_iff_eq] at h
  rcases h with ((((rfl | rfl) | rfl) | rfl) | rfl) | rfl <;> decide

theorem isBlank_eq_false_of_isWordPart {c : Char} (h : isWordPart c = true) :
    Trivia.isBlank c = false := by
  rw [← Bool.not_eq_true]
  intro hblank
  rw [(not_part_of_isBlank hblank).1] at h
  simp at h

theorem isBlank_eq_false_of_isDigit {c : Char} (h : c.isDigit = true) :
    Trivia.isBlank c = false := by
  rw [← Bool.not_eq_true]
  intro hblank
  rw [(not_part_of_isBlank hblank).2.1] at h
  simp at h

theorem IsWord.exists_cons {w : List Char} (h : IsWord w) :
    ∃ c cs, w = c :: cs ∧ Trivia.isBlank c = false ∧ c ≠ '/' := by
  obtain ⟨c, cs, rfl, hc, -⟩ := h
  refine ⟨c, cs, rfl, isBlank_eq_false_of_isWordPart (Lexeme.isWordPart_of_isWordStart hc), ?_⟩
  intro heq
  subst heq
  exact absurd hc (by decide)

theorem IsDigits.exists_cons {w : List Char} (h : IsDigits w) :
    ∃ c cs, w = c :: cs ∧ Trivia.isBlank c = false ∧ c ≠ '/' := by
  cases w with
  | nil => exact absurd rfl h.1
  | cons c cs =>
      have hc := h.2 c List.mem_cons_self
      refine ⟨c, cs, rfl, isBlank_eq_false_of_isDigit hc, ?_⟩
      intro heq
      subst heq
      exact absurd hc (by decide)

/-- No valid lexeme starts with a white space, and a slash is one by itself. -/
theorem Denotes.exists_cons {w : List Char} {l : Lexeme} (h : Denotes w l) :
    ∃ c cs, w = c :: cs ∧ Trivia.isBlank c = false ∧ (c = '/' → cs = []) := by
  have hword : IsWord w →
      ∃ c cs, w = c :: cs ∧ Trivia.isBlank c = false ∧ (c = '/' → cs = []) := by
    intro hw
    obtain ⟨c, cs, hcons, hblank, hslash⟩ := hw.exists_cons
    exact ⟨c, cs, hcons, hblank, fun hc => absurd hc hslash⟩
  cases h with
  | keyword k => exact hword (isWord_keyword k)
  | primitive p => exact hword (isWord_primitive p)
  | identifier hw => exact hword hw
  | integer hw =>
      obtain ⟨c, cs, hcons, hblank, hslash⟩ := hw.exists_cons
      exact ⟨c, cs, hcons, hblank, fun hc => absurd hc hslash⟩
  | float hwhole =>
      obtain ⟨c, cs, hcons, hblank, hslash⟩ := hwhole.exists_cons
      exact ⟨c, _, by rw [hcons]; rfl, hblank, fun hc => absurd hc hslash⟩
  | character c => exact ⟨_, _, rfl, by decide, fun hc => absurd hc (by decide)⟩
  | string => exact ⟨_, _, rfl, by decide, fun hc => absurd hc (by decide)⟩
  | symbol s =>
      rcases spelling_symbol_cases s with ⟨c, hone⟩ | ⟨c, htwo, hslash⟩
      · obtain ⟨-, -, -, -, hblank⟩ := head_symbol hone
        exact ⟨c, [], hone, hblank, fun _ => rfl⟩
      · obtain ⟨-, -, -, -, hblank⟩ := head_symbol htwo
        exact ⟨c, ['='], htwo, hblank, fun hc => absurd hc hslash⟩

end Grammar

end Lexis
