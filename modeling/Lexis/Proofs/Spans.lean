import Lexis.Text.CodePoints

/-!
# Spans of one character class

Words, numbers, comments and string bodies are all read as the longest run of
characters of one class.  Such a run is determined by two facts: its members
belong to the class, and what follows it does not begin with a member.  The
second fact is `Stops`.

## Main results

* `takeWhile_append_of_stops`, `dropWhile_append_of_stops` — the two facts
  determine where a text is divided.
* `stops_dropWhile` — what is left of a text after its run stops the class.
-/

namespace Lexis.Text

/-- The text `rest` does not begin with a member of the class `p`. -/
def Stops (p : Char → Bool) (rest : List Char) : Prop :=
  ∀ c ∈ rest.head?, p c = false

section Stops

variable {p : Char → Bool}

theorem stops_nil : Stops p [] := by
  intro c hc
  simp at hc

@[simp] theorem stops_cons {c : Char} {rest : List Char} :
    Stops p (c :: rest) ↔ p c = false := by
  simp [Stops]

/-- What follows a text is looked at only where the text is empty. -/
theorem Stops.append_cons {rest : List Char} {d : Char} (h : Stops p rest)
    (hd : p d = false) (ds : List Char) : Stops p (rest ++ d :: ds) := by
  cases rest with
  | nil => exact stops_cons.mpr hd
  | cons c rest => exact stops_cons.mpr (stops_cons.mp h)

/-- Behind a text that is not empty nothing is looked at. -/
theorem Stops.append {rest : List Char} (h : Stops p rest) (hne : rest ≠ [])
    (more : List Char) : Stops p (rest ++ more) := by
  cases rest with
  | nil => exact absurd rfl hne
  | cons c rest => exact stops_cons.mpr (stops_cons.mp h)

theorem Stops.of_append {rest more : List Char} (h : Stops p (rest ++ more)) :
    Stops p rest := by
  cases rest with
  | nil => exact stops_nil
  | cons c rest => exact stops_cons.mpr (stops_cons.mp h)

theorem stops_dropWhile (cs : List Char) : Stops p (cs.dropWhile p) := by
  induction cs with
  | nil => exact stops_nil
  | cons c cs ih =>
      by_cases hc : p c = true
      · rw [List.dropWhile_cons_of_pos hc]
        exact ih
      · rw [List.dropWhile_cons_of_neg hc]
        exact stops_cons.mpr (Bool.eq_false_iff.mpr hc)

theorem of_mem_takeWhile {cs : List Char} {c : Char} (h : c ∈ cs.takeWhile p) :
    p c = true := by
  have hall := List.all_takeWhile (p := p) (l := cs)
  exact List.all_eq_true.mp hall c h

theorem takeWhile_eq_nil_of_stops {rest : List Char} (h : Stops p rest) :
    rest.takeWhile p = [] := by
  cases rest with
  | nil => rfl
  | cons c rest =>
      rw [List.takeWhile_cons_of_neg]
      exact Bool.eq_false_iff.mp (stops_cons.mp h)

theorem dropWhile_eq_self_of_stops {rest : List Char} (h : Stops p rest) :
    rest.dropWhile p = rest := by
  cases rest with
  | nil => rfl
  | cons c rest =>
      rw [List.dropWhile_cons_of_neg]
      exact Bool.eq_false_iff.mp (stops_cons.mp h)

/-- A run of members in front of a stop is the whole run. -/
theorem takeWhile_append_of_stops {run rest : List Char}
    (hrun : ∀ c ∈ run, p c = true) (hrest : Stops p rest) :
    (run ++ rest).takeWhile p = run := by
  rw [List.takeWhile_append_of_pos hrun, takeWhile_eq_nil_of_stops hrest,
    List.append_nil]

/-- Behind the run the stop is left. -/
theorem dropWhile_append_of_stops {run rest : List Char}
    (hrun : ∀ c ∈ run, p c = true) (hrest : Stops p rest) :
    (run ++ rest).dropWhile p = rest := by
  rw [List.dropWhile_append_of_pos hrun, dropWhile_eq_self_of_stops hrest]

end Stops

/-- A text without `q` is a run of the class of all characters but `q`. -/
theorem forall_bne_iff {q : Char} {cs : List Char} :
    (∀ c ∈ cs, (c != q) = true) ↔ q ∉ cs := by
  constructor
  · intro h hq
    have hne := h q hq
    simp at hne
  · intro h c hc
    have hne : c ≠ q := fun heq => h (heq ▸ hc)
    simpa using hne

end Lexis.Text
