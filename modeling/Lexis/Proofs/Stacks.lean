import Lexis.Handler
import Mathlib.Data.List.DropRight

/-!
# Counters in front of counters

A report can enter a stack of two counters in front or behind the first of them, and
each counter is reset on its own.  So neither count can be told from the other: what
has come to the inner counter since its last reset may be less than what has come to
the outer one since its own.  Each count is told by the operations alone, those since
the last reset at its level, and what the handler behind both holds is told by all of
them.

An operation acts at a level, and one lemma on a single operation says what it does to
the count at any level.

## Main results

* `Stack.countAt_apply` — what an operation does to a count.
* `Stack.countAt_run` — a count, from the operations since the last reset.
* `Stack.inner_run` — the handler behind the stack receives every report once.
* `Stack.run_accounted` — what a stack in front of a storage holds after any operations.
-/

namespace Lexis

universe u v

/-- A counter in front of a counter. -/
abbrev Stack (H : Type u) := Counter (Counter H)

namespace Stack

/-! ## Operations -/

/-- One of the two counters of a stack. -/
inductive Level where
  | outer
  | inner
deriving DecidableEq, Repr

/-- What can be done to a stack. -/
inductive Operation (δ : Type v) where
  /-- Sends a report to the counter at a level. -/
  | receive (level : Level) (diagnostic : δ)
  /-- Lets the counter at a level count from zero again. -/
  | reset (level : Level)
deriving DecidableEq, Repr

namespace Operation

variable {δ : Type v}

/-- The report that is sent. -/
def report? : Operation δ → Option δ
  | receive _ diagnostic => some diagnostic
  | reset _ => none

/-- The operation sends a report that comes by the counter at a level. What is sent to
the outer counter is passed on to the inner one. -/
def reaches (level : Level) : Operation δ → Bool
  | receive .outer _ => true
  | receive .inner _ => level == .inner
  | reset _ => false

/-- The operation resets the counter at a level. -/
def resets (level : Level) : Operation δ → Bool
  | receive _ _ => false
  | reset at' => at' == level

end Operation

section Run

variable {H : Type u} {δ : Type v} [Handler H δ]

/-- The stack after one operation. -/
def apply (s : Stack H) : Operation δ → Stack H
  | .receive .outer diagnostic => Handler.receive s diagnostic
  | .receive .inner diagnostic => s.receiveInner diagnostic
  | .reset .outer => s.reset
  | .reset .inner => { s with inner := s.inner.reset }

/-- The stack after some operations. -/
def run (s : Stack H) (operations : List (Operation δ)) : Stack H := operations.foldl apply s

/-- The count at a level. -/
def countAt (s : Stack H) : Level → Nat
  | .outer => s.count
  | .inner => s.inner.count

/-- Whether the counter at a level counts nothing. -/
def isCleanAt (s : Stack H) : Level → Bool
  | .outer => s.isClean
  | .inner => s.inner.isClean

/-! ## One operation -/

/-- An operation sets the count at a level to zero, adds one to it or leaves it alone. -/
theorem countAt_apply (s : Stack H) (operation : Operation δ) (level : Level) :
    countAt (apply s operation) level =
      if operation.resets level then 0
      else countAt s level + if operation.reaches level then 1 else 0 := by
  cases operation with
  | receive at' diagnostic => cases at' <;> cases level <;> rfl
  | reset at' => cases at' <;> cases level <;> rfl

/-- A report goes on to the handler behind the stack, whichever counter it is sent to. -/
theorem inner_apply (s : Stack H) (operation : Operation δ) :
    (apply s operation).inner.inner =
      operation.report?.toList.foldl Handler.receive s.inner.inner := by
  cases operation with
  | receive at' diagnostic => cases at' <;> rfl
  | reset at' => cases at' <;> rfl

/-- What sends a report does not reset. -/
theorem resets_eq_false_of_reaches {operation : Operation δ} {level level' : Level}
    (h : operation.reaches level = true) : operation.resets level' = false := by
  cases operation with
  | receive => rfl
  | reset => simp [Operation.reaches] at h

theorem eq_reset_of_resets {operation : Operation δ} {level : Level}
    (h : operation.resets level = true) : operation = .reset level := by
  cases operation with
  | receive => simp [Operation.resets] at h
  | reset at' => rw [eq_of_beq h]

/-! ## Any operations -/

theorem run_concat (s : Stack H) (operations : List (Operation δ)) (operation : Operation δ) :
    run s (operations ++ [operation]) = apply (run s operations) operation := by
  rw [run, List.foldl_append]
  rfl

/-- The handler behind the stack receives each report once, in order. -/
theorem inner_run (s : Stack H) (operations : List (Operation δ)) :
    (run s operations).inner.inner =
      (operations.filterMap Operation.report?).foldl Handler.receive s.inner.inner := by
  induction operations using List.reverseRecOn with
  | nil => rfl
  | append_singleton operations operation ih =>
      rw [run_concat, inner_apply, ih, List.filterMap_append, List.foldl_append]
      cases operation <;> rfl

/-- The operations behind the last reset of the counter at a level. -/
def sinceReset (level : Level) (operations : List (Operation δ)) : List (Operation δ) :=
  operations.rtakeWhile fun operation => !operation.resets level

theorem sinceReset_concat (level : Level) (operations : List (Operation δ))
    (operation : Operation δ) :
    sinceReset level (operations ++ [operation]) =
      if operation.resets level then [] else sinceReset level operations ++ [operation] := by
  rw [sinceReset, List.rtakeWhile_concat]
  cases operation.resets level <;> rfl

/-- An operation stands behind the last reset if it is none and none follows it. -/
theorem mem_sinceReset_iff {level : Level} {operations : List (Operation δ)}
    {operation : Operation δ} :
    operation ∈ sinceReset level operations ↔ ∃ front back,
      operations = front ++ operation :: back ∧ operation.resets level = false ∧
        ∀ later ∈ back, later.resets level = false := by
  constructor
  · intro h
    have hall : ∀ later ∈ sinceReset level operations, later.resets level = false := by
      intro later hlater
      simpa using List.mem_rtakeWhile_imp hlater
    obtain ⟨between, back, hsince⟩ := List.append_of_mem h
    refine ⟨operations.rdropWhile (fun o => !o.resets level) ++ between, back, ?_,
      hall operation h, ?_⟩
    · rw [List.append_assoc, ← hsince, sinceReset, List.rdropWhile_append_rtakeWhile]
    · intro later hlater
      rw [hsince] at hall
      exact hall later (List.mem_append_right _ (List.mem_cons_of_mem _ hlater))
  · rintro ⟨front, back, rfl, hoperation, hback⟩
    induction back using List.reverseRecOn with
    | nil =>
        rw [sinceReset_concat, hoperation]
        exact List.mem_concat_self
    | append_singleton back last ih =>
        obtain ⟨hback, hlast⟩ := List.forall_mem_append.mp hback
        rw [← List.cons_append, ← List.append_assoc, sinceReset_concat,
          hlast last (List.mem_singleton_self last)]
        exact List.mem_append_left _ (ih hback)

/-- A count is the number of reports that have come by since the last reset. -/
theorem countAt_run {s : Stack H} {level : Level} (h : countAt s level = 0)
    (operations : List (Operation δ)) :
    countAt (run s operations) level =
      (sinceReset level operations).countP (Operation.reaches level) := by
  induction operations using List.reverseRecOn with
  | nil => exact h
  | append_singleton operations operation ih =>
      rw [run_concat, countAt_apply, ih, sinceReset_concat]
      split
      · rfl
      · rw [List.countP_append, List.countP_singleton]

/-- Resets at one level make no difference to the count at another. -/
theorem countAt_run_filter {level other : Level} (hother : other ≠ level) (s : Stack H)
    (operations : List (Operation δ)) :
    countAt (run s (operations.filter fun o => !o.resets other)) level =
      countAt (run s operations) level := by
  induction operations using List.reverseRecOn with
  | nil => rfl
  | append_singleton operations operation ih =>
      rw [List.filter_append, run_concat, countAt_apply, ← ih]
      by_cases hreset : operation.resets other = true
      · obtain rfl := eq_reset_of_resets hreset
        have hlevel : (Operation.reset other : Operation δ).resets level = false :=
          beq_eq_false_iff_ne.mpr hother
        rw [List.filter_cons_of_neg (by simp [hreset]), List.filter_nil, List.append_nil, hlevel]
        rfl
      · rw [List.filter_cons_of_pos (by simpa using hreset), List.filter_nil, run_concat,
          countAt_apply]

/-- Resets send no report. -/
theorem filterMap_report?_filter (level : Level) (operations : List (Operation δ)) :
    (operations.filter fun o => !o.resets level).filterMap Operation.report? =
      operations.filterMap Operation.report? := by
  rw [List.filterMap_filter]
  congr 1
  funext operation
  cases operation with
  | receive => rfl
  | reset => exact ite_self none

theorem isCleanAt_iff (s : Stack H) (level : Level) :
    isCleanAt s level = true ↔ countAt s level = 0 := by
  cases level <;> exact beq_iff_eq

/-- No report is among the operations since the last reset exactly if each report that
has come by is followed by a reset. -/
theorem countP_sinceReset_eq_zero_iff {level : Level} {operations : List (Operation δ)} :
    (sinceReset level operations).countP (Operation.reaches level) = 0 ↔
      ∀ front operation back, operations = front ++ operation :: back →
        operation.reaches level = true → ∃ later ∈ back, later.resets level = true := by
  rw [List.countP_eq_zero]
  constructor
  · intro h front operation back hoperations hreaches
    by_contra hnone
    refine h operation (mem_sinceReset_iff.mpr ⟨front, back, hoperations,
      resets_eq_false_of_reaches hreaches, ?_⟩) hreaches
    simpa using hnone
  · intro h operation hmem hreaches
    obtain ⟨front, back, hoperations, -, hback⟩ := mem_sinceReset_iff.mp hmem
    obtain ⟨later, hlater, hreset⟩ := h front operation back hoperations hreaches
    rw [hback later hlater] at hreset
    simp at hreset

end Run

/-! ## A stack in front of a storage -/

section Storage

variable {δ : Type v}

/-- A new stack in front of an empty storage. -/
def new : Stack (Storage δ) := { inner := { inner := {} } }

/-- What the stack holds after some operations on a new one. -/
structure Accounted (operations : List (Operation δ)) (s : Stack (Storage δ)) : Prop where
  /-- The storage holds what has been sent to either counter. -/
  reports : s.inner.inner.toList = operations.filterMap Operation.report?
  released : s.release.release.release.toList = s.inner.inner.toList
  count : ∀ level, countAt s level =
    (sinceReset level operations).countP (Operation.reaches level)
  isClean_iff : ∀ level, isCleanAt s level = true ↔
    ∀ front operation back, operations = front ++ operation :: back →
      operation.reaches level = true → ∃ later ∈ back, later.resets level = true
  /-- Without the resets at one level the storage and the other count are the same. -/
  unaffected : ∀ level other, other ≠ level →
    let s' := new.run (operations.filter fun o => !o.resets other)
    s'.inner.inner = s.inner.inner ∧ countAt s' level = countAt s level

/-- **Stacked counters.**  After any operations on a stack in front of a storage, nothing
sent to either counter is lost or stored twice, and each counter has counted what has come
by since it was last reset. -/
theorem run_accounted (operations : List (Operation δ)) :
    Accounted operations (run new operations) := by
  have hcount : ∀ level, countAt (new : Stack (Storage δ)) level = 0 := by
    intro level
    cases level <;> rfl
  constructor
  · rw [inner_run, Storage.toList_foldl_receive]
    rfl
  · rfl
  · intro level
    exact countAt_run (hcount level) operations
  · intro level
    rw [isCleanAt_iff, countAt_run (hcount level), countP_sinceReset_eq_zero_iff]
  · intro level other hother
    refine ⟨?_, countAt_run_filter hother new operations⟩
    rw [inner_run, inner_run, filterMap_report?_filter]

end Storage

end Stack

end Lexis
