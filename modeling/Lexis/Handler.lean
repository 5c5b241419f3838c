/-!
# Handlers of diagnostics

Whoever finds something to report hands it to a handler and does not decide
what becomes of it. `Storage` keeps what it receives, `Discard` forgets it, and
a `Counter` counts what it passes on to the handler behind it, so counters can
be stacked.
-/

namespace Lexis

universe u v

/-- The states `H` of a handler that takes reports of type `δ`. -/
class Handler (H : Type u) (δ : Type v) where
  /-- The handler after one report. -/
  receive : H → δ → H

/-- A handler that keeps what it receives. -/
structure Storage (δ : Type u) where
  /-- What has been received. -/
  received : Array δ := #[]
deriving DecidableEq, Repr

/-- What has been received, in the order of arrival. -/
def Storage.toList {δ : Type u} (s : Storage δ) : List δ := s.received.toList

/-- Gives up the storage for what it holds. -/
def Storage.release {δ : Type u} (s : Storage δ) : Array δ := s.received

instance {δ : Type u} : Handler (Storage δ) δ where
  receive s diagnostic := { s with received := s.received.push diagnostic }

@[simp] theorem Storage.toList_receive {δ : Type u} (s : Storage δ) (diagnostic : δ) :
    (Handler.receive s diagnostic).toList = s.toList ++ [diagnostic] := by
  simp [Handler.receive, Storage.toList]

/-- A storage keeps all that it is sent, behind what it already holds. -/
theorem Storage.toList_foldl_receive {δ : Type u} (s : Storage δ) (diagnostics : List δ) :
    (diagnostics.foldl Handler.receive s).toList = s.toList ++ diagnostics := by
  induction diagnostics generalizing s with
  | nil => rw [List.foldl_nil, List.append_nil]
  | cons d ds ih =>
    rw [List.foldl_cons, ih, toList_receive, List.append_assoc, List.singleton_append]

/-- A handler that forgets what it receives. -/
structure Discard where
deriving DecidableEq, Repr

instance {δ : Type u} : Handler Discard δ where
  receive d _ := d

/-- A handler that counts what it passes on to another one. -/
structure Counter (H : Type u) where
  /-- The handler behind the counter. -/
  inner : H
  /-- How many reports have come since the last reset. -/
  count : Nat := 0
deriving DecidableEq, Repr

namespace Counter

variable {H : Type u} {δ : Type v}

instance [Handler H δ] : Handler (Counter H) δ where
  receive c diagnostic :=
    { c with inner := Handler.receive c.inner diagnostic, count := c.count + 1 }

/-- Counts from zero again. The handler behind the counter is left alone. -/
def reset (c : Counter H) : Counter H := { c with count := 0 }

/-- Gives up the counter for the handler behind it. -/
def release (c : Counter H) : H := c.inner

/-- Whether nothing has come since the last reset. -/
def isClean (c : Counter H) : Bool := c.count == 0

/-- Sends a report past the counter to the handler behind it. -/
def receiveInner [Handler H δ] (c : Counter H) (diagnostic : δ) : Counter H :=
  { c with inner := Handler.receive c.inner diagnostic }

@[simp] theorem inner_receive [Handler H δ] (c : Counter H) (diagnostic : δ) :
    (Handler.receive c diagnostic).inner = Handler.receive c.inner diagnostic := rfl

@[simp] theorem count_receive [Handler H δ] (c : Counter H) (diagnostic : δ) :
    (Handler.receive c diagnostic).count = c.count + 1 := rfl

/-- A counter counts all that it is sent, and passes all of it on. -/
theorem foldl_receive [Handler H δ] (c : Counter H) (diagnostics : List δ) :
    diagnostics.foldl Handler.receive c =
      { inner := diagnostics.foldl Handler.receive c.inner
        count := c.count + diagnostics.length } := by
  induction diagnostics generalizing c with
  | nil => rfl
  | cons d ds ih =>
    rw [List.foldl_cons, ih, inner_receive, count_receive, List.foldl_cons, List.length_cons,
      Nat.add_assoc, Nat.add_comm 1]

end Counter

end Lexis
