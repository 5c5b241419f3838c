import Lexis.Files.FileSystem

/-!
# Writing one file

Creating a file and filling it both put a file at one place, where no directory stands.  So
no directory comes or goes, every path leads where it led before, and every other place
holds what it held.  `FileSystem.Targets` says all that is asked of a path that can be written,
and what it says is still true once the file is written; writing it again then
changes nothing but the content.

## Main results

* `FileSystem.target_eq_ok_iff` — the paths that can be written.
* `FileSystem.follow_set` — writing a file turns no path away.
* `FileSystem.read_set` — nor does it change what another file holds.
* `FileSystem.target_set`, `FileSystem.set_set` — a file can be written again.
* `FileSystem.create_of_target`, `FileSystem.fill_set` — creating a file and filling it put
  one file there.
-/

namespace Lexis.FileSystem

/-! ## Paths that can be written -/

/-- The path asks for a file with this name in a directory that exists, and it can be
written there. -/
structure Targets (fs : FileSystem) (path : String) (directory : Place) (name : String) :
    Prop where
  last : (Path.segments path).getLast? = some name
  follow : fs.follow (fs.origin path) (Path.segments path).dropLast = .ok directory
  isDirectory : fs.requireDirectory directory = .ok ()
  proper : ¬ (name = "." ∨ name = ".." ∨ Path.hasTrailingSlash path = true)
  free : fs.find? (step directory name) ≠ some .directory
  permitted : fs.permit (step directory name) .writing = .ok ()

section Targets

variable {fs : FileSystem} {path name : String} {directory place : Place} {entry : Entry}

theorem target_eq_ok_iff : fs.target path = .ok place ↔
    ∃ directory name, fs.Targets path directory name ∧ step directory name = place := by
  constructor
  · intro h
    simp only [target] at h
    split at h
    · split at h <;> simp at h
    · next name hlast =>
        split at h
        · simp at h
        · next directory hfollow =>
            split at h
            · simp at h
            · next hdirectory =>
                split at h
                · simp at h
                · next hproper =>
                    split at h
                    · simp at h
                    · next hfree =>
                        cases hpermit : fs.permit (step directory name) .writing with
                        | error e =>
                            rw [hpermit] at h
                            simp [bind, Except.bind] at h
                        | ok _ =>
                            rw [hpermit] at h
                            exact ⟨directory, name,
                              ⟨hlast, hfollow, hdirectory, hproper, hfree, hpermit⟩,
                              Except.ok.inj h⟩
  · rintro ⟨directory, name, ⟨hlast, hfollow, hdirectory, hproper, hfree, hpermit⟩, rfl⟩
    simp only [target, hlast, hfollow, hdirectory, hpermit, if_neg hproper, if_neg hfree]
    rfl

/-- A proper name leads one level down. -/
theorem Targets.step_eq (h : fs.Targets path directory name) :
    step directory name = directory ++ [name] := by
  have hproper := h.proper
  rw [not_or, not_or] at hproper
  rw [step, if_neg hproper.1, if_neg hproper.2.1]

theorem Targets.step_ne_nil (h : fs.Targets path directory name) : step directory name ≠ [] := by
  rw [h.step_eq]
  exact List.append_ne_nil_of_right_ne_nil _ (List.cons_ne_nil _ _)

end Targets

/-! ## Writing a file -/

section Set

variable {fs : FileSystem} {place : Place}

@[simp] theorem refusals_set (fs : FileSystem) (place : Place) (entry : Entry) :
    (fs.set place entry).refusals = fs.refusals := by
  unfold set
  split <;> rfl

@[simp] theorem limits_set (fs : FileSystem) (place : Place) (entry : Entry) :
    (fs.set place entry).limits = fs.limits := by
  unfold set
  split <;> rfl

@[simp] theorem workingDirectory_set (fs : FileSystem) (place : Place) (entry : Entry) :
    (fs.set place entry).workingDirectory = fs.workingDirectory := by
  unfold set
  split <;> rfl

@[simp] theorem permit_set (fs : FileSystem) (place : Place) (entry : Entry) (other : Place)
    (access : Access) : (fs.set place entry).permit other access = fs.permit other access := by
  rw [permit, refusals_set, permit]

@[simp] theorem origin_set (fs : FileSystem) (place : Place) (entry : Entry) (path : String) :
    (fs.set place entry).origin path = fs.origin path := by
  rw [origin, workingDirectory_set, origin]

theorem find?_set_self (hplace : place ≠ []) (entry : Entry) :
    (fs.set place entry).find? place = some entry := by
  rw [find?_set fs hplace, if_pos rfl]

theorem find?_set_of_ne (hplace : place ≠ []) (entry : Entry) {other : Place}
    (hother : other ≠ place) : (fs.set place entry).find? other = fs.find? other := by
  rw [find?_set fs hplace, if_neg hother]

/-- What has been put at a place is replaced by what is put there next. -/
theorem set_set (fs : FileSystem) (place : Place) (entry entry' : Entry) :
    (fs.set place entry).set place entry' = fs.set place entry' := by
  by_cases hsome : (fs.entries.lookup place).isSome = true
  · have hreplaced : ((fs.entries.map fun e =>
        if e.1 = place then (place, entry) else e).lookup place).isSome = true := by
      rw [lookup_replace, if_pos ⟨rfl, hsome⟩]
      rfl
    have htwice : ((fs.entries.map fun e => if e.1 = place then (place, entry) else e).map
        fun e => if e.1 = place then (place, entry') else e) =
          fs.entries.map fun e => if e.1 = place then (place, entry') else e := by
      rw [List.map_map]
      apply List.map_congr_left
      intro e _
      by_cases he : e.1 = place
      · simp [he]
      · simp [he]
    simp only [set, hsome, hreplaced, if_true, htwice]
  · have hother : ∀ e ∈ fs.entries, e.1 ≠ place := by
      intro e he heq
      rw [Option.not_isSome_iff_eq_none, List.lookup_eq_none_iff] at hsome
      have hne := hsome e he
      rw [heq] at hne
      simp at hne
    have hadded : ((fs.entries ++ [(place, entry)]).lookup place).isSome = true := by
      rw [List.lookup_append, List.lookup_cons_self]
      cases fs.entries.lookup place <;> rfl
    have hkept : (fs.entries.map fun e => if e.1 = place then (place, entry') else e) =
        fs.entries := by
      conv => rhs; rw [← List.map_id fs.entries]
      apply List.map_congr_left
      intro e he
      rw [if_neg (hother e he)]
      rfl
    simp only [set, hsome, hadded, if_true, if_false, Bool.false_eq_true, List.map_append, hkept,
      List.map_cons, List.map_nil]

end Set

/-! ## Paths after a file has been written -/

section Frame

variable {fs : FileSystem} {place : Place} {content : Bytes}

/-- No directory is lost. -/
theorem requireDirectory_set (hplace : place ≠ []) (hfree : fs.find? place ≠ some .directory)
    {directory : Place} (h : fs.requireDirectory directory = .ok ()) :
    (fs.set place (.file content)).requireDirectory directory = .ok () := by
  have hdirectory : fs.find? directory = some .directory := by
    unfold requireDirectory at h
    split at h
    · simp at h
    · simp at h
    · next hfound => exact hfound
  have hne : directory ≠ place := by
    rintro rfl
    exact hfree hdirectory
  rw [requireDirectory, hdirectory] at h
  rw [requireDirectory, find?_set_of_ne hplace _ hne, hdirectory, permit_set]
  exact h

/-- Names lead where they led before. -/
theorem follow_set (hplace : place ≠ []) (hfree : fs.find? place ≠ some .directory)
    {names : List String} {start reached : Place} (h : fs.follow start names = .ok reached) :
    (fs.set place (.file content)).follow start names = .ok reached := by
  induction names generalizing start with
  | nil => exact h
  | cons name names ih =>
      rw [follow] at h ⊢
      cases hrequire : fs.requireDirectory start with
      | error e =>
          rw [hrequire] at h
          simp at h
      | ok _ =>
          rw [hrequire] at h
          rw [requireDirectory_set hplace hfree hrequire]
          exact ih h

variable {path : String}

/-- The path leads to the place. -/
def Leads (fs : FileSystem) (path : String) (place : Place) : Prop :=
  fs.follow (fs.origin path) (Path.segments path) = .ok place

/-- What can be read is at the place to which its path leads. -/
theorem exists_leads_of_read {bytes : Bytes} (h : fs.read path = .ok bytes) :
    ∃ other, fs.Leads path other := by
  unfold read at h
  split at h
  · simp at h
  · split at h
    · simp at h
    · next other hfollow => exact ⟨other, hfollow⟩

/-- What another file holds is still read. -/
theorem read_set (hplace : place ≠ []) (hfree : fs.find? place ≠ some .directory)
    {other : Place} (hleads : fs.Leads path other) (hne : other ≠ place) :
    (fs.set place (.file content)).read path = fs.read path := by
  have hafter : (fs.set place (.file content)).follow (fs.origin path) (Path.segments path) =
      .ok other := follow_set hplace hfree hleads
  rw [read, read, origin_set, hafter, hleads]
  simp only [find?_set_of_ne hplace _ hne, permit_set]

/-- A path that can be written can be written again. -/
theorem Targets.set {directory : Place} {name : String} (h : fs.Targets path directory name) :
    (fs.set (step directory name) (.file content)).Targets path directory name := by
  constructor
  · exact h.last
  · rw [origin_set]
    exact follow_set h.step_ne_nil h.free h.follow
  · exact requireDirectory_set h.step_ne_nil h.free h.isDirectory
  · exact h.proper
  · rw [find?_set_self h.step_ne_nil]
    simp
  · rw [permit_set]
    exact h.permitted

theorem target_set (h : fs.target path = .ok place) :
    (fs.set place (.file content)).target path = .ok place := by
  obtain ⟨directory, name, htargets, rfl⟩ := target_eq_ok_iff.mp h
  exact target_eq_ok_iff.mpr ⟨directory, name, htargets.set, rfl⟩

/-- A path that can be written leads to no directory. -/
theorem place_of_target (h : fs.target path = .ok place) :
    place ≠ [] ∧ fs.find? place ≠ some .directory := by
  obtain ⟨directory, name, htargets, rfl⟩ := target_eq_ok_iff.mp h
  exact ⟨htargets.step_ne_nil, htargets.free⟩

/-! ## Creating and filling a file -/

theorem create_of_target (h : fs.target path = .ok place) :
    fs.create path = .ok (place, fs.set place (.file [])) := by
  rw [create, h]

theorem create_of_target_error {e : FileError} (h : fs.target path = .error e) :
    fs.create path = .error e := by
  rw [create, h]

/-- It makes no difference that a file has been emptied before it is filled. -/
theorem fill_set (fs : FileSystem) (place : Place) (entry : Entry) (content : Bytes) :
    (fs.set place entry).fill place content = fs.fill place content := by
  rw [fill, limits_set, set_set, fill]

theorem fill_of_admits (h : Limit.Admits (fs.limits.lookup place) content) :
    fs.fill place content = (fs.set place (.file content), none) := by
  rw [fill, Limit.cut_of_admits h]

end Frame

end Lexis.FileSystem
