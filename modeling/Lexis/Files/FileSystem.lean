import Lexis.Files.Path
import Lexis.Text.Utf8

/-!
# File systems

A tree of directories and files, with a directory to work in. Entries are kept
by the names that lead to them from the root. A path is followed name by name,
and every name but the last has to be a directory that exists.

What could be done with an entry may still be refused, for want of permission
or for any other reason of the system. And a file that has been opened for
writing may take only some of what is written to it, because a disk is full or
for any other reason. Refusals and limits are part of the state, and nothing that
is done here changes them.

## Main definitions

* `FileSystem.read` — the content of the file at a path.
* `FileSystem.create` — the file system with a file created or emptied.
* `FileSystem.fill` — what is written to such a file, as far as it is taken.
* `FileSystem.files` — the files below the working directory.
-/

namespace Lexis

/-- Why a file cannot be read or written. -/
inductive FileError where
  /-- There is no entry of that name. -/
  | noEntry
  /-- A file stands where a directory is needed. -/
  | notDirectory
  /-- A directory stands where a file is to be written. -/
  | isDirectory
  /-- A directory has no content to read. -/
  | noDevice
  /-- The system refuses for another reason, which it gives a number and words. -/
  | refused (code : Nat) (description : String)
deriving DecidableEq, Repr

namespace FileError

/-- The number of the error. -/
def code : FileError → Nat
  | .noEntry => 2
  | .noDevice => 19
  | .notDirectory => 20
  | .isDirectory => 21
  | .refused code _ => code

/-- The error with this number. -/
def ofCode? (n : Nat) : Option FileError :=
  [noEntry, noDevice, notDirectory, isDirectory].find? (·.code == n)

/-- The description of the error. -/
def description : FileError → String
  | .noEntry => "No such file or directory"
  | .noDevice => "No such device"
  | .notDirectory => "Not a directory"
  | .isDirectory => "Is a directory"
  | .refused _ description => description

/-- The wording of the error. -/
def message (e : FileError) : String := s!"{e.description} (os error {e.code})"

instance : ToString FileError where
  toString := message

end FileError

/-- What a name can stand for. -/
inductive Entry where
  /-- A file with its content. -/
  | file (content : Bytes)
  /-- A directory. -/
  | directory
deriving DecidableEq, Repr

/-- The names that lead from the root to an entry. The root has none. -/
abbrev Place := List String

/-- What is done with an entry. -/
inductive Access where
  /-- A name is looked up in a directory. -/
  | search
  /-- A file is read. -/
  | reading
  /-- A file is created or replaced. -/
  | writing
deriving DecidableEq, Repr

/-- A bound on what is taken of what is written. -/
structure Limit where
  /-- How much is taken. -/
  size : Nat
  /-- Why no more is taken. -/
  error : FileError
deriving DecidableEq, Repr

namespace Limit

variable {α : Type} {limit? : Option Limit} {content : List α}

/-- What is taken of a content that is written, and why that is not all of it. -/
def cut (limit? : Option Limit) (content : List α) : List α × Option FileError :=
  match limit? with
  | none => (content, none)
  | some limit =>
    if content.length ≤ limit.size then (content, none)
    else (content.take limit.size, some limit.error)

/-- The whole content is taken. -/
def Admits (limit? : Option Limit) (content : List α) : Prop :=
  ∀ limit, limit? = some limit → content.length ≤ limit.size

theorem admits_none (content : List α) : Admits none content := by
  intro limit h
  simp at h

theorem cut_of_admits (h : Admits limit? content) : cut limit? content = (content, none) := by
  cases limit? with
  | none => rfl
  | some limit => exact if_pos (h limit rfl)

theorem cut_of_lt {limit : Limit} (h : limit.size < content.length) :
    cut (some limit) content = (content.take limit.size, some limit.error) :=
  if_neg (Nat.not_le.mpr h)

theorem exists_cut_of_not_admits (h : ¬ Admits limit? content) :
    ∃ limit, limit? = some limit ∧
      cut limit? content = (content.take limit.size, some limit.error) := by
  cases limit? with
  | none => exact absurd (admits_none content) h
  | some limit =>
    refine ⟨limit, rfl, cut_of_lt (Nat.not_le.mp fun hle => h ?_)⟩
    rintro _ ⟨⟩
    exact hle

end Limit

/-- A tree of directories and files. -/
structure FileSystem where
  /-- The entries below the root. -/
  entries : List (Place × Entry) := []
  /-- The directory from which paths start that do not start at the root. -/
  workingDirectory : Place := []
  /-- What is refused, and why. -/
  refusals : List ((Place × Access) × FileError) := []
  /-- How many bytes the files take that do not take everything. -/
  limits : List (Place × Limit) := []
deriving DecidableEq, Repr

namespace FileSystem

/-- What stands at a place. The root is always a directory. -/
def find? (fs : FileSystem) (place : Place) : Option Entry :=
  if place = [] then some .directory else fs.entries.lookup place

/-- Fails if an access is refused. -/
def permit (fs : FileSystem) (place : Place) (access : Access) : Except FileError Unit :=
  match fs.refusals.lookup (place, access) with
  | some e => .error e
  | none => .ok ()

/-- Puts an entry at a place, where it replaces what was there. -/
def set (fs : FileSystem) (place : Place) (entry : Entry) : FileSystem :=
  if (fs.entries.lookup place).isSome then
    { fs with entries := fs.entries.map fun e => if e.1 = place then (place, entry) else e }
  else { fs with entries := fs.entries ++ [(place, entry)] }

/-- Looking up in entries of which one has been replaced. -/
theorem lookup_replace (entries : List (Place × Entry)) (place other : Place) (entry : Entry) :
    (entries.map fun e => if e.1 = place then (place, entry) else e).lookup other =
      if other = place ∧ (entries.lookup place).isSome then some entry
      else entries.lookup other := by
  induction entries with
  | nil => simp
  | cons e entries ih =>
    obtain ⟨key, value⟩ := e
    by_cases hkey : key = place
    · subst hkey
      by_cases hother : other = key
      · subst hother
        simp
      · have hne : (other == key) = false := by simpa using hother
        simp only [List.map_cons, if_true, List.lookup_cons, hne, hother, false_and, if_false]
          at ih ⊢
        exact ih
    · have hne : (place == key) = false := by simpa using fun h => hkey h.symm
      by_cases hother : other = key
      · subst hother
        simp [hkey]
      · have hne' : (other == key) = false := by simpa using hother
        simp only [List.map_cons, hkey, if_false, List.lookup_cons, hne, hne', ih]

/-- What stands at a place once an entry has been put somewhere. -/
theorem find?_set (fs : FileSystem) {place : Place} (hplace : place ≠ []) (entry : Entry)
    (other : Place) :
    (fs.set place entry).find? other = if other = place then some entry else fs.find? other := by
  unfold set
  split
  · next hsome =>
    by_cases hother : other = place
    · subst hother
      simp [find?, hplace, lookup_replace, hsome]
    · simp [find?, lookup_replace, hother]
  · next hnone =>
    have hnone' : fs.entries.lookup place = none := Option.not_isSome_iff_eq_none.mp hnone
    by_cases hother : other = place
    · subst hother
      simp only [find?, hplace, if_false, List.lookup_append, hnone', List.lookup_cons_self,
        Option.none_or, if_true]
    · have hne : (other == place) = false := by simpa using hother
      simp [find?, List.lookup_append, List.lookup_cons, hother, hne]

/-! ## Following paths -/

/-- Requires a directory at a place, in which names can be looked up. -/
def requireDirectory (fs : FileSystem) (place : Place) : Except FileError Unit :=
  match fs.find? place with
  | none => .error .noEntry
  | some (.file _) => .error .notDirectory
  | some .directory => fs.permit place .search

/-- The place that a name stands for in a directory. -/
def step (directory : Place) (name : String) : Place :=
  if name = "." then directory
  else if name = ".." then directory.dropLast
  else directory ++ [name]

/-- Follows names from a place. The place reached need not exist, but each
place that a name is looked up in has to be a directory. -/
def follow (fs : FileSystem) (place : Place) : List String → Except FileError Place
  | [] => .ok place
  | name :: names =>
    match fs.requireDirectory place with
    | .error e => .error e
    | .ok () => fs.follow (step place name) names

/-- The place where a path starts. -/
def origin (fs : FileSystem) (path : String) : Place :=
  if Path.isAbsolute path then [] else fs.workingDirectory

/-! ## Reading -/

/-- The content of the file at a path. The empty path leads nowhere. -/
def read (fs : FileSystem) (path : String) : Except FileError Bytes :=
  if path = "" then .error .noEntry
  else
    match fs.follow (fs.origin path) (Path.segments path) with
    | .error e => .error e
    | .ok place =>
      match fs.find? place with
      | none => .error .noEntry
      | some .directory => do
        fs.permit place .reading
        .error .noDevice
      | some (.file content) =>
        if Path.hasTrailingSlash path then .error .notDirectory
        else do
          fs.permit place .reading
          .ok content

/-! ## Writing -/

/-- The place of the file that a path names for writing. The directory it is to
stand in has to exist, the path has to end in a proper name that is not taken by
a directory, and the writing must not be refused. -/
def target (fs : FileSystem) (path : String) : Except FileError Place :=
  let names := Path.segments path
  match names.getLast? with
  | none => if Path.isAbsolute path then .error .isDirectory else .error .noEntry
  | some last =>
    match fs.follow (fs.origin path) names.dropLast with
    | .error e => .error e
    | .ok directory =>
      match fs.requireDirectory directory with
      | .error e => .error e
      | .ok () =>
        if last = "." ∨ last = ".." ∨ Path.hasTrailingSlash path then .error .isDirectory
        else if fs.find? (step directory last) = some .directory then .error .isDirectory
        else do
          fs.permit (step directory last) .writing
          .ok (step directory last)

/-- Creates the file that a path names, or empties it. -/
def create (fs : FileSystem) (path : String) : Except FileError (Place × FileSystem) :=
  match fs.target path with
  | .error e => .error e
  | .ok place => .ok (place, fs.set place (.file []))

/-- Writes a content to the empty file at a place, and tells why if the file takes
only the front of it. -/
def fill (fs : FileSystem) (place : Place) (content : Bytes) : FileSystem × Option FileError :=
  let parts := Limit.cut (fs.limits.lookup place) content
  (fs.set place (.file parts.1), parts.2)

/-! ## The files of the working directory -/

/-- Makes a directory at every place on the way from `directory` along `names`. -/
def makeDirectories (fs : FileSystem) (directory : Place) : List String → FileSystem
  | [] => fs
  | name :: names =>
    (fs.set (directory ++ [name]) .directory).makeDirectories (directory ++ [name]) names

/-- Puts a file below the working directory, with the directories on its way. -/
def addFile (fs : FileSystem) (path : String) (content : Bytes) : FileSystem :=
  let names := Path.segments path
  (fs.makeDirectories fs.workingDirectory names.dropLast).set
    (fs.workingDirectory ++ names) (.file content)

/-- The file system in which a working directory holds just these files. -/
def ofFiles (workingDirectory : Place) (files : List (String × Bytes)) : FileSystem :=
  files.foldl (fun fs file => fs.addFile file.1 file.2)
    (({ workingDirectory } : FileSystem).makeDirectories [] workingDirectory)

/-- The files below the working directory, by their paths from there. -/
def files (fs : FileSystem) : List (String × Bytes) :=
  fs.entries.filterMap fun (place, entry) =>
    match entry with
    | .directory => none
    | .file content =>
      if fs.workingDirectory.isPrefixOf place then
        some ("/".intercalate (place.drop fs.workingDirectory.length), content)
      else none

end FileSystem

end Lexis
