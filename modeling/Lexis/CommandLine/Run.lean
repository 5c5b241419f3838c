import Lexis.CommandLine.Arguments
import Lexis.Files.FileSystem
import Lexis.Source.Excerpt
import Lexis.TokenStream

/-!
# Runs of the program

A run reads a source file, scans it, reports every malformed token to the
standard error, and writes the listing of the tokens. `Report` is what a scan
has to say and depends on the source alone; `Surroundings.carryOut` fits it
between the reading of the source and the writing of the listing, each of which
can fail.

What reading and writing are is left to the surroundings of the run. They are a
system in which the program is started, or, in `Host.run`, a record of files and
streams on which a run can be calculated.

## Main definitions

* `Report.ofFile` — all texts that a scan produces.
* `Surroundings.carryOut` — the steps of a run, in any surroundings.
* `Host.run` — a whole run, on files, a standard input and a standard output.

## Main statements

* `Host.run_eq` — what such a run comes to.
-/

namespace Lexis

open Console (Message Severity)

/-! ## Loading the source -/

/-- Why a source cannot be loaded. -/
inductive LoadError where
  /-- Its file cannot be read. -/
  | unreadable (error : FileError)
  /-- Its bytes are not text. -/
  | notText (error : Utf8.DecodeError)
deriving DecidableEq, Repr

/-- The wording of a failed loading. -/
def LoadError.message : LoadError → String
  | .unreadable e => e.message
  | .notText e => e.message

instance : ToString LoadError where
  toString := LoadError.message

/-- Whether a path stands for the standard input. -/
def isStandardInput (path : String) : Bool := Path.same path "-"

/-- The path under which a source is shown. -/
def shownPath (path : String) : String := if isStandardInput path then "<stdin>" else path

/-- The source made from the bytes that its path leads to. The standard input is
read into memory, a stored file is mapped. -/
def SourceFile.ofInput (path : String) (bytes : Bytes) : Except Utf8.DecodeError SourceFile :=
  if isStandardInput path then ofBytes "<stdin>" bytes else ofMapping path (mapping? bytes)

/-- Either way the source is made from its bytes. -/
theorem SourceFile.ofInput_eq (path : String) (bytes : Bytes) :
    ofInput path bytes = ofBytes (shownPath path) bytes := by
  rw [ofInput, shownPath, ofMapping_mapping?]
  split <;> rfl

/-- What a run finds outside the program. -/
structure Host where
  /-- The files. -/
  files : FileSystem
  /-- All that the standard input holds, or why it cannot be read. -/
  stdin : Except FileError Bytes
  /-- How many characters the standard output takes, if it does not take everything. -/
  stdout : Option Limit := none

namespace Host

/-- The bytes of the source that a path names. -/
def input (host : Host) (path : String) : Except FileError Bytes :=
  if isStandardInput path then host.stdin else host.files.read path

/-- Loads the source that a path names. -/
def load (host : Host) (path : String) : Except LoadError SourceFile :=
  match host.input path with
  | .error e => .error (.unreadable e)
  | .ok bytes => (SourceFile.ofInput path bytes).mapError .notText

end Host

/-! ## The log -/

/-- Whether messages of a severity are printed. Errors and warnings always are. -/
def isLogged (verbose : Bool) : Severity → Bool
  | .error | .warning => true
  | .info | .debug => verbose

/-- The line that a message adds to the log, if it is printed at all. -/
def logLine (verbose : Bool) (severity : Severity) (text : String) : String :=
  if isLogged verbose severity then Message.logged ⟨severity, text⟩ else ""

/-- The line that reports a failure with the file at a path. -/
def failureLine (path reason : String) : String :=
  logLine false .error (path ++ ": " ++ reason)

/-! ## Reports -/

/-- A handler that writes each diagnostic down with the excerpt it points at. -/
structure Printer where
  /-- The source of the excerpts. -/
  file : SourceFile
  /-- What has been written. -/
  output : String := ""

/-- The text that shows a diagnostic: its message, the excerpt and an empty line. -/
def SourceFile.explain (f : SourceFile) (d : Diagnostic) : String :=
  d.message.logged ++ (f.excerptOf d).render ++ "\n"

instance : Handler Printer Diagnostic where
  receive p d := { p with output := p.output ++ p.file.explain d }

/-- What a scan has to say. -/
structure Report where
  /-- What goes to the standard error before the listing is written. -/
  opening : String
  /-- The listing of the tokens. -/
  listing : String
  /-- What goes to the standard error once the listing is written. -/
  closing : String
  /-- Whether no token is malformed. -/
  isClean : Bool
deriving DecidableEq, Repr

/-- What is told about a source that has been read. -/
def SourceFile.description (f : SourceFile) : String :=
  s!"read {f.size} bytes ({f.filledLineCount} lines) from {f.path}"

/-- Scans a source file. -/
def Report.ofFile (verbose : Bool) (f : SourceFile) : Report :=
  let scan := TokenStream.tokenize f.content ({ inner := { file := f } } : Counter Printer)
  let stream := scan.1
  let counter := scan.2
  { opening :=
      logLine verbose .debug f.description ++ counter.inner.output ++
        logLine verbose .info s!"scanned {stream.length} tokens"
    listing := stream.listing
    closing :=
      if counter.isClean then ""
      else logLine verbose .warning s!"found {counter.count} invalid token(s)"
    isClean := counter.isClean }

/-! ## Runs in any surroundings -/

/-- What a run asks of its surroundings. -/
structure Surroundings (m : Type → Type) where
  /-- Loads the source that a path names, or tells why it cannot be loaded. -/
  load : String → m (Except String SourceFile)
  /-- Writes a text to the standard error. -/
  tell : String → m Unit
  /-- Writes a text to the file at a path or to the standard output. If that
  fails, the path is returned with the reason. -/
  deliver : Option String → String → m (Option (String × String))

/-- Carries out what the arguments ask for, and tells whether that is a success.
The listing is delivered only after the scan, and a source that cannot be loaded
leaves its destination alone. -/
def Surroundings.carryOut {m : Type → Type} [Monad m] (surroundings : Surroundings m)
    (args : Arguments) : m Bool := do
  match ← surroundings.load args.file with
  | .error reason =>
    surroundings.tell (failureLine args.file reason)
    return false
  | .ok source =>
    let report := Report.ofFile args.verbose source
    surroundings.tell report.opening
    match ← surroundings.deliver args.output report.listing with
    | some (path, reason) =>
      surroundings.tell (failureLine path reason)
      return false
    | none =>
      surroundings.tell report.closing
      return report.isClean

/-! ## Runs on a host -/

/-- The path under which the standard output is shown. -/
def standardOutputPath : String := "<stdout>"

/-- What becomes of a text that is to be delivered. -/
structure Delivery where
  /-- What was written to the standard output. -/
  stdout : String
  /-- The file system afterwards. -/
  files : FileSystem
  /-- The path that failed and the reason, unless all of the text was written. -/
  failure? : Option (String × FileError)
deriving DecidableEq, Repr

/-- Writes a text to the file at a path or to the standard output. A file is created
first, which can fail, and so can the writing, once some of the text is written. -/
def Host.deliver (host : Host) (output : Option String) (text : String) : Delivery :=
  match output with
  | none =>
    let parts := Limit.cut host.stdout text.toList
    ⟨String.ofList parts.1, host.files, parts.2.map (standardOutputPath, ·)⟩
  | some path =>
    match host.files.create path with
    | .error e => ⟨"", host.files, some (path, e)⟩
    | .ok (place, files) =>
      let filled := files.fill place (Utf8.encode text)
      ⟨"", filled.1, filled.2.map (path, ·)⟩

/-- A host while a run goes on, with what has been written to its streams. -/
structure Session where
  /-- The host. -/
  host : Host
  /-- What has been written to the standard output. -/
  stdout : String := ""
  /-- What has been written to the standard error. -/
  stderr : String := ""

/-- What a run finds on a host. -/
def Session.surroundings : Surroundings (StateM Session) where
  load path := do return ((← get).host.load path).mapError LoadError.message
  tell text := modify fun s => { s with stderr := s.stderr ++ text }
  deliver output text := do
    let s ← get
    let delivery := s.host.deliver output text
    set { s with
      host := { s.host with files := delivery.files }
      stdout := s.stdout ++ delivery.stdout }
    return delivery.failure?.map fun (path, e) => (path, e.message)

/-- What a run leaves behind. -/
structure Outcome where
  /-- Whether the run counts as a success. -/
  success : Bool
  /-- What was written to the standard output. -/
  stdout : String
  /-- What was written to the standard error. -/
  stderr : String
  /-- The file system after the run. -/
  files : FileSystem
deriving DecidableEq, Repr

/-- The exit code of a run. -/
def Outcome.exitCode (o : Outcome) : Nat := if o.success then 0 else 1

/-- Runs the program on a host. -/
def Host.run (host : Host) (args : Arguments) : Outcome :=
  let (success, session) := ((Session.surroundings.carryOut args).run { host }).run
  { success
    stdout := session.stdout
    stderr := session.stderr
    files := session.host.files }

/-- A run on a host, one step behind the other. -/
theorem Host.run_eq (host : Host) (args : Arguments) :
    host.run args =
      match host.load args.file with
      | .error e =>
        { success := false
          stdout := ""
          stderr := failureLine args.file e.message
          files := host.files }
      | .ok source =>
        let report := Report.ofFile args.verbose source
        let delivery := host.deliver args.output report.listing
        match delivery.failure? with
        | some (path, e) =>
          { success := false
            stdout := delivery.stdout
            stderr := report.opening ++ failureLine path e.message
            files := delivery.files }
        | none =>
          { success := report.isClean
            stdout := delivery.stdout
            stderr := report.opening ++ report.closing
            files := delivery.files } := by
  rw [run, Surroundings.carryOut]
  cases hload : host.load args.file with
  | error e =>
    have hreason : (host.load args.file).mapError LoadError.message = .error e.message := by
      rw [hload]
      rfl
    simp [Session.surroundings, hreason]
  | ok source =>
    have hsource : (host.load args.file).mapError LoadError.message = .ok source := by
      rw [hload]
      rfl
    cases hfailure : (host.deliver args.output
        (Report.ofFile args.verbose source).listing).failure? <;>
      simp [Session.surroundings, hsource, hfailure]

/-- Runs the program between streams that work. -/
def run (fs : FileSystem) (stdin : Bytes) (args : Arguments) : Outcome :=
  ({ files := fs, stdin := .ok stdin } : Host).run args

end Lexis
