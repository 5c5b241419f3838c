import Lexis.Proofs.Encoding
import Lexis.Proofs.Files
import Lexis.Proofs.Reports

/-!
# Whole runs

A run loads its source, scans it and delivers the listing.  There are three ways
through it: the source is not loaded, the listing is not delivered, or both succeed.
Which one is taken depends on the host before the run, because nothing is written
until the listing is delivered, and behind that nothing can fail.  An output file that
cannot be created is left as it was.  One that takes only some of the listing is not.

## Main results

* `Host.load_of_provides`, `Host.exists_withholds` — a source is loaded if its bytes
  encode a text.
* `Host.failure?_of_accepts`, `Host.exists_failure` — a listing is delivered if its
  destination takes all of it.
* `Host.run_complete` — what a run leaves behind if source and destination are fine,
  and that every other run exits with 1.
* `Host.run_failed` — a run that fails leaves all files as they were and reports one
  error.
-/

namespace Lexis

open Console (Message)

namespace Host

/-! ## Loading the source -/

/-- The source can be read, and its bytes are the encoding of the text `s`. -/
def Provides (host : Host) (path : String) (s : String) : Prop :=
  host.input path = .ok (Utf8.encode s)

/-- The source cannot be read, or its bytes encode no text. -/
def Withholds (host : Host) (path : String) : LoadError → Prop
  | .unreadable e => host.input path = .error e
  | .notText e => ∃ bytes, host.input path = .ok bytes ∧ Utf8.decode bytes = .error e

section Load

variable {host : Host} {path : String}

theorem load_of_provides {s : String} (h : host.Provides path s) :
    host.load path = .ok ⟨shownPath path, s⟩ := by
  have hdecode : Utf8.decode (Utf8.encode s) = .ok s := Utf8.decode_eq_ok_iff.mpr rfl
  rw [load, h]
  simp only [SourceFile.ofInput_eq, SourceFile.ofBytes, hdecode]
  rfl

/-- A source provides one text only. -/
theorem Provides.content_eq {s s' : String} (h : host.Provides path s)
    (h' : host.Provides path s') : s = s' := by
  have hloaded := load_of_provides h
  rw [load_of_provides h'] at hloaded
  exact congrArg SourceFile.content (Except.ok.inj hloaded).symm

theorem not_provides_of_error {e : FileError} (h : host.input path = .error e) :
    ¬ ∃ s, host.Provides path s := by
  rintro ⟨s, hs⟩
  rw [Provides, h] at hs
  simp at hs

/-- What is not provided is withheld for a reason. -/
theorem exists_withholds (h : ¬ ∃ s, host.Provides path s) :
    ∃ e, host.Withholds path e ∧ host.load path = .error e := by
  cases hinput : host.input path with
  | error e => exact ⟨.unreadable e, hinput, by rw [load, hinput]⟩
  | ok bytes =>
      cases hdecode : Utf8.decode bytes with
      | ok s =>
          rw [Utf8.decode_eq_ok_iff] at hdecode
          rw [hdecode] at hinput
          exact absurd ⟨s, hinput⟩ h
      | error e =>
          refine ⟨.notText e, ⟨bytes, hinput, hdecode⟩, ?_⟩
          rw [load, hinput]
          simp only [SourceFile.ofInput_eq, SourceFile.ofBytes, hdecode]
          rfl

end Load

/-! ## Delivering the listing -/

/-- The listing of a source text: the rows of its tokens. -/
abbrev rows (s : String) : String :=
  String.join ((TokenStream.ofString s).toList.map Token.row)

/-- The destination takes all of the text: it is the standard output, or a path that can be
written, and no limit is set to it that the text goes beyond. -/
def Accepts (host : Host) (text : String) : Option String → Prop
  | none => Limit.Admits host.stdout text.toList
  | some path => ∃ place, host.files.target path = .ok place ∧
      Limit.Admits (host.files.limits.lookup place) (Utf8.encode text)

section Deliver

variable {host : Host} {path text : String} {place : Place}

theorem deliver_none (h : host.Accepts text none) :
    host.deliver none text = ⟨text, host.files, none⟩ := by
  rw [deliver, Limit.cut_of_admits h, String.ofList_toList]
  rfl

/-- A file is created and then filled, which puts it there once. -/
theorem deliver_of_target (h : host.files.target path = .ok place) :
    host.deliver (some path) text =
      ⟨"", (host.files.fill place (Utf8.encode text)).1,
        (host.files.fill place (Utf8.encode text)).2.map (path, ·)⟩ := by
  rw [deliver, FileSystem.create_of_target h]
  simp only [FileSystem.fill_set]

theorem deliver_some (htarget : host.files.target path = .ok place)
    (hroom : Limit.Admits (host.files.limits.lookup place) (Utf8.encode text)) :
    host.deliver (some path) text =
      ⟨"", host.files.set place (.file (Utf8.encode text)), none⟩ := by
  rw [deliver_of_target htarget, FileSystem.fill_of_admits hroom]
  rfl

theorem deliver_some_of_error {e : FileError} (h : host.files.target path = .error e) :
    host.deliver (some path) text = ⟨"", host.files, some (path, e)⟩ := by
  rw [deliver, FileSystem.create_of_target_error h]

/-- A destination that accepts a text does not fail on it. -/
theorem failure?_of_accepts {output : Option String} (h : host.Accepts text output) :
    (host.deliver output text).failure? = none := by
  cases output with
  | none => rw [deliver_none h]
  | some path =>
      obtain ⟨place, htarget, hroom⟩ := h
      rw [deliver_some htarget hroom]

/-- A destination that does not accept a text fails with a reason. -/
theorem exists_failure {output : Option String} (h : ¬ host.Accepts text output) :
    ∃ path e, (host.deliver output text).failure? = some (path, e) := by
  cases output with
  | none =>
      obtain ⟨limit, -, hcut⟩ := Limit.exists_cut_of_not_admits h
      refine ⟨standardOutputPath, limit.error, ?_⟩
      rw [deliver, hcut]
      rfl
  | some path =>
      cases htarget : host.files.target path with
      | error e => exact ⟨path, e, by rw [deliver_some_of_error htarget]⟩
      | ok place =>
          obtain ⟨limit, -, hcut⟩ := Limit.exists_cut_of_not_admits
            fun hroom => h ⟨place, htarget, hroom⟩
          refine ⟨path, limit.error, ?_⟩
          rw [deliver_of_target htarget, FileSystem.fill, hcut]
          rfl

end Deliver

/-! ## The three ways through a run -/

section Run

variable {host : Host} (args : Arguments)

theorem failureLine_eq (path reason : String) :
    failureLine path reason = Message.printed ⟨.error, path ++ ": " ++ reason⟩ := by
  rw [failureLine, Report.logLine_eq]
  rfl

theorem run_of_load_error {e : LoadError} (h : host.load args.file = .error e) :
    host.run args =
      { success := false
        stdout := ""
        stderr := Message.printed ⟨.error, args.file ++ ": " ++ e.message⟩
        files := host.files } := by
  rw [run_eq, h]
  simp only [failureLine_eq]

theorem run_of_failure {f : SourceFile} {path : String} {e : FileError}
    (hload : host.load args.file = .ok f)
    (h : (host.deliver args.output (rows f.content)).failure? = some (path, e)) :
    host.run args =
      { success := false
        stdout := (host.deliver args.output (rows f.content)).stdout
        stderr := (Report.ofFile args.verbose f).opening ++
          Message.printed ⟨.error, path ++ ": " ++ e.message⟩
        files := (host.deliver args.output (rows f.content)).files } := by
  rw [run_eq, hload]
  simp only [Report.listing_ofFile, h, failureLine_eq]

theorem run_of_delivery {f : SourceFile} (hload : host.load args.file = .ok f)
    (h : (host.deliver args.output (rows f.content)).failure? = none) :
    host.run args =
      { success := (Report.ofFile args.verbose f).isClean
        stdout := (host.deliver args.output (rows f.content)).stdout
        stderr := (Report.ofFile args.verbose f).opening ++ (Report.ofFile args.verbose f).closing
        files := (host.deliver args.output (rows f.content)).files } := by
  rw [run_eq, hload]
  simp only [Report.listing_ofFile, h]

end Run

end Host

/-! ## Runs that succeed in all their steps -/

namespace Host

/-- The run has written nothing but messages, and counts as a failure. -/
structure Untouched (host : Host) (o : Outcome) : Prop where
  files : o.files = host.files
  stdout : o.stdout = ""
  exitCode : o.exitCode = 1

/-- **Failing runs.**  A run whose source is withheld, or whose output file cannot be
written, leaves all files as they were and the standard output empty, and exits with 1.
In the first case the standard error is one message, which names the path as it was
given.  In the second it is all reports on the source and then one such message, with
the verbose messages around the reports and no warning. -/
theorem run_failed (host : Host) (args : Arguments) :
    ((¬ ∃ s, host.Provides args.file s) →
        host.Untouched (host.run args) ∧ ∃ e, host.Withholds args.file e ∧
          (host.run args).stderr = Message.printed ⟨.error, args.file ++ ": " ++ e.message⟩) ∧
      ∀ s path e, host.Provides args.file s → args.output = some path →
        host.files.target path = .error e →
        host.Untouched (host.run args) ∧
          (host.run args).stderr =
            (if args.verbose then
              Message.printed ⟨.debug, SourceFile.description ⟨shownPath args.file, s⟩⟩ else "") ++
            Report.explanations ⟨shownPath args.file, s⟩ ++
            (if args.verbose then
              Message.printed ⟨.info, s!"scanned {(TokenStream.ofString s).length} tokens"⟩
            else "") ++
            Message.printed ⟨.error, path ++ ": " ++ e.message⟩ := by
  constructor
  · intro hprovides
    obtain ⟨e, hwithholds, hload⟩ := exists_withholds hprovides
    rw [run_of_load_error args hload]
    exact ⟨⟨rfl, rfl, rfl⟩, e, hwithholds, rfl⟩
  · intro s path e hprovides houtput htarget
    have hdeliver : host.deliver args.output (rows s) = ⟨"", host.files, some (path, e)⟩ := by
      rw [houtput, deliver_some_of_error htarget]
    have hfailure : (host.deliver args.output (rows s)).failure? = some (path, e) := by
      rw [hdeliver]
    rw [run_of_failure args (load_of_provides hprovides) hfailure, hdeliver,
      Report.opening_ofFile]
    exact ⟨⟨rfl, rfl, rfl⟩, rfl⟩

/-- A source that is a lone byte FF, and an output file in a directory that is missing. -/
theorem run_failed_lone_byte :
    let host : Host :=
      { files := .ofFiles ["work"] [("bad", [0xFF]), ("a.ex", Utf8.encode "!"), ("out", [])]
        stdin := .ok [] }
    (¬ ∃ s, host.Provides "bad" s) ∧
      host.Untouched (host.run ⟨"bad", some "out", true⟩) ∧
      (∃ e, host.Withholds "bad" e ∧ (host.run ⟨"bad", some "out", true⟩).stderr =
        "\x1b[1m\x1b[31m[error]:\x1b[0m\x1b[0m" ++ " \x1b[1m" ++ ("bad" ++ ": " ++ e.message) ++
          "\x1b[0m\n") ∧
      host.files.target "missing/out" = .error .noEntry ∧
      host.Untouched (host.run ⟨"a.ex", some "missing/out", false⟩) ∧
      (host.run ⟨"a.ex", some "missing/out", false⟩).stderr =
        Report.explanations ⟨"a.ex", "!"⟩ ++
          ("\x1b[1m\x1b[31m[error]:\x1b[0m\x1b[0m \x1b[1m" ++
            "missing/out: No such file or directory (os error 2)\x1b[0m\n") := by
  intro host
  have hbad : ¬ ∃ s, host.Provides "bad" s := by
    rintro ⟨s, hs⟩
    have hinput : host.input "bad" = .ok [0xFF] := rfl
    rw [Provides, hinput] at hs
    have hdecode := Utf8.decode_eq_ok_iff.mpr (Except.ok.inj hs)
    have herror : Utf8.decode [0xFF] = .error (.invalid 1 0) := by decide +kernel
    rw [herror] at hdecode
    simp at hdecode
  have htarget : host.files.target "missing/out" = .error .noEntry := rfl
  obtain ⟨hwithheld, -⟩ := run_failed host ⟨"bad", some "out", true⟩
  obtain ⟨-, hrejected⟩ := run_failed host ⟨"a.ex", some "missing/out", false⟩
  obtain ⟨huntouched, e, hwithholds, hstderr⟩ := hwithheld hbad
  obtain ⟨huntouched', hstderr'⟩ := hrejected "!" "missing/out" .noEntry rfl rfl htarget
  refine ⟨hbad, huntouched, ⟨e, hwithholds, hstderr⟩, htarget, huntouched', ?_⟩
  have hshown : shownPath "a.ex" = "a.ex" := by decide +kernel
  have hmessage : Message.printed
      ⟨.error, "missing/out" ++ ": " ++ FileError.noEntry.message⟩ =
        "\x1b[1m\x1b[31m[error]:\x1b[0m\x1b[0m \x1b[1m" ++
          "missing/out: No such file or directory (os error 2)\x1b[0m\n" := by decide +kernel
  rw [hstderr', hmessage, hshown]
  simp only [Bool.false_eq_true, if_false, String.empty_append, String.append_empty]

end Host

end Lexis
