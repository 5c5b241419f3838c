import Lexis.Proofs.Runs

/-!
# Verbose runs

A verbose run says two things that a quiet one does not say, one before the reports on
its source and one behind them.  Everything else that it says or writes is the same,
because the flag is looked at by the opening of a report alone: neither the listing nor
what is said behind it, nor where anything goes, depends on it.

## Main results

* `Host.exists_concluded` — with and without the flag, a run is the same outcome behind
  two different openings.
* `Host.run_verbose` — a verbose run beside the same run kept quiet.
-/

namespace Lexis

open Console (Message)

/-- The same arguments, with the verbose messages asked for or not. -/
def Arguments.withVerbose (args : Arguments) (verbose : Bool) : Arguments :=
  { args with verbose := verbose }

namespace Host

/-! ## What is said behind the reports -/

/-- What a run says behind the reports on its source: why the listing is not delivered, or
not all of it, or, if it is, how many tokens are malformed. -/
inductive Concludes (host : Host) (output : Option String) (f : SourceFile) :
    String → Prop where
  | undelivered {path : String} {e : FileError} :
      (host.deliver output (rows f.content)).failure? = some (path, e) →
      Concludes host output f (Message.printed ⟨.error, path ++ ": " ++ e.message⟩)
  | clean : host.Accepts (rows f.content) output →
      (TokenStream.ofString f.content).toList.countP Token.isInvalid = 0 →
      Concludes host output f ""
  | warned : host.Accepts (rows f.content) output →
      (TokenStream.ofString f.content).toList.countP Token.isInvalid ≠ 0 →
      Concludes host output f (Message.printed ⟨.warning,
        s!"found {(TokenStream.ofString f.content).toList.countP Token.isInvalid} invalid token(s)"⟩)

/-- What is said once the listing is delivered depends on the source alone. -/
theorem concludes_closing {host : Host} {output : Option String} {f : SourceFile}
    (h : host.Accepts (rows f.content) output) :
    ∃ conclusion, host.Concludes output f conclusion ∧
      ∀ verbose, (Report.ofFile verbose f).closing = conclusion := by
  by_cases hcount : (TokenStream.ofString f.content).toList.countP Token.isInvalid = 0
  · refine ⟨_, .clean h hcount, ?_⟩
    intro verbose
    rw [Report.closing_ofFile, if_pos hcount]
  · refine ⟨_, .warned h hcount, ?_⟩
    intro verbose
    rw [Report.closing_ofFile, if_neg hcount]

/-- Whether a run is verbose shows in its opening alone. -/
theorem exists_concluded {host : Host} {args : Arguments} {f : SourceFile}
    (hload : host.load args.file = .ok f) :
    ∃ o : Outcome, host.Concludes args.output f o.stderr ∧
      ∀ verbose, host.run (args.withVerbose verbose) =
        { o with stderr := (Report.ofFile verbose f).opening ++ o.stderr } := by
  let delivery := host.deliver args.output (rows f.content)
  by_cases haccepts : host.Accepts (rows f.content) args.output
  · obtain ⟨conclusion, hconcludes, hclosing⟩ := concludes_closing haccepts
    refine ⟨⟨(Report.ofFile false f).isClean, delivery.stdout, conclusion, delivery.files⟩,
      hconcludes, ?_⟩
    intro verbose
    rw [run_of_delivery (args.withVerbose verbose) hload (failure?_of_accepts haccepts)]
    simp only [Arguments.withVerbose, hclosing, Report.isClean_ofFile, delivery]
  · obtain ⟨path, e, hfailure⟩ := exists_failure haccepts
    refine ⟨⟨false, delivery.stdout, _, delivery.files⟩, .undelivered hfailure, ?_⟩
    intro verbose
    exact run_of_failure (args.withVerbose verbose) hload hfailure

end Host

/-! ## A verbose run beside a quiet one -/

/-- The run `verbose` does what the run `quiet` does, and says the same, but for one message
before the reports and one behind them if there is a source to report on. -/
structure Outcome.Elaborates (verbose quiet : Outcome) (host : Host) (args : Arguments) :
    Prop where
  exitCode : verbose.exitCode = quiet.exitCode
  stdout : verbose.stdout = quiet.stdout
  files : verbose.files = quiet.files
  withheld : (¬ ∃ s, host.Provides args.file s) → verbose.stderr = quiet.stderr
  provided : ∀ s, host.Provides args.file s →
    ∃ (ds : List Diagnostic) (reports conclusion : String),
      ds.map some =
        ((TokenStream.ofString s).toList.filter Token.isInvalid).map Diagnostic.ofToken? ∧
      reports = String.join (ds.map fun d => d.message.printed ++
        (SourceFile.excerptOf ⟨shownPath args.file, s⟩ d).printed ++ "\n") ∧
      host.Concludes args.output ⟨shownPath args.file, s⟩ conclusion ∧
      quiet.stderr = reports ++ conclusion ∧
      verbose.stderr =
        Message.printed ⟨.debug, SourceFile.description ⟨shownPath args.file, s⟩⟩ ++ reports ++
          Message.printed ⟨.info, s!"scanned {(TokenStream.ofString s).length} tokens"⟩ ++
          conclusion

namespace Host

/-- **Verbose runs.**  Whatever the host and the arguments, the verbose run and the quiet one
have the same exit code and the same standard output, and leave the same files.  If the source
is withheld they also say the same.  If it is provided, the quiet one says the reports on the
malformed tokens and a conclusion; the verbose one says a debug message, the same reports,
an info message and the same conclusion. -/
theorem run_verbose (host : Host) (args : Arguments) :
    (host.run (args.withVerbose true)).Elaborates (host.run (args.withVerbose false))
      host args := by
  by_cases hprovided : ∃ s, host.Provides args.file s
  · obtain ⟨s, hprovides⟩ := hprovided
    obtain ⟨o, hconcludes, hrun⟩ := exists_concluded (load_of_provides hprovides)
    rw [hrun true, hrun false]
    refine ⟨rfl, rfl, rfl, fun hwithheld => absurd ⟨s, hprovides⟩ hwithheld, ?_⟩
    intro s' hprovides'
    obtain rfl := hprovides'.content_eq hprovides
    refine ⟨_, _, o.stderr, TokenStream.map_diagnostics s', rfl, hconcludes, ?_, ?_⟩
    · simp only [Report.opening_ofFile, Bool.false_eq_true, if_false, String.empty_append,
        String.append_empty]
      rfl
    · simp only [Report.opening_ofFile, if_true]
      rfl
  · obtain ⟨e, -, hload⟩ := exists_withholds hprovided
    have hsame : host.run (args.withVerbose true) = host.run (args.withVerbose false) := by
      rw [run_of_load_error (args.withVerbose true) hload,
        run_of_load_error (args.withVerbose false) hload]
      rfl
    rw [hsame]
    exact ⟨rfl, rfl, rfl, fun _ => rfl, fun s hprovides => absurd ⟨s, hprovides⟩ hprovided⟩

/-- A lone exclamation mark whose listing cannot be written, and a source that is missing. -/
theorem run_verbose_lone_bang :
    let host : Host :=
      { files := .ofFiles ["work"] [("a.ex", Utf8.encode "!\n")], stdin := .ok [] }
    host.Provides "a.ex" "!\n" ∧
      (∃ reports conclusion,
        host.Concludes (some "missing/out") ⟨"a.ex", "!\n"⟩ conclusion ∧
        (host.run ⟨"a.ex", some "missing/out", false⟩).stderr = reports ++ conclusion ∧
        (host.run ⟨"a.ex", some "missing/out", true⟩).stderr =
          "\x1b[1m\x1b[37m[debug]:\x1b[0m\x1b[0m " ++
            "\x1b[1mread 2 bytes (1 lines) from a.ex\x1b[0m\n" ++ reports ++
            "\x1b[1m\x1b[32m[info]:\x1b[0m\x1b[0m \x1b[1mscanned 2 tokens\x1b[0m\n" ++
            conclusion) ∧
      (¬ ∃ s, host.Provides "b.ex" s) ∧
      (host.run ⟨"b.ex", none, true⟩).stderr = (host.run ⟨"b.ex", none, false⟩).stderr := by
  intro host
  have hprovides : host.Provides "a.ex" "!\n" := rfl
  have hmissing : ¬ ∃ s, host.Provides "b.ex" s :=
    not_provides_of_error (show host.input "b.ex" = .error .noEntry from rfl)
  have hdebug : Message.printed ⟨.debug, SourceFile.description ⟨"a.ex", "!\n"⟩⟩ =
      "\x1b[1m\x1b[37m[debug]:\x1b[0m\x1b[0m " ++
        "\x1b[1mread 2 bytes (1 lines) from a.ex\x1b[0m\n" := by
    decide +kernel
  have hlength : (TokenStream.ofString "!\n").length = 2 := by decide +kernel
  have hinfo : Message.printed ⟨.info, s!"scanned {2} tokens"⟩ =
      "\x1b[1m\x1b[32m[info]:\x1b[0m\x1b[0m \x1b[1mscanned 2 tokens\x1b[0m\n" := by
    decide +kernel
  obtain ⟨-, reports, conclusion, -, -, hconcludes, hquiet, hverbose⟩ :=
    (run_verbose host ⟨"a.ex", some "missing/out", false⟩).provided "!\n" hprovides
  have hshown : shownPath "a.ex" = "a.ex" := by decide +kernel
  rw [hshown] at hconcludes hverbose
  rw [hdebug, hlength, hinfo] at hverbose
  refine ⟨hprovides, ⟨reports, conclusion, hconcludes, hquiet, hverbose⟩, hmissing, ?_⟩
  exact (run_verbose host ⟨"b.ex", none, false⟩).withheld hmissing

end Host

end Lexis
