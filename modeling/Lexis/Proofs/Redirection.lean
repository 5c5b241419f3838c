import Lexis.Proofs.Runs

/-!
# Redirecting the listing

An output file takes the place of the standard output and of nothing else.  All that
a run says is ready before the file is written, so it does not matter what the file
held, not even if it is the source.  Only a second run can tell: it finds the listing
where the source was, unless the two are different files, and then it does again what
the first one did.

This is so if the listing can be written, there and here.  A file that can be created may
still be too small for it, and then the run fails and the file is left with as much as it
took.

## Main results

* `Host.run_redirected` — a run with an output file, beside the same run without.
* `Host.run_toFile_of_full` — a run whose output file takes only some of the listing.
-/

namespace Lexis

open Console (Message)

/-! ## The same run with and without an output file -/

/-- The same arguments without an output file. -/
def Arguments.toStdout (args : Arguments) : Arguments := { args with output := none }

/-- The same arguments with an output file. -/
def Arguments.toFile (args : Arguments) (path : String) : Arguments :=
  { args with output := some path }

namespace Host

/-- The source is the file at the place. -/
def ReadsFrom (host : Host) (path : String) (place : Place) : Prop :=
  isStandardInput path = false ∧ host.files.Leads path place

/-- The host after a run. -/
def after (host : Host) (o : Outcome) : Host := { host with files := o.files }

/-- A run and the same run redirected to the file at a place are told apart by that file
and by the standard output alone. -/
structure Redirects (host : Host) (place : Place) (direct redirected : Outcome) : Prop where
  exitCode : redirected.exitCode = direct.exitCode
  stderr : redirected.stderr = direct.stderr
  stdout : redirected.stdout = ""
  unchanged : direct.files = host.files
  others : ∀ other, other ≠ place → redirected.files.find? other = host.files.find? other

section Redirect

variable {host : Host} {args : Arguments} {path s : String} {place : Place} {content : Bytes}

theorem run_toStdout (hprovides : host.Provides args.file s)
    (haccepts : host.Accepts (rows s) none) :
    host.run args.toStdout =
      { success := (Report.ofFile args.verbose ⟨shownPath args.file, s⟩).isClean
        stdout := rows s
        stderr := (Report.ofFile args.verbose ⟨shownPath args.file, s⟩).opening ++
          (Report.ofFile args.verbose ⟨shownPath args.file, s⟩).closing
        files := host.files } := by
  have hdeliver : host.deliver args.toStdout.output (rows s) = ⟨rows s, host.files, none⟩ :=
    deliver_none haccepts
  have hrun := run_of_delivery args.toStdout (load_of_provides hprovides)
    (failure?_of_accepts haccepts)
  rw [hrun, hdeliver]
  rfl

theorem run_toFile (hprovides : host.Provides args.file s)
    (htarget : host.files.target path = .ok place)
    (hroom : Limit.Admits (host.files.limits.lookup place) (Utf8.encode (rows s))) :
    host.run (args.toFile path) =
      { success := (Report.ofFile args.verbose ⟨shownPath args.file, s⟩).isClean
        stdout := ""
        stderr := (Report.ofFile args.verbose ⟨shownPath args.file, s⟩).opening ++
          (Report.ofFile args.verbose ⟨shownPath args.file, s⟩).closing
        files := host.files.set place (.file (Utf8.encode (rows s))) } := by
  have hdeliver : host.deliver (args.toFile path).output (rows s) =
      ⟨"", host.files.set place (.file (Utf8.encode (rows s))), none⟩ :=
    deliver_some htarget hroom
  have hrun := run_of_delivery (args.toFile path) (load_of_provides hprovides)
    (failure?_of_accepts ⟨place, htarget, hroom⟩)
  rw [hrun, hdeliver]
  rfl

/-- An output file that takes only some of the listing is left with the front of it, and the
run fails and names the file. -/
theorem run_toFile_of_full {limit : Limit} (hprovides : host.Provides args.file s)
    (htarget : host.files.target path = .ok place)
    (hlimit : host.files.limits.lookup place = some limit)
    (hfull : limit.size < (Utf8.encode (rows s)).length) :
    host.run (args.toFile path) =
      { success := false
        stdout := ""
        stderr := (Report.ofFile args.verbose ⟨shownPath args.file, s⟩).opening ++
          Message.printed ⟨.error, path ++ ": " ++ limit.error.message⟩
        files := host.files.set place
          (.file ((Utf8.encode (rows s)).take limit.size)) } := by
  have hdeliver : host.deliver (args.toFile path).output (rows s) =
      ⟨"", host.files.set place (.file ((Utf8.encode (rows s)).take limit.size)),
        some (path, limit.error)⟩ := by
    show host.deliver (some path) (rows s) = _
    rw [deliver_of_target htarget, FileSystem.fill, hlimit, Limit.cut_of_lt hfull]
    rfl
  have hfailure : (host.deliver (args.toFile path).output (rows s)).failure? =
      some (path, limit.error) := by
    rw [hdeliver]
  rw [run_of_failure (args.toFile path) (load_of_provides hprovides) hfailure, hdeliver]
  rfl

/-- A run whose source is withheld does not look at its destination. -/
theorem run_toFile_of_withheld (path : String) (h : ¬ ∃ s, host.Provides args.file s) :
    host.run (args.toFile path) = host.run args.toStdout ∧
      host.Untouched (host.run args.toStdout) := by
  obtain ⟨e, -, hload⟩ := exists_withholds h
  rw [run_of_load_error (args.toFile path) hload,
    run_of_load_error args.toStdout hload]
  exact ⟨rfl, rfl, rfl, rfl⟩

/-- A source is still provided when another file has been written. -/
theorem Provides.set (h : host.Provides args.file s) (hplace : place ≠ [])
    (hfree : host.files.find? place ≠ some .directory) (hother : ¬ host.ReadsFrom args.file place) :
    Provides { host with files := host.files.set place (.file content) } args.file s := by
  rw [Provides, input] at h ⊢
  split at h
  · next hstdin =>
      rw [if_pos hstdin]
      exact h
  · next hstdin =>
      obtain ⟨other, hleads⟩ := FileSystem.exists_leads_of_read h
      have hne : other ≠ place := by
        rintro rfl
        exact hother ⟨Bool.eq_false_iff.mpr hstdin, hleads⟩
      rw [if_neg hstdin, FileSystem.read_set hplace hfree hleads hne]
      exact h

end Redirect

/-- **Redirection.**  Let the path be one at which a file can be created, and let the file
take all of the listing, as the standard output does.  The run with this output file and the
run without one have the same exit code and the same standard error; the first leaves its
standard output empty and every other file as it was.  If the source is provided, then the
file holds just what the second run writes to its standard output, which is the listing of
the source before the runs, be it the same file or not.  If it is not the same file, then
running once more changes nothing and says the same again. -/
theorem run_redirected (host : Host) (args : Arguments) (path : String) (place : Place)
    (htarget : host.files.target path = .ok place)
    (hstdout : ∀ s, host.Provides args.file s → host.Accepts (rows s) none)
    (hroom : ∀ s, host.Provides args.file s →
      Limit.Admits (host.files.limits.lookup place) (Utf8.encode (rows s))) :
    host.Redirects place (host.run args.toStdout) (host.run (args.toFile path)) ∧
      (∀ s, host.Provides args.file s →
        (host.run args.toStdout).stdout = rows s ∧
        (host.run (args.toFile path)).files.find? place =
          some (.file (Utf8.encode (host.run args.toStdout).stdout))) ∧
      (¬ host.ReadsFrom args.file place →
        (host.after (host.run (args.toFile path))).run (args.toFile path) =
          host.run (args.toFile path)) := by
  obtain ⟨hplace, hfree⟩ := FileSystem.place_of_target htarget
  by_cases hprovided : ∃ s, host.Provides args.file s
  · obtain ⟨s, hprovides⟩ := hprovided
    refine ⟨?_, ?_, ?_⟩
    · rw [run_toStdout hprovides (hstdout s hprovides),
        run_toFile hprovides htarget (hroom s hprovides)]
      refine ⟨rfl, rfl, rfl, rfl, ?_⟩
      intro other hother
      exact FileSystem.find?_set_of_ne hplace _ hother
    · intro s' hprovides'
      rw [run_toStdout hprovides' (hstdout s' hprovides'),
        run_toFile hprovides' htarget (hroom s' hprovides')]
      exact ⟨rfl, FileSystem.find?_set_self hplace _⟩
    · intro hother
      have hfirst := run_toFile hprovides htarget (hroom s hprovides)
      -- The file is where the path still leads, and what it takes has not changed.
      have hagain : (host.after (host.run (args.toFile path))).Provides args.file s := by
        rw [hfirst]
        exact hprovides.set hplace hfree hother
      have htarget' : (host.after (host.run (args.toFile path))).files.target path = .ok place := by
        rw [hfirst]
        exact FileSystem.target_set htarget
      have hroom' : Limit.Admits
          ((host.after (host.run (args.toFile path))).files.limits.lookup place)
          (Utf8.encode (rows s)) := by
        rw [hfirst, after, FileSystem.limits_set]
        exact hroom s hprovides
      rw [run_toFile hagain htarget' hroom', hfirst, Outcome.mk.injEq]
      exact ⟨rfl, rfl, rfl, FileSystem.set_set _ _ _ _⟩
  · obtain ⟨hsame, huntouched⟩ := run_toFile_of_withheld path hprovided
    have hafter : host.after (host.run args.toStdout) = host := by
      rw [after, huntouched.files]
    rw [hsame]
    refine ⟨⟨rfl, rfl, huntouched.stdout, huntouched.files, ?_⟩, ?_, ?_⟩
    · intro other _
      rw [huntouched.files]
    · intro s hprovides
      exact absurd ⟨s, hprovides⟩ hprovided
    · intro _
      rw [hafter, hsame]

/-- A listing that replaces its own source, in a file and on a standard output that take just
as much, and one that does not. -/
theorem run_redirected_onto_source :
    let host : Host :=
      { files :=
          { FileSystem.ofFiles ["work"] [("a.ex", Utf8.encode "if\n")] with
            limits := [(["work", "a.ex"], ⟨35, .refused 28 "No space left on device"⟩)] }
        stdin := .ok []
        stdout := some ⟨35, .refused 28 "No space left on device"⟩ }
    host.Provides "./a.ex" "if\n" ∧ host.ReadsFrom "./a.ex" ["work", "a.ex"] ∧
      host.Redirects ["work", "a.ex"] (host.run ⟨"./a.ex", none, false⟩)
        (host.run ⟨"./a.ex", some "a.ex", false⟩) ∧
      (host.run ⟨"./a.ex", some "a.ex", false⟩).files.find? ["work", "a.ex"] =
        some (.file (Utf8.encode "1:1\tToken(IF, if)\n2:1\tToken(END, )\n")) ∧
      ¬ host.ReadsFrom "./a.ex" ["work", "b"] ∧
      (host.after (host.run ⟨"./a.ex", some "b", false⟩)).run ⟨"./a.ex", some "b", false⟩ =
        host.run ⟨"./a.ex", some "b", false⟩ := by
  intro host
  have hprovides : host.Provides "./a.ex" "if\n" := rfl
  have hreads : host.ReadsFrom "./a.ex" ["work", "a.ex"] := ⟨rfl, rfl⟩
  have hother : ¬ host.ReadsFrom "./a.ex" ["work", "b"] := by
    rintro ⟨-, hleads⟩
    have hplace := hreads.2.symm.trans hleads
    simp at hplace
  have hrows : rows "if\n" = "1:1\tToken(IF, if)\n2:1\tToken(END, )\n" := by decide +kernel
  have hsame : ∀ s, host.Provides "./a.ex" s → s = "if\n" := fun s hs => hs.content_eq hprovides
  have hstdout : ∀ s, host.Provides "./a.ex" s → host.Accepts (rows s) none := by
    rintro s hs _ ⟨⟩
    rw [hsame s hs, hrows]
    decide +kernel
  have hroom : ∀ s, host.Provides "./a.ex" s →
      Limit.Admits (host.files.limits.lookup ["work", "a.ex"]) (Utf8.encode (rows s)) := by
    rintro s hs _ ⟨⟩
    rw [hsame s hs, hrows]
    decide +kernel
  obtain ⟨hredirects, hlisting, -⟩ :=
    run_redirected host ⟨"./a.ex", none, false⟩ "a.ex" ["work", "a.ex"] rfl hstdout hroom
  obtain ⟨-, -, hagain⟩ := run_redirected host ⟨"./a.ex", none, false⟩ "b" ["work", "b"] rfl
    hstdout fun _ _ => Limit.admits_none _
  obtain ⟨hwritten, hfile⟩ := hlisting "if\n" hprovides
  rw [hwritten, hrows] at hfile
  exact ⟨hprovides, hreads, hredirects, hfile, hother, hagain hother⟩

end Host

end Lexis
