/-!
# Command-line arguments

The command line names a source file and, with options, a file for the listing
and whether to be verbose. Arguments are taken from left to right. A long
option stands alone, short ones can be put together behind one dash, and the
value of an option is attached to it or is the next argument. Behind `--`
nothing is an option any more.

What an argument contributes is settled when the next thing on the command
line is understood, or at the end. So a mistake in a value gives way to an
argument that is not understood at all.

The program leaves this reading to a library of which it only states the three values
that it wants. What is written here follows the answers of that library, so that the
program can be run. No theorem is about it.

## Main definitions

* `Arguments` — what a command line asks for.
* `Refusal` — why a command line asks for nothing that can be done.
* `Arguments.parse` — reads a command line.
-/

namespace Lexis

/-- What a command line asks for. -/
structure Arguments where
  /-- The source file; a lone dash is the standard input. -/
  file : String := "-"
  /-- The file for the listing, in place of the standard output. -/
  output : Option String := none
  /-- Whether to tell what is being done. -/
  verbose : Bool := false
deriving DecidableEq, Repr

/-- Why a command line does not lead to a run. -/
inductive Refusal where
  /-- An argument is not understood. -/
  | unknownArgument
  /-- An option is given a second time. -/
  | repeatedOption
  /-- A value is missing or empty. -/
  | invalidValue
  /-- An option that takes no value is given one. -/
  | unexpectedValue
  /-- The help text is asked for. -/
  | helpRequested
  /-- The version is asked for. -/
  | versionRequested
deriving DecidableEq, Repr

/-- The lines that describe the command line. -/
def helpLines : List String := [
  "Excerpt compiler: scans a source file into its tokens.",
  "",
  "Usage: excerpt [OPTIONS] [FILE]",
  "",
  "Arguments:",
  "  [FILE]  The input file to scan, `-` reads the standard input [default: -]",
  "",
  "Options:",
  "  -o, --output <FILE>  Writes the tokens to this file instead of the standard output",
  "  -v, --verbose        Prints debug and info messages to the standard error stream",
  "  -h, --help           Print help",
  "  -V, --version        Print version"]

/-- The description of the command line. -/
def helpText : String := String.join (helpLines.map (· ++ "\n"))

/-- The name and version of the program. -/
def versionText : String := "excerpt 0.1.0\n"

namespace Refusal

/-- What is printed on request. -/
def text? : Refusal → Option String
  | .helpRequested => some helpText
  | .versionRequested => some versionText
  | _ => none

/-- The exit code of the program: a request is no failure. -/
def exitCode (r : Refusal) : Nat := if r.text?.isSome then 0 else 2

end Refusal

namespace Arguments

/-- The options, in the form in which they act. -/
inductive Flag where
  | output | verbose | help | version
deriving DecidableEq, Repr

/-- The option with this long name. -/
def Flag.ofLong? (name : List Char) : Option Flag :=
  if name = "output".toList then some .output
  else if name = "verbose".toList then some .verbose
  else if name = "help".toList then some .help
  else if name = "version".toList then some .version
  else none

/-- The option with this letter. -/
def Flag.ofShort? (letter : Char) : Option Flag :=
  if letter = 'o' then some .output
  else if letter = 'v' then some .verbose
  else if letter = 'h' then some .help
  else if letter = 'V' then some .version
  else none

/-- What has been read and is not settled yet. -/
inductive Pending where
  /-- An output option that waits for its value. -/
  | outputOption
  /-- An output option and its value. -/
  | output (value : String)
  /-- A source file. -/
  | file (value : String)
deriving DecidableEq, Repr

/-- How far a command line has been read. -/
structure Progress where
  /-- The source file. -/
  file : Option String := none
  /-- The file for the listing. -/
  output : Option String := none
  /-- Whether to be verbose. -/
  verbose : Bool := false
  /-- What has been read and is not settled yet. -/
  pending : Option Pending := none
  /-- Whether `--` has been read. -/
  optionsEnded : Bool := false
deriving DecidableEq, Repr

namespace Progress

/-- Settles the value of an output option. It may be given once, and is not
empty. -/
def setOutput (p : Progress) (value : String) : Except Refusal Progress :=
  if p.output.isSome then .error .repeatedOption
  else if value.isEmpty then .error .invalidValue
  else .ok { p with output := some value }

/-- Settles what is pending. -/
def settle (p : Progress) : Except Refusal Progress :=
  match p.pending with
  | none => .ok p
  | some .outputOption => .error .invalidValue
  | some (.output value) => { p with pending := none }.setOutput value
  | some (.file value) =>
    if value.isEmpty then .error .invalidValue
    else .ok { p with pending := none, file := some value }

/-- Whether a source file has been named. -/
def hasFile (p : Progress) : Bool :=
  p.file.isSome || (match p.pending with | some (.file _) => true | _ => false)

/-- An option that takes no value. -/
def act (p : Progress) : Flag → Except Refusal Progress
  | .output => do
    let p ← p.settle
    return { p with pending := some .outputOption }
  | .verbose => do
    let p ← p.settle
    if p.verbose then throw .repeatedOption
    return { p with verbose := true }
  | .help => do
    let _ ← p.settle
    throw .helpRequested
  | .version => do
    let _ ← p.settle
    throw .versionRequested

/-- An output option with its value attached. -/
def attachOutput (p : Progress) (value : List Char) : Except Refusal Progress := do
  let p ← p.settle
  p.setOutput (String.ofList value)

/-- A long option, given without its dashes. -/
def long (p : Progress) (body : List Char) : Except Refusal Progress :=
  let name := body.takeWhile (· != '=')
  match Flag.ofLong? name, body.dropWhile (· != '=') with
  | none, _ => .error .unknownArgument
  | some flag, [] => p.act flag
  | some .output, _ :: value => p.attachOutput value
  | some _, _ :: _ => .error .unexpectedValue

/-- A cluster of short options, given without its dash. The rest of a cluster
behind an output option is its value, to which an equals sign may lead. -/
def short (p : Progress) : List Char → Except Refusal Progress
  | [] => .ok p
  | letter :: letters =>
    match Flag.ofShort? letter with
    | none => .error .unknownArgument
    | some .output =>
      match letters with
      | [] => p.act .output
      | l :: ls => p.attachOutput (if l = '=' then ls else l :: ls)
    | some flag =>
      match p.act flag with
      | .error r => .error r
      | .ok p => p.short letters

/-- An argument that is no option: the value that is waited for, or else the
source file, of which there is one. -/
def value (p : Progress) (arg : String) : Except Refusal Progress :=
  if p.pending = some .outputOption ∧ p.optionsEnded = false then
    .ok { p with pending := some (.output arg) }
  else if p.hasFile then .error .unknownArgument
  else do
    let p ← p.settle
    return { p with pending := some (.file arg) }

/-- The next argument. -/
def next (p : Progress) (arg : String) : Except Refusal Progress :=
  if p.optionsEnded then p.value arg
  else
    match arg.toList with
    | ['-', '-'] => .ok { p with optionsEnded := true }
    | '-' :: '-' :: body => p.long body
    | '-' :: letter :: letters => p.short (letter :: letters)
    | _ => p.value arg

/-- The end of the command line. -/
def finish (p : Progress) : Except Refusal Arguments := do
  let p ← p.settle
  return { file := p.file.getD "-", output := p.output, verbose := p.verbose }

end Progress

/-- Reads a command line, given without the name of the program. -/
def parse (args : List String) : Except Refusal Arguments := do
  let p ← args.foldlM Progress.next {}
  p.finish

end Arguments

end Lexis
