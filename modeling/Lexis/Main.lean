import Lexis.CommandLine.Run

/-!
# The command line

The program itself: reads its arguments, and gives a run the files and the streams
of the system for its surroundings. Which texts go where, and in which order, is
what `Lexis.Surroundings.carryOut` states.
-/

namespace Lexis.CommandLine

/-- The number of a failed system call, which some calls report negated. -/
def errorNumber? : IO.Error → Option Nat
  | .noFileOrDirectory _ code _ | .inappropriateType _ code _ | .permissionDenied _ code _
  | .resourceExhausted _ code _ | .noSuchThing _ code _ =>
    some (min code.toNat (0 - code).toNat)
  | _ => none

/-- The wording of a failed system call. -/
def reason (e : IO.Error) : String :=
  match (errorNumber? e).bind FileError.ofCode? with
  | some error => error.message
  | none => toString e

/-- The wording of a failed reading. A directory can be opened, but it has no
content to read. -/
def readingReason (e : IO.Error) : String :=
  if errorNumber? e = some FileError.isDirectory.code then FileError.noDevice.message
  else reason e

/-- All bytes that a stream still holds, after those in `bytes`. -/
partial def readToEnd (stream : IO.FS.Stream) (bytes : ByteArray) : IO ByteArray := do
  let chunk ← stream.read 65536
  if chunk.isEmpty then return bytes
  readToEnd stream (bytes ++ chunk)

/-- The source that a path names, or the reason why it cannot be loaded. -/
def load (path : String) : IO (Except String SourceFile) := do
  try
    let bytes ←
      if isStandardInput path then readToEnd (← IO.getStdin) ByteArray.empty
      else IO.FS.readBinFile path
    return (SourceFile.ofInput path bytes.toList).mapError toString
  catch e => return .error (readingReason e)

/-- Writes a text to the file at a path or to the standard output, and returns what
has failed. -/
def deliver (output : Option String) (text : String) : IO (Option (String × String)) := do
  try
    match output with
    | some path =>
      let file ← IO.FS.Handle.mk path .write
      file.write text.toUTF8
      file.flush
    | none =>
      IO.print text
      (← IO.getStdout).flush
    return none
  catch e => return some (output.getD standardOutputPath, reason e)

/-- What a run finds in the system in which the program is started. -/
def surroundings : Surroundings IO where
  load := load
  tell text := IO.eprint text
  deliver := deliver

end Lexis.CommandLine

/-- Scans the source that the command line names. -/
def main (args : List String) : IO UInt32 := do
  match Lexis.Arguments.parse args with
  | .ok arguments =>
    let success ← Lexis.CommandLine.surroundings.carryOut arguments
    return if success then 0 else 1
  | .error refusal =>
    match refusal.text? with
    | some text => IO.print text
    | none => IO.eprint "error: the command line is not understood; try --help\n"
    return UInt32.ofNat refusal.exitCode
