import Workstream.CommandLine.Run

/-!
# The program

Reads the arguments, the file with the settings, two environment variables and, where a
command needs it, the standard input stream, and prints what the command reports.
-/

namespace Workstream.CommandLine

/-- Read everything that comes in on a stream. -/
partial def readAll (source : IO.FS.Stream) (front : ByteArray) : IO ByteArray := do
  let block ← source.read 65536
  if block.isEmpty then return front
  readAll source (front ++ block)

/-- Read the file with the settings. -/
def readSettings (path : String) : IO FileReading := do
  try
    let bytes ← IO.FS.readBinFile path
    return .contents bytes.toList
  catch
    | .noFileOrDirectory _ _ _ => return .missing
    | .inappropriateType _ code _ =>
      return .refused (if code = 20 then .notADirectory else .isDirectory)
    | error => return .refused (.other (toString error))

/-- Carry out the invocation that arguments ask for. -/
def reportOn (arguments : List String) : IO Report := do
  match Invocation.ofArguments arguments with
  | .error notice => return .ofNotice notice
  | .ok invocation =>
    let file ← readSettings invocation.config
    let input ← if invocation.task.readsInput then readAll (← IO.getStdin) .empty
      else pure .empty
    return invocation.run file input.toList

end Workstream.CommandLine

open Workstream Workstream.CommandLine in
/-- The program. -/
def main (arguments : List String) : IO UInt32 := do
  let writer? := LogWriter.ofValues? (← IO.getEnv "SDLC_LOG") (← IO.getEnv "RUST_LOG")
  let (report, errors) ← match writer? with
    | some writer => do
      let report ← reportOn arguments
      pure (report, report.errorStream writer)
    | none => pure (.withoutWriter, Report.withoutWriter.errors)
  (← IO.getStdout).putStr report.output
  (← IO.getStderr).putStr errors
  return report.exit.toUInt32
