import DotPath.CommandLine.Run

/-!
The program: reads the standard input if the document is to come from there, and writes what the
run leaves behind.
-/

namespace DotPath.CommandLine

partial def readToEnd (stream : IO.FS.Stream) (bytes : ByteArray) : IO ByteArray := do
  let more ← stream.read 65536
  if more.isEmpty then
    return bytes
  else
    readToEnd stream (bytes ++ more)

def report (outcome : Outcome) : IO UInt32 := do
  IO.print outcome.stdout
  IO.eprint outcome.stderr
  return outcome.exitCode.toUInt32

end DotPath.CommandLine

open DotPath.CommandLine in
def main (arguments : List String) : IO UInt32 := do
  match Request.ofArguments arguments with
  | .error error => report (.usage error)
  | .ok request =>
    if request.readsStdin then
      match String.fromUTF8? (← readToEnd (← IO.getStdin) .empty) with
      | some stdin => report (request.run stdin)
      | none => report .invalidEncoding
    else
      report (request.run "")
