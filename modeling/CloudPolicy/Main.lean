import CloudPolicy.CommandLine.Execution
import CloudPolicy.Hash.Sha256
import Std.Time.DateTime.Timestamp

/-! The program: it reads the files that the arguments name, runs the command, and prints what the
command shows. -/

namespace CloudPolicy.CommandLine

/-- The present instant. -/
def presentTime : IO Timestamp := do
  let now ← Std.Time.Timestamp.now
  let nanoseconds := now.toNanosecondsSinceUnixEpoch.val
  return .ofSeconds (nanoseconds / Timestamp.second) (nanoseconds % Timestamp.second).toNat

/-- The texts of those files that can be read. -/
def readable (paths : List String) : IO (List (String × String)) := do
  let mut texts := []
  for path in paths do
    try
      texts := (path, ← IO.FS.readFile path) :: texts
    catch _ => pure ()
  return texts

end CloudPolicy.CommandLine

open CloudPolicy in
def main (arguments : List String) : IO UInt32 := do
  let paths := ((Command.ofArguments? arguments).map Command.paths).getD []
  let texts ← CommandLine.readable paths
  let files : FileReader := fun path => (texts.find? (·.1 = path)).map (·.2)
  let now ← CommandLine.presentTime
  let ending := CommandLine.run Sha256.hex now files arguments
  for line in ending.stdout do IO.println line
  for line in ending.stderr do IO.eprintln line
  return ending.exitCode.toUInt32
