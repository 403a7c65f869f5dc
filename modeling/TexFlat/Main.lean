import TexFlat.CommandLine.Usage
import TexFlat.Snapshot

/-!
# The program

Reads the command line and the disk, runs the command and writes what it leaves.
-/

namespace TexFlat.Main

def name (path : Path) : String := String.ofList path.text

/-- The cause of a system error. -/
def fault : IO.Error → Fault
  | .noFileOrDirectory .. => .missing
  | .inappropriateType _ code _ =>
    if code = 20 then .notDirectory else .isDirectory
  | error => .other error.toString.toList

def attempt {α : Type} (action : IO α) : IO (Except Fault α) := do
  match ← action.toBaseIO with
  | .ok value => return .ok value
  | .error error => return .error (fault error)

/-- What is found at a path. A path with a NUL names nothing. -/
def fact (path : Path) : IO Snapshot.Fact := do
  if '\x00' ∈ path.text then return { canonical := .error .nulInPath, content := .error .nulInPath }
  let canonical ← attempt do return Path.ofString (← IO.FS.realPath (name path)).toString
  let content ← match canonical with
    | .ok _ => attempt do return (← IO.FS.readBinFile (name path)).data.toList
    | .error cause => pure (.error cause)
  return { canonical, content }

/-- The snapshot grown until it knows every path that the command asks about. -/
partial def gather (command : CommandLine.Command) (snapshot : Snapshot) : IO Snapshot := do
  let unknown := (command.asked snapshot.source).filter fun path => (snapshot.fact? path).isNone
  if unknown.isEmpty then return snapshot
  gather command (← unknown.eraseDups.foldlM (fun known path => return known.add path (← fact path))
    snapshot)

def outcome (invocation : CommandLine.Invocation) : IO CommandLine.Outcome := do
  let environment := (← IO.getEnv "RUST_LOG").map String.toList
  let filter := CommandLine.LogFilter.choose invocation.verbosity environment
  let snapshot ← gather invocation.command {}
  match invocation.command.progress snapshot.source with
  | .done entries result => return CommandLine.Outcome.ofResult filter entries result
  | .toWrite entries draft doing =>
    let tried ← attempt (IO.FS.writeBinFile (name draft.output) ⟨draft.bytes.toArray⟩)
    return CommandLine.written filter entries draft doing tried

end TexFlat.Main

def main (arguments : List String) : IO UInt32 := do
  let outcome ← match TexFlat.CommandLine.Invocation.ofArguments (arguments.map String.toList) with
    | .error halt => pure halt.outcome
    | .ok invocation => TexFlat.Main.outcome invocation
  IO.eprint (String.ofList outcome.stderr)
  IO.print (String.ofList outcome.stdout)
  return UInt32.ofNat outcome.status
