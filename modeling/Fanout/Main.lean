import Fanout.Command.Execute
import Fanout.Disk.Changes

/-!
# The program

Reads the files that a command line names, executes the command on them, and writes back what it
changed.
-/

namespace Fanout.Program

/-- Takes a file over onto a disk, if it is there. -/
def loadFile (d : Disk) (path : String) : IO Disk := do
  try return d.layFile (Name.ofText path) (← IO.FS.readBinFile path)
  catch _ => return d

/-- Takes whatever is at a path over onto a disk: a file, or a directory with the files in it. -/
def load (d : Disk) (path : String) : IO Disk := do
  let place := (← IO.currentDir) / path
  if ← place.isDir then
    let mut d := d.layDirectory (Name.ofText path)
    for entry in ← place.readDir do
      d ← loadFile d (Path.join path entry.fileName)
    return d
  else loadFile d path

/-- Takes over what a request needs. -/
def prepare (r : Request) (d : Disk) : IO Disk := do
  match r with
  | .invocation i =>
    let d ← match i.config with
      | some path => load d path
      | none => pure d
    match Command.loadConfig i.config d with
    | .ok config => load d (i.command.directory config)
    | .error _ => return d
  | _ => return d

def apply : Change → IO Unit
  | .directory path => IO.FS.createDirAll path
  | .file path data => IO.FS.writeBinFile path data

/-- Executes a command line: the exit code. -/
def run (words : List String) : IO UInt32 := do
  let start := Disk.startingIn (← IO.currentDir).toString
  let before ← prepare (CommandLine.read words) start
  let (outcome, after) := Command.execute words before
  (before.changes after).forM apply
  IO.print outcome.output
  IO.eprint outcome.errors
  return UInt32.ofNat outcome.code

end Fanout.Program

def main (words : List String) : IO UInt32 := Fanout.Program.run words
