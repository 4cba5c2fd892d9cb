import ManagedHost.Application
import ManagedHost.StandIn.Scene

/-!
The command line program. It takes a picture of the files below the current directory, runs on it
with the stand-in hosting libraries found there, and prints what comes of the run. The end of
standard input stands for the signal that ends the wait.
-/

namespace ManagedHost

def watchedVariables : List String :=
  [Environment.archHome, Environment.home, Environment.root, Environment.runtimeVersion, "PATH",
    "RUST_LOG"]

def readVariables : IO (List (String × String)) := do
  let found ← watchedVariables.mapM fun name => do
    return (← IO.getEnv name).map fun value => (name, value)
  return found.filterMap id

def readPlace : IO Place := do
  return (Path.components (← IO.currentDir).toString)

def printLines (stream : IO.FS.Stream) (lines : List String) : IO Unit :=
  lines.forM stream.putStrLn

def printOutcome (outcome : Application.Outcome) : IO UInt32 := do
  printLines (← IO.getStdout) (outcome.shown.map (·.render) ++ outcome.output)
  printLines (← IO.getStderr) outcome.errors
  return UInt32.ofNat outcome.exitCode

/-- Adds the files below a directory to a picture of them. -/
partial def addFiles (files : FileSystem) (place : Place) : IO FileSystem := do
  let mut files := files.makeParents place |>.put place .directory
  for entry in ← (← IO.FS.realPath (FileSystem.Place.toPath place)).readDir do
    let below := place ++ [entry.fileName]
    if ← entry.path.isDir then files ← addFiles files below
    else
      let content ← IO.FS.readBinFile entry.path
      files := files.put below (.file content.toList false)
  return files

end ManagedHost

open ManagedHost in
def main (args : List String) : IO UInt32 := do
  let place ← readPlace
  let home := (← IO.getEnv "HOME").filter (· ≠ "")
  let world : World := { files := ← addFiles { home } place, directory := place }
  let environment := Environment.ofVariables (← readVariables)
  let foreign := ({} : StandIn.Scene).foreign
  let run := Application.main foreign ("spadecs" :: args) environment .terminate
  printOutcome (run.run world).1
