import ManagedHost.Launcher.Script
import ManagedHost.Runtime.Root

/-!
Running the launcher. A path with a slash names the file itself; any other name would be looked up
on a search path that finds nothing. The file has to be one that may be run and has to name the
shell as its interpreter.
-/

namespace ManagedHost.Launcher

/-- The interpreters that run a script as the shell does. -/
def shells : List String := ["/bin/sh", "/bin/dash", "/usr/bin/sh", "/usr/bin/dash"]

/-- The interpreter named by the first line of a file, if it names one. -/
def interpreter? : List UInt8 → Option String
  | 0x23 :: 0x21 :: rest =>
    let line := (rest.takeWhile (· ≠ 10)).map fun byte => Char.ofNat byte.toNat
    let words := (line.dropWhile fun c => c == ' ' || c == '\t')
    some (String.ofList (words.takeWhile fun c => c != ' ' && c != '\t'))
  | _ => none

/-- The characters of a script, byte by byte where it is not UTF-8. -/
def scriptChars (content : List UInt8) : List Char :=
  match Text.Utf8.decode content with
  | .ok text => text.toList
  | .error _ => content.map fun byte => Char.ofNat byte.toNat

def run (fs : FileSystem) (directory : Place) (path : String) (args : List String) :
    LauncherOutcome :=
  if path.toList.contains '\x00' then .notStarted "nul byte found in provided data"
  else if !path.toList.contains '/' then .notStarted FileError.noEntry.message
  else
    match fs.resolve directory path with
    | .error e => .notStarted e.message
    | .ok place =>
      match fs.entryAt? place with
      | some (.file content true) =>
        match interpreter? content with
        | none => .notStarted FileError.execFormat.message
        | some interpreter =>
          if interpreter ∈ shells then Script.run (scriptChars content) path args
          else .notStarted FileError.noEntry.message
      | some (.file _ false) | some .directory | some (.hostingLibrary _) =>
        .notStarted FileError.accessDenied.message
      | _ => .notStarted FileError.noEntry.message

def listRuntimes (fs : FileSystem) (directory : Place) (launcher : String) : LauncherOutcome :=
  run fs directory launcher ["--list-runtimes"]

/-- The launcher used for an installation: the one in its root if there is a file of that name,
else the one on the search path, else the missing one in the root. -/
def forRoot (fs : FileSystem) (directory : Place) (root : String) (env : Environment) : String :=
  let candidate := Path.join root name
  if fs.isFile directory candidate then candidate
  else (find fs directory env).getD candidate

end ManagedHost.Launcher
