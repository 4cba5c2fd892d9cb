import ManagedHost.Error
import ManagedHost.FileSystem

/-!
The assemblies that a runtime may load: those next to the runtime itself and those next to the
bootstrap assembly, each directory in ascending order, given to the hosting library as one text
with a colon between two paths.
-/

namespace ManagedHost.Assemblies

def separator : String := ":"

/-- The regular files directly inside a directory whose extension is `dll` in any letter case, in
ascending order. -/
def inDirectory (fs : FileSystem) (directory : Place) (path : String) :
    Except BridgeError (List String) :=
  match fs.names directory path with
  | .error e => .error (.io path e.message)
  | .ok names =>
    let candidates := (names.filter Path.isManagedName).map (Path.join path)
    .ok ((candidates.filter (fs.isFile directory)).mergeSort (· ≤ ·))

/-- The directory of a file, which is the current one when its path names none. -/
def directoryOf (path : String) : String :=
  match Path.parent? path with
  | some parent => if parent.isEmpty then "." else parent
  | none => "."

/-- The assemblies of a runtime and of the directory of the bootstrap assembly, as one text. -/
def trusted (fs : FileSystem) (directory : Place) (runtime assembly : String) :
    Except BridgeError String := do
  let platform ← inDirectory fs directory runtime
  let own ← inDirectory fs directory (directoryOf assembly)
  return separator.intercalate (platform ++ own)

end ManagedHost.Assemblies
