import ManagedHost.Launcher.Outcome
import ManagedHost.Log
import ManagedHost.Runtime.Root
import ManagedHost.Version

/-!
Which runtime is used. A pinned version whose directory exists is taken without looking at what is
installed. Otherwise the newest installed runtime of the family decides, among equal versions the
one listed first: its directory below the root is taken if it exists, else the directory it was
installed to, else none.
-/

namespace ManagedHost.Runtime

def family : String := "Microsoft.NETCore.App"

/-- The directory that holds the versions of the family. -/
def sharedDirectory (root : String) : String := Path.join (Path.join root "shared") family

/-- The better of the runtime chosen so far and the next one: a version above the best so far
replaces it, and one equal to the floor is taken while nothing is chosen. -/
def better (best : RuntimeVersion × Option Runtime) (runtime : Runtime) :
    RuntimeVersion × Option Runtime :=
  match RuntimeVersion.ofPrefix? runtime.version with
  | none => best
  | some version =>
    if best.1.before version || (version == best.1 && best.2.isNone) then (version, some runtime)
    else best

/-- The newest of the runtimes of a family that are at least as new as `floor`. Runtimes whose
version cannot be read are passed over. -/
def pickLatest (runtimes : List Runtime) (family : String) (floor : RuntimeVersion) :
    Option Runtime :=
  ((runtimes.filter (·.name == family)).foldl better (floor, none)).2

def skippedLines (runtimes : List Runtime) (family : String) : List LogLine :=
  (runtimes.filter fun runtime =>
    runtime.name == family && (RuntimeVersion.ofPrefix? runtime.version).isNone).map fun runtime =>
      ⟨.debug, .version, "Skipping runtime with unparsable version " ++ runtime.version⟩

/-- The directory of the pinned version, if there is one and it exists. -/
def pinnedDirectory (fs : FileSystem) (directory : Place) (root : String) (env : Environment) :
    Logged (Option String) :=
  match env.pinnedVersion with
  | none => pure none
  | some pinned => do
    let candidate := Path.join (sharedDirectory root) pinned
    if fs.isDirectory directory candidate then
      Logged.write .info .version ("Using pinned runtime version " ++ pinned)
      return some candidate
    else
      Logged.write .debug .version
        ("Pinned runtime " ++ pinned ++ " not found under " ++ sharedDirectory root)
      return none

def listedDirectory (fs : FileSystem) (directory : Place) (root : String) (floor : RuntimeVersion)
    (runtimes : List Runtime) : Logged (Option String) := do
  (⟨(), skippedLines runtimes family⟩ : Logged Unit)
  match pickLatest runtimes family floor with
  | none => return none
  | some runtime =>
    let candidate := Path.join (sharedDirectory root) runtime.version
    let chosen := "Selected runtime " ++ runtime.name ++ " " ++ runtime.version
    if fs.isDirectory directory candidate then
      Logged.write .info .version chosen
      return some candidate
    else if fs.isDirectory directory runtime.directory then
      Logged.write .info .version (chosen ++ " at " ++ runtime.directory)
      return some runtime.directory
    else return none

/-- Selects the directory of a runtime below `root`. The listing is asked for at most once, and
not at all when the pinned version is installed; an error in it is passed on. -/
def selectDirectory {m : Type → Type} [Monad m] (emit : {α : Type} → Logged α → m α)
    (fs : FileSystem) (directory : Place) (root : String) (floor : RuntimeVersion)
    (env : Environment) (listing : m (Except BridgeError (List Runtime))) :
    m (Except BridgeError (Option String)) := do
  match ← emit (pinnedDirectory fs directory root env) with
  | some path => return .ok (some path)
  | none =>
    match ← listing with
    | .error e => return .error e
    | .ok runtimes => return .ok (← emit (listedDirectory fs directory root floor runtimes))

end ManagedHost.Runtime
