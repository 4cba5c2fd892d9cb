import ManagedHost.FileSystem
import ManagedHost.Log

/-!
Where a runtime is installed. Three variables may name the root directory of an installation; the
first that names a directory wins, and a variable that is unset, empty or names something else is
passed over. Without one, the root is the directory of the launcher that the search path finds,
after following links.
-/

namespace ManagedHost

/-- The variables and the search path that a look-up reads, taken once so that it gives the same
answer however the process environment changes. -/
structure Environment where
  vars : List (String × String) := []
  searchPath : Option String := none
deriving Repr

namespace Environment

/-- The variable that names the root for this architecture, looked at first. -/
def archHome : String := "DOTNETHOME_X64"

/-- The variable that names the root for every architecture. -/
def home : String := "DOTNETHOME"

/-- The variable that names the root for other tools too, looked at last. -/
def root : String := "DOTNET_ROOT"

def runtimeVersion : String := "DOTNETRUNTIMEVERSION"

def ofVariables (vars : List (String × String)) : Environment := ⟨vars, vars.lookup "PATH"⟩

def get? (env : Environment) (name : String) : Option String := env.vars.lookup name

def set (env : Environment) (name value : String) : Environment :=
  ⟨(name, value) :: env.vars, env.searchPath⟩

/-- The version that the environment pins. An empty value pins nothing. -/
def pinnedVersion (env : Environment) : Option String :=
  (env.get? runtimeVersion).filter (· ≠ "")

end Environment

namespace Launcher

def name : String := "dotnet"

/-- The absolute path of a launcher in the directory that an entry of the search path names. -/
def pathIn (fs : FileSystem) (directory : Place) (entry : String) : String :=
  Path.absoluteFrom (FileSystem.Place.toPath directory)
    (Path.join (Path.expandHome fs.home entry) name)

/-- The launcher in the first directory of the search path that holds one that can be run. -/
def find (fs : FileSystem) (directory : Place) (env : Environment) : Option String := do
  let searchPath ← env.searchPath
  let candidates := (Path.searchEntries searchPath).map (pathIn fs directory)
  candidates.find? fun candidate => fs.isExecutable directory candidate

end Launcher

namespace Runtime

/-- The first of the given variables that names a directory. -/
def rootFromVariables (fs : FileSystem) (directory : Place) (env : Environment) :
    List String → Logged (Option String)
  | [] => pure none
  | name :: names =>
    match env.get? name with
    | none => rootFromVariables fs directory env names
    | some value => do
      if fs.isDirectory directory value then
        Logged.write .info .locator ("Runtime root from " ++ name ++ ": " ++ value)
        return some value
      else
        Logged.write .debug .locator
          ("Ignoring " ++ name ++ "=" ++ value ++ ": not a directory")
        rootFromVariables fs directory env names

/-- The directory of the launcher on the search path, links followed. -/
def rootFromLauncher (fs : FileSystem) (directory : Place) (env : Environment) :
    Option String := do
  let launcher ← Launcher.find fs directory env
  let resolved := (fs.canonical directory launcher).toOption.getD launcher
  let parent ← Path.parent? resolved
  if fs.isDirectory directory parent then some parent else none

def locateRoot (fs : FileSystem) (directory : Place) (env : Environment) :
    Logged (Option String) := do
  match ← rootFromVariables fs directory env
      [Environment.archHome, Environment.home, Environment.root] with
  | some root => return some root
  | none =>
    match rootFromLauncher fs directory env with
    | some root =>
      Logged.write .info .locator ("Runtime root from launcher: " ++ root)
      return some root
    | none => return none

end Runtime

end ManagedHost
