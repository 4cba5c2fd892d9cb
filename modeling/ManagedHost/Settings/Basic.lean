import ManagedHost.Runtime.Root
import ManagedHost.Text.Blank
import ManagedHost.Version

/-!
Settings of the program. Everything but the path of the bootstrap assembly has a default. Settings
are accepted when no name in them is blank, the lowest version reads as a version and the log
level is one of the five levels.
-/

namespace ManagedHost

namespace Settings

/-- The managed assembly that is told about the bindings, and the methods it is told by. -/
structure Bootstrap where
  assemblyPath : String
  assemblyIdentity : String := "Spadecs.Boot, Version=1.0.0.0"
  entryType : String := "Spadecs.Bootstrapper"
  loadMethod : String := "OnLoad"
  unloadMethod : String := "OnUnload"
deriving DecidableEq

structure RuntimeChoice where
  minVersion : String := RuntimeVersion.lowest.display
  /-- The root directory, stronger than the environment. -/
  root : Option String := none
  /-- The pinned version, stronger than the environment. -/
  version : Option String := none
deriving DecidableEq

/-- Where the handlers of game events live. -/
structure Imports where
  assemblyIdentity : String := "Spadecs, Version=1.0.0.0"
  eventType : String := "Spadecs.EventManager"
deriving DecidableEq

structure Logging where
  level : String := "info"
  jsonFormat : Bool := false
deriving DecidableEq

inductive Refusal where
  | emptyAssemblyPath
  | emptyEntryPoint
  | invalidMinVersion (text : String)
  | invalidLogLevel (text : String)
deriving DecidableEq

def Refusal.message : Refusal → String
  | emptyAssemblyPath => "Bootstrap assembly path cannot be empty"
  | emptyEntryPoint => "Entry type and entry point names cannot be empty"
  | invalidMinVersion text => "Invalid minimum runtime version: " ++ text
  | invalidLogLevel text =>
    "Invalid log level: " ++ text ++ ". Must be one of: " ++ ", ".intercalate LogLevel.names

end Settings

structure Settings where
  bootstrap : Settings.Bootstrap
  runtime : Settings.RuntimeChoice := {}
  imports : Settings.Imports := {}
  logging : Settings.Logging := {}
deriving DecidableEq

namespace Settings

/-- The settings of a fresh deployment. -/
def fresh : Settings := { bootstrap := { assemblyPath := "dotnet/net5.0/Spadecs.Boot.dll" } }

def minVersion (settings : Settings) : Except Refusal RuntimeVersion :=
  match RuntimeVersion.parse settings.runtime.minVersion with
  | .ok version => .ok version
  | .error _ => .error (.invalidMinVersion settings.runtime.minVersion)

/-- Accepts settings, or tells the first thing that is wrong with them. -/
def validate (settings : Settings) : Except Refusal Unit := do
  let entryPoints := [settings.bootstrap.entryType, settings.bootstrap.loadMethod,
    settings.bootstrap.unloadMethod, settings.imports.eventType]
  if Text.isBlankText settings.bootstrap.assemblyPath then .error .emptyAssemblyPath
  else if entryPoints.any Text.isBlankText then .error .emptyEntryPoint
  else
    let _ ← settings.minVersion
    if settings.logging.level ∈ LogLevel.names then .ok ()
    else .error (.invalidLogLevel settings.logging.level)

/-- An environment with the settings on top of it: the root takes the place of the variable that
is looked at first, and the version that of the pin. -/
def environment (settings : Settings) (base : Environment) : Environment :=
  let rooted := match settings.runtime.root with
    | some root => base.set Environment.archHome root
    | none => base
  match settings.runtime.version with
  | some version => rooted.set Environment.runtimeVersion version
  | none => rooted

end Settings

end ManagedHost
