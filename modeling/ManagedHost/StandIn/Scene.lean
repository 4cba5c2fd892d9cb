import ManagedHost.StandIn.Host

/-!
A scene: the hosts, catalogs and openers that stand in for the world outside the program. Launchers
are run from the file system, and stand-in libraries are opened from it.
-/

namespace ManagedHost.StandIn

/-- What stands outside the program. -/
structure Scene where
  hosts : List (String × ScriptedHost) := []
  /-- The addresses of the bindings that hosts hand out, by bridge and name. -/
  bound : List ((String × String) × Address) := []
  catalogs : List (Except BridgeError (List Runtime)) := []
  /-- The scripted hosts that openers open. One without a host fails. -/
  openers : List (Option String) := []

inductive Stand where
  | scripted (name : String)
  | library (variant : LibraryVariant)

namespace Stand

def id : Stand → HostId
  | scripted name => "scripted " ++ name
  | library variant => "library " ++ variant.name

def ofId? (id : HostId) : Option Stand :=
  match LibraryVariant.named.find? fun (_, variant) => (library variant).id == id with
  | some (_, variant) => some (library variant)
  | none =>
    if id.startsWith "scripted " then some (scripted (String.ofList (id.toList.drop 9)))
    else none

end Stand

/-- Opens the stand-in library at a path. Only a path with a slash names a file. -/
def openLibrary (files : FileSystem) (directory : Place) (path : String) :
    Except BridgeError LibraryVariant :=
  if path.isEmpty then .error (.missingExport "coreclr_initialize")
  else if !path.toList.contains '/' then .error (.hostLibraryLoad path)
  else
    match files.entry? directory path with
    | some (.hostingLibrary variant) =>
      match variant.missing? with
      | some symbol => .error (.missingExport symbol)
      | none => .ok variant
    | _ => .error (.hostLibraryLoad path)

namespace Scene

def host (scene : Scene) (name : String) : ScriptedHost :=
  (scene.hosts.lookup name).getD {}

def openSupplied (scene : Scene) (opener : Nat) : Except BridgeError HostId :=
  match scene.openers[opener]? with
  | some (some name) => .ok (Stand.scripted name).id
  | _ => .error (.adapter "opener")

def startUp (scene : Scene) (id : HostId) : Except Int32 HostInstance :=
  match Stand.ofId? id with
  | some (.scripted name) => (scene.host name).startUp
  | some (.library variant) => variant.startUp
  | none => .error unknownMethod

def createDelegate (scene : Scene) (id : HostId) (typeName method : String) :
    Except Int32 Address :=
  match Stand.ofId? id with
  | some (.scripted name) => (scene.host name).createDelegate scene.bound typeName method
  | some (.library variant) => variant.createDelegate method
  | none => .error unknownMethod

def shutDown (scene : Scene) (id : HostId) : Except Int32 Unit :=
  match Stand.ofId? id with
  | some (.scripted name) => (scene.host name).shutDown
  | some (.library variant) => variant.shutDown
  | none => .ok ()

/-- The conduct of everything outside the program. -/
def outside (scene : Scene) : Outside := fun world call =>
  match call with
  | .listRuntimes catalog => return (scene.catalogs[catalog]?).getD (.ok [])
  | .runLauncher path => return Launcher.listRuntimes world.files world.directory path
  | .openFile path =>
    return (openLibrary world.files world.directory path).map fun variant =>
      (Stand.library variant).id
  | .openSupplied opener _ => return scene.openSupplied opener
  | .startUp host _ _ => return scene.startUp host
  | .createDelegate host _ _ typeName method => return scene.createDelegate host typeName method
  | .shutDown host _ => return scene.shutDown host
  | .managed _ address _ cells =>
    match Method.ofAddress? address with
    | some method => method.run cells
    | none => return .word 0
  | .native n signature args => Routine.conduct n signature args

def maxDepth : Nat := 64

def foreign (scene : Scene) : Foreign := scene.outside.answer maxDepth

end Scene

inductive LibraryUse where
  | startUp (result : Except Int32 HostInstance)
  | createDelegate (result : Except Int32 Address)
  | shutDown (result : Except Int32 Unit)

/-- Opens a hosting library, starts its runtime, asks for methods and shuts the runtime down. A
runtime that does not start is not used. -/
def tryLibrary (foreign : Foreign) (path : String) (methods : List String) :
    Action (Except BridgeError (List LibraryUse)) := do
  match ← Action.openLibrary foreign path .file with
  | .error e => return .error e
  | .ok host =>
    match ← foreign (.startUp host "domain" []) with
    | .error status => return .ok [.startUp (.error status)]
    | .ok started =>
      let delegates ← methods.mapM fun method => do
        let result ← foreign (.createDelegate host started "Assembly" "Type" method)
        return LibraryUse.createDelegate result
      let ended ← foreign (.shutDown host started)
      return .ok (.startUp (.ok started) :: delegates ++ [.shutDown ended])

end ManagedHost.StandIn
