import ManagedHost.Bridge.Teardown
import ManagedHost.Json.Writer
import ManagedHost.Launcher.Process
import ManagedHost.Runtime.Assemblies
import ManagedHost.Runtime.Selection

/-!
Bringing a runtime up. The place for a runtime is claimed first; then each precondition is looked
at in order, and the first that fails ends the load and frees the place. Once the runtime was
started, the bridge is live, both entry points are looked up and the load method is told the
bindings; if that fails, the bridge is torn down again.
-/

namespace ManagedHost

namespace Registry

/-- The text in which the managed side is told the bindings. -/
def toJson (registry : Registry) : String :=
  Json.writeObject (registry.snapshot.map fun (name, address) => (name, toString address))

end Registry

namespace Action

def listing (foreign : Foreign) (root : String) (environment : Environment) :
    Catalog → Action (Except BridgeError (List Runtime))
  | .supplied id => foreign (.listRuntimes id)
  | .launcher path => return (← foreign (.runLauncher path)).runtimes path
  | .installed => do
    let world ← get
    let launcher := Launcher.forRoot world.files world.directory root environment
    return (← foreign (.runLauncher launcher)).runtimes launcher

def selectRuntime (foreign : Foreign) (root : String) (floor : RuntimeVersion)
    (environment : Environment) (catalog : Catalog) :
    Action (Except BridgeError (Option String)) := do
  let world ← get
  Runtime.selectDirectory emit world.files world.directory root floor environment
    (listing foreign root environment catalog)

def openLibrary (foreign : Foreign) (path : String) : Opener → Action (Except BridgeError HostId)
  | .file => do
    match ← foreign (.openFile path) with
    | .ok host =>
      log .debug .library ("Loaded hosting library " ++ path)
      return .ok host
    | .error e => return .error e
  | .supplied id => foreign (.openSupplied id path)

def locateRuntime (foreign : Foreign) (loader : Loader) : Action (Except BridgeError String) := do
  let world ← get
  if !world.files.isFile world.directory loader.assembly then
    return .error (.assemblyMissing loader.assembly)
  else
    match ← emit (Runtime.locateRoot world.files world.directory loader.environment) with
    | none => return .error .runtimeNotInstalled
    | some root =>
      match ← selectRuntime foreign root loader.minVersion loader.environment loader.catalog with
      | .error e => return .error e
      | .ok none => return .error (.runtimeVersionTooLow loader.minVersion.display)
      | .ok (some directory) => return .ok directory

def openHost (foreign : Foreign) (loader : Loader) (directory : String) :
    Action (Except BridgeError HostId) := do
  let world ← get
  let library := Path.join directory Loader.libraryName
  if !world.files.isFile world.directory library then return .error (.hostLibraryMissing library)
  else openLibrary foreign library loader.opener

def startUp (foreign : Foreign) (loader : Loader) (directory : String) (host : HostId) :
    Action (Except BridgeError LiveHost) := do
  let world ← get
  match Assemblies.trusted world.files world.directory directory loader.assembly with
  | .error e => return .error e
  | .ok trusted =>
    if !isPassable loader.domainName then return .error (.interiorNul "domain name")
    else if !isPassable trusted then return .error (.interiorNul Loader.trustedAssemblies)
    else
      match ← foreign (.startUp host loader.domainName [(Loader.trustedAssemblies, trusted)]) with
      | .error status => return .error (.startUpFailed status)
      | .ok started =>
        log .info .bridge ("Core CLR initialized from " ++ directory ++ " (domain " ++
          toString started.domain.toNat ++ ")")
        return .ok
          { host, started, defaultAssembly := loader.identity, runtimeDirectory := directory }

/-- Does everything up to the start of the runtime. -/
def prepare (foreign : Foreign) (loader : Loader) : Action (Except BridgeError LiveHost) := do
  match ← locateRuntime foreign loader with
  | .error e => return .error e
  | .ok directory =>
    match ← openHost foreign loader directory with
    | .error e => return .error e
    | .ok host => startUp foreign loader directory host

/-- Looks up both entry points and tells the load method the bindings. -/
def bootstrap (foreign : Foreign) (b : BridgeId) (loader : Loader) :
    Action (Except BridgeError Unit) := do
  match ← resolve foreign b loader.entryType loader.loadMethod none with
  | .error e => return .error e
  | .ok onLoad =>
    match ← resolve foreign b loader.entryType loader.unloadMethod none with
    | .error e => return .error e
    | .ok onUnload =>
      let json := (← bridge b).outbound.toJson
      updateBridge b fun bridge => { bridge with bindingsJson := some json }
      match ← callAddress foreign (.load b) loader.loadName ⟨.void, [.utf8String]⟩ onLoad
          [.text json] with
      | .error e => return .error e
      | .ok _ =>
        updateBridge b fun bridge =>
          { bridge with host := bridge.host.map fun live =>
              { live with unload := some (loader.unloadName, onUnload) } }
        return .ok ()

def load (foreign : Foreign) (b : BridgeId) (loader : Loader) :
    Action (Except BridgeError Unit) := do
  if (← process).isClaimed then return .error .hostAlreadyLoaded
  else
    updateProcess fun p => { p with isClaimed := true }
    match ← prepare foreign loader with
    | .error e =>
      updateProcess fun p => { p with isClaimed := false }
      return .error e
    | .ok live =>
      updateBridge b fun bridge => { bridge with host := some live, isLive := true }
      match ← bootstrap foreign b loader with
      | .error e =>
        log .error .bridge ("Bootstrap of " ++ loader.entryType ++ " failed: " ++ e.message)
        discard (teardown foreign b)
        return .error e
      | .ok () =>
        registerExit b
        log .info .bridge ("Bootstrap " ++ loader.entryType ++ " loaded")
        return .ok ()

end Action

end ManagedHost
