import ManagedHost.Bridge.Load
import ManagedHost.Proofs.Keeps
import ManagedHost.Proofs.RuntimeRoot
import ManagedHost.Settings.Loader

/-! # Settings over the environment

A search for a runtime reads the search path and four variables, and nothing else tells two
environments apart (`Environment.Agree`, kept by every step of the search). Settings come before
two of these variables, so only what they leave open is left to the environment
(`Settings.LeavesAlike`); a root that they set is the root, and with a version set besides, the
directory of the runtime is known without asking a launcher (`configured_runtime_wins`). -/

namespace ManagedHost

open ManagedHost.Action

variable {fs : FileSystem} {directory : Place} {foreign : Foreign} {root version : String}
  {w : World}

/-! ## What a search reads -/

namespace Environment

theorem get?_set (env : Environment) (key value name : String) :
    (env.set key value).get? name = if name = key then some value else env.get? name := by
  unfold get? set
  rw [List.lookup_cons]
  by_cases same : name = key
  · simp [same]
  · rw [beq_false_of_ne same, if_neg same]

/-- The variables that a search for a runtime reads. -/
def runtimeVariables : List String := runtimeVersion :: rootVariables

/-- A search for a runtime reads the same in both environments. -/
structure Agree (left right : Environment) : Prop where
  searchPath : left.searchPath = right.searchPath
  values : ∀ name ∈ runtimeVariables, left.get? name = right.get? name

namespace Agree

variable {left right : Environment}

theorem rootFromVariables {names : List String}
    (alike : ∀ name ∈ names, left.get? name = right.get? name) :
    Runtime.rootFromVariables fs directory left names =
      Runtime.rootFromVariables fs directory right names := by
  induction names with
  | nil => rfl
  | cons name names ih =>
    have later := ih fun other listed => alike other (List.mem_cons_of_mem name listed)
    rw [Runtime.rootFromVariables, Runtime.rootFromVariables, alike name List.mem_cons_self, later]

theorem find (agree : Agree left right) :
    Launcher.find fs directory left = Launcher.find fs directory right := by
  rw [Launcher.find, Launcher.find, agree.searchPath]

theorem locateRoot (agree : Agree left right) :
    Runtime.locateRoot fs directory left = Runtime.locateRoot fs directory right := by
  have named : Runtime.rootFromVariables fs directory left [archHome, home, Environment.root] =
      Runtime.rootFromVariables fs directory right [archHome, home, Environment.root] :=
    rootFromVariables fun name listed =>
      agree.values name (List.mem_cons_of_mem runtimeVersion listed)
  rw [Runtime.locateRoot, Runtime.locateRoot, named, Runtime.rootFromLauncher,
    Runtime.rootFromLauncher, agree.find]

theorem forRoot (agree : Agree left right) :
    Launcher.forRoot fs directory root left = Launcher.forRoot fs directory root right := by
  rw [Launcher.forRoot, Launcher.forRoot, agree.find]

theorem pinnedDirectory (agree : Agree left right) :
    Runtime.pinnedDirectory fs directory root left =
      Runtime.pinnedDirectory fs directory root right := by
  rw [Runtime.pinnedDirectory, Runtime.pinnedDirectory, pinnedVersion, pinnedVersion,
    agree.values runtimeVersion List.mem_cons_self]

theorem listing (agree : Agree left right) (catalog : Catalog) :
    Action.listing foreign root left catalog = Action.listing foreign root right catalog := by
  cases catalog with
  | supplied id => rfl
  | launcher path => rfl
  | installed =>
    unfold Action.listing
    refine bind_congr fun world => ?_
    rw [agree.forRoot]

theorem selectRuntime (agree : Agree left right) (floor : RuntimeVersion) (catalog : Catalog) :
    Action.selectRuntime foreign root floor left catalog =
      Action.selectRuntime foreign root floor right catalog := by
  simp only [Action.selectRuntime, Runtime.selectDirectory, agree.pinnedDirectory, agree.listing]

/-- Once its directory is known, a runtime is started without a look at the environment. -/
theorem startUp_environment (left right : Environment) (loader : Loader) (path : String)
    (host : HostId) :
    Action.startUp foreign { loader with environment := left } path host =
      Action.startUp foreign { loader with environment := right } path host := by
  unfold Action.startUp
  refine bind_congr fun world => ?_
  dsimp only
  -- Both sides print alike, but the instances that decide the conditions still hold the loader.
  split
  · rfl
  · split_ifs
    · rfl
    · rfl
    · refine bind_congr fun started => ?_
      cases started <;> rfl

theorem prepare (agree : Agree left right) (loader : Loader) :
    Action.prepare foreign { loader with environment := left } =
      Action.prepare foreign { loader with environment := right } := by
  have located : Action.locateRuntime foreign { loader with environment := left } =
      Action.locateRuntime foreign { loader with environment := right } := by
    simp only [Action.locateRuntime, agree.locateRoot, agree.selectRuntime]
  have opened (directory : String) :
      Action.openHost foreign { loader with environment := left } directory =
        Action.openHost foreign { loader with environment := right } directory := rfl
  simp only [Action.prepare, located, opened, startUp_environment left right loader]

theorem load (agree : Agree left right) (b : BridgeId) (loader : Loader) :
    Action.load foreign b { loader with environment := left } =
      Action.load foreign b { loader with environment := right } := by
  unfold Action.load
  rw [agree.prepare]
  rfl

end Agree

end Environment

/-! ## What settings put in its place -/

/-- The world with one more line in its log. -/
def World.wrote (w : World) (line : LogLine) : World := { w with log := line :: w.log }

namespace Settings

/-- The log line about the root that the strongest variable names. -/
def rootLine (root : String) : LogLine :=
  ⟨.info, .locator, "Runtime root from " ++ Environment.archHome ++ ": " ++ root⟩

/-- The log line about a pinned version that is installed. -/
def pinLine (version : String) : LogLine :=
  ⟨.info, .version, "Using pinned runtime version " ++ version⟩

variable {settings : Settings} {base other : Environment}

theorem searchPath_environment : (settings.environment base).searchPath = base.searchPath := by
  unfold environment
  cases settings.runtime.root <;> cases settings.runtime.version <;> rfl

/-- What settings say about a variable comes before what the environment says. -/
theorem get?_environment (settings : Settings) (base : Environment) (name : String) :
    (settings.environment base).get? name =
      if name = Environment.runtimeVersion then settings.runtime.version.or (base.get? name)
      else if name = Environment.archHome then settings.runtime.root.or (base.get? name)
      else base.get? name := by
  have apart : Environment.runtimeVersion ≠ Environment.archHome := by decide
  unfold environment
  by_cases pin : name = Environment.runtimeVersion
  · cases settings.runtime.root <;> cases settings.runtime.version <;>
      simp [Environment.get?_set, pin, apart]
  · cases settings.runtime.root <;> cases settings.runtime.version <;>
      simp [Environment.get?_set, pin]

/-- What the settings leave to the environment is alike in two environments. -/
structure LeavesAlike (settings : Settings) (base other : Environment) : Prop where
  searchPath : base.searchPath = other.searchPath
  home : base.get? Environment.home = other.get? Environment.home
  root : base.get? Environment.root = other.get? Environment.root
  archHome : settings.runtime.root = none →
    base.get? Environment.archHome = other.get? Environment.archHome
  version : settings.runtime.version = none →
    base.get? Environment.runtimeVersion = other.get? Environment.runtimeVersion

theorem LeavesAlike.agree (alike : settings.LeavesAlike base other) :
    Environment.Agree (settings.environment base) (settings.environment other) where
  searchPath := by rw [searchPath_environment, searchPath_environment, alike.searchPath]
  values := by
    intro name listed
    have apart : Environment.archHome ≠ Environment.runtimeVersion := by decide
    rw [get?_environment, get?_environment]
    have named : name = Environment.runtimeVersion ∨ name = Environment.archHome ∨
        name = Environment.home ∨ name = Environment.root := by
      simpa [Environment.runtimeVariables, Environment.rootVariables] using listed
    rcases named with rfl | rfl | rfl | rfl
    · cases set : settings.runtime.version with
      | none => simp [alike.version set]
      | some version => simp
    · rw [if_neg apart, if_neg apart]
      cases set : settings.runtime.root with
      | none => simp [alike.archHome set]
      | some root => simp
    · rw [alike.home]
    · rw [alike.root]

/-- The root that the settings set is the root, whatever the environment says. -/
theorem locateRoot_environment (set : settings.runtime.root = some root)
    (there : fs.isDirectory directory root = true) (base : Environment) :
    Runtime.locateRoot fs directory (settings.environment base) = ⟨some root, [rootLine root]⟩ := by
  have named : (settings.environment base).get? Environment.archHome = some root := by
    rw [get?_environment, if_neg (by decide), if_pos rfl, set, Option.some_or]
  rw [Runtime.locateRoot, Runtime.rootFromVariables, named]
  dsimp only
  rw [if_pos there]
  rfl

/-- The settings set a root and a version, and the directories of both are there. -/
structure Fixes (settings : Settings) (fs : FileSystem) (directory : Place)
    (root version : String) : Prop where
  rootSet : settings.runtime.root = some root
  rootThere : fs.isDirectory directory root = true
  versionSet : settings.runtime.version = some version
  filled : version ≠ ""
  versionThere :
    fs.isDirectory directory (Path.join (Runtime.sharedDirectory root) version) = true

namespace Fixes

/-- The version that the settings set is the one pinned, whatever the environment says. -/
theorem pinnedDirectory (fixed : settings.Fixes fs directory root version) (base : Environment) :
    Runtime.pinnedDirectory fs directory root (settings.environment base) =
      ⟨some (Path.join (Runtime.sharedDirectory root) version), [pinLine version]⟩ := by
  have pinned : (settings.environment base).pinnedVersion = some version := by
    rw [Environment.pinnedVersion, get?_environment, if_pos rfl, fixed.versionSet, Option.some_or]
    simp [fixed.filled]
  rw [Runtime.pinnedDirectory, pinned]
  dsimp only
  rw [if_pos fixed.versionThere]
  rfl

theorem selectRuntime (fixed : settings.Fixes w.files w.directory root version)
    (foreign : Foreign) (floor : RuntimeVersion) (catalog : Catalog) (base : Environment) :
    Returns (Action.selectRuntime foreign root floor (settings.environment base) catalog) w
      (.ok (some (Path.join (Runtime.sharedDirectory root) version)))
      (w.wrote (pinLine version)) := by
  have got : Returns (get : Action World) w w w := rfl
  refine got.then ?_
  rw [Runtime.selectDirectory, fixed.pinnedDirectory base]
  rfl

/-- With its assembly in place, a loader finds the directory of the runtime. -/
theorem locateRuntime {loader : Loader} {base : Environment}
    (fixed : settings.Fixes w.files w.directory root version)
    (told : loader.environment = settings.environment base)
    (assembly : w.files.isFile w.directory loader.assembly = true) :
    Returns (Action.locateRuntime foreign loader) w
      (.ok (Path.join (Runtime.sharedDirectory root) version))
      ((w.wrote (rootLine root)).wrote (pinLine version)) := by
  have got : Returns (get : Action World) w w w := rfl
  have emitted : Returns (emit ⟨some root, [rootLine root]⟩) w (some root)
      (w.wrote (rootLine root)) := rfl
  -- Writing to the log leaves the files as they are.
  have later : settings.Fixes (w.wrote (rootLine root)).files (w.wrote (rootLine root)).directory
    root version := fixed
  have selected := later.selectRuntime foreign loader.minVersion loader.catalog base
  refine got.then ?_
  rw [if_neg (by simp [assembly]), told,
    locateRoot_environment fixed.rootSet fixed.rootThere base]
  refine emitted.then ?_
  refine selected.then ?_
  exact .returned _ _

end Fixes

/-- A loader has the environment as one of its fields, and the rest is from the settings. -/
theorem loader_eq (settings : Settings) (base : Environment) :
    settings.loader base = (settings.loader {}).map fun loader =>
      { loader with environment := settings.environment base } := by
  unfold Settings.loader
  cases settings.minVersion <;> rfl

theorem environment_of_loader {loader : Loader} (told : settings.loader base = .ok loader) :
    loader.environment = settings.environment base := by
  rw [loader_eq] at told
  cases made : settings.loader {} with
  | error refusal =>
    rw [made] at told
    cases told
  | ok bare =>
    rw [made] at told
    cases told
    rfl

/-- Whether the settings make a loader does not depend on the environment, and what a loader does
only as far as the settings leave it to the environment. -/
theorem LeavesAlike.load (alike : settings.LeavesAlike base other) (b : BridgeId) :
    (settings.loader base).map (Action.load foreign b) =
      (settings.loader other).map (Action.load foreign b) := by
  rw [loader_eq settings base, loader_eq settings other]
  cases settings.loader {} with
  | error refusal => rfl
  | ok loader => exact congrArg Except.ok (alike.agree.load b loader)

/-- A root that is set is the root in every environment; with a version set besides, the runtime
is found in every environment, and nothing outside is called for it; and in two environments that
are alike in what is left to them, the root, the launcher, the directory and the whole load are the
same, also where they fail. -/
theorem configured_runtime_wins (settings : Settings) :
    (∀ (fs : FileSystem) (directory : Place) (root : String),
      settings.runtime.root = some root → fs.isDirectory directory root = true →
      ∀ base, (Runtime.locateRoot fs directory (settings.environment base)).value = some root) ∧
    (∀ (foreign : Foreign) (w : World) (root version : String),
      settings.Fixes w.files w.directory root version → ∀ base,
      (∀ floor catalog,
        Returns (selectRuntime foreign root floor (settings.environment base) catalog) w
          (.ok (some (Path.join (Runtime.sharedDirectory root) version)))
          (w.wrote (pinLine version))) ∧
      ∀ loader, settings.loader base = .ok loader →
        w.files.isFile w.directory loader.assembly = true →
        Returns (locateRuntime foreign loader) w
          (.ok (Path.join (Runtime.sharedDirectory root) version))
          ((w.wrote (rootLine root)).wrote (pinLine version))) ∧
    ∀ base other, settings.LeavesAlike base other →
      (∀ fs directory, Runtime.locateRoot fs directory (settings.environment base) =
        Runtime.locateRoot fs directory (settings.environment other)) ∧
      (∀ fs directory root, Launcher.forRoot fs directory root (settings.environment base) =
        Launcher.forRoot fs directory root (settings.environment other)) ∧
      (∀ foreign root floor catalog,
        selectRuntime foreign root floor (settings.environment base) catalog =
          selectRuntime foreign root floor (settings.environment other) catalog) ∧
      ∀ foreign b, (settings.loader base).map (Action.load foreign b) =
        (settings.loader other).map (Action.load foreign b) := by
  refine ⟨fun fs directory root set there base => ?_, fun foreign w root version fixed base => ?_,
    fun base other alike => ?_⟩
  · rw [locateRoot_environment set there]
  · exact ⟨fun floor catalog => fixed.selectRuntime foreign floor catalog base,
      fun loader told => fixed.locateRuntime (environment_of_loader told)⟩
  · have agree := alike.agree
    exact ⟨fun _ _ => agree.locateRoot, fun _ _ _ => agree.forRoot,
      fun _ _ floor catalog => agree.selectRuntime floor catalog, fun _ b => alike.load b⟩

/-- Settings that fix the runtime, and what is installed for them. -/
def fixing : Settings where
  bootstrap := { assemblyPath := "boot.dll" }
  runtime := { root := some "/net", version := some "6.0.1" }

/-- A world in which another root and another version are installed besides. -/
def twoRoots : World where
  files := { entries :=
    [(["boot.dll"], .file [] false), (["other"], .directory), (["net"], .directory),
      (["net", "shared"], .directory), (["net", "shared", "Microsoft.NETCore.App"], .directory),
      (["net", "shared", "Microsoft.NETCore.App", "5.0.0"], .directory),
      (["net", "shared", "Microsoft.NETCore.App", "6.0.1"], .directory)] }

/-- An environment with another root and another version. -/
def contrary : Environment where
  vars := [(Environment.archHome, "/other"), (Environment.runtimeVersion, "5.0.0")]

/-- The loader that the settings make of it. -/
def contraryLoader : Loader where
  assembly := "boot.dll"
  identity := fixing.bootstrap.assemblyIdentity
  entryType := fixing.bootstrap.entryType
  environment := fixing.environment contrary

theorem contrary_overridden :
    (Runtime.locateRoot twoRoots.files [] (fixing.environment contrary)).value = some "/net" ∧
    Returns
      (selectRuntime (fun call => pure call.inertReply) "/net" RuntimeVersion.lowest
        (fixing.environment contrary) .installed) twoRoots
      (.ok (some "/net/shared/Microsoft.NETCore.App/6.0.1"))
      (twoRoots.wrote (pinLine "6.0.1")) ∧
    Returns (locateRuntime (fun call => pure call.inertReply) contraryLoader) twoRoots
      (.ok "/net/shared/Microsoft.NETCore.App/6.0.1")
      ((twoRoots.wrote (rootLine "/net")).wrote (pinLine "6.0.1")) ∧
    (fixing.loader contrary).map (Action.load (fun call => pure call.inertReply) 0) =
      (fixing.loader {}).map (Action.load (fun call => pure call.inertReply) 0) := by
  have wins := configured_runtime_wins fixing
  have fixed : fixing.Fixes twoRoots.files twoRoots.directory "/net" "6.0.1" :=
    { rootSet := rfl
      rootThere := by decide +kernel
      versionSet := rfl
      filled := by decide
      versionThere := by decide +kernel }
  have alike : fixing.LeavesAlike contrary {} :=
    { searchPath := rfl
      home := rfl
      root := rfl
      archHome := nofun
      version := nofun }
  have path : Path.join (Runtime.sharedDirectory "/net") "6.0.1" =
      "/net/shared/Microsoft.NETCore.App/6.0.1" := by
    decide +kernel
  have told : fixing.loader contrary = .ok contraryLoader := by
    have read : fixing.minVersion = .ok RuntimeVersion.lowest := by decide +kernel
    rw [Settings.loader, read]
    rfl
  refine ⟨wins.1 twoRoots.files [] "/net" rfl fixed.rootThere contrary, ?_, ?_,
    (wins.2.2 contrary {} alike).2.2.2 _ 0⟩
  · rw [← path]
    exact (wins.2.1 _ twoRoots "/net" "6.0.1" fixed contrary).1 _ _
  · rw [← path]
    exact (wins.2.1 _ twoRoots "/net" "6.0.1" fixed contrary).2 _ told (by decide +kernel)

end Settings

end ManagedHost
