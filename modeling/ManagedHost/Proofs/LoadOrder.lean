import ManagedHost.Proofs.Exchanges
import ManagedHost.Proofs.RuntimeChoice

/-! # The order of a load

A load makes sure of twelve things, one after the other (`LoadStep.inOrder`). How each is looked at,
given what the steps before it found, is said by `Loader.inspect`: either nobody is asked, or one
call is made and its reply decides. The load reports the first step that fails and makes no call of
a later one (`LoadsInOrder`). A runtime that was started by then is shut down again, and that is the
only other call. -/

namespace ManagedHost

open ManagedHost.Action

/-- What a load makes sure of. -/
inductive LoadStep where
  /-- No other bridge has the place for a runtime. -/
  | place
  /-- The bootstrap assembly is a file. -/
  | assembly
  /-- An installation can be found. -/
  | root
  /-- The installed runtimes are known, or not needed. -/
  | listing
  /-- A runtime that will do has a directory. -/
  | runtime
  /-- The hosting library is a file. -/
  | library
  /-- The hosting library can be opened. -/
  | opening
  /-- The assemblies that the runtime may load can be listed. -/
  | trustedList
  /-- The texts for the start of the runtime hold no NUL. -/
  | texts
  /-- The runtime starts. -/
  | start
  | loadMethod
  | unloadMethod
deriving DecidableEq

namespace LoadStep

/-- The steps up to the start of the runtime, in their order. -/
def preparation : List LoadStep :=
  [place, assembly, root, listing, runtime, library, opening, trustedList, texts, start]

/-- The steps after the start of the runtime, in their order. -/
def entries : List LoadStep := [loadMethod, unloadMethod]

/-- All steps in their order. -/
def inOrder : List LoadStep := preparation ++ entries

end LoadStep

/-- What a load has found so far. -/
structure Findings where
  root : String := ""
  /-- The directory of the pinned version. With one nothing is listed. -/
  pinned : Option String := none
  listed : List Runtime := []
  directory : String := ""
  host : HostId := ""
  trusted : String := ""
  started : HostInstance := ⟨0, 0⟩
  onLoad : Address := 0
  onUnload : Address := 0

/-- How a step is looked at. -/
inductive Inspection where
  /-- Nobody is asked. -/
  | known (outcome : Except BridgeError Findings)
  /-- One call is made, and its reply decides. -/
  | asked (call : ForeignCall) (judge : call.Reply → Except BridgeError Findings)

/-- An inspection comes to an outcome by some calls, the last one first. -/
inductive Inspection.Yields : Inspection → List Exchange → Except BridgeError Findings → Prop
  | known (outcome : Except BridgeError Findings) : Yields (.known outcome) [] outcome
  | asked (call : ForeignCall) (judge : call.Reply → Except BridgeError Findings)
      (reply : call.Reply) : Yields (.asked call judge) [⟨call, reply⟩] (judge reply)

namespace Loader

/-- How the installed runtimes are listed. -/
def inspectListing (loader : Loader) (w : World) (found : Findings) : Inspection :=
  match (Runtime.pinnedDirectory w.files w.directory found.root loader.environment).value with
  | some path => .known (.ok { found with pinned := some path })
  | none =>
    match loader.catalog with
    | .supplied id => .asked (.listRuntimes id) fun reply =>
        reply.map fun listed => { found with listed }
    | .launcher path => .asked (.runLauncher path) fun outcome =>
        (outcome.runtimes path).map fun listed => { found with listed }
    | .installed =>
      let path := Launcher.forRoot w.files w.directory found.root loader.environment
      .asked (.runLauncher path) fun outcome =>
        (outcome.runtimes path).map fun listed => { found with listed }

/-- The directory of the runtime: the pinned one, or that of the newest runtime that qualifies. -/
def chosenDirectory (loader : Loader) (w : World) (found : Findings) : Option String :=
  found.pinned <|> (Runtime.pickLatest found.listed Runtime.family loader.minVersion).bind
    (Runtime.installedAt w.files w.directory found.root)

/-- Without a directory there is no runtime that is new enough. -/
def orTooOld (loader : Loader) : Option String → Except BridgeError String
  | some directory => .ok directory
  | none => .error (.runtimeVersionTooLow loader.minVersion.display)

/-- The path of the hosting library. -/
def libraryPath (found : Findings) : String := Path.join found.directory libraryName

/-- How the hosting library is opened. -/
def inspectOpening (loader : Loader) (found : Findings) : Inspection :=
  match loader.opener with
  | .file => .asked (.openFile (libraryPath found)) fun opened =>
      opened.map fun host => { found with host }
  | .supplied id => .asked (.openSupplied id (libraryPath found)) fun opened =>
      opened.map fun host => { found with host }

/-- What a runtime that was asked for an entry point makes of it. -/
def judgeMethod (loader : Loader) (method : String) :
    Except Int32 Address → Except BridgeError Address
  | .error status => .error (.createDelegate loader.entryType method status)
  | .ok address =>
    if address = 0 then .error (.nullDelegate loader.entryType method) else .ok address

/-- How an entry point is looked up. -/
def inspectMethod (loader : Loader) (found : Findings) (method : String)
    (keep : Address → Findings) : Inspection :=
  if isPassable loader.identity && isPassable loader.entryType && isPassable method then
    .asked (.createDelegate found.host found.started loader.identity loader.entryType method)
      fun reply => (loader.judgeMethod method reply).map keep
  else .known (.error (.interiorNul (loader.entryType ++ "." ++ method)))

/-- How each step is looked at in a world, given what the steps before it found. -/
def inspect (loader : Loader) (w : World) (found : Findings) : LoadStep → Inspection
  | .place => .known (if w.process.isClaimed then .error .hostAlreadyLoaded else .ok found)
  | .assembly => .known (if w.files.isFile w.directory loader.assembly then .ok found
      else .error (.assemblyMissing loader.assembly))
  | .root => .known
      (match (Runtime.locateRoot w.files w.directory loader.environment).value with
      | some root => .ok { found with root }
      | none => .error .runtimeNotInstalled)
  | .listing => loader.inspectListing w found
  | .runtime => .known ((loader.orTooOld (loader.chosenDirectory w found)).map
      fun directory => { found with directory })
  | .library => .known (if w.files.isFile w.directory (libraryPath found) then .ok found
      else .error (.hostLibraryMissing (libraryPath found)))
  | .opening => loader.inspectOpening found
  | .trustedList => .known
      ((Assemblies.trusted w.files w.directory found.directory loader.assembly).map
        fun trusted => { found with trusted })
  | .texts => .known
      (if !isPassable loader.domainName then .error (.interiorNul "domain name")
      else if !isPassable found.trusted then .error (.interiorNul trustedAssemblies)
      else .ok found)
  | .start => .asked
      (.startUp found.host loader.domainName [(trustedAssemblies, found.trusted)]) fun
      | .error status => .error (.startUpFailed status)
      | .ok started => .ok { found with started }
  | .loadMethod => loader.inspectMethod found loader.loadMethod fun onLoad =>
      { found with onLoad }
  | .unloadMethod => loader.inspectMethod found loader.unloadMethod fun onUnload =>
      { found with onUnload }

/-- All of some steps pass, with what they find and the calls they make, the last one first. -/
inductive Passes (loader : Loader) (w : World) :
    List LoadStep → Findings → List Exchange → Prop
  | start : Passes loader w [] {} []
  | step {steps : List LoadStep} {found next : Findings} {asked more : List Exchange}
      {step : LoadStep} (before : Passes loader w steps found asked)
      (passes : (loader.inspect w found step).Yields more (.ok next)) :
      Passes loader w (steps ++ [step]) next (more ++ asked)

/-- Some steps pass, and of the steps after them the first that fails does so with an error. The
calls are those up to it, the last one first. -/
inductive Fails (loader : Loader) (w : World) (passed : List LoadStep) :
    List LoadStep → Findings → BridgeError → List Exchange → Prop
  | step {earlier later : List LoadStep} {found : Findings} {asked more : List Exchange}
      {step : LoadStep} {e : BridgeError} (before : Passes loader w (passed ++ earlier) found asked)
      (fails : (loader.inspect w found step).Yields more (.error e)) :
      Fails loader w passed (earlier ++ step :: later) found e (more ++ asked)

end Loader

/-- What a load of a bridge comes to. -/
inductive LoadsInOrder (b : BridgeId) (loader : Loader) (w : World) :
    Except BridgeError Unit → World → Prop
  /-- A step fails, and no runtime was started. -/
  | unprepared {found : Findings} {e : BridgeError} {asked : List Exchange} {w' : World}
      (fails : loader.Fails w [] LoadStep.preparation found e asked)
      (calls : exchanges w'.history = asked ++ exchanges w.history) :
      LoadsInOrder b loader w (.error e) w'
  /-- An entry point is missing, and the runtime that was started is shut down. -/
  | unusable {found : Findings} {e : BridgeError} {asked : List Exchange}
      {reply : Except Int32 Unit} {w' : World}
      (fails : loader.Fails w LoadStep.preparation LoadStep.entries found e asked)
      (calls : exchanges w'.history =
        ⟨.shutDown found.host found.started, reply⟩ :: (asked ++ exchanges w.history)) :
      LoadsInOrder b loader w (.error e) w'
  /-- All steps pass. The load method is told the bindings, and the bridge has its runtime. -/
  | loaded {found : Findings} {asked : List Exchange} {reply : Cell} {w' : World}
      (passes : loader.Passes w LoadStep.inOrder found asked)
      (calls : exchanges w'.history =
        ⟨.managed (.load b) found.onLoad ⟨.void, [.utf8String]⟩
          [.text (.bytes (Text.Utf8.encode (w.process.bridge b).outbound.toJson))], reply⟩ ::
            (asked ++ exchanges w.history))
      (isLive : (w'.process.bridge b).isLive = true)
      (host : (w'.process.bridge b).host = some
        { host := found.host, started := found.started, defaultAssembly := loader.identity,
          runtimeDirectory := found.directory,
          unload := some (loader.unloadName, found.onUnload) }) :
      LoadsInOrder b loader w (.ok ()) w'

/-! ## Up to the start of the runtime -/

/-- A load has passed some steps, and nothing but their calls has happened. -/
def Reached (loader : Loader) (w : World) (steps : List LoadStep) (found : Findings)
    (w' : World) : Prop :=
  ∃ asked, loader.Passes w steps found asked ∧ Adds asked w w'

/-- A load has failed before the start of a runtime, and nothing but the calls up to the first step
that fails has happened. -/
def Stopped (loader : Loader) (w : World) (e : BridgeError) (w' : World) : Prop :=
  ∃ found asked, loader.Fails w [] LoadStep.preparation found e asked ∧ Adds asked w w'

/-- A load has stopped, or it has passed some steps with findings that fit a result. -/
def GoesOn {α : Type} (loader : Loader) (w : World) (steps : List LoadStep)
    (fits : α → Findings → Prop) : Except BridgeError α → World → Prop
  | .error e, w' => Stopped loader w e w'
  | .ok a, w' => ∃ found, Reached loader w steps found w' ∧ fits a found

variable {α : Type} {foreign : Foreign} {b : BridgeId} {loader : Loader} {w w₁ w₂ : World}
  {steps later : List LoadStep} {step : LoadStep} {found : Findings} {more : List Exchange}

theorem GoesOn.mono {fits fits' : α → Findings → Prop} {r : Except BridgeError α}
    (h : GoesOn loader w steps fits r w₁) (weaker : ∀ a found, fits a found → fits' a found) :
    GoesOn loader w steps fits' r w₁ := by
  cases r with
  | error e => exact h
  | ok a =>
    obtain ⟨found, reached, fit⟩ := h
    exact ⟨found, reached, weaker a found fit⟩

theorem Reached.alike (h : Reached loader w steps found w₁) (same : Alike w₁ w₂) :
    Reached loader w steps found w₂ := by
  obtain ⟨asked, passed, before⟩ := h
  exact ⟨asked, passed, before.alike same⟩

theorem Reached.files (h : Reached loader w steps found w₁) : w₁.files = w.files := by
  obtain ⟨asked, -, before⟩ := h
  exact before.untouched.files

theorem Reached.workingDirectory (h : Reached loader w steps found w₁) :
    w₁.directory = w.directory := by
  obtain ⟨asked, -, before⟩ := h
  exact before.untouched.directory

theorem Reached.pass {next : Findings} (h : Reached loader w steps found w₁)
    (passes : (loader.inspect w found step).Yields more (.ok next)) (adds : Adds more w₁ w₂) :
    Reached loader w (steps ++ [step]) next w₂ := by
  obtain ⟨asked, passed, before⟩ := h
  exact ⟨more ++ asked, .step passed passes, before.trans adds⟩

theorem Reached.fail {e : BridgeError} (h : Reached loader w steps found w₁)
    (order : LoadStep.preparation = steps ++ step :: later)
    (fails : (loader.inspect w found step).Yields more (.error e)) (adds : Adds more w₁ w₂) :
    Stopped loader w e w₂ := by
  obtain ⟨asked, passed, before⟩ := h
  exact ⟨found, more ++ asked, order ▸ .step passed fails, before.trans adds⟩

/-- One more step is looked at. -/
theorem Reached.look {r : Except BridgeError α} {keep : α → Findings}
    (h : Reached loader w steps found w₁)
    (order : LoadStep.preparation = steps ++ step :: later)
    (yields : (loader.inspect w found step).Yields more (r.map keep)) (adds : Adds more w₁ w₂) :
    GoesOn loader w (steps ++ [step]) (fun a next => next = keep a) r w₂ := by
  cases r with
  | error e => exact h.fail order yields adds
  | ok a => exact ⟨keep a, h.pass yields adds, rfl⟩

/-- A step that is looked at without asking anybody. -/
theorem Inspection.Yields.of_eq {inspection : Inspection} {outcome : Except BridgeError Findings}
    (known : inspection = .known outcome) : inspection.Yields [] outcome := known ▸ .known _

/-- Without a pinned version the listing is asked for by one call. -/
theorem Docile.lists (docile : Docile foreign) {root : String}
    {listed : Except BridgeError (List Runtime)}
    (h : Lists foreign root loader.environment w₁ loader.catalog listed w₂)
    (reached : Reached loader w [.place, .assembly, .root] { root } w₁)
    (unpinned : ∀ path, ¬ Runtime.PinnedAt w₁.files w₁.directory root loader.environment path) :
    GoesOn loader w [.place, .assembly, .root, .listing]
      (fun listed found => found = { root, listed }) listed w₂ := by
  have value : (Runtime.pinnedDirectory w.files w.directory root loader.environment).value =
      none := by
    refine Option.eq_none_iff_forall_ne_some.mpr fun path there => unpinned path ?_
    rw [reached.files, reached.workingDirectory]
    exact Runtime.pinnedDirectory_eq_some.mp there
  have asked : ∃ more, (loader.inspect w { root } .listing).Yields more
      (listed.map fun listed => { root, listed }) ∧ Adds more w₁ w₂ := by
    simp only [Loader.inspect, Loader.inspectListing, value]
    generalize loader.catalog = catalog at h
    cases h with
    | supplied call => exact ⟨_, .asked _ _ _, docile _ _ _ _ call⟩
    | launcher call => exact ⟨_, .asked _ _ _, docile _ _ _ _ call⟩
    | installed path call =>
      rw [reached.files, reached.workingDirectory] at path
      subst path
      exact ⟨_, .asked _ _ _, docile _ _ _ _ call⟩
  obtain ⟨more, yields, adds⟩ := asked
  exact reached.look rfl yields adds

/-- With the listing known, the runtime is chosen without asking anybody. -/
theorem Reached.choose (h : Reached loader w [.place, .assembly, .root, .listing] found w₁) :
    GoesOn loader w [.place, .assembly, .root, .listing, .runtime]
      (fun directory found => found.directory = directory)
      (loader.orTooOld (loader.chosenDirectory w found)) w₁ :=
  (h.look rfl (.known _) (.refl _)).mono fun _ _ same => same ▸ rfl

/-- The selection of a runtime looks at the listing and at the runtime, in this order. -/
theorem Docile.selects (docile : Docile foreign) {root : String}
    {selected : Except BridgeError (Option String)}
    (h : Selects foreign root loader.minVersion loader.environment loader.catalog w₁ selected w₂)
    (reached : Reached loader w [.place, .assembly, .root] { root } w₁) :
    GoesOn loader w [.place, .assembly, .root, .listing, .runtime]
      (fun directory found => found.directory = directory) (selected.bind loader.orTooOld) w₂ := by
  cases h with
  | @pinned path _ pin unasked =>
    have value := Runtime.pinnedDirectory_eq_some.mpr pin
    rw [reached.files, reached.workingDirectory] at value
    have known : loader.inspect w { root } .listing = .known (.ok { root, pinned := some path }) := by
      simp only [Loader.inspect, Loader.inspectListing, value]
    exact ((reached.pass (.of_eq known) (.refl _)).alike unasked).choose
  | refused unpinned before listed =>
    refine docile.lists listed (reached.alike before) ?_
    rwa [before.2.2.1, before.2.2.2]
  | unqualified unpinned before listed nothing after =>
    obtain ⟨found, known, rfl⟩ := docile.lists listed (reached.alike before)
      (by rwa [before.2.2.1, before.2.2.2])
    have chosen := (known.alike after).choose
    rwa [Loader.chosenDirectory, Runtime.pickLatest_eq_none_iff.mpr nothing] at chosen
  | @decided runtimes runtime version u v _ unpinned before listed newest after =>
    obtain ⟨found, known, rfl⟩ := docile.lists listed (reached.alike before)
      (by rwa [before.2.2.1, before.2.2.2])
    have chosen := (known.alike after).choose
    rwa [Loader.chosenDirectory, Runtime.pickLatest_eq_some_iff.mpr ⟨version, newest⟩,
      ← reached.files, ← reached.workingDirectory] at chosen

/-- The steps up to the directory of a runtime, in their order. -/
theorem Docile.locateRuntime (docile : Docile foreign) {located : Except BridgeError String}
    (h : Returns (locateRuntime foreign loader) w₁ located w₂)
    (reached : Reached loader w [.place] {} w₁) :
    GoesOn loader w [.place, .assembly, .root, .listing, .runtime]
      (fun directory found => found.directory = directory) located w₂ := by
  obtain ⟨world, w₃, got, h⟩ := Returns.bind h
  cases got
  rw [reached.files, reached.workingDirectory] at h
  cases isFile : w.files.isFile w.directory loader.assembly with
  | false =>
    rw [isFile] at h
    obtain ⟨rfl, rfl⟩ := Returns.pure h
    have missing : loader.inspect w {} .assembly =
        .known (.error (.assemblyMissing loader.assembly)) := by
      simp [Loader.inspect, isFile]
    exact reached.fail rfl (.of_eq missing) (.refl _)
  | true =>
    rw [isFile] at h
    have present : loader.inspect w {} .assembly = .known (.ok {}) := by
      simp [Loader.inspect, isFile]
    have passed := reached.pass (.of_eq present) (.refl _)
    obtain ⟨root, w₃, emitted, h⟩ := Returns.bind h
    obtain ⟨same, alike⟩ := emitted.emit
    cases root with
    | none =>
      obtain ⟨rfl, rfl⟩ := Returns.pure h
      have missing : loader.inspect w {} .root = .known (.error .runtimeNotInstalled) := by
        simp only [Loader.inspect, ← same]
      exact (passed.alike alike).fail rfl (.of_eq missing) (.refl _)
    | some root =>
      have located : loader.inspect w {} .root = .known (.ok { root }) := by
        simp only [Loader.inspect, ← same]
      obtain ⟨selected, w₄, hs, h⟩ := Returns.bind h
      have chosen := docile.selects hs.selectRuntime
        ((passed.alike alike).pass (.of_eq located) (.refl _))
      rcases selected with e | directory
      · obtain ⟨rfl, rfl⟩ := Returns.pure h
        exact chosen
      · cases directory <;>
          · obtain ⟨rfl, rfl⟩ := Returns.pure h
            exact chosen

theorem Docile.openLibrary (docile : Docile foreign) {opened : Except BridgeError HostId}
    (h : Returns (openLibrary foreign (Loader.libraryPath found) loader.opener) w₁ opened w₂) :
    ∃ more, (loader.inspect w found .opening).Yields more
      (opened.map fun host => { found with host }) ∧ Adds more w₁ w₂ := by
  simp only [Loader.inspect, Loader.inspectOpening]
  cases opener : loader.opener with
  | supplied id =>
    rw [opener] at h
    exact ⟨_, .asked _ _ _, docile _ _ _ _ h⟩
  | file =>
    rw [opener] at h
    obtain ⟨reply, w₃, call, h⟩ := Returns.bind h
    have adds := docile _ _ _ _ call
    cases reply with
    | error e =>
      obtain ⟨rfl, rfl⟩ := Returns.pure h
      exact ⟨_, .asked (.openFile _) _ (.error e), adds⟩
    | ok host =>
      obtain ⟨u, w₄, logged, h⟩ := Returns.bind h
      obtain ⟨rfl, rfl⟩ := Returns.pure h
      exact ⟨_, .asked (.openFile _) _ (.ok host), adds.alike logged.log⟩

/-- The hosting library is looked at and opened. -/
theorem Docile.openHost (docile : Docile foreign) {opened : Except BridgeError HostId}
    (h : Returns (openHost foreign loader found.directory) w₁ opened w₂)
    (reached : Reached loader w [.place, .assembly, .root, .listing, .runtime] found w₁) :
    GoesOn loader w [.place, .assembly, .root, .listing, .runtime, .library, .opening]
      (fun host next => next = { found with host }) opened w₂ := by
  obtain ⟨world, w₃, got, h⟩ := Returns.bind h
  cases got
  rw [reached.files, reached.workingDirectory] at h
  change Returns (if !w.files.isFile w.directory (Loader.libraryPath found) then
    pure (.error (.hostLibraryMissing (Loader.libraryPath found)))
    else Action.openLibrary foreign (Loader.libraryPath found) loader.opener) w₁ opened w₂ at h
  cases isFile : w.files.isFile w.directory (Loader.libraryPath found) with
  | false =>
    rw [isFile] at h
    obtain ⟨rfl, rfl⟩ := Returns.pure h
    have missing : loader.inspect w found .library =
        .known (.error (.hostLibraryMissing (Loader.libraryPath found))) := by
      simp [Loader.inspect, isFile]
    exact reached.fail rfl (.of_eq missing) (.refl _)
  | true =>
    rw [isFile] at h
    have present : loader.inspect w found .library = .known (.ok found) := by
      simp [Loader.inspect, isFile]
    have passed := reached.pass (.of_eq present) (.refl _)
    obtain ⟨more, yields, adds⟩ := docile.openLibrary h
    exact passed.look rfl yields adds

/-- What a runtime has that was just started. -/
def Findings.live (found : Findings) (loader : Loader) : LiveHost :=
  { host := found.host, started := found.started, defaultAssembly := loader.identity,
    runtimeDirectory := found.directory }

/-- The list of assemblies and the texts are looked at, and the runtime is started. -/
theorem Docile.startUp (docile : Docile foreign) {live : Except BridgeError LiveHost}
    (reached : Reached loader w
      [.place, .assembly, .root, .listing, .runtime, .library, .opening] found w₁)
    (h : Returns (startUp foreign loader found.directory found.host) w₁ live w₂) :
    GoesOn loader w LoadStep.preparation (fun live next => live = next.live loader) live w₂ := by
  obtain ⟨world, w₃, got, h⟩ := Returns.bind h
  cases got
  rw [reached.files, reached.workingDirectory] at h
  cases listed : Assemblies.trusted w.files w.directory found.directory loader.assembly with
  | error e =>
    rw [listed] at h
    obtain ⟨rfl, rfl⟩ := Returns.pure h
    have unreadable : loader.inspect w found .trustedList = .known (.error e) := by
      simp only [Loader.inspect, listed]
      rfl
    exact reached.fail rfl (.of_eq unreadable) (.refl _)
  | ok trusted =>
    rw [listed] at h
    have readable : loader.inspect w found .trustedList = .known (.ok { found with trusted }) := by
      simp only [Loader.inspect, listed]
      rfl
    have passed := reached.pass (.of_eq readable) (.refl _)
    cases domain : isPassable loader.domainName with
    | false =>
      simp only [domain, Bool.not_false, if_true] at h
      obtain ⟨rfl, rfl⟩ := Returns.pure h
      have stuck : loader.inspect w { found with trusted } .texts =
          .known (.error (.interiorNul "domain name")) := by
        simp [Loader.inspect, domain]
      exact passed.fail rfl (.of_eq stuck) (.refl _)
    | true =>
      cases list : isPassable trusted with
      | false =>
        simp only [domain, list, Bool.not_true, Bool.not_false, Bool.false_eq_true, if_false,
          if_true] at h
        obtain ⟨rfl, rfl⟩ := Returns.pure h
        have stuck : loader.inspect w { found with trusted } .texts =
            .known (.error (.interiorNul Loader.trustedAssemblies)) := by
          simp [Loader.inspect, domain, list]
        exact passed.fail rfl (.of_eq stuck) (.refl _)
      | true =>
        simp only [domain, list, Bool.not_true, Bool.false_eq_true, if_false] at h
        have passable : loader.inspect w { found with trusted } .texts =
            .known (.ok { found with trusted }) := by
          simp [Loader.inspect, domain, list]
        have passed := passed.pass (.of_eq passable) (.refl _)
        obtain ⟨reply, w₄, call, h⟩ := Returns.bind h
        have adds := docile _ _ _ _ call
        cases reply with
        | error status =>
          obtain ⟨rfl, rfl⟩ := Returns.pure h
          exact passed.fail rfl (.asked (.startUp _ _ _) _ (.error status)) adds
        | ok started =>
          obtain ⟨u, w₅, logged, h⟩ := Returns.bind h
          obtain ⟨rfl, rfl⟩ := Returns.pure h
          have begins : (loader.inspect w { found with trusted } .start).Yields _
              (.ok { found with trusted, started }) := .asked (.startUp _ _ _) _ (.ok started)
          exact ⟨_, (passed.pass begins adds).alike logged.log, rfl⟩

/-- All steps up to the start of the runtime, in their order. -/
theorem Docile.prepare (docile : Docile foreign) {live : Except BridgeError LiveHost}
    (h : Returns (prepare foreign loader) w₁ live w₂) (reached : Reached loader w [.place] {} w₁) :
    GoesOn loader w LoadStep.preparation (fun live next => live = next.live loader) live w₂ := by
  obtain ⟨located, w₃, hl, h⟩ := Returns.bind h
  have there := docile.locateRuntime hl reached
  cases located with
  | error e =>
    obtain ⟨rfl, rfl⟩ := Returns.pure h
    exact there
  | ok directory =>
    obtain ⟨found, reached, rfl⟩ := there
    obtain ⟨opened, w₄, ho, h⟩ := Returns.bind h
    have opens := docile.openHost ho reached
    cases opened with
    | error e =>
      obtain ⟨rfl, rfl⟩ := Returns.pure h
      exact opens
    | ok host =>
      obtain ⟨_, reached, rfl⟩ := opens
      exact docile.startUp reached h

/-! ## After the start of the runtime -/

/-- Looking an entry point up is one step. -/
theorem Docile.resolve (docile : Docile foreign) {method : String} {keep : Address → Findings}
    {result : Except BridgeError Address} (step : LoadStep)
    (looks : loader.inspect w found step = loader.inspectMethod found method keep)
    (host : (w₁.process.bridge b).host = some (found.live loader))
    (h : Returns (resolve foreign b loader.entryType method none) w₁ result w₂) :
    ∃ more, (loader.inspect w found step).Yields more (result.map keep) ∧ Adds more w₁ w₂ := by
  rw [looks]
  obtain ⟨bridge, w₃, got, h⟩ := Returns.bind h
  obtain ⟨rfl, rfl⟩ := Returns.bridge got
  rw [host] at h
  change Returns (createDelegate foreign found.host found.started loader.identity loader.entryType
    method) w₃ result w₂ at h
  unfold createDelegate at h
  unfold Loader.inspectMethod
  cases askable : isPassable loader.identity && isPassable loader.entryType && isPassable method with
  | false =>
    rw [askable] at h
    obtain ⟨rfl, rfl⟩ := Returns.pure h
    exact ⟨[], .known _, .refl _⟩
  | true =>
    rw [askable] at h
    obtain ⟨reply, w₄, call, h⟩ := Returns.bind h
    have adds := docile _ _ _ _ call
    rw [if_pos rfl]
    have judged : result = loader.judgeMethod method reply ∧ Alike w₄ w₂ := by
      cases reply with
      | error status =>
        obtain ⟨rfl, rfl⟩ := Returns.pure h
        exact ⟨rfl, .refl _⟩
      | ok address =>
        unfold Loader.judgeMethod
        dsimp only at h
        split at h
        · next null =>
          obtain ⟨rfl, rfl⟩ := Returns.pure h
          exact ⟨(if_pos null).symm, .refl _⟩
        · next named =>
          obtain ⟨u, w₅, logged, h⟩ := Returns.bind h
          obtain ⟨rfl, rfl⟩ := Returns.pure h
          exact ⟨(if_neg named).symm, logged.log⟩
    obtain ⟨rfl, alike⟩ := judged
    exact ⟨_, .asked (.createDelegate _ _ _ _ _) _ reply, adds.alike alike⟩

/-- The bridge has the runtime that was started, and nothing but the calls of a load has happened. -/
structure Booting (b : BridgeId) (loader : Loader) (w : World) (found : Findings)
    (asked : List Exchange) (w₁ : World) : Prop where
  calls : exchanges w₁.history = asked ++ exchanges w.history
  isLive : (w₁.process.bridge b).isLive = true
  host : (w₁.process.bridge b).host = some (found.live loader)
  outbound : (w₁.process.bridge b).outbound = (w.process.bridge b).outbound

theorem Booting.adds {asked : List Exchange} (h : Booting b loader w found asked w₁)
    (adds : Adds more w₁ w₂) : Booting b loader w found (more ++ asked) w₂ := by
  have same := adds.untouched.bridges b
  constructor
  · rw [adds.exchanges, h.calls, List.append_assoc]
  · rw [same, h.isLive]
  · rw [same, h.host]
  · rw [same, h.outbound]

/-- What is found about the entry points does not change the runtime. -/
theorem Booting.next {asked : List Exchange} {next : Findings}
    (h : Booting b loader w found asked w₁) (same : next.live loader = found.live loader) :
    Booting b loader w next asked w₁ := ⟨h.calls, h.isLive, same ▸ h.host, h.outbound⟩

/-- An entry point that is missing is the first step that fails. -/
theorem Docile.bootFails (docile : Docile foreign) {asked : List Exchange} {e : BridgeError}
    (passed : loader.Passes w LoadStep.preparation found asked)
    (booting : Booting b loader w found asked w₁) (h : Boots foreign b loader w₁ (.error e) w₂) :
    ∃ found' asked', loader.Fails w LoadStep.preparation LoadStep.entries found' e asked' ∧
      Booting b loader w found' asked' w₂ := by
  cases h with
  | noLoad load =>
    obtain ⟨more, yields, adds⟩ :=
      docile.resolve .loadMethod rfl booting.host load
    have before : loader.Passes w (LoadStep.preparation ++ []) found asked := by
      rwa [List.append_nil]
    exact ⟨found, _, .step before yields, booting.adds adds⟩
  | @noUnload onLoad _ u _ load unload =>
    obtain ⟨more, yields, adds⟩ :=
      docile.resolve .loadMethod rfl booting.host load
    have before := passed.step yields
    have booting : Booting b loader w { found with onLoad } _ u := (booting.adds adds).next rfl
    obtain ⟨more', yields', adds'⟩ :=
      docile.resolve .unloadMethod rfl booting.host unload
    exact ⟨_, _, .step before yields', booting.adds adds'⟩

/-- With both entry points the load method is called, once and last. -/
theorem Docile.boots (docile : Docile foreign) {asked : List Exchange}
    (passed : loader.Passes w LoadStep.preparation found asked)
    (booting : Booting b loader w found asked w₁) (h : Boots foreign b loader w₁ (.ok ()) w₂) :
    ∃ found' asked' reply, loader.Passes w LoadStep.inOrder found' asked' ∧
      exchanges w₂.history =
        ⟨.managed (.load b) found'.onLoad ⟨.void, [.utf8String]⟩
          [.text (.bytes (Text.Utf8.encode (w.process.bridge b).outbound.toJson))], reply⟩ ::
            (asked' ++ exchanges w.history) ∧
      (w₂.process.bridge b).isLive = true ∧
      (w₂.process.bridge b).host = some { found'.live loader with
        unload := some (loader.unloadName, found'.onUnload) } := by
  cases h with
  | @told onLoad onUnload json cells cell u v t load unload call text bytes =>
    obtain ⟨more, yields, adds⟩ :=
      docile.resolve .loadMethod rfl booting.host load
    have before := passed.step yields
    have booting : Booting b loader w { found with onLoad } _ u := (booting.adds adds).next rfl
    obtain ⟨more', yields', adds'⟩ :=
      docile.resolve .unloadMethod rfl booting.host unload
    have passes := before.step yields'
    have booting : Booting b loader w { found with onLoad, onUnload } _ v :=
      (booting.adds adds').next rfl
    have called := docile _ _ _ _ call
    have same : t.process.bridge b = { v.process.bridge b with bindingsJson := some json } := by
      rw [called.untouched.bridges b, World.process_put, Process.tell,
        Process.bridge_updateBridge_self]
    subst bytes text
    refine ⟨_, _, cell, passes, ?_, ?_, ?_⟩
    · rw [booting.outbound] at called
      exact called.exchanges.trans (congrArg _ booting.calls)
    · rw [World.process_put, Process.hook, Process.bridge_updateBridge_self, same]
      exact booting.isLive
    · rw [World.process_put, Process.hook, Process.bridge_updateBridge_self, same, booting.host]
      rfl

/-- A runtime that was started and has no unload method yet is only shut down. -/
theorem Docile.tearsDown (docile : Docile foreign) {live : LiveHost} {gone : Bool}
    (isLive : (w₁.process.bridge b).isLive = true)
    (host : (w₁.process.bridge b).host = some live) (unload : live.unload = none)
    (h : TearsDown foreign b w₁ gone w₂) :
    ∃ reply, exchanges w₂.history =
      ⟨.shutDown live.host live.started, reply⟩ :: exchanges w₁.history := by
  cases h with
  | idle idle =>
    rw [isLive] at idle
    cases idle
  | bare _ none =>
    rw [host] at none
    cases none
  | down _ some told shut forgotten =>
    cases host.symm.trans some
    obtain ⟨-, history, -, -⟩ := forgotten.forget
    rcases told.callUnload with ⟨-, rfl⟩ | ⟨name, address, -, -, hook, -⟩
    · obtain ⟨reply, u, call, alike⟩ := shut.shutDown
      refine ⟨reply, ?_⟩
      rw [history]
      exact (congrArg exchanges alike.2.1).trans (docile _ _ _ _ call).exchanges
    · rw [unload] at hook
      cases hook

/-- A runtime that was started is given to the bridge before it is asked for its entry points. -/
theorem Booting.up {asked : List Exchange} (adds : Adds asked w w₁) :
    Booting b loader w found asked (w₁.put (w₁.process.bringUp b (found.live loader))) := by
  constructor
  · exact adds.exchanges
  · rw [World.process_put, Process.bringUp, Process.bridge_updateBridge_self]
  · rw [World.process_put, Process.bringUp, Process.bridge_updateBridge_self]
  · rw [World.process_put, Process.bringUp, Process.bridge_updateBridge_self,
      ← adds.untouched.bridges b]

/-- Every way through a load keeps to the order. -/
theorem Docile.loads (docile : Docile foreign) {result : Except BridgeError Unit}
    (begins : Adds [] w w₁) (same : w₁.process = w.process)
    (h : Loads foreign b loader w₁ result w₂) : LoadsInOrder b loader w result w₂ := by
  have begun : Reached loader w [] {} w₁ := ⟨[], .start, begins⟩
  have claims : w₁.process.isClaimed = false →
      Reached loader w [.place] {} (w₁.put w₁.process.claim) := by
    intro free
    have vacant : loader.inspect w {} .place = .known (.ok {}) := by
      simp [Loader.inspect, ← same, free]
    exact begun.pass (.of_eq vacant) ⟨⟨rfl, rfl, fun _ => rfl⟩, rfl⟩
  cases h with
  | refused claimed =>
    have taken : loader.inspect w {} .place = .known (.error .hostAlreadyLoaded) := by
      simp [Loader.inspect, ← same, claimed]
    obtain ⟨found, asked, fails, adds⟩ := begun.fail rfl (.of_eq taken) (.refl _)
    exact .unprepared fails adds.exchanges
  | unprepared free prepared =>
    obtain ⟨found, asked, fails, adds⟩ := docile.prepare prepared (claims free)
    exact .unprepared fails adds.exchanges
  | @failed live e gone u v t _ free prepared booted logged down =>
    obtain ⟨found, ⟨asked, passed, adds⟩, rfl⟩ := docile.prepare prepared (claims free)
    obtain ⟨found', asked', fails, booting⟩ := docile.bootFails passed (.up adds) booted
    have told := booting.adds ((Adds.refl v).alike logged)
    obtain ⟨reply, shut⟩ := docile.tearsDown told.isLive told.host rfl down
    exact .unusable fails (shut.trans (congrArg _ told.calls))
  | @loaded live u v _ free prepared booted expected =>
    obtain ⟨found, ⟨asked, passed, adds⟩, rfl⟩ := docile.prepare prepared (claims free)
    obtain ⟨found', asked', reply, passes, calls, isLive, host⟩ :=
      docile.boots passed (.up adds) booted
    obtain ⟨process, history, -, -⟩ := expected
    have bridge : w₂.process.bridge b = v.process.bridge b := by
      rw [process]
      rfl
    have ended := (congrArg exchanges history).trans calls
    exact .loaded passes ended (bridge ▸ isLive) (bridge ▸ host)

/-- What ends an operation is no exchange. -/
theorem LoadsInOrder.ended {result : Except BridgeError Unit} (h : LoadsInOrder b loader w result w₂)
    (operation : Operation) (r : operation.Result) :
    LoadsInOrder b loader w result (w₂.after (.ended operation r)) := by
  cases h with
  | unprepared fails calls => exact .unprepared fails calls
  | unusable fails calls => exact .unusable fails calls
  | loaded passes calls isLive host => exact .loaded passes calls isLive host

/-- A load goes through its steps in their order, up to the first that fails. -/
theorem load_stops_at_first_failure (outside : Outside)
    (quiet : ∀ w call, (outside w call).IsQuiet) (depth : Nat) (b : BridgeId) (loader : Loader)
    (w : World) :
    ∃ result w', Returns ((Operation.load b loader).run (outside.answer depth)) w result w' ∧
      LoadsInOrder b loader w result w' := by
  obtain ⟨result, w₁, loaded, ran⟩ := (Operation.load b loader).run_eq (outside.answer depth) w
  have begins : Adds [] w (w.after (.began (.load b loader))) := ⟨⟨rfl, rfl, fun _ => rfl⟩, rfl⟩
  have inOrder := (answer_docile quiet depth).loads begins rfl (Returns.load loaded)
  exact ⟨result, _, ran, inOrder.ended _ result⟩

/-- With the least installation every step passes. -/
theorem least_load_passes :
    (∀ w call, (Outside.obliging (fun _ => .reply (.word 0)) w call).IsQuiet) ∧
    ∃ w', Returns ((Operation.load 0 leastLoader).run
        ((Outside.obliging fun _ => .reply (.word 0)).answer 1)) { files := leastFiles }
        (.ok ()) w' ∧
      LoadsInOrder 0 leastLoader { files := leastFiles } (.ok ()) w' := by
  have quiet : ∀ w call, (Outside.obliging (fun _ => .reply (.word 0)) w call).IsQuiet := by
    intro w call
    cases call with
    | managed purpose address signature cells => cases purpose <;> exact .reply _
    | _ => exact .reply _
  have succeeded : (((Operation.load 0 leastLoader).run
      ((Outside.obliging fun _ => .reply (.word 0)).answer 1)).run
        { files := leastFiles }).1.isOk = true := by decide +kernel
  obtain ⟨result, w', ran, inOrder⟩ :=
    load_stops_at_first_failure _ quiet 1 0 leastLoader { files := leastFiles }
  rw [ran] at succeeded
  cases result with
  | error e => cases succeeded
  | ok u => exact ⟨quiet, w', ran, inOrder⟩

end ManagedHost
