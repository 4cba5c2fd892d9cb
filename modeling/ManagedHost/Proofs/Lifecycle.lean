import ManagedHost.Proofs.BindingText
import ManagedHost.Proofs.Keeps

/-! # The ways through bringing up and tearing down

For every function that brings a runtime up or tears one down, the ways through it: which calls it
makes from which worlds and where it ends. `Loads`, `Boots` and `TearsDown` have one constructor for
each way; what the search for a runtime does before is left to `SteadySearch`, for nothing but
calls and lines of the log happen there. -/

namespace ManagedHost

namespace Process

/-- The process in which a load has taken the place for a runtime. -/
def claim (p : Process) : Process := { p with isClaimed := true }

/-- The process in which the place for a runtime is free. -/
def free (p : Process) : Process := { p with isClaimed := false }

/-- The process in which a bridge has a runtime. -/
def bringUp (p : Process) (b : BridgeId) (live : LiveHost) : Process :=
  p.updateBridge b fun bridge => { bridge with host := some live, isLive := true }

/-- The process in which a bridge has been told the bindings. -/
def tell (p : Process) (b : BridgeId) (json : String) : Process :=
  p.updateBridge b fun bridge => { bridge with bindingsJson := some json }

/-- The process in which the runtime of a bridge, if there is one, has an unload method. -/
def hook (p : Process) (b : BridgeId) (name : String) (address : Address) : Process :=
  p.updateBridge b fun bridge =>
    { bridge with host := bridge.host.map fun live =>
        { live with unload := some (name, address) } }

/-- The process in which a bridge is not live and has given its runtime away. -/
def takeDown (p : Process) (b : BridgeId) : Process :=
  p.updateBridge b fun bridge => { bridge with isLive := false, host := none }

/-- The process in which a bridge keeps nothing for a runtime. -/
def empty (p : Process) (b : BridgeId) : Process :=
  (p.clearRegistry (.bridge b)).updateBridge b fun bridge =>
    { bridge with bindingsJson := none, imports := [], objects := {} }

/-- The process in which a bridge does not wait for its end. -/
def release (p : Process) (b : BridgeId) : Process :=
  { p with exitTarget := if p.exitTarget = some b then none else p.exitTarget }

/-- The process in which a bridge waits for its end. -/
def expect (p : Process) (b : BridgeId) : Process :=
  { p with exitTarget := some b, hasExitHook := true }

/-- The process in which no bridge waits for its end. -/
def expectNone (p : Process) : Process := { p with exitTarget := none }

/-- Nothing is left of what a bridge kept for its runtime, its bindings are retired, the place for a
runtime is free, and the bridge does not wait for its end. -/
structure Forgets (b : BridgeId) (p p' : Process) : Prop where
  emptied : p'.bridge b = { nextImport := (p.bridge b).nextImport }
  others : ∀ c, c ≠ b → p'.bridge c = p.bridge c
  claimed : p'.isClaimed = false
  target : p'.exitTarget = if p.exitTarget = some b then none else p.exitTarget
  retired : p'.retired = p.retired ++ (p.bridge b).outbound.map (·.adapter)
  rest : p'.adapters = p.adapters ∧ p'.registries = p.registries ∧ p'.buffers = p.buffers ∧
    p'.heap = p.heap

end Process

namespace Action

variable {foreign : Foreign} {b : BridgeId} {loader : Loader} {w w' : World}

/-! ## Looking a method up -/

/-- Why a runtime that was asked for a method named no address. -/
def refusal (typeName method : String) : Except Int32 Address → BridgeError
  | .error status => .createDelegate typeName method status
  | .ok _ => .nullDelegate typeName method

/-- The ways through looking a method up. -/
inductive LooksUp (foreign : Foreign) (b : BridgeId) (typeName method : String)
    (assembly : Option String) (w : World) : Except BridgeError Address → World → Prop
  /-- There is no runtime to be asked. -/
  | hostless (host : (w.process.bridge b).host = none) :
      LooksUp foreign b typeName method assembly w (.error .hostNotLoaded) w
  /-- The runtime cannot be asked, for a name holds a NUL. -/
  | unasked {live : LiveHost} (host : (w.process.bridge b).host = some live)
      (unaskable : (isPassable (assembly.getD live.defaultAssembly) && isPassable typeName &&
        isPassable method) = false) :
      LooksUp foreign b typeName method assembly w
        (.error (.interiorNul (typeName ++ "." ++ method))) w
  /-- The runtime does not name an address. -/
  | refused {live : LiveHost} {reply : Except Int32 Address} {w₁ w' : World}
      (host : (w.process.bridge b).host = some live)
      (asked : Returns (foreign (.createDelegate live.host live.started
        (assembly.getD live.defaultAssembly) typeName method)) w reply w₁)
      (useless : ∀ address, reply = .ok address → address = 0) (alike : Alike w₁ w') :
      LooksUp foreign b typeName method assembly w (.error (refusal typeName method reply)) w'
  | found {live : LiveHost} {address : Address} {w₁ w' : World}
      (host : (w.process.bridge b).host = some live)
      (asked : Returns (foreign (.createDelegate live.host live.started
        (assembly.getD live.defaultAssembly) typeName method)) w (.ok address) w₁)
      (named : address ≠ 0) (alike : Alike w₁ w') :
      LooksUp foreign b typeName method assembly w (.ok address) w'

theorem Returns.looksUp {typeName method : String} {assembly : Option String}
    {r : Except BridgeError Address}
    (h : Returns (resolve foreign b typeName method assembly) w r w') :
    LooksUp foreign b typeName method assembly w r w' := by
  unfold Action.resolve at h
  obtain ⟨found, w₀, hb, h⟩ := Returns.bind h
  obtain ⟨rfl, rfl⟩ := Returns.bridge hb
  cases hl : (w₀.process.bridge b).host with
  | none =>
    rw [hl] at h
    obtain ⟨rfl, rfl⟩ := Returns.pure h
    exact .hostless hl
  | some live =>
    rw [hl] at h
    simp only [Action.createDelegate] at h
    split at h
    · next unaskable =>
      obtain ⟨rfl, rfl⟩ := Returns.pure h
      exact .unasked hl ((Bool.not_eq_true' _).mp unaskable)
    · obtain ⟨reply, w₁, hc, h⟩ := Returns.bind h
      cases reply with
      | error status =>
        obtain ⟨rfl, rfl⟩ := Returns.pure h
        exact .refused hl hc nofun ⟨rfl, rfl, rfl, rfl⟩
      | ok address =>
        dsimp only at h
        split at h
        · next null =>
          obtain ⟨rfl, rfl⟩ := Returns.pure h
          refine .refused hl hc ?_ ⟨rfl, rfl, rfl, rfl⟩
          rintro _ ⟨⟩
          exact null
        · next named =>
          obtain ⟨u, w₂, hlog, h⟩ := Returns.bind h
          obtain ⟨rfl, rfl⟩ := Returns.pure h
          exact .found hl hc named hlog.log

/-- A look-up that fails without asking the runtime leaves everything as it is. Any other one asks
the runtime of the bridge, and an address that it gives is the one that the runtime replied. -/
theorem Returns.resolve {typeName method : String} {assembly : Option String}
    {r : Except BridgeError Address}
    (h : Returns (resolve foreign b typeName method assembly) w r w') :
    ((∃ e, r = .error e) ∧ w' = w) ∨
    ∃ live reply w₁, (w.process.bridge b).host = some live ∧
      Returns (foreign (.createDelegate live.host live.started
        (assembly.getD live.defaultAssembly) typeName method)) w reply w₁ ∧
      Alike w₁ w' ∧ ∀ address, r = .ok address → reply = .ok address := by
  cases h.looksUp with
  | hostless | unasked => exact .inl ⟨⟨_, rfl⟩, rfl⟩
  | refused host asked useless alike => exact .inr ⟨_, _, _, host, asked, alike, nofun⟩
  | found host asked named alike =>
    exact .inr ⟨_, _, _, host, asked, alike, fun _ same => by cases same; rfl⟩

/-! ## Tearing down -/

theorem Returns.callUnload {live : LiveHost} {u : Unit}
    (h : Returns (callUnload foreign b live) w u w') :
    (live.unload = none ∧ w' = w) ∨
    ∃ name address cell w₁, live.unload = some (name, address) ∧
      Returns (foreign (.managed (.unload b) address ⟨.void, []⟩ [])) w cell w₁ ∧ Alike w₁ w' := by
  unfold Action.callUnload at h
  cases hu : live.unload with
  | none =>
    rw [hu] at h
    exact .inl ⟨rfl, (Returns.pure h).2⟩
  | some hook =>
    obtain ⟨name, address⟩ := hook
    rw [hu] at h
    obtain ⟨r, w₂, hc, h⟩ := Returns.bind h
    obtain ⟨cell, w₁, hm, hc⟩ := Returns.bind hc
    obtain ⟨p, w₃, hp, hc⟩ := Returns.bind hc
    obtain ⟨-, rfl⟩ := Returns.process hp
    obtain ⟨rfl, rfl⟩ := Returns.pure hc
    exact .inr ⟨name, address, cell, w₂, rfl, hm, h.log⟩

theorem Returns.shutDown {live : LiveHost} {u : Unit}
    (h : Returns (shutDown foreign live) w u w') :
    ∃ reply w₁, Returns (foreign (.shutDown live.host live.started)) w reply w₁ ∧ Alike w₁ w' := by
  unfold Action.shutDown at h
  obtain ⟨reply, w₁, hc, h⟩ := Returns.bind h
  refine ⟨reply, w₁, hc, ?_⟩
  cases reply with
  | ok u => exact h.log
  | error status => exact h.log

theorem Alike.refl (w : World) : Alike w w := ⟨rfl, rfl, rfl, rfl⟩

theorem Returns.clearRegistry {holder : Holder} {u : Unit}
    (h : Returns (clearRegistry holder) w u w') :
    Alike (w.put (w.process.clearRegistry holder)) w' := by
  unfold Action.clearRegistry at h
  obtain ⟨p, w₁, hp, h⟩ := Returns.bind h
  obtain ⟨rfl, rfl⟩ := Returns.process hp
  dsimp only at h
  split at h
  · exact h.updateProcess ▸ .refl _
  · obtain ⟨u, w₂, hl, h⟩ := Returns.bind h
    cases hl
    exact h.updateProcess ▸ ⟨rfl, rfl, rfl, rfl⟩

theorem Returns.releaseExit {u : Unit} (h : Returns (releaseExit b) w u w') :
    Alike (w.put (w.process.release b)) w' := by
  unfold Action.releaseExit at h
  obtain ⟨p, w₁, hp, h⟩ := Returns.bind h
  obtain ⟨rfl, rfl⟩ := Returns.process hp
  unfold Process.release
  split at h
  · rename_i ht
    rw [if_pos ht]
    obtain ⟨u, w₂, hu, h⟩ := Returns.bind h
    cases hu
    exact h.log
  · rename_i ht
    rw [if_neg ht, (Returns.pure h).2]
    exact .refl _

theorem Returns.forget {u : Unit} (h : Returns (forget b) w u w') :
    Alike (w.put (((w.process.empty b).free).release b)) w' := by
  unfold Action.forget at h
  obtain ⟨u₁, w₁, hc, h⟩ := Returns.bind h
  obtain ⟨u₂, w₂, hu, h⟩ := Returns.bind h
  obtain ⟨u₃, w₃, hf, h⟩ := Returns.bind h
  obtain ⟨hp, hh, hfs, hd⟩ := hc.clearRegistry
  have hw₃ := hf.updateProcess
  rw [hu.updateBridge] at hw₃
  subst hw₃
  obtain ⟨hp', hh', hfs', hd'⟩ := h.releaseExit
  rw [World.process_put, World.process_put] at hp'
  rw [hp] at hp'
  exact ⟨hp', hh'.trans hh, hfs'.trans hfs, hd'.trans hd⟩

/-- A bridge without a runtime that forgets everything keeps nothing but the numbers of its
imports. -/
theorem Returns.forgets {u : Unit} (h : Returns (Action.forget b) w u w')
    (down : (w.process.bridge b).isLive = false) (gone : (w.process.bridge b).host = none) :
    Process.Forgets b w.process w'.process := by
  obtain ⟨same, -, -, -⟩ := h.forget
  rw [same]
  have cleared : (w.process.clearRegistry (.bridge b)).bridge b =
      { w.process.bridge b with outbound := [] } := by
    rw [Process.clearRegistry, Process.setRegistry, Process.bridge_updateBridge_self]
    rfl
  refine ⟨?_, fun c other => ?_, rfl, rfl, rfl, rfl, rfl, rfl, rfl⟩
  · change (w.process.empty b).bridge b = _
    rw [Process.empty, Process.bridge_updateBridge_self, cleared, down, gone]
  · change (w.process.empty b).bridge c = _
    rw [Process.empty, Process.bridge_updateBridge_of_ne _ other, Process.clearRegistry,
      Process.setRegistry, Process.bridge_updateBridge_of_ne _ other]
    rfl

/-- The ways through tearing a bridge down. -/
inductive TearsDown (foreign : Foreign) (b : BridgeId) (w : World) : Bool → World → Prop
  /-- The bridge is not live. -/
  | idle (isLive : (w.process.bridge b).isLive = false) : TearsDown foreign b w false w
  /-- The bridge is live without a runtime. -/
  | bare {w' : World} (isLive : (w.process.bridge b).isLive = true)
      (host : (w.process.bridge b).host = none)
      (gone : Returns (forget b) (w.put (w.process.takeDown b)) () w') :
      TearsDown foreign b w true w'
  /-- The runtime is told and shut down, and then everything is forgotten. -/
  | down {live : LiveHost} {w₁ w₂ w' : World} (isLive : (w.process.bridge b).isLive = true)
      (host : (w.process.bridge b).host = some live)
      (told : Returns (callUnload foreign b live) (w.put (w.process.takeDown b)) () w₁)
      (shut : Returns (shutDown foreign live) w₁ () w₂) (gone : Returns (forget b) w₂ () w') :
      TearsDown foreign b w true w'

theorem TearsDown.isLive (h : TearsDown foreign b w true w') :
    (w.process.bridge b).isLive = true := by
  cases h with
  | bare isLive | down isLive => exact isLive

theorem Returns.teardown {r : Bool} (h : Returns (teardown foreign b) w r w') :
    TearsDown foreign b w r w' := by
  unfold Action.teardown at h
  obtain ⟨found, w₀, hb, h⟩ := Returns.bind h
  obtain ⟨rfl, rfl⟩ := Returns.bridge hb
  cases hl : (w₀.process.bridge b).isLive with
  | false =>
    rw [hl] at h
    obtain ⟨rfl, rfl⟩ := Returns.pure h
    exact .idle hl
  | true =>
    rw [hl] at h
    obtain ⟨u, w₁, hu, h⟩ := Returns.bind h
    rw [show w₁ = w₀.put (w₀.process.takeDown b) from hu.updateBridge] at h
    cases hh : (w₀.process.bridge b).host with
    | none =>
      rw [hh] at h
      obtain ⟨u, w₂, hf, h⟩ := Returns.bind h
      obtain ⟨rfl, rfl⟩ := Returns.pure h
      exact .bare hl hh hf
    | some live =>
      rw [hh] at h
      obtain ⟨u₁, w₂, hc, h⟩ := Returns.bind h
      obtain ⟨u₂, w₃, hs, h⟩ := Returns.bind h
      obtain ⟨u₃, w₄, hf, h⟩ := Returns.bind h
      obtain ⟨rfl, rfl⟩ := Returns.pure h
      exact .down hl hh hc hs hf

theorem Returns.registerExit {u : Unit} (h : Returns (registerExit b) w u w') :
    Alike (w.put (w.process.expect b)) w' := by
  unfold Action.registerExit at h
  obtain ⟨u₁, w₁, hu, h⟩ := Returns.bind h
  obtain ⟨p, w₂, hp, h⟩ := Returns.bind h
  obtain ⟨rfl, rfl⟩ := Returns.process hp
  cases hu
  dsimp only at h
  split at h
  · rename_i ht
    rw [(Returns.pure h).2]
    refine ⟨?_, rfl, rfl, rfl⟩
    change _ = ({ w.process with exitTarget := some b, hasExitHook := true } : Process)
    rw [← show w.process.hasExitHook = true from ht]
  · obtain ⟨u₂, w₃, hu, h⟩ := Returns.bind h
    cases hu
    exact h.log

/-- The end of the process tears down the bridge that waits for it, if one does. -/
theorem Returns.runExitTeardown {r : Bool} (h : Returns (runExitTeardown foreign) w r w') :
    (w.process.exitTarget = none ∧ r = false ∧ w' = w) ∨
    ∃ b, w.process.exitTarget = some b ∧
      TearsDown foreign b (w.put w.process.expectNone) r w' := by
  unfold Action.runExitTeardown at h
  obtain ⟨p, w₁, hp, h⟩ := Returns.bind h
  obtain ⟨rfl, rfl⟩ := Returns.process hp
  cases ht : w₁.process.exitTarget with
  | none =>
    rw [ht] at h
    exact .inl ⟨rfl, Returns.pure h⟩
  | some b =>
    rw [ht] at h
    obtain ⟨u, w₂, hu, h⟩ := Returns.bind h
    rw [hu.updateProcess] at h
    exact .inr ⟨b, rfl, h.teardown⟩

/-! ## The search for a runtime -/

/-- A property that the search for a runtime keeps: it writes to the log, asks for what is
installed and opens the hosting library. -/
structure SteadySearch (foreign : Foreign) (I : World → Prop) : Prop where
  write : ∀ (w : World) log, I w → I { w with log }
  listRuntimes : ∀ catalog, Keeps I (foreign (.listRuntimes catalog))
  runLauncher : ∀ path, Keeps I (foreign (.runLauncher path))
  openFile : ∀ path, Keeps I (foreign (.openFile path))
  openSupplied : ∀ opener path, Keeps I (foreign (.openSupplied opener path))

variable {I : World → Prop}

theorem SteadySearch.emit (hI : SteadySearch foreign I) {α : Type} (logged : Logged α) :
    Keeps I (emit logged) := fun w h => hI.write w _ h

theorem SteadySearch.listing (hI : SteadySearch foreign I) (root : String)
    (environment : Environment) (catalog : Catalog) :
    Keeps I (listing foreign root environment catalog) := by
  cases catalog with
  | supplied id => exact hI.listRuntimes id
  | launcher path => exact .bind (hI.runLauncher path) fun _ => .pure _
  | installed => exact .bind .get fun _ => .bind (hI.runLauncher _) fun _ => .pure _

theorem SteadySearch.selectRuntime (hI : SteadySearch foreign I) (root : String)
    (floor : RuntimeVersion) (environment : Environment) (catalog : Catalog) :
    Keeps I (selectRuntime foreign root floor environment catalog) := by
  refine .bind .get fun world => .bind (hI.emit _) fun pinned => ?_
  cases pinned with
  | some path => exact .pure _
  | none =>
    refine .bind (hI.listing root environment catalog) fun listed => ?_
    cases listed with
    | error e => exact .pure _
    | ok runtimes => exact .bind (hI.emit _) fun _ => .pure _

theorem SteadySearch.locateRuntime (hI : SteadySearch foreign I) (loader : Loader) :
    Keeps I (locateRuntime foreign loader) := by
  refine .bind .get fun world => ?_
  split
  · exact .pure _
  · refine .bind (hI.emit _) fun root => ?_
    cases root with
    | none => exact .pure _
    | some root =>
      refine .bind (hI.selectRuntime root _ _ _) fun selected => ?_
      rcases selected with e | directory
      · exact .pure _
      · cases directory <;> exact .pure _

theorem SteadySearch.openHost (hI : SteadySearch foreign I) (loader : Loader)
    (directory : String) : Keeps I (openHost foreign loader directory) := by
  refine .bind .get fun world => ?_
  dsimp only
  split
  · exact .pure _
  · cases loader.opener with
    | supplied id => exact hI.openSupplied id _
    | file =>
      refine .bind (hI.openFile _) fun opened => ?_
      cases opened with
      | error e => exact .pure _
      | ok host => exact .bind (fun w h => hI.write w _ h) fun _ => .pure _

/-- Without a start of the runtime a load comes to nothing. With one, the search comes first, and
the reply decides. -/
theorem Returns.prepare {r : Except BridgeError LiveHost}
    (h : Returns (prepare foreign loader) w r w') :
    ((∃ e, r = .error e) ∧ ∀ I, SteadySearch foreign I → I w → I w') ∨
    ∃ host properties reply w₁ w₂, (∀ I, SteadySearch foreign I → I w → I w₁) ∧
      Returns (foreign (.startUp host loader.domainName properties)) w₁ reply w₂ ∧ Alike w₂ w' ∧
      ((∃ status, reply = .error status ∧ r = .error (.startUpFailed status)) ∨
        ∃ started live, reply = .ok started ∧ r = .ok live ∧ live.host = host ∧
          live.started = started ∧ live.unload = none ∧
          live.defaultAssembly = loader.identity) := by
  unfold Action.prepare at h
  obtain ⟨located, w₁, hl, h⟩ := Returns.bind h
  have found : ∀ I, SteadySearch foreign I → I w → I w₁ := fun I hI hw =>
    (hI.locateRuntime loader).returns hl hw
  cases located with
  | error e =>
    obtain ⟨rfl, rfl⟩ := Returns.pure h
    exact .inl ⟨⟨_, rfl⟩, found⟩
  | ok directory =>
    obtain ⟨opened, w₂, ho, h⟩ := Returns.bind h
    have loaded : ∀ I, SteadySearch foreign I → I w → I w₂ := fun I hI hw =>
      (hI.openHost loader directory).returns ho (found I hI hw)
    cases opened with
    | error e =>
      obtain ⟨rfl, rfl⟩ := Returns.pure h
      exact .inl ⟨⟨_, rfl⟩, loaded⟩
    | ok host =>
      simp only [Action.startUp] at h
      obtain ⟨world, w₃, hg, h⟩ := Returns.bind h
      cases hg
      split at h
      · obtain ⟨rfl, rfl⟩ := Returns.pure h
        exact .inl ⟨⟨_, rfl⟩, loaded⟩
      · split at h
        · obtain ⟨rfl, rfl⟩ := Returns.pure h
          exact .inl ⟨⟨_, rfl⟩, loaded⟩
        · split at h
          · obtain ⟨rfl, rfl⟩ := Returns.pure h
            exact .inl ⟨⟨_, rfl⟩, loaded⟩
          · obtain ⟨reply, w₃, hs, h⟩ := Returns.bind h
            refine .inr ⟨host, _, reply, w₂, w₃, loaded, hs, ?_⟩
            cases reply with
            | error status =>
              obtain ⟨rfl, rfl⟩ := Returns.pure h
              exact ⟨.refl _, .inl ⟨status, rfl, rfl⟩⟩
            | ok started =>
              obtain ⟨u, w₄, hlog, h⟩ := Returns.bind h
              obtain ⟨rfl, rfl⟩ := Returns.pure h
              exact ⟨hlog.log, .inr ⟨started, _, rfl, rfl, rfl, rfl, rfl, rfl⟩⟩

/-! ## Bringing up -/

/-- The ways through telling a new runtime the bindings. -/
inductive Boots (foreign : Foreign) (b : BridgeId) (loader : Loader) (w : World) :
    Except BridgeError Unit → World → Prop
  /-- There is no load method. -/
  | noLoad {e : BridgeError} {w' : World}
      (load : Returns (resolve foreign b loader.entryType loader.loadMethod none) w (.error e) w') :
      Boots foreign b loader w (.error e) w'
  /-- There is no unload method. -/
  | noUnload {onLoad : Address} {e : BridgeError} {w₁ w' : World}
      (load : Returns (resolve foreign b loader.entryType loader.loadMethod none) w (.ok onLoad) w₁)
      (unload : Returns (resolve foreign b loader.entryType loader.unloadMethod none) w₁
        (.error e) w') :
      Boots foreign b loader w (.error e) w'
  /-- The load method is called with the bindings, and the unload method is kept for later. -/
  | told {onLoad onUnload : Address} {json : String} {cells : List Cell} {cell : Cell}
      {w₁ w₂ w₃ : World}
      (load : Returns (resolve foreign b loader.entryType loader.loadMethod none) w (.ok onLoad) w₁)
      (unload : Returns (resolve foreign b loader.entryType loader.unloadMethod none) w₁
        (.ok onUnload) w₂)
      (call : Returns (foreign (.managed (.load b) onLoad ⟨.void, [.utf8String]⟩ cells))
        (w₂.put (w₂.process.tell b json)) cell w₃)
      (text : json = (w₂.process.bridge b).outbound.toJson)
      (bytes : cells = [.text (.bytes (Text.Utf8.encode json))]) :
      Boots foreign b loader w (.ok ()) (w₃.put (w₃.process.hook b loader.unloadName onUnload))

theorem Returns.bootstrap {r : Except BridgeError Unit}
    (h : Returns (bootstrap foreign b loader) w r w') : Boots foreign b loader w r w' := by
  unfold Action.bootstrap at h
  obtain ⟨onLoad, w₁, hl, h⟩ := Returns.bind h
  cases onLoad with
  | error e =>
    obtain ⟨rfl, rfl⟩ := Returns.pure h
    exact .noLoad hl
  | ok onLoad =>
    obtain ⟨onUnload, w₂, hu, h⟩ := Returns.bind h
    cases onUnload with
    | error e =>
      obtain ⟨rfl, rfl⟩ := Returns.pure h
      exact .noUnload hl hu
    | ok onUnload =>
      obtain ⟨found, w₃, hb, h⟩ := Returns.bind h
      obtain ⟨rfl, rfl⟩ := Returns.bridge hb
      obtain ⟨u, w₄, ht, h⟩ := Returns.bind h
      rw [show w₄ = w₃.put (w₃.process.tell b _) from ht.updateBridge] at h
      obtain ⟨told, w₅, hc, h⟩ := Returns.bind h
      simp only [Action.callAddress, Registry.ofValues_toJson] at hc
      obtain ⟨cell, w₆, hm, hc⟩ := Returns.bind hc
      obtain ⟨p, w₇, hp, hc⟩ := Returns.bind hc
      obtain ⟨-, rfl⟩ := Returns.process hp
      obtain ⟨rfl, rfl⟩ := Returns.pure hc
      obtain ⟨u, w₈, hk, h⟩ := Returns.bind h
      obtain ⟨rfl, rfl⟩ := Returns.pure h
      rw [show w' = w₅.put (w₅.process.hook b loader.unloadName onUnload) from hk.updateBridge]
      exact .told hl hu hm rfl rfl

/-- The ways through a load. -/
inductive Loads (foreign : Foreign) (b : BridgeId) (loader : Loader) (w : World) :
    Except BridgeError Unit → World → Prop
  /-- The place for a runtime is taken. -/
  | refused (claimed : w.process.isClaimed = true) :
      Loads foreign b loader w (.error .hostAlreadyLoaded) w
  /-- No runtime was started. -/
  | unprepared {e : BridgeError} {w₁ : World} (free : w.process.isClaimed = false)
      (prepared : Returns (prepare foreign loader) (w.put w.process.claim) (.error e) w₁) :
      Loads foreign b loader w (.error e) (w₁.put w₁.process.free)
  /-- The runtime was started, but it could not be told the bindings. -/
  | failed {live : LiveHost} {e : BridgeError} {gone : Bool} {w₁ w₂ w₃ w' : World}
      (free : w.process.isClaimed = false)
      (prepared : Returns (prepare foreign loader) (w.put w.process.claim) (.ok live) w₁)
      (booted : Boots foreign b loader (w₁.put (w₁.process.bringUp b live)) (.error e) w₂)
      (logged : Alike w₂ w₃) (down : TearsDown foreign b w₃ gone w') :
      Loads foreign b loader w (.error e) w'
  | loaded {live : LiveHost} {w₁ w₂ w' : World} (free : w.process.isClaimed = false)
      (prepared : Returns (prepare foreign loader) (w.put w.process.claim) (.ok live) w₁)
      (booted : Boots foreign b loader (w₁.put (w₁.process.bringUp b live)) (.ok ()) w₂)
      (expected : Alike (w₂.put (w₂.process.expect b)) w') :
      Loads foreign b loader w (.ok ()) w'

theorem Returns.load {r : Except BridgeError Unit} (h : Returns (load foreign b loader) w r w') :
    Loads foreign b loader w r w' := by
  unfold Action.load at h
  obtain ⟨p, w₀, hp, h⟩ := Returns.bind h
  obtain ⟨rfl, rfl⟩ := Returns.process hp
  cases hc : w₀.process.isClaimed with
  | true =>
    rw [hc] at h
    obtain ⟨rfl, rfl⟩ := Returns.pure h
    exact .refused hc
  | false =>
    rw [hc] at h
    obtain ⟨u, w₁, hu, h⟩ := Returns.bind h
    rw [show w₁ = w₀.put w₀.process.claim from hu.updateProcess] at h
    obtain ⟨prepared, w₂, hpre, h⟩ := Returns.bind h
    cases prepared with
    | error e =>
      obtain ⟨u, w₃, hf, h⟩ := Returns.bind h
      obtain ⟨rfl, rfl⟩ := Returns.pure h
      rw [show w' = w₂.put w₂.process.free from hf.updateProcess]
      exact .unprepared hc hpre
    | ok live =>
      obtain ⟨u, w₃, hup, h⟩ := Returns.bind h
      rw [show w₃ = w₂.put (w₂.process.bringUp b live) from hup.updateBridge] at h
      obtain ⟨booted, w₄, hboot, h⟩ := Returns.bind h
      cases booted with
      | error e =>
        obtain ⟨u, w₅, hlog, h⟩ := Returns.bind h
        obtain ⟨u', w₆, hd, h⟩ := Returns.bind h
        obtain ⟨rfl, rfl⟩ := Returns.pure h
        have down : Returns (Action.teardown foreign b) w₅
            ((Action.teardown foreign b).run w₅).1 w' := by
          cases hd
          rfl
        exact .failed hc hpre hboot.bootstrap hlog.log down.teardown
      | ok u =>
        obtain ⟨u₁, w₅, hreg, h⟩ := Returns.bind h
        obtain ⟨u₂, w₆, hlog, h⟩ := Returns.bind h
        obtain ⟨rfl, rfl⟩ := Returns.pure h
        obtain ⟨hp, hh, hf, hd⟩ := hreg.registerExit
        obtain ⟨hp', hh', hf', hd'⟩ := hlog.log
        exact .loaded hc hpre hboot.bootstrap
          ⟨hp'.trans hp, hh'.trans hh, hf'.trans hf, hd'.trans hd⟩

end Action

/-! ## An installation with which a load succeeds -/

/-- An assembly, and one runtime with nothing but its hosting library. -/
def leastFiles : FileSystem where
  entries :=
    [(["boot"], .file [] false), (["net"], .directory), (["net", "shared"], .directory),
      (["net", "shared", Runtime.family], .directory),
      (["net", "shared", Runtime.family, "5"], .directory),
      (["net", "shared", Runtime.family, "5", Loader.libraryName], .file [] false)]

/-- A loader for that runtime. -/
def leastLoader : Loader where
  assembly := "/boot"
  identity := "Boot"
  entryType := "Boot"
  environment := { vars := [(Environment.home, "/net"), (Environment.runtimeVersion, "5")] }
  opener := .supplied 0

/-- Code outside that does whatever a load asks for, with load methods of the given conduct. -/
def Outside.obliging (onLoad : BridgeId → Conduct Cell) : Outside := fun _ call =>
  match call with
  | .openSupplied _ _ => .reply (.ok "host")
  | .startUp _ _ _ => .reply (.ok ⟨1, 1⟩)
  | .createDelegate _ _ _ _ _ => .reply (.ok 8)
  | .managed (.load b) _ _ _ => onLoad b
  | call => .reply call.inertReply

end ManagedHost
