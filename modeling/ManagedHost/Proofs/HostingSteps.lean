import ManagedHost.Proofs.Ambient
import ManagedHost.Proofs.Lifecycle

/-! # What bringing up and tearing down can do to a process

`HostingStep` lists the steps by which the other operations change the process, those that bring a
runtime up or tear one down or say what is to be torn down at the end. Between such steps they call
code outside and write lines of the log. So a property that the steps and the calls keep is kept by
all of them (`perform_hosting`). -/

namespace ManagedHost

/-- One step by which a runtime is brought up or torn down. -/
inductive HostingStep (p : Process) : Process → Prop
  /-- A load takes the place for a runtime. -/
  | claim : HostingStep p p.claim
  /-- The place for a runtime becomes free. -/
  | free : HostingStep p p.free
  | bringUp (b : BridgeId) (live : LiveHost) : HostingStep p (p.bringUp b live)
  | tell (b : BridgeId) (json : String) : HostingStep p (p.tell b json)
  | hook (b : BridgeId) (name : String) (address : Address) : HostingStep p (p.hook b name address)
  | takeDown (b : BridgeId) : HostingStep p (p.takeDown b)
  /-- A bridge forgets everything that it kept for its runtime. -/
  | empty (b : BridgeId) : HostingStep p (p.empty b)
  | expect (b : BridgeId) : HostingStep p (p.expect b)
  | expectNone : HostingStep p p.expectNone
  | release (b : BridgeId) : HostingStep p (p.release b)

namespace Action

variable {foreign : Foreign} {I : World → Prop} {w w' : World} {b : BridgeId} {loader : Loader}

/-- A property of worlds that every step and every call keeps. -/
structure SteadyHosting (foreign : Foreign) (I : World → Prop) : Prop where
  step : ∀ w p, HostingStep w.process p → I w → I (w.put p)
  alike : ∀ w w', Alike w w' → I w → I w'
  call : ∀ call, Keeps I (foreign call)

namespace SteadyHosting

variable (hI : SteadyHosting foreign I)
include hI

theorem search : SteadySearch foreign I where
  write w _ := hI.alike w _ ⟨rfl, rfl, rfl, rfl⟩
  listRuntimes _ := hI.call _
  runLauncher _ := hI.call _
  openFile _ := hI.call _
  openSupplied _ _ := hI.call _

theorem prepare {r : Except BridgeError LiveHost} (h : Returns (prepare foreign loader) w r w')
    (hw : I w) : I w' := by
  rcases h.prepare with ⟨-, steady⟩ | ⟨host, properties, reply, w₁, w₂, steady, start, alike, -⟩
  · exact steady _ hI.search hw
  · exact hI.alike _ _ alike ((hI.call _).returns start (steady _ hI.search hw))

theorem resolve {typeName method : String} {assembly : Option String}
    {r : Except BridgeError Address}
    (h : Returns (resolve foreign b typeName method assembly) w r w') (hw : I w) : I w' := by
  rcases h.resolve with ⟨-, rfl⟩ | ⟨live, reply, w₁, -, asked, alike, -⟩
  · exact hw
  · exact hI.alike _ _ alike ((hI.call _).returns asked hw)

theorem forget (h : Returns (forget b) w () w') (hw : I w) : I w' := by
  have emptied := hI.step _ _ (.empty b) hw
  have freed := hI.step _ _ .free emptied
  have released := hI.step _ _ (.release b) freed
  exact hI.alike _ _ h.forget released

theorem tearsDown {r : Bool} (h : TearsDown foreign b w r w') (hw : I w) : I w' := by
  cases h with
  | idle => exact hw
  | bare _ _ gone => exact hI.forget gone (hI.step _ _ (.takeDown b) hw)
  | @down live w₁ _ _ _ _ told shut gone =>
    have taken := hI.step _ _ (.takeDown b) hw
    have silent : I w₁ := by
      rcases told.callUnload with ⟨-, rfl⟩ | ⟨name, address, cell, w₃, -, unload, alike⟩
      · exact taken
      · exact hI.alike _ _ alike ((hI.call _).returns unload taken)
    obtain ⟨reply, w₃, shutDown, alike⟩ := shut.shutDown
    exact hI.forget gone (hI.alike _ _ alike ((hI.call _).returns shutDown silent))

theorem boots {r : Except BridgeError Unit} (h : Boots foreign b loader w r w') (hw : I w) :
    I w' := by
  cases h with
  | noLoad load => exact hI.resolve load hw
  | noUnload load unload => exact hI.resolve unload (hI.resolve load hw)
  | @told _ onUnload json _ _ _ _ _ load unload told =>
    have before := hI.step _ _ (.tell b json) (hI.resolve unload (hI.resolve load hw))
    exact hI.step _ _ (.hook b loader.unloadName onUnload) ((hI.call _).returns told before)

theorem loads {r : Except BridgeError Unit} (h : Loads foreign b loader w r w') (hw : I w) :
    I w' := by
  cases h with
  | refused => exact hw
  | unprepared _ prepared =>
    exact hI.step _ _ .free (hI.prepare prepared (hI.step _ _ .claim hw))
  | @failed live _ _ _ _ _ _ _ prepared booted logged down =>
    have claimed := hI.prepare prepared (hI.step _ _ .claim hw)
    have up := hI.step _ _ (.bringUp b live) claimed
    exact hI.tearsDown down (hI.alike _ _ logged (hI.boots booted up))
  | @loaded live _ _ _ _ prepared booted expected =>
    have claimed := hI.prepare prepared (hI.step _ _ .claim hw)
    have up := hI.step _ _ (.bringUp b live) claimed
    exact hI.alike _ _ expected (hI.step _ _ (.expect b) (hI.boots booted up))

end SteadyHosting

end Action

open ManagedHost.Action in
/-- Every operation that brings up or tears down keeps what its steps and calls keep. -/
theorem Operation.perform_hosting {foreign : Foreign} {I : World → Prop}
    (hI : SteadyHosting foreign I) (operation : Operation) (h : operation.hosts = true) :
    Keeps I (operation.perform foreign) := by
  intro w hw
  cases operation with
  | load b loader => exact hI.loads (Returns.load (.intro _ w)) hw
  | teardown b => exact hI.tearsDown (Returns.teardown (.intro _ w)) hw
  | registerExit b =>
    have expected := hI.step _ _ (.expect b) hw
    exact hI.alike _ _ (Returns.registerExit (.intro (Action.registerExit b) w)) expected
  | releaseExit b =>
    have released := hI.step _ _ (.release b) hw
    exact hI.alike _ _ (Returns.releaseExit (.intro (Action.releaseExit b) w)) released
  | runExitTeardown =>
    rcases Returns.runExitTeardown (.intro (Action.runExitTeardown foreign) w) with
      ⟨-, -, same⟩ | ⟨b, -, down⟩
    · change I ((Action.runExitTeardown foreign).run w).2
      rw [same]
      exact hw
    · exact hI.tearsDown down (hI.step _ _ .expectNone hw)
  | _ => cases h

end ManagedHost
