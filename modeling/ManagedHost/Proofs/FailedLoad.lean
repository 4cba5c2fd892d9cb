import ManagedHost.Proofs.Callback
import ManagedHost.Proofs.Lifecycle

/-! # Loads that fail

A load fails at one of a dozen places. Up to the start of the runtime it has changed nothing but
the claim on the place, which it gives back (`LeavesNothing.before`); after it the bridge is torn
down, so that the runtime is shut down and the bridge is empty (`LeavesNothing.after`). Code outside
is assumed not to call back; what it does to the process is then nothing at all (`Quiet`). -/

namespace ManagedHost

open ManagedHost.Action

/-! ## Code outside that does not call back -/

/-- A conduct that asks for nothing but that notes are taken. -/
inductive Conduct.IsQuiet {ρ : Type} : Conduct ρ → Prop
  | reply (value : ρ) : IsQuiet (.reply value)
  | look {next : World → Conduct ρ} (h : ∀ w, IsQuiet (next w)) : IsQuiet (.look next)
  | note {topic text : String} {next : Unit → Conduct ρ} (h : IsQuiet (next ())) :
      IsQuiet (.perform (.note topic text) next)

/-- A call of a catalog, of a launcher, of an opener or of a hosting library. -/
def ForeignCall.isHosting : ForeignCall → Bool
  | managed _ _ _ _ | native _ _ _ => false
  | _ => true

/-- What a load has done to a runtime, or has had done by it. -/
inductive HostStep where
  | started (host : HostId) (inst : HostInstance)
  | told (purpose : Purpose)
  | shutDown (host : HostId) (inst : HostInstance)
deriving DecidableEq

/-- The step that an event is. -/
def Event.step? : Event → Option HostStep
  | .replied (.startUp host _ _) (.ok inst) => some (.started host inst)
  | .called (.managed purpose _ _ _) => some (.told purpose)
  | .called (.shutDown host inst) => some (.shutDown host inst)
  | _ => none

/-- The steps in a history, the last one first. -/
def hostSteps (h : List Moment) : List HostStep := h.filterMap (·.event.step?)

/-- The same process, and no step in between. -/
def Undisturbed (w w' : World) : Prop :=
  w'.process = w.process ∧ hostSteps w'.history = hostSteps w.history

theorem Undisturbed.trans {u v w : World} (h : Undisturbed u v) (h' : Undisturbed v w) :
    Undisturbed u w := ⟨h'.1.trans h.1, h'.2.trans h.2⟩

theorem Undisturbed.alike {w w' : World} (h : Alike w w') : Undisturbed w w' :=
  ⟨h.1, congrArg hostSteps h.2.1⟩

/-- Calls of hosting code leave the process as it is, and are no steps but for the call and the
reply themselves. -/
def Quiet (foreign : Foreign) : Prop :=
  ∀ call : ForeignCall, call.isHosting = true → ∀ w reply w', Returns (foreign call) w reply w' →
    w'.process = w.process ∧ hostSteps w'.history =
      (Event.replied call reply).step?.toList ++
        ((Event.called call).step?.toList ++ hostSteps w.history)

theorem hostSteps_cons (event : Event) (p : Process) (h : List Moment) :
    hostSteps (⟨event, p⟩ :: h) = event.step?.toList ++ hostSteps h := by
  simp only [hostSteps, List.filterMap_cons]
  cases event.step? <;> rfl

theorem Conduct.IsQuiet.undisturbed {ρ : Type} {conduct : Conduct ρ} (h : conduct.IsQuiet)
    (foreign : Foreign) (w : World) : Undisturbed w ((conduct.run foreign).run w).2 := by
  induction h generalizing w with
  | reply value => exact ⟨rfl, rfl⟩
  | look h ih => exact ih w w
  | @note topic text next h ih =>
    have noted : Undisturbed w (((Operation.note topic text).run foreign).run w).2 := ⟨rfl, rfl⟩
    exact noted.trans (ih _)

theorem Returns.answer {outside : Outside} {depth : Nat} {call : ForeignCall} {w w' : World}
    {reply : call.Reply} (h : Returns (outside.answer (depth + 1) call) w reply w') :
    ∃ w₁, Returns (outside.conduct (outside.answer depth) call) (w.after (.called call)) reply w₁ ∧
      w' = w₁.after (.replied call reply) := by
  obtain ⟨u, w₁, hc, h⟩ := Returns.bind h
  cases hc
  obtain ⟨r, w₂, hr, h⟩ := Returns.bind h
  obtain ⟨u, w₃, hc, h⟩ := Returns.bind h
  obtain ⟨rfl, rfl⟩ := Returns.pure h
  cases hc
  exact ⟨w₂, hr, rfl⟩

/-- Code outside that does not call back is quiet at every depth. -/
theorem answer_quiet {outside : Outside}
    (h : ∀ w call, call.isHosting = true → (outside w call).IsQuiet) :
    ∀ depth, Quiet (outside.answer depth)
  | 0 => by
    intro call hc w reply w' hr
    cases hr
    exact ⟨rfl, by rw [hostSteps_cons, hostSteps_cons]⟩
  | depth + 1 => by
    intro call hc w reply w' hr
    have react : ∀ u, Undisturbed u ((outside.conduct (outside.answer depth) call).run u).2 := by
      intro u
      cases call with
      | managed | native => cases hc
      | _ => exact (h u _ hc).undisturbed _ u
    obtain ⟨w₁, conducted, rfl⟩ := Returns.answer hr
    obtain ⟨same, steps⟩ := react (w.after (.called call))
    rw [conducted] at same steps
    refine ⟨same, ?_⟩
    rw [World.history_after, hostSteps_cons, steps, World.history_after, hostSteps_cons]

/-! ## What is left of a failed load -/

/-- What a failed load of a bridge leaves. -/
inductive LeavesNothing (b : BridgeId) (w w' : World) : Prop
  /-- No runtime was started, and the process is as it was. -/
  | before (process : w'.process = w.process) (steps : hostSteps w'.history = hostSteps w.history)
  /-- One runtime was started and shut down, with no method told in between, and the bridge keeps
  nothing but its count of imports. -/
  | after (host : HostId) (inst : HostInstance)
      (steps : hostSteps w'.history =
        .shutDown host inst :: .started host inst :: hostSteps w.history)
      (empty : w'.process.bridge b = { nextImport := (w.process.bridge b).nextImport })
      (others : ∀ c, c ≠ b → w'.process.bridge c = w.process.bridge c)
      (free : w.process.isClaimed = false ∧ w'.process.isClaimed = false)
      (target : w'.process.exitTarget =
        if w.process.exitTarget = some b then none else w.process.exitTarget)
      (retired : w'.process.retired =
        w.process.retired ++ (w.process.bridge b).outbound.map (·.adapter))
      (rest : w'.process.adapters = w.process.adapters ∧
        w'.process.registries = w.process.registries ∧ w'.process.buffers = w.process.buffers ∧
        w'.process.heap = w.process.heap)

variable {foreign : Foreign} {b : BridgeId} {loader : Loader} {w w' : World}

/-- The search for a runtime disturbs nothing. -/
theorem Quiet.search (hq : Quiet foreign) (u : World) :
    SteadySearch foreign (Undisturbed u) := by
  have step : ∀ call : ForeignCall, call.isHosting = true →
      (Event.called call).step? = none → (∀ reply, (Event.replied call reply).step? = none) →
      Keeps (Undisturbed u) (foreign call) := by
    intro call hc called replied w hw
    obtain ⟨reply, w', hr⟩ := Returns.exists (foreign call) w
    obtain ⟨same, steps⟩ := hq call hc w reply w' hr
    rw [hr]
    rw [called, replied reply] at steps
    exact hw.trans ⟨same, steps⟩
  constructor
  · exact fun w log hw => hw.trans ⟨rfl, rfl⟩
  · exact fun _ => step _ rfl rfl fun _ => rfl
  · exact fun _ => step _ rfl rfl fun _ => rfl
  · exact fun _ => step _ rfl rfl fun _ => rfl
  · exact fun _ _ => step _ rfl rfl fun _ => rfl

/-- Looking a method up disturbs nothing. -/
theorem Quiet.resolve (hq : Quiet foreign) {typeName method : String}
    {assembly : Option String} {r : Except BridgeError Address}
    (h : Returns (resolve foreign b typeName method assembly) w r w') : Undisturbed w w' := by
  rcases h.resolve with ⟨-, rfl⟩ | ⟨live, reply, w₁, -, call, alike, -⟩
  · exact ⟨rfl, rfl⟩
  · obtain ⟨same, steps⟩ := hq _ rfl _ _ _ call
    exact Undisturbed.trans ⟨same, steps⟩ (.alike alike)

/-- A runtime that is found is the one thing that a preparation does. -/
theorem Quiet.prepare (hq : Quiet foreign) {r : Except BridgeError LiveHost}
    (h : Returns (prepare foreign loader) w r w') :
    w'.process = w.process ∧ match r with
    | .error _ => hostSteps w'.history = hostSteps w.history
    | .ok live => live.unload = none ∧
        hostSteps w'.history = .started live.host live.started :: hostSteps w.history := by
  rcases h.prepare with
    ⟨⟨e, rfl⟩, steady⟩ | ⟨host, properties, reply, w₁, w₂, steady, call, alike, hr⟩
  · exact steady _ (hq.search w) ⟨rfl, rfl⟩
  · obtain ⟨same, steps⟩ := hq _ rfl _ _ _ call
    obtain ⟨same₁, steps₁⟩ := steady _ (hq.search w) ⟨rfl, rfl⟩
    obtain ⟨same₂, steps₂⟩ := Undisturbed.alike alike
    refine ⟨same₂.trans (same.trans same₁), ?_⟩
    rcases hr with ⟨status, rfl, rfl⟩ | ⟨inst, live, rfl, rfl, rfl, rfl, unload, -⟩
    · exact steps₂.trans (steps.trans steps₁)
    · exact ⟨unload, steps₂.trans (steps.trans (congrArg _ steps₁))⟩

/-- Two states of a process that differ in nothing but what one bridge keeps for a runtime, and
whether the place for a runtime is taken. -/
structure SameBut (b : BridgeId) (p p' : Process) : Prop where
  others : ∀ c, c ≠ b → p'.bridge c = p.bridge c
  outbound : (p'.bridge b).outbound = (p.bridge b).outbound
  nextImport : (p'.bridge b).nextImport = (p.bridge b).nextImport
  target : p'.exitTarget = p.exitTarget
  retired : p'.retired = p.retired
  rest : p'.adapters = p.adapters ∧ p'.registries = p.registries ∧ p'.buffers = p.buffers ∧
    p'.heap = p.heap

theorem SameBut.claim (b : BridgeId) (p : Process) : SameBut b p p.claim :=
  ⟨fun _ _ => rfl, rfl, rfl, rfl, rfl, rfl, rfl, rfl, rfl⟩

theorem SameBut.updateBridge {p p' : Process} (h : SameBut b p p') {f : Bridge → Bridge}
    (ho : (f (p'.bridge b)).outbound = (p'.bridge b).outbound)
    (hn : (f (p'.bridge b)).nextImport = (p'.bridge b).nextImport) :
    SameBut b p (p'.updateBridge b f) := by
  refine ⟨fun c hc => ?_, ?_, ?_, h.target, h.retired, h.rest⟩
  · rw [Process.bridge_updateBridge_of_ne p' hc]
    exact h.others c hc
  · rw [Process.bridge_updateBridge_self]
    exact ho.trans h.outbound
  · rw [Process.bridge_updateBridge_self]
    exact hn.trans h.nextImport

/-- Where everything is forgotten nothing is left. -/
theorem leavesNothing_forget {u : World} {host : HostId} {inst : HostInstance}
    (free : w.process.isClaimed = false)
    (steps : hostSteps u.history =
      .shutDown host inst :: .started host inst :: hostSteps w.history)
    (h : SameBut b w.process u.process) (down : (u.process.bridge b).isLive = false)
    (gone : (u.process.bridge b).host = none) (hf : Returns (forget b) u () w') :
    LeavesNothing b w w' := by
  obtain ⟨-, hh, -, -⟩ := hf.forget
  have forgotten := hf.forgets down gone
  refine .after host inst (by rw [hh]; exact steps) ?_ (fun c hc => ?_) ⟨free, forgotten.claimed⟩
    ?_ ?_ ?_
  · rw [forgotten.emptied, h.nextImport]
  · rw [forgotten.others c hc, h.others c hc]
  · rw [forgotten.target, h.target]
  · rw [forgotten.retired, h.retired, h.outbound]
  · obtain ⟨adapters, registries, buffers, heap⟩ := forgotten.rest
    obtain ⟨adapters', registries', buffers', heap'⟩ := h.rest
    exact ⟨adapters.trans adapters', registries.trans registries', buffers.trans buffers',
      heap.trans heap'⟩

/-- The bridge has its runtime, and nothing else was done since a process. -/
structure HasOnly (b : BridgeId) (live : LiveHost) (p : Process) (steps : List HostStep)
    (w : World) : Prop where
  same : SameBut b p w.process
  isLive : (w.process.bridge b).isLive = true
  host : (w.process.bridge b).host = some live
  steps : hostSteps w.history = steps

variable {live : LiveHost} {p : Process} {steps : List HostStep}

theorem HasOnly.undisturbed (h : HasOnly b live p steps w) (hu : Undisturbed w w') :
    HasOnly b live p steps w' := by
  obtain ⟨hp, hs⟩ := hu
  constructor
  · rw [hp]; exact h.same
  · rw [hp]; exact h.isLive
  · rw [hp]; exact h.host
  · rw [hs]; exact h.steps

/-- A runtime that could not be told the bindings was told nothing. -/
theorem Quiet.boots (hq : Quiet foreign) {e : BridgeError} (h : HasOnly b live p steps w)
    (hb : Boots foreign b loader w (.error e) w') : HasOnly b live p steps w' := by
  cases hb with
  | noLoad load => exact h.undisturbed (hq.resolve load)
  | noUnload load unload => exact (h.undisturbed (hq.resolve load)).undisturbed (hq.resolve unload)

/-- Without an unload method the runtime is only shut down. -/
theorem Quiet.tearsDown (hq : Quiet foreign) {u : World} {r : Bool}
    (free : w.process.isClaimed = false) (unload : live.unload = none)
    (h : HasOnly b live w.process (.started live.host live.started :: hostSteps w.history) u)
    (hd : TearsDown foreign b u r w') : LeavesNothing b w w' := by
  cases hd with
  | idle idle =>
    rw [h.isLive] at idle
    cases idle
  | bare _ host =>
    rw [h.host] at host
    cases host
  | @down live' u₀ u₂ _ _ host told shut gone =>
    rw [h.host] at host
    cases host
    -- The unload method is kept only after the load method was called.
    rcases told.callUnload with ⟨-, rfl⟩ | ⟨name, address, -, -, hook, -⟩
    · obtain ⟨reply, u₁, call, alike⟩ := shut.shutDown
      obtain ⟨same, steps⟩ := hq _ rfl _ _ _ call
      obtain ⟨same', steps'⟩ := Undisturbed.alike alike
      have process := same'.trans same
      have ended : hostSteps u₂.history = .shutDown live.host live.started ::
          .started live.host live.started :: hostSteps w.history := by
        rw [steps', steps, ← h.steps]
        rfl
      have taken : (u.process.takeDown b).bridge b =
          { u.process.bridge b with isLive := false, host := none } := by
        rw [Process.takeDown, Process.bridge_updateBridge_self]
      refine leavesNothing_forget free ended ?_ ?_ ?_ gone
      · rw [process, World.process_put, Process.takeDown]
        exact h.same.updateBridge rfl rfl
      · rw [process, World.process_put, taken]
      · rw [process, World.process_put, taken]
    · rw [unload] at hook
      cases hook

/-- A load that fails leaves nothing, whatever made it fail. -/
theorem Quiet.loads (hq : Quiet foreign) {e : BridgeError}
    (h : Loads foreign b loader w (.error e) w') : LeavesNothing b w w' := by
  cases h with
  | refused claimed => exact .before rfl rfl
  | @unprepared e w₁ free prepared =>
    obtain ⟨same, steps⟩ := hq.prepare prepared
    refine .before ?_ steps
    rw [World.process_put, same]
    change ({ w.process with isClaimed := false } : Process) = w.process
    rw [← free]
  | @failed live e gone w₁ w₂ w₃ w' free prepared booted logged down =>
    obtain ⟨same, unload, steps⟩ := hq.prepare prepared
    have up : HasOnly b live w.process (.started live.host live.started :: hostSteps w.history)
        (w₁.put (w₁.process.bringUp b live)) := by
      refine ⟨?_, ?_, ?_, steps⟩
      · rw [World.process_put, same]
        exact (SameBut.claim b w.process).updateBridge rfl rfl
      · rw [World.process_put, Process.bringUp, Process.bridge_updateBridge_self]
      · rw [World.process_put, Process.bringUp, Process.bridge_updateBridge_self]
    exact hq.tearsDown free unload ((hq.boots up booted).undisturbed (.alike logged)) down

/-- A load that fails leaves nothing, and no later load is refused for it. -/
theorem failed_load_leaves_nothing (outside : Outside)
    (quiet : ∀ w call, call.isHosting = true → (outside w call).IsQuiet) (depth : Nat)
    (b : BridgeId) (loader : Loader) (w : World) (e : BridgeError) (w' : World)
    (h : Returns ((Operation.load b loader).run (outside.answer depth)) w (.error e) w') :
    LeavesNothing b w w' ∧ (w'.process.isClaimed = true → w.process.isClaimed = true) := by
  obtain ⟨result, w₁, hr, hrun⟩ := (Operation.load b loader).run_eq (outside.answer depth) w
  cases h.symm.trans hrun
  have left := (answer_quiet quiet depth).loads (Returns.load hr)
  refine ⟨?_, fun claimed => ?_⟩
  · cases left with
    | before process steps => exact .before process steps
    | after host inst steps empty others free target retired rest =>
      exact .after host inst steps empty others free target retired rest
  · cases left with
    | before process =>
      rw [show w.process = w₁.process from process.symm]
      exact claimed
    | after _ _ _ _ _ free =>
      rw [show w₁.process.isClaimed = true from claimed] at free
      cases free.2

/-- Code outside whose runtime knows no method. -/
def Outside.methodless : Outside := fun w call =>
  match call with
  | .createDelegate _ _ _ _ _ => .reply (.error (-2146233054))
  | call => Outside.obliging (fun _ => .reply (.word 0)) w call

/-- A runtime without a load method is started and shut down. -/
theorem methodless_load_leaves_nothing :
    let w : World := { files := leastFiles }
    let w' := (((Operation.load 0 leastLoader).run (Outside.methodless.answer 1)).run w).2
    hostSteps w'.history = [.shutDown "host" ⟨1, 1⟩, .started "host" ⟨1, 1⟩] ∧
      LeavesNothing 0 w w' ∧ (w'.process.isClaimed = true → w.process.isClaimed = true) := by
  have quiet : ∀ w (call : ForeignCall), call.isHosting = true →
      (Outside.methodless w call).IsQuiet := by
    intro w call hosting
    cases call <;> first | exact .reply _ | cases hosting
  have failed : (((Operation.load 0 leastLoader).run (Outside.methodless.answer 1)).run
      { files := leastFiles }).1.isOk = false := by decide +kernel
  refine ⟨by decide +kernel, ?_⟩
  cases result : (((Operation.load 0 leastLoader).run (Outside.methodless.answer 1)).run
      { files := leastFiles }).1 with
  | ok u =>
    rw [result] at failed
    cases failed
  | error e =>
    exact failed_load_leaves_nothing Outside.methodless quiet 1 0 leastLoader
      { files := leastFiles } e _ (Prod.ext result rfl)

end ManagedHost
