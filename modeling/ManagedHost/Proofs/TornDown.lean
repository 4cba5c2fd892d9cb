import ManagedHost.Proofs.BindingEntries
import ManagedHost.Proofs.Interlude

/-! # What is left of a bridge that was torn down

While a bridge gives its runtime up the place for a runtime is held, so whatever the unload method
and the shutdown ask for, nothing but asides happens to the process. Then the bridge forgets
everything, also what it was given meanwhile (`teardown_empties`). -/

namespace ManagedHost

open ManagedHost.Action Relation

/-! ## Asides that leave a bridge or its bindings alone -/

/-- An operation leaves the bridges alone that it is not about. -/
theorem Effect.bridge_of_ne {operation : Operation} {p p' : Process} (h : Effect operation p p')
    {c : BridgeId} (other : operation.subject? ≠ some c) : p'.bridge c = p.bridge c := by
  have registry : ∀ (q : Process) {holder : Holder} {changed : Registry}, holder ≠ .bridge c →
      (q.setRegistry holder changed).bridge c = q.bridge c := by
    intro q holder changed differs
    cases holder with
    | bridge b => exact Process.bridge_updateBridge_of_ne q (fun same => differs (by rw [same])) _
    | alone r => rfl
  have apart : ∀ {b : BridgeId}, operation.subject? = some b → c ≠ b := by
    rintro b subject rfl
    exact other subject
  cases h with
  | @bound _ _ holder _ _ _ _ added =>
    obtain ⟨adapters, changed, rfl⟩ := Process.register_ok added
    exact registry { p with adapters } (by rintro rfl; exact other rfl)
  | cleared _ holder =>
    exact registry { p with retired := _ } (by rintro rfl; exact other rfl)
  | kept | seated | heap => rfl
  | declared _ b => exact Process.bridge_updateBridge_of_ne p (apart rfl) _
  | resolved _ imported => exact Process.bridge_updateBridge_of_ne p (apart rfl) _
  | objects _ subject => exact Process.bridge_updateBridge_of_ne p (apart subject) _

theorem Restrained.bridge_of_ne {since : List Moment} {p p' : Process} (h : Restrained since p p')
    {c : BridgeId}
    (other : ∀ operation q, ⟨.began operation, q⟩ ∈ since → operation.subject? ≠ some c) :
    p'.bridge c = p.bridge c := by
  obtain ⟨-, steps⟩ := h
  induction steps with
  | refl => rfl
  | tail _ step ih =>
    rw [← ih]
    cases step with
    | effect began effect => exact effect.bridge_of_ne (other _ _ began)
    | entered effect => exact effect.bridge_of_ne nofun
    | expect | release | expectNone => rfl

theorem Registry.sublist_insert (registry : Registry) (binding : Binding) :
    registry.Sublist (registry.insert binding) := by
  induction registry with
  | nil => exact List.nil_sublist _
  | cons first rest ih =>
    rw [insert]
    split
    · exact List.sublist_cons_self _ _
    · exact ih.cons_cons first

/-- No binding was taken away. -/
structure Retains (p p' : Process) : Prop where
  retired : p'.retired = p.retired
  bound : ∀ holder, (p.registry holder).Sublist (p'.registry holder)

theorem Retains.refl (p : Process) : Retains p p := ⟨rfl, fun _ => .refl _⟩

theorem Retains.trans {p q r : Process} (h : Retains p q) (h' : Retains q r) : Retains p r :=
  ⟨h'.retired.trans h.retired, fun holder => (h.bound holder).trans (h'.bound holder)⟩

theorem Retains.of_eq {p p' : Process} (retired : p'.retired = p.retired)
    (same : ∀ holder, p'.registry holder = p.registry holder) : Retains p p' :=
  ⟨retired, fun holder => same holder ▸ .refl _⟩

/-- Only clearing takes bindings away. -/
theorem Effect.retains {operation : Operation} {p p' : Process} (h : Effect operation p p')
    (other : ∀ holder, operation ≠ .clear holder) : Retains p p' := by
  cases h with
  | @bound _ _ holder _ _ _ binding added =>
    obtain ⟨-, -, rfl⟩ := Process.register_adds added
    refine ⟨by cases holder <;> rfl, fun held => ?_⟩
    by_cases same : held = holder
    · subst same
      rw [Process.registry_setRegistry_self]
      exact Registry.sublist_insert _ _
    · rw [Process.registry_setRegistry_of_ne _ same]
      exact .refl _
  | cleared _ holder => exact absurd rfl (other holder)
  | kept | seated | heap => exact .of_eq rfl fun holder => rfl
  | declared | resolved | objects =>
    exact .of_eq rfl (Process.registry_updateBridge p rfl)

theorem Restrained.retains {since : List Moment} {p p' : Process} (h : Restrained since p p')
    (other : ∀ holder q, ⟨.began (.clear holder), q⟩ ∉ since) : Retains p p' := by
  obtain ⟨-, steps⟩ := h
  induction steps with
  | refl => exact .refl _
  | tail _ step ih =>
    refine ih.trans ?_
    cases step with
    | @effect operation q _ began effect =>
      refine effect.retains fun holder same => ?_
      rw [same] at began
      exact other holder q began
    | entered effect => exact effect.retains nofun
    | expect | release | expectNone => exact .of_eq rfl fun _ => rfl

/-! ## Tearing down -/

/-- A bridge was torn down. While its runtime was told and shut down the nested moments went by, and
in the last state then the runtime had just been shut down. -/
structure TornDown (b : BridgeId) (w : World) (nested : List Moment) (last : Process) (w' : World) :
    Prop where
  history : w'.history = ⟨.ended (.teardown b) true, w'.process⟩ ::
    (nested ++ ⟨.began (.teardown b), w.process⟩ :: w.history)
  shut : ∃ live reply earlier, (w.process.bridge b).host = some live ∧
    nested = ⟨.replied (.shutDown live.host live.started) reply, last⟩ :: earlier
  /-- Nothing but asides happened to the process, starting with the bridge that is live no more. -/
  between : Restrained nested (w.process.takeDown b) last
  forgotten : Process.Forgets b last w'.process
  /-- Other bridges are as they were, but for what was asked for about them. -/
  apart : ∀ c, c ≠ b →
    (∀ operation q, ⟨.began operation, q⟩ ∈ nested → operation.subject? ≠ some c) →
      w'.process.bridge c = w.process.bridge c
  /-- Unless somebody cleared a registry, exactly the bindings that the bridge had at last are
  retired, and those that it had at first are among them. -/
  retired : (∀ holder q, ⟨.began (.clear holder), q⟩ ∉ nested) →
    w'.process.retired = w.process.retired ++ (last.bridge b).outbound.map (·.adapter) ∧
      (w.process.bridge b).outbound.Sublist (last.bridge b).outbound

section

variable {foreign : Foreign} {b : BridgeId} {w w' : World}
  (stance : Respects Stance Steadfast foreign) (hf : Respects Stance Interlude foreign)

include hf in
/-- During a call that tears down nothing but asides happen. -/
theorem restrained_call {call : ForeignCall} (closes : call.closes = true)
    (made : Stance (⟨.called call, w.process⟩ :: w.history) w.process)
    (before : Recorded Stance w.history) {reply : call.Reply}
    (ran : Returns (foreign call) w reply w') :
    ∃ since, w'.history = ⟨.replied call reply, w'.process⟩ :: (since ++ w.history) ∧
      Restrained since w.process w'.process := by
  obtain ⟨w₁, since, rfl, grown, -, course⟩ := hf.course made before ran
  have still : IsStill (w.after (.called call)).history w₁.history := .inl (.inr (by simp [closes]))
  have called : Restrained [⟨.called call, w.process⟩] w.process w.process :=
    (Restrained.refl _).cons trivial
  refine ⟨since ++ [⟨.called call, w.process⟩], ?_, called.append (course still).toRestrained⟩
  rw [World.history_after, grown, List.append_assoc]
  rfl

include hf in
/-- The unload method is called at most once, and nothing but asides happen meanwhile. -/
theorem restrained_unload {runtime : HostId × HostInstance} {shut : List (HostId × HostInstance)}
    {frames : List (List Moment)} (vacant : Vacant (runtime :: shut) shut frames w)
    {live : LiveHost} (told : Returns (callUnload foreign b live) w () w') :
    ∃ since, w'.history = since ++ w.history ∧ Restrained since w.process w'.process := by
  rcases told.callUnload with ⟨-, rfl⟩ | ⟨name, address, cell, w₁, -, call, alike⟩
  · exact ⟨[], rfl, .refl _⟩
  · have made := vacant.unload_call b address ⟨.void, []⟩ []
    obtain ⟨since, grown, between⟩ := restrained_call hf rfl made vacant.before call
    obtain ⟨process, history, -, -⟩ := alike
    refine ⟨⟨.replied _ cell, w₁.process⟩ :: since, ?_, ?_⟩
    · rw [history, grown, List.cons_append]
    · rw [process]
      exact between.cons trivial

include stance hf in
/-- A live bridge is torn down when it is asked for, whatever code outside does. -/
theorem tornDown (sound : Sound Stance w) (isLive : (w.process.bridge b).isLive = true)
    {result : Bool} (ran : Returns ((Operation.teardown b).run foreign) w result w') :
    result = true ∧ ∃ nested last, TornDown b w nested last w' := by
  obtain ⟨result', w₁, performed, whole⟩ := Operation.run_eq (.teardown b) foreign w
  cases ran.symm.trans whole
  have begun : Sound Stance (w.after (.began (.teardown b))) :=
    .began (sound.now.congr (.refl _) rfl rfl rfl rfl) sound.before
  cases Returns.teardown performed with
  | idle dead =>
    rw [show (w.process.bridge b).isLive = false from dead] at isLive
    cases isLive
  | bare _ hostless =>
    obtain ⟨live, -, up, -⟩ := sound.now.up_of_isLive isLive
    cases up.host.symm.trans hostless
  | @down live v₁ v₂ _ _ host told shut gone =>
    have vacant := vacant_takeDown begun host isLive
    have silent := vacant.callUnload stance told
    obtain ⟨first, grown, calm⟩ := restrained_unload hf vacant told
    obtain ⟨reply, v, call, process, history, -⟩ := shut.shutDown
    obtain ⟨second, grown', calm'⟩ := restrained_call hf rfl silent.shutDown_call silent.before call
    have between : Restrained (⟨.replied (.shutDown live.host live.started) reply, v.process⟩ ::
        (second ++ first)) (w.process.takeDown b) v.process := (calm.append calm').cons trivial
    obtain ⟨dead, hostless⟩ := (silent.shutDown stance call).down b
    have forgotten : Process.Forgets b v.process w₁.process := by
      rw [← process] at dead hostless ⊢
      exact gone.forgets dead hostless
    obtain ⟨-, same, -, -⟩ := gone.forget
    refine ⟨rfl, _, v.process, ?_, ⟨live, reply, _, host, rfl⟩, between, forgotten, ?_, ?_⟩
    · rw [World.history_after, same]
      change _ :: v₂.history = _
      rw [history, grown', grown, ← List.append_assoc]
      rfl
    · intro c other alone
      change w₁.process.bridge c = _
      rw [forgotten.others c other, between.bridge_of_ne alone]
      exact Process.bridge_updateBridge_of_ne _ other _
    · intro uncleared
      obtain ⟨retired, bound⟩ := between.retains uncleared
      refine ⟨?_, ?_⟩
      · change w₁.process.retired = _
        rw [forgotten.retired, retired]
        rfl
      · have held := Process.registry_updateBridge w.process (b := b)
          (f := fun bridge => { bridge with isLive := false, host := none }) rfl (.bridge b)
        have more := bound (.bridge b)
        rw [show (w.process.takeDown b).registry (.bridge b) = _ from held] at more
        exact more

end

/-- In every reached world a live bridge can be torn down, and whatever its unload method, the
shutdown and all other code outside ask for meanwhile, nothing is left of it. -/
theorem teardown_empties {w : World} (reached : w.Reached) {b : BridgeId}
    (isLive : (w.process.bridge b).isLive = true) (outside : Outside) (depth : Nat) :
    ∃ w' nested last, Returns ((Operation.teardown b).run (outside.answer depth)) w true w' ∧
      TornDown b w nested last w' := by
  have sound : Sound Stance w :=
    reached.sound .refl (fun _ _ => stance_disciplined) stance_start
  obtain ⟨result, w', ran⟩ := Returns.exists ((Operation.teardown b).run (outside.answer depth)) w
  obtain ⟨rfl, nested, last, done⟩ :=
    tornDown (answer_stance outside depth) (answer_interlude outside depth) sound isLive ran
  exact ⟨w', nested, last, ran, done⟩

/-- Code outside whose unload method registers a function, loads, and tears the bridge down
again. -/
def Outside.clinging : Outside := fun w call =>
  match call with
  | .managed (.unload b) _ _ _ => do
    let _ ← Conduct.doing (.register (.bridge b) "late" ⟨.void, []⟩ (.supplied 0 ⟨.void, []⟩))
    let _ ← Conduct.doing (.load b leastLoader)
    let _ ← Conduct.doing (.teardown b)
    return .word 0
  | call => Outside.obliging (fun _ => .reply (.word 0)) w call

/-- The world once a bridge was loaded there. -/
def clingingLoaded : World :=
  Outside.clinging.leads 2 (Conduct.doing (.load 0 leastLoader)) leastFiles []

theorem clingingLoaded_reached : clingingLoaded.Reached := .atEnd _ _ _ _ _ rfl rfl

theorem clingingLoaded_isLive : (clingingLoaded.process.bridge 0).isLive = true := by
  decide +kernel

theorem clinging_emptied : clingingLoaded.Reached ∧
    (clingingLoaded.process.bridge 0).isLive = true ∧
      ∃ w' nested last, Returns ((Operation.teardown 0).run (Outside.clinging.answer 2))
        clingingLoaded true w' ∧ TornDown 0 clingingLoaded nested last w' :=
  ⟨clingingLoaded_reached, clingingLoaded_isLive,
    teardown_empties clingingLoaded_reached clingingLoaded_isLive _ _⟩

/-- The function that the unload method registers is retired with the bridge. -/
example : let emptied := (((Operation.teardown 0).run (Outside.clinging.answer 2)).run
      clingingLoaded).2.process
    (emptied.bridge 0, emptied.retired) = ({}, [0]) := by
  decide +kernel

end ManagedHost
