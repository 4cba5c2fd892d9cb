import ManagedHost.Proofs.Callback
import ManagedHost.Proofs.Lifecycle

/-! # How a process stands towards its runtime

A process stands in one of four ways (`Stance`): it has no runtime; a load holds the place for one;
a bridge has one; or a bridge is giving one up. Whatever code outside asks for before it replies,
the process stands in the same way when a call is answered as when it was made, as long as the place
is held by a load or by a bridge that gives its runtime up (`Steadfast`). Every operation keeps the
stance, given that the calls it makes do (`stance_disciplined`), and so every run does. -/

namespace ManagedHost

open ManagedHost.Action

/-- No bridge is live, and none has a runtime. -/
def Process.IsDown (p : Process) : Prop :=
  ∀ b, (p.bridge b).isLive = false ∧ (p.bridge b).host = none

/-- One bridge is live with a runtime, and no other one is. -/
structure Process.IsUp (p : Process) (b : BridgeId) (live : LiveHost) : Prop where
  isLive : (p.bridge b).isLive = true
  host : (p.bridge b).host = some live
  others : ∀ c, c ≠ b → (p.bridge c).isLive = false ∧ (p.bridge c).host = none

theorem Process.IsUp.eq_of_isLive {p : Process} {b c : BridgeId} {live : LiveHost}
    (hu : p.IsUp b live) (hc : (p.bridge c).isLive = true) : c = b := by
  by_cases h : c = b
  · exact h
  · rw [(hu.others c h).1] at hc
    cases hc

/-- How a process stands, given what happened. -/
inductive Stance (h : List Moment) (p : Process) : Prop
  /-- There is no runtime. -/
  | idle (claimed : p.isClaimed = false) (down : p.IsDown) (preparing : isPreparing h = false)
      (closing : isClosing h = false) (ledger : startedRuntimes h = shutRuntimes h)
  /-- A load holds the place for a runtime. -/
  | preparing (claimed : p.isClaimed = true) (down : p.IsDown) (preparing : isPreparing h = true)
      (closing : isClosing h = false) (ledger : startedRuntimes h = shutRuntimes h)
  /-- A bridge has a runtime. -/
  | up (b : BridgeId) (live : LiveHost) (claimed : p.isClaimed = true) (up : p.IsUp b live)
      (preparing : isPreparing h = false) (closing : isClosing h = false)
      (ledger : startedRuntimes h = (live.host, live.started) :: shutRuntimes h)
  /-- A bridge gives its runtime up. -/
  | closing (pending : Option (HostId × HostInstance)) (claimed : p.isClaimed = true)
      (down : p.IsDown) (preparing : isPreparing h = false) (closing : isClosing h = true)
      (ledger : startedRuntimes h = pending.toList ++ shutRuntimes h)

/-- What goes on between two worlds leaves the same things under way; and while the place for a
runtime is held without a live bridge, it starts and shuts down nothing. -/
structure Steadfast (w w' : World) : Prop where
  frames : underway w'.history = underway w.history
  still : isPreparing w.history = true ∨ isClosing w.history = true →
    SameHosting w.process w'.process ∧
      startedRuntimes w'.history = startedRuntimes w.history ∧
      shutRuntimes w'.history = shutRuntimes w.history

theorem Steadfast.refl (w : World) : Steadfast w w := ⟨rfl, fun _ => ⟨.refl _, rfl, rfl⟩⟩

theorem Steadfast.trans {u v w : World} (h : Steadfast u v) (h' : Steadfast v w) :
    Steadfast u w := by
  refine ⟨h'.frames.trans h.frames, fun held => ?_⟩
  obtain ⟨hs, h₁, h₂⟩ := h.still held
  rw [← isPreparing_congr h.frames, ← isClosing_congr h.frames] at held
  obtain ⟨hs', h₁', h₂'⟩ := h'.still held
  exact ⟨hs.trans hs', h₁'.trans h₁, h₂'.trans h₂⟩

/-- Where the place is not held, nothing but what is under way counts. -/
theorem Steadfast.of_frames {w₀ w w' : World} (h : Steadfast w₀ w)
    (hf : underway w'.history = underway w.history) (hp : isPreparing w.history = false)
    (hc : isClosing w.history = false) : Steadfast w₀ w' := by
  refine ⟨hf.trans h.frames, fun held => ?_⟩
  rw [← isPreparing_congr h.frames, ← isClosing_congr h.frames, hp, hc] at held
  simp at held

namespace Stance

variable {h h' : List Moment} {p p' : Process}

theorem isDown_congr (hs : SameHosting p p') (hd : p.IsDown) : p'.IsDown := fun b =>
  ⟨(hs.live b).trans (hd b).1, (hs.host b).trans (hd b).2⟩

theorem isUp_congr {b : BridgeId} {live : LiveHost} (hs : SameHosting p p') (hu : p.IsUp b live) :
    p'.IsUp b live :=
  ⟨(hs.live b).trans hu.isLive, (hs.host b).trans hu.host, fun c hc =>
    ⟨(hs.live c).trans (hu.others c hc).1, (hs.host c).trans (hu.others c hc).2⟩⟩

/-- The stance rests on little of the history and of the state. -/
theorem congr (hst : Stance h p) (hs : SameHosting p p') (hp : isPreparing h' = isPreparing h)
    (hc : isClosing h' = isClosing h) (h₁ : startedRuntimes h' = startedRuntimes h)
    (h₂ : shutRuntimes h' = shutRuntimes h) : Stance h' p' := by
  cases hst with
  | idle claimed down preparing closing ledger =>
    exact .idle (hs.claimed.trans claimed) (isDown_congr hs down) (hp.trans preparing)
      (hc.trans closing) (by rw [h₁, h₂, ledger])
  | preparing claimed down preparing closing ledger =>
    exact .preparing (hs.claimed.trans claimed) (isDown_congr hs down) (hp.trans preparing)
      (hc.trans closing) (by rw [h₁, h₂, ledger])
  | up b live claimed up preparing closing ledger =>
    exact .up b live (hs.claimed.trans claimed) (isUp_congr hs up) (hp.trans preparing)
      (hc.trans closing) (by rw [h₁, h₂, ledger])
  | closing pending claimed down preparing closing ledger =>
    exact .closing pending (hs.claimed.trans claimed) (isDown_congr hs down) (hp.trans preparing)
      (hc.trans closing) (by rw [h₁, h₂, ledger])

/-- A live bridge is the one that has the runtime. -/
theorem up_of_isLive (hst : Stance h p) {b : BridgeId} (hb : (p.bridge b).isLive = true) :
    ∃ live, p.isClaimed = true ∧ p.IsUp b live ∧ isPreparing h = false ∧ isClosing h = false ∧
      startedRuntimes h = (live.host, live.started) :: shutRuntimes h := by
  cases hst with
  | idle _ down => rw [(down b).1] at hb; cases hb
  | preparing _ down => rw [(down b).1] at hb; cases hb
  | closing _ _ down => rw [(down b).1] at hb; cases hb
  | up c live claimed up preparing closing ledger =>
    by_cases hc : b = c
    · subst hc
      exact ⟨live, claimed, up, preparing, closing, ledger⟩
    · rw [(up.others b hc).1] at hb
      cases hb

theorem down_of_held (hst : Stance h p) (held : isPreparing h = true ∨ isClosing h = true) :
    p.IsDown := by
  cases hst with
  | idle _ down | preparing _ down | closing _ _ down => exact down
  | up _ _ _ _ preparing closing =>
    rw [preparing, closing] at held
    simp at held

/-- A bridge that is not live has no runtime. -/
theorem host_of_not_live (hst : Stance h p) {b : BridgeId} (hb : (p.bridge b).isLive = false) :
    (p.bridge b).host = none := by
  cases hst with
  | idle _ down | preparing _ down | closing _ _ down => exact (down b).2
  | up c live _ up =>
    by_cases hc : b = c
    · subst hc
      rw [up.isLive] at hb
      cases hb
    · exact (up.others b hc).2

/-- No two bridges have a runtime. -/
theorem eq_of_host (hst : Stance h p) {b c : BridgeId} {live live' : LiveHost}
    (hb : (p.bridge b).host = some live) (hc : (p.bridge c).host = some live') : c = b := by
  have isLive : ∀ {b live}, (p.bridge b).host = some live → (p.bridge b).isLive = true := by
    intro b live host
    cases idle : (p.bridge b).isLive with
    | true => rfl
    | false =>
      rw [hst.host_of_not_live idle] at host
      cases host
  obtain ⟨_, -, up, -⟩ := hst.up_of_isLive (isLive hb)
  exact up.eq_of_isLive (isLive hc)

/-- Where the place for a runtime is free nothing is held or live. -/
theorem idle_of_unclaimed (hst : Stance h p) (hc : p.isClaimed = false) :
    p.IsDown ∧ isPreparing h = false ∧ isClosing h = false ∧
      startedRuntimes h = shutRuntimes h := by
  cases hst with
  | idle _ down preparing closing ledger => exact ⟨down, preparing, closing, ledger⟩
  | preparing claimed | up _ _ claimed | closing _ claimed => rw [claimed] at hc; cases hc

end Stance

/-! ## Calls that do not concern the place for a runtime -/

variable {foreign : Foreign} {w₀ w w' : World}

theorem startedRuntimes_called (call : ForeignCall) (p : Process) (h : List Moment) :
    startedRuntimes (⟨.called call, p⟩ :: h) = startedRuntimes h := rfl

theorem shutRuntimes_called {call : ForeignCall} (hc : call.closes = false) (p : Process)
    (h : List Moment) : shutRuntimes (⟨.called call, p⟩ :: h) = shutRuntimes h := by
  cases call with
  | shutDown => cases hc
  | _ => rfl

theorem startedRuntimes_replied {call : ForeignCall} (hc : call.prepares = false)
    (reply : call.Reply) (p : Process) (h : List Moment) :
    startedRuntimes (⟨.replied call reply, p⟩ :: h) = startedRuntimes h := by
  cases call with
  | startUp => cases hc
  | _ => rfl

theorem shutRuntimes_replied (call : ForeignCall) (reply : call.Reply) (p : Process)
    (h : List Moment) : shutRuntimes (⟨.replied call reply, p⟩ :: h) = shutRuntimes h := rfl

theorem keeps_call (hf : Respects Stance Steadfast foreign) {call : ForeignCall}
    (hp : call.prepares = false) (hc : call.closes = false) :
    Keeps (Within Stance Steadfast w₀) (foreign call) := by
  intro w hw
  have made : Stance (⟨.called call, w.process⟩ :: w.history) w.process :=
    hw.sound.now.congr (.refl _) (by simp [hp]) (by simp [hc]) rfl (shutRuntimes_called hc _ _)
  obtain ⟨reply, w₁, hr, hw₁⟩ := hf call w (.called made hw.sound.before)
  rw [hr]
  have frames : underway (w₁.after (.replied call reply)).history = underway w.history := by
    rw [World.history_after, underway_replied, hw₁.since.frames]
    rfl
  refine ⟨⟨?_, hw₁.sound.replied call reply⟩, ?_⟩
  · refine hw₁.sound.now.congr (.refl _) ?_ ?_ (startedRuntimes_replied hp _ _ _)
      (shutRuntimes_replied _ _ _ _)
    · rw [isPreparing_congr frames, isPreparing_congr hw₁.since.frames]
      simp [hp]
    · rw [isClosing_congr frames, isClosing_congr hw₁.since.frames]
      simp [hc]
  · -- A call that does not hold the place leaves it held by what held it before.
    refine hw.since.trans ⟨frames, fun held => ?_⟩
    obtain ⟨hs, h₁, h₂⟩ := hw₁.since.still (by simpa [hp, hc] using held)
    exact ⟨hs, (startedRuntimes_replied hp _ _ _).trans h₁,
      h₂.trans (shutRuntimes_called hc _ _)⟩

/-- Operations that bring nothing up and tear nothing down keep the stance. -/
theorem steady_stance (hf : Respects Stance Steadfast foreign) (w₀ : World) :
    SteadyCalls foreign (Within Stance Steadfast w₀) where
  change _ _ hc hw :=
    ⟨⟨hw.sound.now.congr hc.hosting rfl rfl rfl rfl, hw.sound.before⟩,
      hw.since.trans ⟨rfl, fun _ => ⟨hc.hosting, rfl, rfl⟩⟩⟩
  write _ _ hw := ⟨⟨hw.sound.now, hw.sound.before⟩, ⟨hw.since.frames, hw.since.still⟩⟩
  remember _ _ hw := ⟨⟨hw.sound.now, hw.sound.before⟩, ⟨hw.since.frames, hw.since.still⟩⟩
  native _ _ _ := keeps_call hf rfl rfl
  createDelegate _ _ _ _ _ := keeps_call hf rfl rfl
  imported _ _ _ _ _ := keeps_call hf rfl rfl

theorem within_alike (hw : Within Stance Steadfast w₀ w) (ha : Alike w w') :
    Within Stance Steadfast w₀ w' := by
  obtain ⟨hp, hh, -, -⟩ := ha
  refine ⟨⟨?_, ?_⟩, ?_, ?_⟩
  · rw [hp, hh]
    exact hw.sound.now
  · rw [hh]
    exact hw.sound.before
  · rw [hh]
    exact hw.since.frames
  · rw [hp, hh]
    exact hw.since.still

/-! ## While the place is held without a live bridge -/

/-- Between two calls of a load that has no runtime yet, or of a bridge that gives one up: the
place is held, no bridge is live, and it is known which runtimes were started and shut down. -/
structure Vacant (started shut : List (HostId × HostInstance)) (frames : List (List Moment))
    (w : World) : Prop where
  before : Recorded Stance w.history
  frames : underway w.history = frames
  claimed : w.process.isClaimed = true
  down : w.process.IsDown
  preparing : isPreparing w.history = false
  closing : isClosing w.history = false
  started : startedRuntimes w.history = started
  shut : shutRuntimes w.history = shut

variable {started shut : List (HostId × HostInstance)} {frames : List (List Moment)}

theorem Vacant.alike (hv : Vacant started shut frames w) (ha : Alike w w') :
    Vacant started shut frames w' := by
  obtain ⟨hp, hh, -, -⟩ := ha
  constructor
  · rw [hh]; exact hv.before
  · rw [hh]; exact hv.frames
  · rw [hp]; exact hv.claimed
  · rw [hp]; exact hv.down
  · rw [hh]; exact hv.preparing
  · rw [hh]; exact hv.closing
  · rw [hh]; exact hv.started
  · rw [hh]; exact hv.shut

/-- A call that holds the place leaves it as it was, but for the runtime that the call itself
started or shut down. -/
theorem Vacant.call (hf : Respects Stance Steadfast foreign) (hv : Vacant started shut frames w)
    {call : ForeignCall} (held : call.prepares = true ∨ call.closes = true)
    (made : Stance (⟨.called call, w.process⟩ :: w.history) w.process) {reply : call.Reply}
    (hr : Returns (foreign call) w reply w') :
    Vacant ((Event.replied call reply).started?.toList ++ started)
      (shutRuntimes (⟨.called call, w.process⟩ :: w.history)) frames w' := by
  obtain ⟨reply', w₁, hr', hw₁⟩ := hf call w (.called made hv.before)
  cases hr.symm.trans hr'
  have under : underway (w₁.after (.replied call reply)).history = underway w.history := by
    rw [World.history_after, underway_replied, hw₁.since.frames]
    rfl
  -- The call itself holds the place, so nothing that it asked for can have started or shut down
  -- a runtime.
  obtain ⟨hs, h₁, h₂⟩ := hw₁.since.still (by
    rcases held with held | held
    · exact .inl (by simp [held])
    · exact .inr (by simp [held]))
  constructor
  · exact hw₁.sound.replied call reply
  · rw [under, hv.frames]
  · exact hs.claimed.trans hv.claimed
  · exact Stance.isDown_congr hs hv.down
  · rw [isPreparing_congr under, hv.preparing]
  · rw [isClosing_congr under, hv.closing]
  · have more : startedRuntimes (w₁.after (.replied call reply)).history =
        (Event.replied call reply).started?.toList ++ startedRuntimes w₁.history := by
      simp only [startedRuntimes, World.history_after, List.filterMap_cons]
      cases (Event.replied call reply).started? <;> rfl
    rw [more, h₁, ← hv.started]
    rfl
  · exact h₂

theorem Vacant.preparing_call (hv : Vacant shut shut frames w) {call : ForeignCall}
    (hc : call.prepares = true) : Stance (⟨.called call, w.process⟩ :: w.history) w.process := by
  have closes : call.closes = false := by
    cases call <;> first | rfl | cases hc
  refine .preparing hv.claimed hv.down (by simp [hc]) (by simp [closes, hv.closing]) ?_
  rw [startedRuntimes_called, shutRuntimes_called closes, hv.started, hv.shut]

theorem Vacant.unload_call {runtime : HostId × HostInstance}
    (hv : Vacant (runtime :: shut) shut frames w) (b : BridgeId) (address : Address)
    (signature : Signature) (cells : List Cell) :
    Stance (⟨.called (.managed (.unload b) address signature cells), w.process⟩ :: w.history)
      w.process := by
  refine .closing (some runtime) hv.claimed hv.down (by simp [ForeignCall.prepares, hv.preparing])
    (by simp [ForeignCall.closes]) ?_
  rw [startedRuntimes_called, hv.started, ← hv.shut]
  rfl

theorem Vacant.shutDown_call {host : HostId} {inst : HostInstance}
    (hv : Vacant ((host, inst) :: shut) shut frames w) :
    Stance (⟨.called (.shutDown host inst), w.process⟩ :: w.history) w.process := by
  refine .closing none hv.claimed hv.down (by simp [ForeignCall.prepares, hv.preparing])
    (by simp [ForeignCall.closes]) ?_
  rw [startedRuntimes_called, hv.started]
  exact congrArg _ hv.shut.symm

theorem Vacant.prepare (hf : Respects Stance Steadfast foreign) (hv : Vacant shut shut frames w)
    (call : ForeignCall) (hc : call.prepares = true) {reply : call.Reply}
    (hr : Returns (foreign call) w reply w') :
    Vacant ((Event.replied call reply).started?.toList ++ shut) shut frames w' := by
  have closes : call.closes = false := by
    cases call <;> first | rfl | cases hc
  have done := hv.call hf (.inl hc) (hv.preparing_call hc) hr
  rwa [shutRuntimes_called closes, hv.shut] at done

theorem Vacant.unload (hf : Respects Stance Steadfast foreign)
    {runtime : HostId × HostInstance} (hv : Vacant (runtime :: shut) shut frames w)
    {b : BridgeId} {address : Address} {signature : Signature} {cells : List Cell} {cell : Cell}
    (hr : Returns (foreign (.managed (.unload b) address signature cells)) w cell w') :
    Vacant (runtime :: shut) shut frames w' := by
  obtain rfl := hv.shut
  exact hv.call hf (.inr rfl) (hv.unload_call b address signature cells) hr

theorem Vacant.callUnload (hf : Respects Stance Steadfast foreign)
    {runtime : HostId × HostInstance} (hv : Vacant (runtime :: shut) shut frames w)
    {b : BridgeId} {live : LiveHost} (told : Returns (callUnload foreign b live) w () w') :
    Vacant (runtime :: shut) shut frames w' := by
  rcases told.callUnload with ⟨-, rfl⟩ | ⟨name, address, cell, w₁, -, call, alike⟩
  · exact hv
  · exact (hv.unload hf call).alike alike

theorem Vacant.shutDown (hf : Respects Stance Steadfast foreign) {host : HostId}
    {inst : HostInstance} (hv : Vacant ((host, inst) :: shut) shut frames w)
    {reply : Except Int32 Unit} (hr : Returns (foreign (.shutDown host inst)) w reply w') :
    Vacant ((host, inst) :: shut) ((host, inst) :: shut) frames w' := by
  obtain rfl := hv.shut
  exact hv.call hf (.inr rfl) hv.shutDown_call hr

/-- The search for a runtime changes nothing about the place. -/
theorem Vacant.search (hf : Respects Stance Steadfast foreign) :
    SteadySearch foreign (Vacant shut shut frames) where
  write _ _ hv := hv.alike ⟨rfl, rfl, rfl, rfl⟩
  listRuntimes _ _ hv := hv.prepare hf (.listRuntimes _) rfl rfl
  runLauncher _ _ hv := hv.prepare hf (.runLauncher _) rfl rfl
  openFile _ _ hv := hv.prepare hf (.openFile _) rfl rfl
  openSupplied _ _ _ hv := hv.prepare hf (.openSupplied _ _) rfl rfl

/-- A load that comes to nothing starts no runtime, and any other one starts its own. -/
theorem Vacant.prepared (hf : Respects Stance Steadfast foreign) (hv : Vacant shut shut frames w)
    {loader : Loader} {r : Except BridgeError LiveHost}
    (h : Returns (Action.prepare foreign loader) w r w') :
    match r with
    | .error _ => Vacant shut shut frames w'
    | .ok live => Vacant ((live.host, live.started) :: shut) shut frames w' := by
  rcases h.prepare with ⟨⟨e, rfl⟩, steady⟩ | ⟨host, properties, reply, w₁, w₂, steady, hs, ha, hr⟩
  · exact steady _ (Vacant.search hf) hv
  · have started := ((steady _ (Vacant.search hf) hv).prepare hf _ rfl hs).alike ha
    rcases hr with ⟨status, rfl, rfl⟩ | ⟨started', live, rfl, rfl, rfl, rfl, -⟩
    · exact started
    · exact started

/-! ## Bringing up and tearing down -/

theorem SameHosting.release (p : Process) (b : BridgeId) : SameHosting p (p.release b) :=
  ⟨rfl, fun _ => rfl, fun _ => rfl⟩

theorem SameHosting.expect (p : Process) (b : BridgeId) : SameHosting p (p.expect b) :=
  ⟨rfl, fun _ => rfl, fun _ => rfl⟩

theorem SameHosting.expectNone (p : Process) : SameHosting p p.expectNone :=
  ⟨rfl, fun _ => rfl, fun _ => rfl⟩

theorem SameHosting.empty (p : Process) (b : BridgeId) : SameHosting p (p.empty b) :=
  (Change.cleared (.bridge b)).hosting.trans (.updateBridge rfl rfl)

/-- There is no runtime any more, and nothing is under way but what was before. -/
structure Over (shut : List (HostId × HostInstance)) (frames : List (List Moment)) (w : World) :
    Prop where
  sound : Sound Stance w
  frames : underway w.history = frames
  down : w.process.IsDown
  started : startedRuntimes w.history = shut
  shut : shutRuntimes w.history = shut

/-- Once everything is forgotten the place is free. -/
theorem Vacant.forget (hv : Vacant shut shut frames w) {b : BridgeId}
    (h : Returns (Action.forget b) w () w') : Over shut frames w' := by
  obtain ⟨hp, hh, -, -⟩ := h.forget
  have released := SameHosting.release (w.process.empty b).free b
  have emptied := Stance.isDown_congr (SameHosting.empty w.process b) hv.down
  have down : ((w.process.empty b).free.release b).IsDown :=
    Stance.isDown_congr released fun c => emptied c
  refine ⟨⟨?_, ?_⟩, ?_, ?_, ?_, ?_⟩
  · rw [hp, hh]
    exact .idle released.claimed down hv.preparing hv.closing (hv.started.trans hv.shut.symm)
  · rw [hh]; exact hv.before
  · rw [hh]; exact hv.frames
  · rw [hp]; exact down
  · rw [hh]; exact hv.started
  · rw [hh]; exact hv.shut

theorem isDown_takeDown {p : Process} {b : BridgeId} {live : LiveHost} (hu : p.IsUp b live) :
    (p.takeDown b).IsDown := by
  intro c
  by_cases hc : c = b
  · subst hc
    rw [Process.takeDown, Process.bridge_updateBridge_self]
    exact ⟨rfl, rfl⟩
  · rw [Process.takeDown, Process.bridge_updateBridge_of_ne p hc]
    exact hu.others c hc

theorem isUp_bringUp {p : Process} (hd : p.IsDown) (b : BridgeId) (live : LiveHost) :
    (p.bringUp b live).IsUp b live := by
  refine ⟨?_, ?_, fun c hc => ?_⟩
  · rw [Process.bringUp, Process.bridge_updateBridge_self]
  · rw [Process.bringUp, Process.bridge_updateBridge_self]
  · rw [Process.bringUp, Process.bridge_updateBridge_of_ne p hc]
    exact hd c

theorem vacant_takeDown (hs : Sound Stance w) {b : BridgeId} {live : LiveHost}
    (host : (w.process.bridge b).host = some live) (isLive : (w.process.bridge b).isLive = true) :
    Vacant ((live.host, live.started) :: shutRuntimes w.history) (shutRuntimes w.history)
      (underway w.history) (w.put (w.process.takeDown b)) := by
  obtain ⟨live', claimed, up, preparing, closing, ledger⟩ := hs.now.up_of_isLive isLive
  rw [up.host] at host
  cases host
  exact ⟨hs.before, rfl, claimed, isDown_takeDown up, preparing, closing, ledger, rfl⟩

/-- Tearing a live bridge down shuts its runtime down, and no other one. -/
theorem tearsDown_over (hf : Respects Stance Steadfast foreign) {b : BridgeId}
    (hs : Sound Stance w) (h : TearsDown foreign b w true w') :
    ∃ live, (w.process.bridge b).host = some live ∧
      Over ((live.host, live.started) :: shutRuntimes w.history) (underway w.history) w' := by
  cases h with
  | bare isLive host =>
    obtain ⟨live, -, up, -⟩ := hs.now.up_of_isLive isLive
    rw [up.host] at host
    cases host
  | @down live _ _ _ isLive host told shut gone =>
    have silent := (vacant_takeDown hs host isLive).callUnload hf told
    obtain ⟨reply, w₄, call, ha⟩ := shut.shutDown
    exact ⟨live, host, ((silent.shutDown hf call).alike ha).forget gone⟩

/-- Tearing a bridge down ends where there is no runtime, or where it began. -/
theorem tearsDown_within (hf : Respects Stance Steadfast foreign) {b : BridgeId} {r : Bool}
    (hw : Within Stance Steadfast w₀ w) (h : TearsDown foreign b w r w') :
    Within Stance Steadfast w₀ w' := by
  cases r with
  | false =>
    cases h
    exact hw
  | true =>
    obtain ⟨live, -, done⟩ := tearsDown_over hf hw.sound h
    obtain ⟨-, -, -, preparing, closing, -⟩ := hw.sound.now.up_of_isLive h.isLive
    exact ⟨done.sound, hw.since.of_frames done.frames preparing closing⟩

theorem within_put (hw : Within Stance Steadfast w₀ w) {p : Process}
    (hs : SameHosting w.process p) : Within Stance Steadfast w₀ (w.put p) :=
  ⟨⟨hw.sound.now.congr hs rfl rfl rfl rfl, hw.sound.before⟩,
    hw.since.trans ⟨rfl, fun _ => ⟨hs, rfl, rfl⟩⟩⟩

/-- A bridge that is told the unload method of its runtime has the same runtime. -/
theorem Stance.hook {h : List Moment} {p : Process} (hst : Stance h p) (b : BridgeId)
    (name : String) (address : Address) : Stance h (p.hook b name address) := by
  -- While the load method ran, the bridge may have been torn down, and even loaded again.
  by_cases hb : (p.bridge b).isLive = true
  · obtain ⟨live, claimed, up, preparing, closing, ledger⟩ := hst.up_of_isLive hb
    refine .up b { live with unload := some (name, address) } claimed ⟨?_, ?_, fun c hc => ?_⟩
      preparing closing ledger
    · rw [Process.hook, Process.bridge_updateBridge_self]
      exact hb
    · rw [Process.hook, Process.bridge_updateBridge_self, up.host]
      rfl
    · rw [Process.hook, Process.bridge_updateBridge_of_ne p hc]
      exact up.others c hc
  · have same : SameHosting p (p.hook b name address) := by
      refine .updateBridge rfl ?_
      rw [hst.host_of_not_live (by simpa using hb)]
      rfl
    exact hst.congr same rfl rfl rfl rfl

theorem within_hook (hw : Within Stance Steadfast w₀ w) (b : BridgeId) (name : String)
    (address : Address) : Within Stance Steadfast w₀ (w.put (w.process.hook b name address)) := by
  have same : isPreparing w.history = true ∨ isClosing w.history = true →
      SameHosting w.process (w.process.hook b name address) := by
    intro held
    refine .updateBridge rfl ?_
    rw [(hw.sound.now.down_of_held held b).2]
    rfl
  exact ⟨⟨hw.sound.now.hook b name address, hw.sound.before⟩,
    hw.since.trans ⟨rfl, fun held => ⟨same held, rfl, rfl⟩⟩⟩

/-- Telling a new runtime the bindings keeps the stance. -/
theorem boots_within (hf : Respects Stance Steadfast foreign) {b : BridgeId} {loader : Loader}
    {r : Except BridgeError Unit} (hw : Within Stance Steadfast w₀ w)
    (h : Boots foreign b loader w r w') : Within Stance Steadfast w₀ w' := by
  have resolved : ∀ {method : String} {u u' : World} {r : Except BridgeError Address},
      Returns (resolve foreign b loader.entryType method none) u r u' →
      Within Stance Steadfast w₀ u → Within Stance Steadfast w₀ u' :=
    fun h hu => ((steady_stance hf w₀).resolve _ _ _ _).returns h hu
  cases h with
  | noLoad load => exact resolved load hw
  | noUnload load unload => exact resolved unload (resolved load hw)
  | told load unload call =>
    have told := (keeps_call hf rfl rfl).returns call
      (within_put (resolved unload (resolved load hw)) (.updateBridge rfl rfl))
    exact within_hook told _ _ _

theorem vacant_claim (hs : Sound Stance w) (free : w.process.isClaimed = false) :
    Vacant (shutRuntimes w.history) (shutRuntimes w.history) (underway w.history)
      (w.put w.process.claim) := by
  obtain ⟨down, preparing, closing, ledger⟩ := hs.now.idle_of_unclaimed free
  exact ⟨hs.before, rfl, rfl, down, preparing, closing, ledger, rfl⟩

/-- A bridge gets the runtime that its load started. -/
theorem within_bringUp (hw : Within Stance Steadfast w₀ w) (free : w.process.isClaimed = false)
    {w₁ : World} {live : LiveHost}
    (hv : Vacant ((live.host, live.started) :: shutRuntimes w.history) (shutRuntimes w.history)
      (underway w.history) w₁) (b : BridgeId) :
    Within Stance Steadfast w₀ (w₁.put (w₁.process.bringUp b live)) := by
  obtain ⟨-, preparing, closing, -⟩ := hw.sound.now.idle_of_unclaimed free
  refine ⟨⟨?_, hv.before⟩, hw.since.of_frames hv.frames preparing closing⟩
  refine .up b live hv.claimed (isUp_bringUp hv.down b live) hv.preparing hv.closing ?_
  exact hv.started.trans (congrArg _ hv.shut.symm)

/-- A load keeps the stance. -/
theorem loads_within (hf : Respects Stance Steadfast foreign) {b : BridgeId} {loader : Loader}
    {r : Except BridgeError Unit} (hw : Within Stance Steadfast w₀ w)
    (h : Loads foreign b loader w r w') : Within Stance Steadfast w₀ w' := by
  cases h with
  | refused => exact hw
  | unprepared free prepared =>
    have hv : Vacant _ _ _ _ := (vacant_claim hw.sound free).prepared hf prepared
    obtain ⟨down, preparing, closing, ledger⟩ := hw.sound.now.idle_of_unclaimed free
    refine ⟨⟨?_, hv.before⟩, hw.since.of_frames hv.frames preparing closing⟩
    exact .idle rfl hv.down hv.preparing hv.closing (hv.started.trans hv.shut.symm)
  | failed free prepared booted logged down =>
    have up := within_bringUp hw free ((vacant_claim hw.sound free).prepared hf prepared) b
    exact tearsDown_within hf (within_alike (boots_within hf up booted) logged) down
  | loaded free prepared booted expected =>
    have up := within_bringUp hw free ((vacant_claim hw.sound free).prepared hf prepared) b
    exact within_alike (within_put (boots_within hf up booted) (.expect _ b)) expected

/-- Every operation keeps the stance. -/
theorem perform_within (hf : Respects Stance Steadfast foreign) (operation : Operation)
    (w₀ : World) : Keeps (Within Stance Steadfast w₀) (operation.perform foreign) := by
  by_cases hosts : operation.hosts = false
  · exact operation.perform_keeps (steady_stance hf w₀) hosts
  · intro w hw
    cases operation with
    | load b loader => exact loads_within hf hw (Returns.load (.intro _ w))
    | teardown b => exact tearsDown_within hf hw (Returns.teardown (.intro _ w))
    | registerExit b =>
      exact within_alike (within_put hw (.expect _ b))
        (Returns.registerExit (.intro (registerExit b) w))
    | releaseExit b =>
      exact within_alike (within_put hw (.release _ b))
        (Returns.releaseExit (.intro (releaseExit b) w))
    | runExitTeardown =>
      have h := Returns.runExitTeardown (.intro (runExitTeardown foreign) w)
      rcases h with ⟨-, -, h⟩ | ⟨b, -, h⟩
      · change Within Stance Steadfast w₀ ((runExitTeardown foreign).run w).2
        rw [h]
        exact hw
      · exact tearsDown_within hf (within_put hw (.expectNone _)) h
    | _ => cases hosts rfl

/-- What holds after an operation also holds once its end is in the history. -/
theorem within_ended {operation : Operation} {result : operation.Result} {w₁ : World}
    (hw : Within Stance Steadfast w₀ w)
    (done : Within Stance Steadfast (w.after (.began operation)) w₁) :
    Within Stance Steadfast w₀ (w₁.after (.ended operation result)) := by
  have frames : underway (w₁.after (.ended operation result)).history = underway w.history := by
    rw [World.history_after, underway_ended, done.since.frames]
    rfl
  have preparing : isPreparing (w₁.after (.ended operation result)).history =
      isPreparing w₁.history :=
    (isPreparing_congr frames).trans (isPreparing_congr done.since.frames).symm
  have closing : isClosing (w₁.after (.ended operation result)).history =
      isClosing w₁.history :=
    (isClosing_congr frames).trans (isClosing_congr done.since.frames).symm
  refine ⟨.ended ?_ done.sound.before, hw.since.trans ⟨frames, done.since.still⟩⟩
  exact done.sound.now.congr (.refl _) preparing closing rfl rfl

theorem run_within (hf : Respects Stance Steadfast foreign) (operation : Operation)
    (w₀ : World) : Keeps (Within Stance Steadfast w₀) (operation.run foreign) := by
  intro w hw
  have begun : Within Stance Steadfast (w.after (.began operation))
      (w.after (.began operation)) :=
    ⟨.began (hw.sound.now.congr (.refl _) rfl rfl rfl rfl) hw.sound.before, .refl _⟩
  obtain ⟨result, w₁, hr, hrun⟩ := operation.run_eq foreign w
  rw [hrun]
  exact within_ended hw ((perform_within hf operation _).returns hr begun)

theorem enter_within (hf : Respects Stance Steadfast foreign) (id : AdapterId)
    (adapter : Adapter) (cells : List Cell) (w₀ : World) :
    Keeps (Within Stance Steadfast w₀) (enterAdapter foreign id adapter cells) :=
  (steady_stance hf w₀).enterAdapter id adapter cells

theorem stance_disciplined (hf : Respects Stance Steadfast foreign) :
    Disciplined Stance Steadfast foreign :=
  ⟨run_within hf, enter_within hf⟩

/-- Every call is answered where the process stands as it did. -/
theorem answer_stance (outside : Outside) (depth : Nat) :
    Respects Stance Steadfast (outside.answer depth) :=
  answer_respects .refl (fun _ => stance_disciplined) depth

theorem stance_start : Stance [] {} :=
  .idle rfl (fun _ => ⟨rfl, rfl⟩) rfl rfl rfl

end ManagedHost
