import ManagedHost.Proofs.ToldText

/-! # Telling a runtime the bindings

A load tells its runtime the bindings right after it looked the entry points up, and the bridge
keeps the text until it was torn down. Every call and every operation keeps what is known of the
texts (`Told`), given that the calls that it makes do (`informed_disciplined`). -/

namespace ManagedHost

open ManagedHost.Action Relation

/-- The stance, and what is known of the texts. -/
abbrev informed : Claim := fun h p => Stance h p ∧ Told h p

/-- What is known of the calls of an operation. -/
structure Grants (foreign : Foreign) : Prop where
  stance : Respects Stance Steadfast foreign
  lull : Respects Stance Interlude foreign
  grows : Respects whatever Grown foreign
  told : Respects informed Interlude foreign

variable {foreign : Foreign} {w w' : World}

theorem Sound.told_alike (told : Sound Told w) (same : Alike w w') : Sound Told w' := by
  obtain ⟨process, history, -, -⟩ := same
  constructor
  · rw [process, history]
    exact told.now
  · rw [history]
    exact told.before

theorem Sound.told_put (told : Sound Told w) {p : Process} (same : SameTexts w.process p) :
    Sound Told (w.put p) := ⟨told.now.congr same, told.before⟩

/-! ## Calls -/

/-- How a call goes on, from the moment when it is made to the moment before it is answered. -/
theorem Grants.course (hf : Grants foreign) {call : ForeignCall}
    (stance : Sound Stance (w.after (.called call))) (told : Sound Told (w.after (.called call)))
    {reply : call.Reply} (ran : Returns (foreign call) w reply w') :
    ∃ (w₁ : World) (since : List Moment), w' = w₁.after (.replied call reply) ∧ Sound Told w₁ ∧
      w₁.history = since ++ (w.after (.called call)).history ∧
      underway w₁.history = underway (w.after (.called call)).history ∧
      (IsStill (w.after (.called call)).history w₁.history →
        Uneventful since w.process w₁.process) := by
  obtain ⟨reply', w₁, ran', between⟩ := hf.told call w (stance.and told)
  cases ran.symm.trans ran'
  obtain ⟨since, grown, course⟩ := between.since.lull
  exact ⟨w₁, since, rfl, between.sound.right, grown, between.since.frames, course⟩

theorem stance_called (stance : Sound Stance w) {call : ForeignCall}
    (prepares : call.prepares = false) (closes : call.closes = false) :
    Sound Stance (w.after (.called call)) := by
  refine .called ?_ stance.before
  exact stance.now.congr (.refl _) (by simp [prepares]) (by simp [closes]) rfl
    (shutRuntimes_called closes _ _)

/-- Once a call that tears nothing down is answered, as much is being torn down as before it. -/
theorem isClosing_answered {call : ForeignCall} (closes : call.closes = false) {w₁ : World}
    (frames : underway w₁.history = underway (w.after (.called call)).history)
    (reply : call.Reply) :
    isClosing w₁.history = isClosing w.history ∧
      isClosing (w₁.after (.replied call reply)).history = isClosing w.history := by
  constructor
  · rw [isClosing_congr frames, World.history_after, isClosing_called, closes, Bool.false_or]
  · refine isClosing_congr ?_
    rw [World.history_after, underway_replied, frames]
    rfl

theorem Told.called {h : List Moment} {p : Process} (told : Told h p) {call : ForeignCall}
    (quiet : (Event.called call).isNews = false) (closes : call.closes = false) :
    Told (⟨.called call, p⟩ :: h) p := told.cons quiet (by simp [closes])

theorem told_answered (hf : Grants foreign) {call : ForeignCall} (closes : call.closes = false)
    (stance : Sound Stance (w.after (.called call))) (told : Sound Told (w.after (.called call)))
    {reply : call.Reply} (quiet : (Event.replied call reply).isNews = false)
    (ran : Returns (foreign call) w reply w') : Sound Told w' := by
  obtain ⟨w₁, since, rfl, told₁, -, frames, -⟩ := hf.course stance told ran
  obtain ⟨closing, closing'⟩ := isClosing_answered closes frames reply
  exact ⟨told₁.now.cons quiet (closing'.trans closing.symm), told₁.replied call reply⟩

theorem told_call (hf : Grants foreign) {call : ForeignCall} (idle : call.handlesRuntime = false)
    (stance : Sound Stance w) (told : Sound Told w) {reply : call.Reply}
    (ran : Returns (foreign call) w reply w') : Sound Told w' := by
  obtain ⟨prepares, closes⟩ := ForeignCall.holds_nothing idle
  have made := told.now.called (not_isNews_of_idle idle) closes
  exact told_answered hf closes (stance_called stance prepares closes) (.called made told.before)
    (not_isNews_of_idle idle) ran

/-- Operations that bring nothing up and tear nothing down keep what is known. -/
theorem steady_told (hf : Grants foreign) :
    SteadyCalls foreign fun w => Sound Stance w ∧ Sound Told w := by
  have call : ∀ call : ForeignCall, call.handlesRuntime = false →
      Keeps (fun w => Sound Stance w ∧ Sound Told w) (foreign call) := by
    intro call idle w ⟨stance, told⟩
    obtain ⟨prepares, closes⟩ := ForeignCall.holds_nothing idle
    have kept := keeps_call hf.stance prepares closes w ⟨stance, .refl w⟩
    exact ⟨kept.sound, told_call hf idle stance told (.intro _ w)⟩
  constructor
  · constructor
    · intro w p change ⟨stance, told⟩
      exact ⟨⟨stance.now.congr change.hosting rfl rfl rfl rfl, stance.before⟩,
        told.told_put change.sameTexts⟩
    · exact fun w log ⟨stance, told⟩ => ⟨⟨stance.now, stance.before⟩, told.now, told.before⟩
    · exact fun w notes ⟨stance, told⟩ => ⟨⟨stance.now, stance.before⟩, told.now, told.before⟩
    · exact fun id signature args => call (.native id signature args) rfl
  · exact fun host started assembly typeName method =>
      call (.createDelegate host started assembly typeName method) rfl
  · exact fun b id address signature cells =>
      call (.managed (.imported b id) address signature cells) rfl

/-! ## Calls during which no runtime is handled

Between the calls of a load or a teardown the texts need not be as they are known to be whenever
code outside looks on. What is known there instead stays known as long as nothing is said to any
runtime (`Unmoved`). -/

/-- The same runtime was started last, it was told the same, and the bridges keep the same texts. -/
structure Unmoved (h : List Moment) (p : Process) (h' : List Moment) (p' : Process) : Prop where
  owner : lastOwner h' = lastOwner h
  told : textTold h' = textTold h
  texts : SameTexts p p'

/-- Something that rests on nothing else. -/
def IsFixed (K : Claim) : Prop := ∀ ⦃h p h' p'⦄, Unmoved h p h' p' → K h p → K h' p'

/-- Between two calls of an operation something else is known of the texts. -/
structure Phase (K : Claim) (w : World) : Prop where
  before : Recorded Told w.history
  heeded : Heeded w.history
  now : looksUpCalmly w.history = true → K w.history w.process

variable {K : Claim}

theorem Phase.alike (phase : Phase K w) (same : Alike w w') : Phase K w' := by
  obtain ⟨process, history, -, -⟩ := same
  constructor
  · rw [history]
    exact phase.before
  · rw [history]
    exact phase.heeded
  · rw [process, history]
    exact phase.now

theorem Phase.put (phase : Phase K w) {K' : Claim} {p : Process}
    (next : K w.history w.process → K' w.history p) : Phase K' (w.put p) :=
  ⟨phase.before, phase.heeded, fun calm => next (phase.now calm)⟩

theorem Phase.of_sound (told : Sound Told w) (now : looksUpCalmly w.history = true →
    K w.history w.process) : Phase K w :=
  ⟨told.before, told.now.heeded, now⟩

/-- A call during which no runtime is handled, up to its answer. -/
theorem Phase.call (hf : Grants foreign) (fixed : IsFixed K) (phase : Phase K w)
    {call : ForeignCall} (quiet : (Event.called call).isNews = false)
    (stance : Sound Stance (w.after (.called call)))
    (made : Told (⟨.called call, w.process⟩ :: w.history) w.process) {reply : call.Reply}
    (still : ∀ later, looksUpCalmly later = true → IsStill (w.after (.called call)).history later)
    (ran : Returns (foreign call) w reply w') :
    ∃ w₁ : World, w' = w₁.after (.replied call reply) ∧ Phase K w₁ ∧
      Recorded Told w'.history ∧
      underway w₁.history = underway (w.after (.called call)).history := by
  obtain ⟨w₁, since, rfl, told, grown, frames, course⟩ :=
    hf.course stance (.called made phase.before) ran
  refine ⟨w₁, rfl, .of_sound told fun calm => ?_, told.replied call reply, frames⟩
  have uneventful := course (still _ calm)
  have before : looksUpCalmly w.history = true := by
    rw [grown] at calm
    exact isUndisturbed_tail (isUndisturbed_of_suffix (List.suffix_append _ _) calm)
  refine fixed ⟨?_, ?_, uneventful.toRestrained.sameTexts⟩ (phase.now before)
  · rw [grown, lastOwner_append uneventful.idle]
    exact lastOwner_cons quiet _ _
  · rw [grown, textTold_append uneventful.idle]
    exact textTold_cons quiet _ _

theorem Phase.replied (fixed : IsFixed K) (phase : Phase K w) {call : ForeignCall}
    {reply : call.Reply} (quiet : (Event.replied call reply).isNews = false)
    (before : Recorded Told (w.after (.replied call reply)).history) :
    Phase K (w.after (.replied call reply)) := by
  refine ⟨before, phase.heeded.replied reply _, fun calm => ?_⟩
  refine fixed ⟨?_, ?_, .refl _⟩ (phase.now calm)
  · exact lastOwner_cons quiet _ _
  · exact textTold_cons quiet _ _

/-! ## A runtime that was told nothing yet -/

/-- The bridge has the runtime that was started last, which has been told nothing. -/
structure Newborn (b : BridgeId) (h : List Moment) (p : Process) : Prop where
  owner : lastOwner h = some b
  untold : textTold h = none
  isLive : (p.bridge b).isLive = true

theorem newborn_fixed (b : BridgeId) : IsFixed (Newborn b) := by
  rintro h p h' p' ⟨owner, told, texts⟩ newborn
  exact ⟨owner.trans newborn.owner, told.trans newborn.untold,
    (texts.live b).trans newborn.isLive⟩

/-- While its methods are looked up it is told nothing. -/
theorem newborn_lookUp (hf : Grants foreign) {b c : BridgeId} {typeName method : String}
    {assembly : Option String} {r : Except BridgeError Address} (stance : Sound Stance w)
    (told : Sound Told w) (new : looksUpCalmly w.history = true → Newborn b w.history w.process)
    (ran : Returns (resolve foreign c typeName method assembly) w r w') :
    Sound Stance w' ∧ Sound Told w' ∧
      (looksUpCalmly w'.history = true → Newborn b w'.history w'.process) := by
  obtain ⟨stance', told'⟩ := ((steady_told hf).resolve c typeName method assembly).returns ran
    ⟨stance, told⟩
  refine ⟨stance', told', ?_⟩
  rcases ran.resolve with ⟨-, rfl⟩ | ⟨live, reply, w₁, -, asked, alike, -⟩
  · exact new
  · -- Nobody loads or tears down during the look-up, so nobody else can be told anything either.
    obtain ⟨w₂, rfl, phase, before, -⟩ := Phase.call hf (newborn_fixed b) (.of_sound told new) rfl
      (stance_called stance rfl rfl) (told.now.called rfl rfl) (fun _ calm => .inr ⟨rfl, calm⟩)
      asked
    exact ((phase.replied (newborn_fixed b) rfl before).alike alike).now

/-! ## Tearing down -/

/-- The bridge gives up the runtime that was started last, and still keeps what that was told. -/
structure Leaving (b : BridgeId) (h : List Moment) (p : Process) : Prop where
  owner : lastOwner h = some b
  kept : (p.bridge b).bindingsJson = textTold h
  blank : ∀ c, c ≠ b → (p.bridge c).bindingsJson = none

theorem leaving_fixed (b : BridgeId) : IsFixed (Leaving b) := by
  rintro h p h' p' ⟨owner, told, texts⟩ ⟨owned, kept, blank⟩
  exact ⟨owner.trans owned, (texts.text b).trans (kept.trans told.symm),
    fun c other => (texts.text c).trans (blank c other)⟩

theorem not_isNews_of_closes {call : ForeignCall} (closes : call.closes = true)
    (reply : call.Reply) :
    (Event.called call).isNews = false ∧ (Event.replied call reply).isNews = false := by
  cases call with
  | shutDown => exact ⟨rfl, rfl⟩
  | managed purpose =>
    cases purpose with
    | unload => exact ⟨rfl, rfl⟩
    | _ => cases closes
  | _ => cases closes

theorem leaving_call (hf : Grants foreign) {b : BridgeId} (phase : Phase (Leaving b) w)
    (down : w.process.IsDown) {call : ForeignCall} (closes : call.closes = true)
    (stance : Sound Stance (w.after (.called call))) {reply : call.Reply}
    (ran : Returns (foreign call) w reply w') : Phase (Leaving b) w' := by
  obtain ⟨quiet, quiet'⟩ := not_isNews_of_closes closes reply
  have closing : isClosing (⟨.called call, w.process⟩ :: w.history) = true := by simp [closes]
  have keeping : looksUpCalmly w.history = true →
      Keeping (⟨.called call, w.process⟩ :: w.history) w.process := by
    intro calm
    obtain ⟨owner, kept, blank⟩ := phase.now calm
    refine ⟨fun c isLive => ?_, fun c owned _ => ?_, fun c apart => blank c ?_⟩
    · rw [(down c).1] at isLive
      cases isLive
    · rw [lastOwner_cons quiet, owner] at owned
      cases owned
      rw [textTold_cons quiet, kept]
    · rintro rfl
      exact apart ⟨(lastOwner_cons quiet _ _).trans owner, .inr closing⟩
  have made : Told (⟨.called call, w.process⟩ :: w.history) w.process := by
    refine ⟨phase.heeded.cons ?_ _, fun calm => keeping (isUndisturbed_tail calm)⟩
    rintro c address signature cells ⟨⟩
    cases closes
  obtain ⟨w₁, rfl, phase₁, before, -⟩ := phase.call hf (leaving_fixed b) quiet stance made
    (fun _ _ => .inl (.inr closing)) ran
  exact phase₁.replied (leaving_fixed b) quiet' before

theorem leaving_unload (hf : Grants foreign) {b : BridgeId} {runtime : HostId × HostInstance}
    {shut : List (HostId × HostInstance)} {frames : List (List Moment)}
    (vacant : Vacant (runtime :: shut) shut frames w) (phase : Phase (Leaving b) w)
    {live : LiveHost} (told : Returns (callUnload foreign b live) w () w') :
    Phase (Leaving b) w' := by
  rcases told.callUnload with ⟨-, rfl⟩ | ⟨name, address, cell, w₁, -, call, alike⟩
  · exact phase
  · have stance := vacant.unload_call b address ⟨.void, []⟩ []
    exact (leaving_call hf phase vacant.down rfl (.called stance vacant.before) call).alike alike

/-- A live bridge that is torn down keeps what its runtime was told until it forgets everything. -/
theorem tearsDown_told (hf : Grants foreign) {b : BridgeId} {r : Bool} (stance : Sound Stance w)
    (told : Sound Told w) (h : TearsDown foreign b w r w') : Sound Told w' := by
  cases h with
  | idle => exact told
  | bare isLive hostless =>
    obtain ⟨live, -, up, -⟩ := stance.now.up_of_isLive isLive
    cases up.host.symm.trans hostless
  | @down live w₁ w₂ _ isLive host unload shut gone =>
    -- The text outlives the live bridge until everything is forgotten, so `Told` holds inside the
    -- calls of the teardown, but not between them.
    have vacant := vacant_takeDown stance host isLive
    have leaving : Phase (Leaving b) (w.put (w.process.takeDown b)) := by
      refine (Phase.of_sound told told.now.keeping).put fun keeping => ?_
      obtain ⟨owner, kept, blank⟩ := keeping
      refine ⟨owner b isLive, ?_, fun c other => ?_⟩
      · rw [Process.takeDown, Process.bridge_updateBridge_self]
        exact kept b (owner b isLive) (.inl isLive)
      · rw [Process.takeDown, Process.bridge_updateBridge_of_ne _ other]
        refine blank c fun held => other ?_
        exact Option.some.inj (held.1.symm.trans (owner b isLive))
    have silent := vacant.callUnload hf.stance unload
    obtain ⟨reply, v, call, same⟩ := shut.shutDown
    have told₂ : Phase (Leaving b) w₂ :=
      (leaving_call hf (leaving_unload hf vacant leaving unload) silent.down rfl
        (.called silent.shutDown_call silent.before) call).alike same
    have settled := (silent.shutDown hf.stance call).alike same
    have forgotten := gone.forgets (settled.down b).1 (settled.down b).2
    obtain ⟨-, history, -, -⟩ := gone.forget
    have history : w'.history = w₂.history := history
    refine ⟨⟨history ▸ told₂.heeded, fun calm => ?_⟩, history ▸ told₂.before⟩
    refine .of_down (settled.forget gone).down (history ▸ settled.closing) fun c => ?_
    by_cases same : c = b
    · rw [same, forgotten.emptied]
    · rw [forgotten.others c same]
      exact (told₂.now (history ▸ calm)).blank c same

/-! ## Bringing up -/

/-- No bridge keeps a text. -/
abbrev Blank : Claim := fun _ p => ∀ b, (p.bridge b).bindingsJson = none

/-- A runtime was started for the load, and no bridge keeps a text. -/
structure Started (owner : Option BridgeId) (h : List Moment) (p : Process) : Prop where
  owner : lastOwner h = owner
  untold : textTold h = none
  blank : Blank h p

theorem blank_fixed : IsFixed Blank := fun _ _ _ _ unmoved blank b =>
  (unmoved.texts.text b).trans (blank b)

section

variable {shut : List (HostId × HostInstance)} {frames : List (List Moment)}

theorem blank_call (hf : Grants foreign) (vacant : Vacant shut shut frames w)
    (phase : Phase Blank w) {call : ForeignCall} (prepares : call.prepares = true)
    {reply : call.Reply} (ran : Returns (foreign call) w reply w') :
    ∃ w₁ : World, w' = w₁.after (.replied call reply) ∧ Phase Blank w₁ ∧
      Recorded Told w'.history ∧ (underway w₁.history).tail = frames := by
  have loads : ∀ b address signature cells,
      Event.called call ≠ .called (.managed (.load b) address signature cells) := by
    rintro b address signature cells ⟨⟩
    cases prepares
  have quiet : (Event.called call).isNews = false := by
    cases call <;> first | rfl | cases prepares
  have closes : call.closes = false := by
    cases call <;> first | rfl | cases prepares
  have closing : isClosing (⟨.called call, w.process⟩ :: w.history) = false := by
    simp [closes, vacant.closing]
  have made : Told (⟨.called call, w.process⟩ :: w.history) w.process :=
    ⟨phase.heeded.cons loads _, fun calm =>
      .of_down vacant.down closing (phase.now (isUndisturbed_tail calm))⟩
  have preparing : isPreparing (w.after (.called call)).history = true := by simp [prepares]
  obtain ⟨w₁, rfl, phase₁, before, under⟩ := phase.call hf blank_fixed quiet
    (.called (vacant.preparing_call prepares) vacant.before) made (fun _ _ => .inl (.inl preparing))
    ran
  exact ⟨w₁, rfl, phase₁, before, by rw [under]; exact vacant.frames⟩

theorem blank_asked (hf : Grants foreign) (call : ForeignCall) (prepares : call.prepares = true)
    (quiet : ∀ reply, (Event.replied call reply).isNews = false)
    (silent : ∀ reply, (Event.replied call reply).started? = none) :
    Keeps (fun w => Vacant shut shut frames w ∧ Phase Blank w) (foreign call) := by
  intro w ⟨vacant, phase⟩
  have ran := Returns.intro (foreign call) w
  have after := vacant.prepare hf.stance call prepares ran
  rw [silent] at after
  obtain ⟨w₁, same, phase₁, before, -⟩ := blank_call hf vacant phase prepares ran
  rw [same] at after before ⊢
  exact ⟨after, phase₁.replied blank_fixed (quiet _) before⟩

theorem blank_search (hf : Grants foreign) :
    SteadySearch foreign fun w => Vacant shut shut frames w ∧ Phase Blank w where
  write _ _ hw := ⟨hw.1.alike ⟨rfl, rfl, rfl, rfl⟩, hw.2.alike ⟨rfl, rfl, rfl, rfl⟩⟩
  listRuntimes _ := blank_asked hf _ rfl (fun _ => rfl) fun _ => rfl
  runLauncher _ := blank_asked hf _ rfl (fun _ => rfl) fun _ => rfl
  openFile _ := blank_asked hf _ rfl (fun _ => rfl) fun _ => rfl
  openSupplied _ _ := blank_asked hf _ rfl (fun _ => rfl) fun _ => rfl

/-- The runtime that a load starts is told nothing before the load has it. -/
theorem blank_prepared (hf : Grants foreign) (vacant : Vacant shut shut frames w)
    (phase : Phase Blank w) {loader : Loader} {r : Except BridgeError LiveHost}
    (h : Returns (Action.prepare foreign loader) w r w') :
    match r with
    | .error _ => Phase Blank w'
    | .ok _ => Phase (Started ((innermostLoad frames).map Prod.fst)) w' := by
  rcases h.prepare with ⟨⟨e, rfl⟩, steady⟩ |
    ⟨host, properties, reply, w₁, w₂, steady, start, alike, way⟩
  · exact (steady _ (blank_search hf) ⟨vacant, phase⟩).2
  · obtain ⟨vacant₁, phase₁⟩ := steady _ (blank_search hf) ⟨vacant, phase⟩
    obtain ⟨w₃, rfl, phase₃, before, under⟩ := blank_call hf vacant₁ phase₁ rfl start
    rcases way with ⟨status, rfl, rfl⟩ | ⟨started, live, rfl, rfl, -⟩
    · exact (phase₃.replied blank_fixed rfl before).alike alike
    · refine Phase.alike ⟨before, phase₃.heeded.replied _ _, fun calm => ?_⟩ alike
      refine ⟨?_, rfl, phase₃.now calm⟩
      rw [World.history_after, lastOwner, under]

/-- The bridge that gets the runtime has been told nothing. -/
theorem newborn_bringUp {b : BridgeId} (down : w.process.IsDown)
    (phase : Phase (Started (some b)) w) (live : LiveHost) :
    Sound Told (w.put (w.process.bringUp b live)) ∧
      (looksUpCalmly w.history = true → Newborn b w.history (w.process.bringUp b live)) := by
  have up := isUp_bringUp down b live
  have texts : ∀ c, ((w.process.bringUp b live).bridge c).bindingsJson =
      (w.process.bridge c).bindingsJson :=
    Process.view_updateBridge (·.bindingsJson) w.process rfl
  constructor
  · refine ⟨⟨phase.heeded, fun calm => ?_⟩, phase.before⟩
    obtain ⟨owner, untold, blank⟩ := phase.now calm
    refine ⟨fun c isLive => ?_, fun c _ _ => ?_, fun c _ => (texts c).trans (blank c)⟩
    · rw [up.eq_of_isLive isLive]
      exact owner
    · exact ((texts c).trans (blank c)).trans untold.symm
  · intro calm
    obtain ⟨owner, untold, -⟩ := phase.now calm
    exact ⟨owner, untold, up.isLive⟩

end

/-- At the moment when the load method is called, it is told the bindings of that moment. -/
theorem told_told {b : BridgeId} {address : Address} {json : String} {cells : List Cell}
    (told : Sound Told w) (new : looksUpCalmly w.history = true → Newborn b w.history w.process)
    (text : json = (w.process.bridge b).outbound.toJson)
    (bytes : cells = [.text (.bytes (Text.Utf8.encode json))]) :
    Told (⟨.called (.managed (.load b) address ⟨.void, [.utf8String]⟩ cells),
      w.process.tell b json⟩ :: w.history) (w.process.tell b json) := by
  have bound : ((w.process.tell b json).bridge b).outbound = (w.process.bridge b).outbound := by
    rw [Process.tell, Process.bridge_updateBridge_self]
  have kept : ((w.process.tell b json).bridge b).bindingsJson = some json := by
    rw [Process.tell, Process.bridge_updateBridge_self]
  have live : ∀ c, ((w.process.tell b json).bridge c).isLive = (w.process.bridge c).isLive :=
    Process.view_updateBridge (·.isLive) w.process rfl
  constructor
  · intro c address signature cells q earlier suffix
    rcases List.suffix_cons_iff.mp suffix with same | suffix
    · cases same
      refine ⟨⟨rfl, ?_, ?_⟩, fun calm => ⟨(new calm).untold, (new calm).owner⟩⟩
      · rw [bound, ← text, bytes]
      · rw [bound, ← text, kept]
    · exact told.now.heeded c address signature cells q earlier suffix
  · intro calm
    obtain ⟨owned, -, isLive⟩ := new calm
    obtain ⟨owner, -, blank⟩ := told.now.keeping calm
    refine ⟨fun c up => owner c (live c ▸ up), fun c last _ => ?_, fun c apart => ?_⟩
    · cases owned.symm.trans last
      rfl
    · have other : c ≠ b := by
        rintro rfl
        exact apart ⟨owned, .inl ((live c).trans isLive)⟩
      rw [Process.tell, Process.bridge_updateBridge_of_ne _ other]
      refine blank c fun ⟨last, _⟩ => other ?_
      exact Option.some.inj (last.symm.trans owned)

/-- A new runtime is told the bindings, or nothing. -/
theorem boots_told (hf : Grants foreign) {b : BridgeId} {loader : Loader}
    {r : Except BridgeError Unit} (stance : Sound Stance w) (told : Sound Told w)
    (new : looksUpCalmly w.history = true → Newborn b w.history w.process)
    (h : Boots foreign b loader w r w') : Sound Told w' := by
  cases h with
  | noLoad load => exact (newborn_lookUp hf stance told new load).2.1
  | noUnload load unload =>
    obtain ⟨stance₁, told₁, new₁⟩ := newborn_lookUp hf stance told new load
    exact (newborn_lookUp hf stance₁ told₁ new₁ unload).2.1
  | @told _ _ json _ _ _ w₂ _ load unload call text bytes =>
    obtain ⟨stance₁, told₁, new₁⟩ := newborn_lookUp hf stance told new load
    obtain ⟨stance₂, told₂, new₂⟩ := newborn_lookUp hf stance₁ told₁ new₁ unload
    have same : SameHosting w₂.process (w₂.process.tell b json) := .updateBridge rfl rfl
    have stance₃ : Sound Stance (w₂.put (w₂.process.tell b json)) :=
      ⟨stance₂.now.congr same rfl rfl rfl rfl, stance₂.before⟩
    have heard := told_answered hf rfl (stance_called stance₃ rfl rfl)
      (.called (told_told told₂ new₂ text bytes) told₂.before) rfl call
    exact heard.told_put (.updateBridge _ rfl rfl)

theorem blank_claim (stance : Sound Stance w) (told : Sound Told w)
    (free : w.process.isClaimed = false) : Phase Blank (w.put w.process.claim) := by
  obtain ⟨down, -, closing, -⟩ := stance.now.idle_of_unclaimed free
  refine .of_sound (told.told_put ⟨fun _ => rfl, fun _ => rfl⟩) fun calm => ?_
  exact (told.now.keeping calm).all_blank down closing

/-- The load of a bridge that has its runtime up has told it the bindings, or could not. -/
theorem broughtUp_told (hf : Grants foreign) {b : BridgeId} {loader : Loader} {live : LiveHost}
    {w₁ : World} {r : Except BridgeError Unit} (stance : Sound Stance w) (told : Sound Told w)
    (innermost : innermostLoad (underway w.history) = some (b, loader))
    (free : w.process.isClaimed = false)
    (prepared : Returns (prepare foreign loader) (w.put w.process.claim) (.ok live) w₁)
    (booted : Boots foreign b loader (w₁.put (w₁.process.bringUp b live)) r w') :
    Sound Stance w' ∧ Sound Told w' := by
  have vacant := vacant_claim stance free
  have vacant₁ : Vacant _ _ _ _ := vacant.prepared hf.stance prepared
  have started : Phase (Started (some b)) w₁ := by
    have phase : Phase _ w₁ := blank_prepared hf vacant (blank_claim stance told free) prepared
    rwa [innermost] at phase
  have up := within_bringUp ⟨stance, .refl w⟩ free vacant₁ b
  obtain ⟨toldUp, new⟩ := newborn_bringUp vacant₁.down started live
  exact ⟨(boots_within hf.stance up booted).sound, boots_told hf up.sound toldUp new booted⟩

/-- A load tells its runtime the bindings, and if it fails no text is left. -/
theorem loads_told (hf : Grants foreign) {b : BridgeId} {loader : Loader}
    {r : Except BridgeError Unit} (stance : Sound Stance w) (told : Sound Told w)
    (innermost : innermostLoad (underway w.history) = some (b, loader))
    (h : Loads foreign b loader w r w') : Sound Told w' := by
  cases h with
  | refused => exact told
  | unprepared free prepared =>
    have vacant := vacant_claim stance free
    have vacant₁ : Vacant _ _ _ _ := vacant.prepared hf.stance prepared
    have blank₁ : Phase Blank _ :=
      blank_prepared hf vacant (blank_claim stance told free) prepared
    exact ⟨⟨blank₁.heeded, fun calm => .of_down vacant₁.down vacant₁.closing (blank₁.now calm)⟩,
      blank₁.before⟩
  | failed free prepared boots logged down =>
    obtain ⟨stance₂, told₂⟩ := broughtUp_told hf stance told innermost free prepared boots
    have stance₃ := (within_alike ⟨stance₂, .refl _⟩ logged).sound
    exact tearsDown_told hf stance₃ (told₂.told_alike logged) down
  | loaded free prepared boots expected =>
    obtain ⟨-, told₂⟩ := broughtUp_told hf stance told innermost free prepared boots
    exact (told₂.told_put (.expect _ b)).told_alike expected

/-! ## Every operation -/

theorem perform_told (hf : Grants foreign) {operation : Operation} {result : operation.Result}
    (stance : Sound Stance (w.after (.began operation)))
    (told : Sound Told (w.after (.began operation)))
    (ran : Returns (operation.perform foreign) (w.after (.began operation)) result w') :
    Sound Told w' := by
  cases hosts : operation.hosts with
  | false => exact ((operation.perform_keeps (steady_told hf) hosts).returns ran ⟨stance, told⟩).2
  | true =>
    have put : ∀ {p : Process}, SameHosting w.process p → SameTexts w.process p →
        Sound Stance ((w.after (.began operation)).put p) ∧
          Sound Told ((w.after (.began operation)).put p) := fun hosting texts =>
      ⟨⟨stance.now.congr hosting rfl rfl rfl rfl, stance.before⟩, told.told_put texts⟩
    cases operation with
    | load b loader => exact loads_told hf stance told rfl (Returns.load ran)
    | teardown b => exact tearsDown_told hf stance told (Returns.teardown ran)
    | registerExit b =>
      exact (put (.expect _ b) (.expect _ b)).2.told_alike (Returns.registerExit ran)
    | releaseExit b =>
      exact (put (.release _ b) (.release _ b)).2.told_alike (Returns.releaseExit ran)
    | runExitTeardown =>
      rcases Returns.runExitTeardown ran with ⟨-, -, rfl⟩ | ⟨b, -, down⟩
      · exact told
      · obtain ⟨stance₁, told₁⟩ := put (.expectNone _) (.expectNone _)
        exact tearsDown_told hf stance₁ told₁ down
    | _ => cases hosts

theorem run_told (hf : Grants foreign) {operation : Operation} {result : operation.Result}
    (stance : Sound Stance w) (told : Sound Told w)
    (ran : Returns (operation.run foreign) w result w') : Sound Told w' := by
  obtain ⟨result', w₁, performed, whole⟩ := operation.run_eq foreign w
  cases ran.symm.trans whole
  have begun : Sound Stance (w.after (.began operation)) :=
    .began (stance.now.congr (.refl _) rfl rfl rfl rfl) stance.before
  have toldBegun : Sound Told (w.after (.began operation)) :=
    .began (told.now.cons rfl rfl) told.before
  have done := perform_told hf begun toldBegun performed
  have kept := (perform_within hf.stance operation _).returns performed ⟨begun, .refl _⟩
  have frames := kept.since.frames
  have closing : isClosing (⟨.ended operation result, w₁.process⟩ :: w₁.history) =
      isClosing w₁.history := by
    rw [isClosing_congr frames, isClosing, underway_ended, frames]
    rfl
  exact .ended (done.now.cons rfl closing) done.before

theorem informed_disciplined (hf : Grants foreign) : Disciplined informed Interlude foreign := by
  have between := interlude_disciplined hf.stance hf.lull hf.grows
  constructor
  · intro operation w₀ w ⟨sound, since⟩
    have stance := sound.left
    have kept := between.run operation w₀ w ⟨stance, since⟩
    have told := run_told hf stance sound.right (.intro (operation.run foreign) w)
    exact ⟨kept.sound.and told, kept.since⟩
  · intro id adapter cells w₀ w ⟨sound, since⟩
    have stance := sound.left
    have kept := between.enter id adapter cells w₀ w ⟨stance, since⟩
    have told := (steady_told hf).enterAdapter id adapter cells w ⟨stance, sound.right⟩
    exact ⟨kept.sound.and told.2, kept.since⟩

theorem grants_of_informed (outside : Outside) {depth : Nat}
    (told : Respects informed Interlude (outside.answer depth)) : Grants (outside.answer depth) :=
  ⟨answer_stance outside depth, answer_interlude outside depth, answer_grows outside depth, told⟩

theorem told_start : Told [] {} := by
  constructor
  · intro b address signature cells q earlier suffix
    cases List.suffix_nil.mp suffix
  · exact fun _ => .of_down (fun _ => ⟨rfl, rfl⟩) rfl fun _ => rfl

/-- All through every run this is known of the texts. -/
theorem World.Reached.told {w : World} (reached : w.Reached) : Sound Told w := by
  have both : Sound informed w :=
    reached.sound .refl
      (fun outside _ told => informed_disciplined (grants_of_informed outside told))
      ⟨stance_start, told_start⟩
  exact both.right

end ManagedHost
