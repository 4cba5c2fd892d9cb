import ManagedHost.Proofs.Marks

/-! # Load and unload methods come in pairs

Every operation keeps the course of the milestones and concludes with what its result says
(`run_coursed`): a load that fails leaves them as they were or adds a whole life without methods, a
load that succeeds adds the first half of a life, and only the teardown of a live bridge adds the
second half. So in every run in which nobody loads or tears down during a tender call, the
milestones are one life after another (`hooks_are_paired`). -/

namespace ManagedHost

open ManagedHost.Action

variable {foreign : Foreign} {w₀ w w₁ w' : World}

/-! ## Operations -/

theorem coursed_began (hw : Sound Coursed w) (operation : Operation) :
    Sound Coursed (w.after (.began operation)) := by
  refine .began ⟨?_, hw.now.concluded.cons rfl, fun calm => ?_⟩ hw.before
  · exact hw.now.stance.congr (.refl _) rfl rfl rfl rfl
  · exact (hw.now.course (isCalm_tail calm)).congr (.refl _) rfl rfl id

/-- An operation that did what its result says concludes with it. -/
theorem coursed_run {operation : Operation} {result : operation.Result}
    (hw : Within Coursed Paced w₀ w)
    (done : Within Coursed Paced (w.after (.began operation)) w₁)
    (settled : isCalm w₁.history = true →
      Settled w.process (milestones w.history) (milestones w₁.history) operation result) :
    Within Coursed Paced w₀ (w₁.after (.ended operation result)) := by
  have stance : Within Stance Steadfast w (w₁.after (.ended operation result)) :=
    within_ended (.ofCoursed hw.sound) ⟨done.sound.ofCoursed, done.since.toSteadfast⟩
  have marks : milestones (w₁.after (.ended operation result)).history = milestones w₁.history :=
    rfl
  have coursed : Coursed (w₁.after (.ended operation result)).history w₁.process := by
    refine ⟨stance.sound.now, done.sound.now.concluded.ended fun calm => ?_, fun calm => ?_⟩
    · exact ⟨_, _, _, done.since.frames, settled calm⟩
    · refine (done.sound.now.course calm).congr (.refl _) marks ?_ fun quiet => ?_
      · exact (isClosing_congr stance.since.frames).trans (isClosing_congr done.since.frames).symm
      · rw [isTender_congr done.since.frames]
        rwa [isTender_congr stance.since.frames] at quiet
  refine ⟨.ended coursed done.sound.before, hw.since.trans ⟨stance.since, ?_, fun held calm => ?_⟩⟩
  · exact (List.suffix_cons _ _).trans (done.since.grown.trans (List.suffix_cons _ _))
  · exact done.since.same held calm

/-- An operation that was free to do something about runtimes, and did. -/
theorem Marks.within {P : List Milestone → Process → Prop} (hm : Marks P w₁)
    (stance : Within Stance Steadfast w w₁) (grown : w.history <:+ w₁.history)
    (free : isCalm w₁.history = true → ¬ IsHeld w.history)
    (course : P (milestones w₁.history) w₁.process → Course w₁.history w₁.process) :
    Within Coursed Paced w w₁ :=
  ⟨⟨⟨stance.sound.now, hm.concluded, fun calm => course (hm.marks calm)⟩, hm.before⟩,
    stance.since, grown, fun held calm => absurd held (free calm)⟩

/-! ## Tearing down -/

/-- Where everything is calm, the place is not held when a load or a teardown begins. -/
theorem not_held_of_began {operation : Operation} (restarts : operation.restarts = true)
    (preparing : isPreparing w.history = false) (closing : isClosing w.history = false)
    (grown : (w.after (.began operation)).history <:+ w₁.history)
    (calm : isCalm w₁.history = true) : ¬ IsHeld (w.after (.began operation)).history := by
  have tender := not_tender_of_began (isCalm_of_suffix grown calm) restarts
  have free : ¬ IsHeld w.history := by simp [IsHeld, preparing, closing, tender]
  exact free

/-- Where a live bridge is torn down, its runtime is told its end and shut down. -/
theorem coursed_tearsDown (hf : Respects Stance Steadfast foreign)
    (hJ : Respects Coursed Paced foreign) {operation : Operation} {result : operation.Result}
    {b : BridgeId} {p : Process} (hw : Within Coursed Paced w₀ w)
    (restarts : operation.restarts = true) (hs : SameHosting w.process p)
    (h : TearsDown foreign b ((w.after (.began operation)).put p) true w₁)
    (settled : ∀ now, ToldItsEnd b w.process (milestones w.history) now →
      Settled w.process (milestones w.history) now operation result) :
    Within Coursed Paced w₀ (w₁.after (.ended operation result)) := by
  have began := coursed_began hw.sound operation
  have put : Within Stance Steadfast (w.after (.began operation))
      ((w.after (.began operation)).put p) := within_put (.ofCoursed began) hs
  have isLive : (w.process.bridge b).isLive = true := (hs.live b).symm.trans h.isLive
  obtain ⟨live, -, up, preparing, closing, -⟩ := hw.sound.now.stance.up_of_isLive isLive
  have host : (p.bridge b).host = some live := (hs.host b).trans up.host
  have running : Marks (fun marks p => ∃ live', (p.bridge b).host = some live' ∧
      (live' = live ∧ Running b live marks ∧ marks = milestones w.history))
      ((w.after (.began operation)).put p) := by
    refine ⟨began.before, began.now.concluded, fun calm => ⟨live, host, rfl, ?_, rfl⟩⟩
    exact (hw.sound.now.course (isCalm_tail calm)).running (not_tender_of_began calm restarts) b
      live up.host
  obtain ⟨told, grown⟩ := running.tearsDown hf hJ put.sound h
  obtain ⟨_, -, done⟩ := tearsDown_over hf put.sound h
  have ended : Marks (fun marks _ => ToldItsEnd b w.process (milestones w.history) marks ∧
      Lives marks) w₁ := by
    refine told.imp ?_
    rintro ⟨_, _, ⟨rfl, ⟨loader, onLoad, onUnload, rest, hook, named, lives, same⟩, rfl⟩, now⟩
    rw [unloads, hook] at now
    refine ⟨⟨_, loader, onLoad, onUnload, rest, up.host, named, lives, same, now⟩, ?_⟩
    rw [now, same]
    exact .after (.told named) lives
  have free := not_held_of_began restarts preparing closing grown
  exact coursed_run hw
    (ended.within (tearsDown_within hf put h) grown free fun known => .of_down done.down known.2)
    fun calm => settled _ (ended.marks calm).1

/-- An operation that calls nobody and leaves the runtimes alone. -/
theorem coursed_rests {operation : Operation} {result : operation.Result} {p : Process}
    (hw : Within Coursed Paced w₀ w) (hs : SameHosting w.process p)
    (ha : Alike ((w.after (.began operation)).put p) w₁)
    (settled : Settled w.process (milestones w.history) (milestones w.history) operation result) :
    Within Coursed Paced w₀ (w₁.after (.ended operation result)) := by
  have began : Within Coursed Paced (w.after (.began operation)) (w.after (.began operation)) :=
    ⟨coursed_began hw.sound operation, .refl _⟩
  refine coursed_run hw (coursed_alike (coursed_put began hs) ha) fun _ => ?_
  rw [ha.2.1]
  exact settled

/-! ## Bringing up -/

/-- A load finds the runtimes of a calm process all shut down. -/
theorem marks_claim (hw : Sound Coursed w) (free : w.process.isClaimed = false)
    (operation : Operation) : Marks (fun marks _ => Lives marks ∧ marks = milestones w.history)
      ((w.after (.began operation)).put w.process.claim) := by
  have began := coursed_began hw operation
  obtain ⟨down, preparing, closing, -⟩ := hw.now.stance.idle_of_unclaimed free
  exact ⟨began.before, began.now.concluded, fun calm =>
    ⟨(hw.now.course (isCalm_tail calm)).resting down closing, rfl⟩⟩

theorem not_held_of_load (hw : Sound Coursed w) (free : w.process.isClaimed = false)
    {b : BridgeId} {loader : Loader}
    (grown : (w.after (.began (.load b loader))).history <:+ w₁.history)
    (calm : isCalm w₁.history = true) :
    ¬ IsHeld (w.after (.began (.load b loader))).history := by
  obtain ⟨-, preparing, closing, -⟩ := hw.now.stance.idle_of_unclaimed free
  exact not_held_of_began rfl preparing closing grown calm

/-- A load that starts no runtime leaves the runtimes as they were. -/
theorem coursed_unprepared (hf : Respects Stance Steadfast foreign)
    (hJ : Respects Coursed Paced foreign) {b : BridgeId} {loader : Loader} {e : BridgeError}
    (hw : Within Coursed Paced w₀ w) (free : w.process.isClaimed = false)
    (prepared : Returns (prepare foreign loader)
      ((w.after (.began (.load b loader))).put w.process.claim) (.error e) w₁) :
    Within Coursed Paced w₀
      ((w₁.put w₁.process.free).after (.ended (.load b loader) (.error e))) := by
  have began := coursed_began hw.sound (.load b loader)
  have stance := loads_within (b := b) hf (.ofCoursed began) (.unprepared free prepared)
  have claimed := vacant_claim began.ofCoursed free
  have vacant : Vacant _ _ _ _ := claimed.prepared hf prepared
  obtain ⟨grown, marks⟩ := Marks.prepared hf hJ (fun _ known => known.1) claimed
    (marks_claim hw.sound free _) prepared
  have freed : Marks (fun marks _ => Lives marks ∧ marks = milestones w.history)
      (w₁.put w₁.process.free) := Marks.free marks
  exact coursed_run hw (freed.within stance grown (not_held_of_load hw.sound free grown)
    fun known => .of_down (fun c => vacant.down c) known.1) fun calm =>
      .notStarted (freed.marks calm).2

/-- A bridge has the runtime that its load just started. -/
structure BroughtUp (b : BridgeId) (loader : Loader) (live : LiveHost) (w up : World) : Prop where
  marks : Marks (fun marks p => (p.bridge b).host = some live ∧ (Lives (milestones w.history) ∧
    marks = .started (some (b, loader)) (live.host, live.started) :: milestones w.history)) up
  grown : (w.after (.began (.load b loader))).history <:+ up.history
  within : Within Stance Steadfast (w.after (.began (.load b loader))) up
  load : innermostLoad (underway up.history) = some (b, loader)
  unload : live.unload = none
  assembly : live.defaultAssembly = loader.identity

theorem broughtUp (hf : Respects Stance Steadfast foreign)
    (hJ : Respects Coursed Paced foreign) {b : BridgeId} {loader : Loader} {live : LiveHost}
    (hw : Sound Coursed w) (free : w.process.isClaimed = false)
    (prepared : Returns (prepare foreign loader)
      ((w.after (.began (.load b loader))).put w.process.claim) (.ok live) w₁) :
    BroughtUp b loader live w (w₁.put (w₁.process.bringUp b live)) := by
  have began := coursed_began hw (.load b loader)
  have claimed := vacant_claim began.ofCoursed free
  have vacant : Vacant _ _ _ _ := claimed.prepared hf prepared
  obtain ⟨grown, unload, assembly, marks⟩ := Marks.prepared hf hJ (fun _ known => known.1) claimed
    (marks_claim hw free _) prepared
  have within := within_bringUp (.ofCoursed began) free vacant b
  refine ⟨marks.put ?_, grown, within, ?_, unload, assembly⟩
  · rintro ⟨before, ⟨lives, rfl⟩, same⟩
    exact ⟨(isUp_bringUp vacant.down b live).host, lives, same⟩
  · rw [within.since.frames]
    rfl

/-- A runtime that was not told the bindings is shut down without more ado. -/
theorem Marks.stops (hf : Respects Stance Steadfast foreign)
    (hJ : Respects Coursed Paced foreign) {R : List Milestone → Prop} {b : BridgeId}
    {live : LiveHost} {gone : Bool} (unload : live.unload = none) (hs : Sound Stance w)
    (hm : Marks (fun marks p => (p.bridge b).host = some live ∧ R marks) w)
    (h : TearsDown foreign b w gone w') :
    Marks (fun marks p => p.IsDown ∧ ∃ before, R before ∧
      marks = .shut (live.host, live.started) :: before) w' ∧ w.history <:+ w'.history := by
  cases gone with
  | false =>
    -- Where everything is calm, the bridge is live still.
    cases h with
    | idle isLive =>
      refine ⟨hm.imp ?_, List.suffix_rfl⟩
      rintro ⟨host, -⟩
      rw [hs.now.host_of_not_live isLive] at host
      cases host
  | true =>
    obtain ⟨_, -, done⟩ := tearsDown_over hf hs h
    have loaded := hm.imp (Q := fun marks p => ∃ live', (p.bridge b).host = some live' ∧
      (live' = live ∧ R marks)) fun known => ⟨live, known.1, rfl, known.2⟩
    obtain ⟨shut, grown⟩ := loaded.tearsDown hf hJ hs h
    refine ⟨shut.imp ?_, grown⟩
    rintro ⟨_, before, ⟨rfl, known⟩, same⟩
    rw [unloads, unload] at same
    exact ⟨done.down, before, known, same⟩

/-- A load whose runtime cannot be told the bindings shuts it down. -/
theorem coursed_failed (hf : Respects Stance Steadfast foreign)
    (hJ : Respects Coursed Paced foreign) {b : BridgeId} {loader : Loader} {live : LiveHost}
    {e : BridgeError} {gone : Bool} {w₂ w₃ : World} (hw : Within Coursed Paced w₀ w)
    (free : w.process.isClaimed = false)
    (prepared : Returns (prepare foreign loader)
      ((w.after (.began (.load b loader))).put w.process.claim) (.ok live) w₁)
    (booted : Boots foreign b loader (w₁.put (w₁.process.bringUp b live)) (.error e) w₂)
    (logged : Alike w₂ w₃) (down : TearsDown foreign b w₃ gone w') :
    Within Coursed Paced w₀ (w'.after (.ended (.load b loader) (.error e))) := by
  have stance := loads_within (b := b) hf (.ofCoursed (coursed_began hw.sound (.load b loader)))
    (.failed free prepared booted logged down)
  have up := broughtUp hf hJ hw.sound free prepared
  obtain ⟨missed, grown, told⟩ :=
    up.marks.boots_error hf hJ up.assembly up.load up.within.sound booted
  obtain ⟨stopped, more⟩ := (missed.alike logged).stops hf hJ up.unload
    (within_alike told logged).sound down
  have longer : (w.after (.began (.load b loader))).history <:+ w'.history :=
    up.grown.trans (grown.trans (logged.2.1 ▸ more))
  have ended : Marks (fun marks p => p.IsDown ∧ Lives (milestones w.history) ∧ ∃ lookUps,
      Unresolved loader (live.host, live.started) lookUps ∧
        marks = .shut (live.host, live.started) :: lookUps ++
          .started (some (b, loader)) (live.host, live.started) :: milestones w.history) w' := by
    refine stopped.imp ?_
    rintro ⟨isDown, _, ⟨lookUps, _, ⟨lives, rfl⟩, unresolved, rfl⟩, same⟩
    exact ⟨isDown, lives, lookUps, unresolved, same⟩
  refine coursed_run hw (ended.within stance longer (not_held_of_load hw.sound free longer) ?_)
    fun calm => ?_
  · rintro ⟨isDown, lives, lookUps, unresolved, same⟩
    refine .of_down isDown ?_
    rw [same]
    simpa using Lives.after (.missed (b := b) unresolved) lives
  · obtain ⟨-, -, lookUps, unresolved, same⟩ := ended.marks calm
    exact .unresolved unresolved same

/-- A load that succeeds has its runtime told the bindings. -/
theorem coursed_loaded (hf : Respects Stance Steadfast foreign)
    (hJ : Respects Coursed Paced foreign) {b : BridgeId} {loader : Loader} {live : LiveHost}
    {w₂ : World} (hw : Within Coursed Paced w₀ w) (free : w.process.isClaimed = false)
    (prepared : Returns (prepare foreign loader)
      ((w.after (.began (.load b loader))).put w.process.claim) (.ok live) w₁)
    (booted : Boots foreign b loader (w₁.put (w₁.process.bringUp b live)) (.ok ()) w₂)
    (expected : Alike (w₂.put (w₂.process.expect b)) w') :
    Within Coursed Paced w₀ (w'.after (.ended (.load b loader) (.ok ()))) := by
  have stance := loads_within (b := b) hf (.ofCoursed (coursed_began hw.sound (.load b loader)))
    (.loaded free prepared booted expected)
  have up := broughtUp hf hJ hw.sound free prepared
  obtain ⟨told, grown⟩ := up.marks.boots_ok hf hJ up.assembly up.load up.within.sound booted
  have longer : (w.after (.began (.load b loader))).history <:+ w'.history :=
    expected.2.1 ▸ up.grown.trans grown
  have ended : Marks (fun marks p => ∃ onLoad onUnload, (onLoad ≠ 0 ∧ onUnload ≠ 0) ∧
      Lives (milestones w.history) ∧
      (p.bridge b).host = some { live with unload := some (loader.unloadName, onUnload) } ∧
      marks = toldLife b loader (live.host, live.started) onLoad onUnload ++
        milestones w.history) w' := by
    refine (told.put ?_).alike expected
    rintro ⟨onLoad, onUnload, _, ⟨lives, rfl⟩, named, host, same⟩
    refine ⟨onLoad, onUnload, named, lives, host, ?_⟩
    rw [same]
    rfl
  refine coursed_run hw (ended.within stance longer (not_held_of_load hw.sound free longer) ?_)
    fun calm => ?_
  · rintro ⟨onLoad, onUnload, named, lives, host, same⟩
    constructor
    · intro down
      rw [(down b).2] at host
      cases host
    · intro _ c live' host'
      obtain rfl := stance.sound.now.eq_of_host host host'
      cases host.symm.trans host'
      exact ⟨loader, onLoad, onUnload, _, rfl, named, lives, same⟩
  · obtain ⟨onLoad, onUnload, named, -, -, same⟩ := ended.marks calm
    exact .loaded named same

theorem coursed_load (hf : Respects Stance Steadfast foreign)
    (hJ : Respects Coursed Paced foreign) {b : BridgeId} {loader : Loader}
    {result : Except BridgeError Unit} (hw : Within Coursed Paced w₀ w)
    (h : Loads foreign b loader (w.after (.began (.load b loader))) result w₁) :
    Within Coursed Paced w₀ (w₁.after (.ended (.load b loader) result)) := by
  cases h with
  | refused => exact coursed_rests hw (.refl _) (.refl _) (.notStarted rfl)
  | unprepared free prepared => exact coursed_unprepared hf hJ hw free prepared
  | failed free prepared booted logged down =>
    exact coursed_failed hf hJ hw free prepared booted logged down
  | loaded free prepared booted expected =>
    exact coursed_loaded hf hJ hw free prepared booted expected

/-! ## Every run -/

theorem run_coursed (hf : Respects Stance Steadfast foreign)
    (hJ : Respects Coursed Paced foreign) (operation : Operation) (w₀ : World) :
    Keeps (Within Coursed Paced w₀) (operation.run foreign) := by
  intro w hw
  obtain ⟨result, w₁, hr, hrun⟩ := operation.run_eq foreign w
  rw [hrun]
  have began : Within Coursed Paced (w.after (.began operation)) (w.after (.began operation)) :=
    ⟨coursed_began hw.sound operation, .refl _⟩
  cases operation with
  | load b loader => exact coursed_load hf hJ hw (Returns.load hr)
  | registerExit b =>
    exact coursed_rests hw (.expect _ b) (Returns.registerExit hr) (.other rfl)
  | releaseExit b =>
    exact coursed_rests hw (.release _ b) (Returns.releaseExit hr) (.other rfl)
  | teardown b =>
    have down := Returns.teardown hr
    cases result with
    | true => exact coursed_tearsDown hf hJ hw rfl (.refl _) down fun now => .tornDown
    | false =>
      cases down with
      | idle isLive => exact coursed_rests hw (.refl _) (.refl _) (.notLive isLive rfl)
  | runExitTeardown =>
    rcases Returns.runExitTeardown hr with ⟨idle, rfl, rfl⟩ | ⟨b, target, down⟩
    · refine coursed_rests hw (.refl _) (.refl _) (.noExit (fun b target => ?_) rfl)
      cases idle.symm.trans target
    · cases result with
      | true => exact coursed_tearsDown hf hJ hw rfl (.expectNone _) down fun now => .exit target
      | false =>
        cases down with
        | idle isLive =>
          refine coursed_rests hw (.expectNone _) (.refl _) (.noExit (fun c target' => ?_) rfl)
          cases target.symm.trans target'
          exact isLive
  | _ =>
    exact coursed_run hw
      ((Operation.perform_keeps (steady_calls_coursed hf hJ rfl) _ rfl).returns hr began)
      fun _ => .other rfl

theorem coursed_disciplined (hf : Respects Stance Steadfast foreign)
    (hJ : Respects Coursed Paced foreign) : Disciplined Coursed Paced foreign :=
  ⟨run_coursed hf hJ, fun id adapter cells w₀ =>
    (steady_coursed hf hJ w₀).enterAdapter id adapter cells⟩

theorem coursed_start : Coursed [] {} :=
  ⟨stance_start, .nil, fun _ => .of_down (fun _ => ⟨rfl, rfl⟩) .none⟩

/-- What bridges do about runtimes is one life after another at every moment, and every operation
that ended did what its result says. -/
structure HooksPaired (h : List Moment) : Prop where
  paired : ∀ earlier, earlier <:+ h → Paired (milestones earlier)
  concluded : ∀ operation result p earlier, ⟨.ended operation result, p⟩ :: earlier <:+ h →
    Concludes operation result earlier

/-- Where nobody loads or tears down during a tender call, each runtime that a load starts is told
the bindings, told its end and shut down, in this order and once, or only shut down if an entry
point is missing; and it is done once the teardown, or the load that failed, has ended. -/
theorem hooks_are_paired (outside : Outside) (depth : Nat) {ρ : Type} (program : Conduct ρ)
    (files : FileSystem) (directory : Place)
    (calm : isCalm (outside.leads depth program files directory).history = true) :
    HooksPaired (outside.leads depth program files directory).history := by
  have within : Within Coursed Paced { files, directory }
      (outside.leads depth program files directory) :=
    program_sound .refl (fun depth => coursed_disciplined (answer_stance outside depth))
      coursed_start depth program files directory
  have quiet : underway (outside.leads depth program files directory).history = [] :=
    within.since.frames
  have course := within.sound.now.course calm
  constructor
  · intro earlier suffix
    refine Paired.of_suffix ?_ (milestones_of_suffix suffix)
    cases within.sound.now.stance with
    | idle _ down | preparing _ down | closing _ _ down =>
      exact .finished (course.resting down (by rw [isClosing, quiet]; rfl))
    | up b live _ up =>
      obtain ⟨loader, onLoad, onUnload, rest, -, named, lives, same⟩ :=
        course.running (by rw [isTender, quiet]; rfl) b live up.host
      rw [same]
      exact .goesOn (.told named ⟨[.shut _, .unloading b _], rfl⟩)
        lives
  · intro operation result p earlier ended
    exact within.sound.now.concluded operation result p earlier ended
      (isCalm_of_suffix ((List.suffix_cons _ _).trans ended) calm)

/-- Code outside whose unload methods load another bridge, and whose runtimes fail to shut down. -/
def Outside.unruly : Outside := fun world call =>
  match call with
  | .managed (.unload b) _ _ _ => .perform (.load (b + 1) leastLoader) fun _ => .reply (.word 0)
  | .shutDown _ _ => .reply (.error 5)
  | call => Outside.obliging (fun _ => .reply (.word 0)) world call

/-- The load during the teardown is refused, and the life of the runtime ends as any other does. -/
theorem unruly_end_paired :
    let w := Outside.unruly.leads 2 (.perform (.load 0 leastLoader) fun _ => .doing (.teardown 0))
      leastFiles []
    (isCalm w.history = true ∧ (milestones w.history).length = 6) ∧ HooksPaired w.history := by
  intro w
  have seen : isCalm w.history = true ∧ (milestones w.history).length = 6 := by decide +kernel
  exact ⟨seen, hooks_are_paired _ 2 _ _ _ seen.1⟩

end ManagedHost
