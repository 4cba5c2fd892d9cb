import ManagedHost.Proofs.Milestones
import ManagedHost.Proofs.Stance

/-! # How the milestones of a runtime come about

Where everything is calm, the milestones are finished lives whenever there is no runtime, and the
runtime of a bridge has been told the bindings whenever no tender call is under way (`Course`). A
load or a teardown that ends has brought about just what its result says (`Settled`). No call that
is tender, or that holds the place for a runtime, adds a milestone but its own (`Paced`), so the
milestones can be followed from one such call to the next (`Marks`). -/

namespace ManagedHost

open ManagedHost.Action

/-! ## What is kept -/

/-- The runtime of a bridge was told the bindings, and its end is to be told to the unload method
that was looked up. -/
def Running (b : BridgeId) (live : LiveHost) (marks : List Milestone) : Prop :=
  ∃ loader onLoad onUnload rest, live.unload = some (Loader.unloadName loader, onUnload) ∧
    (onLoad ≠ 0 ∧ onUnload ≠ 0) ∧ Lives rest ∧
      marks = toldLife b loader (live.host, live.started) onLoad onUnload ++ rest

/-- How far the runtime of a calm process has come. -/
structure Course (h : List Moment) (p : Process) : Prop where
  resting : p.IsDown → isClosing h = false → Lives (milestones h)
  running : isTender h = false → ∀ b live, (p.bridge b).host = some live →
    Running b live (milestones h)

/-- The runtime that a bridge had was told its end and shut down. -/
def ToldItsEnd (b : BridgeId) (q : Process) (before now : List Milestone) : Prop :=
  ∃ live loader onLoad onUnload rest, (q.bridge b).host = some live ∧
    (onLoad ≠ 0 ∧ onUnload ≠ 0) ∧ Lives rest ∧
      before = toldLife b loader (live.host, live.started) onLoad onUnload ++ rest ∧
      now = .shut (live.host, live.started) :: .unloading b onUnload :: before

/-- What an operation did about runtimes, from the state in which it began and the milestones then
and now. -/
inductive Settled (q : Process) (before now : List Milestone) :
    (operation : Operation) → operation.Result → Prop
  | notLive {b : BridgeId} (isLive : (q.bridge b).isLive = false) (same : now = before) :
      Settled q before now (.teardown b) false
  | tornDown {b : BridgeId} (told : ToldItsEnd b q before now) :
      Settled q before now (.teardown b) true
  | noExit (idle : ∀ b, q.exitTarget = some b → (q.bridge b).isLive = false)
      (same : now = before) : Settled q before now .runExitTeardown false
  | exit {b : BridgeId} (target : q.exitTarget = some b) (told : ToldItsEnd b q before now) :
      Settled q before now .runExitTeardown true
  /-- The load failed before it started a runtime. -/
  | notStarted {b : BridgeId} {loader : Loader} {e : BridgeError} (same : now = before) :
      Settled q before now (.load b loader) (.error e)
  /-- The load started a runtime and shut it down. -/
  | unresolved {b : BridgeId} {loader : Loader} {e : BridgeError} {runtime : HostId × HostInstance}
      {lookUps : List Milestone} (unresolved : Unresolved loader runtime lookUps)
      (shut : now = .shut runtime :: lookUps ++ .started (some (b, loader)) runtime :: before) :
      Settled q before now (.load b loader) (.error e)
  | loaded {b : BridgeId} {loader : Loader} {runtime : HostId × HostInstance}
      {onLoad onUnload : Address} (named : onLoad ≠ 0 ∧ onUnload ≠ 0)
      (told : now = toldLife b loader runtime onLoad onUnload ++ before) :
      Settled q before now (.load b loader) (.ok ())
  | other {operation : Operation} {result : operation.Result}
      (other : operation.restarts = false) : Settled q before now operation result

/-- The innermost thing under way is the operation, and it did what its result says. -/
def Concludes (operation : Operation) (result : operation.Result) (h : List Moment) : Prop :=
  ∃ q before outer, underway h = (⟨.began operation, q⟩ :: before) :: outer ∧
    Settled q (milestones before) (milestones h) operation result

/-- The event is the end of an operation. -/
def Event.isEnd : Event → Bool
  | .ended _ _ => true
  | _ => false

/-- Every operation that ended did what its result says. -/
def Concluded (h : List Moment) : Prop :=
  ∀ operation result p earlier, ⟨.ended operation result, p⟩ :: earlier <:+ h →
    isCalm earlier = true → Concludes operation result earlier

/-- The stance, the conclusions, and where everything is calm, the course. -/
structure Coursed (h : List Moment) (p : Process) : Prop where
  stance : Stance h p
  concluded : Concluded h
  course : isCalm h = true → Course h p

/-- The place for a runtime is held without a live bridge, or a tender call is under way. -/
def IsHeld (h : List Moment) : Prop :=
  isPreparing h = true ∨ isClosing h = true ∨ isTender h = true

/-- As `Steadfast`; and during a call that holds the runtimes where they are, nothing is done about
them. -/
structure Paced (w w' : World) : Prop extends Steadfast w w' where
  grown : w.history <:+ w'.history
  same : IsHeld w.history → isCalm w'.history = true →
    SameHosting w.process w'.process ∧ milestones w'.history = milestones w.history

theorem isHeld_congr {h h' : List Moment} (he : underway h' = underway h) (held : IsHeld h) :
    IsHeld h' := by
  rw [IsHeld, isPreparing_congr he, isClosing_congr he, isTender_congr he]
  exact held

theorem IsHeld.called {h : List Moment} (held : IsHeld h) (call : ForeignCall) (p : Process) :
    IsHeld (⟨.called call, p⟩ :: h) := by
  rcases held with held | held | held
  · exact .inl (by simp [held])
  · exact .inr (.inl (by simp [held]))
  · exact .inr (.inr (by simp [held]))

theorem Paced.refl (w : World) : Paced w w :=
  ⟨.refl w, List.suffix_rfl, fun _ _ => ⟨.refl _, rfl⟩⟩

theorem Paced.trans {u v w : World} (h : Paced u v) (h' : Paced v w) : Paced u w := by
  refine ⟨h.toSteadfast.trans h'.toSteadfast, h.grown.trans h'.grown, fun held calm => ?_⟩
  obtain ⟨hosting, marks⟩ := h.same held (isCalm_of_suffix h'.grown calm)
  obtain ⟨hosting', marks'⟩ := h'.same (isHeld_congr h.frames held) calm
  exact ⟨hosting.trans hosting', marks'.trans marks⟩

theorem Course.congr {h h' : List Moment} {p p' : Process} (hc : Course h p)
    (hosting : SameHosting p p') (marks : milestones h' = milestones h)
    (closing : isClosing h' = isClosing h) (tender : isTender h' = false → isTender h = false) :
    Course h' p' := by
  constructor
  · intro down quiet
    rw [marks]
    refine hc.resting (fun b => ?_) (closing ▸ quiet)
    rw [← hosting.live, ← hosting.host]
    exact down b
  · intro quiet b live host
    rw [marks]
    exact hc.running (tender quiet) b live (hosting.host b ▸ host)

theorem Concluded.nil : Concluded [] := by
  intro operation result p earlier h
  cases List.suffix_nil.mp h

theorem Concluded.cons {h : List Moment} (hc : Concluded h) {moment : Moment}
    (other : moment.event.isEnd = false) : Concluded (moment :: h) := by
  intro operation result p earlier suffix calm
  rcases List.suffix_cons_iff.mp suffix with same | suffix
  · cases same
    cases other
  · exact hc operation result p earlier suffix calm

theorem Concluded.ended {h : List Moment} (hc : Concluded h) {operation : Operation}
    {result : operation.Result} {p : Process}
    (last : isCalm h = true → Concludes operation result h) :
    Concluded (⟨.ended operation result, p⟩ :: h) := by
  intro operation' result' p' earlier suffix calm
  rcases List.suffix_cons_iff.mp suffix with same | suffix
  · cases same
    exact last calm
  · exact hc operation' result' p' earlier suffix calm

variable {foreign : Foreign} {w₀ w w' : World}

theorem Sound.ofCoursed (hw : Sound Coursed w) : Sound Stance w :=
  ⟨hw.now.stance, hw.before.mono fun _ _ coursed => coursed.stance⟩

theorem Within.ofCoursed (hw : Sound Coursed w) : Within Stance Steadfast w w :=
  ⟨hw.ofCoursed, .refl w⟩

/-! ## Calls that do not concern the place for a runtime -/

/-- A call is the same milestone wherever it is made. -/
theorem milestone?_called (call : ForeignCall) (load : Option (BridgeId × Loader)) :
    (Event.called call).milestone? load = (Event.called call).milestone? none := by
  cases call with
  | managed purpose => cases purpose <;> rfl
  | _ => rfl

theorem milestones_called (call : ForeignCall) (p : Process) (h : List Moment) :
    milestones (⟨.called call, p⟩ :: h) =
      ((Event.called call).milestone? none).toList ++ milestones h := by
  rw [milestones, milestone?_called]

/-- Where nothing but the call is under way that was not before, its reply is judged by the load
that made the call. -/
theorem milestones_replied {call : ForeignCall} {reply : call.Reply} {w₁ : World} {h : List Moment}
    {p : Process} (frames : underway w₁.history = underway (⟨.called call, p⟩ :: h)) :
    milestones (w₁.after (.replied call reply)).history =
      ((Event.replied call reply).milestone? (innermostLoad (underway h))).toList ++
        milestones w₁.history := by
  rw [World.history_after, milestones, frames]
  rfl

theorem coursed_call (hf : Respects Stance Steadfast foreign)
    (hJ : Respects Coursed Paced foreign) (call : ForeignCall) (hp : call.prepares = false)
    (hc : call.closes = false) (quiet : (Event.called call).milestone? none = none)
    (hw : Within Coursed Paced w₀ w)
    (silent : ∀ reply, (Event.replied call reply).milestone?
      (innermostLoad (underway w.history)) = none) {reply : call.Reply}
    (hr : Returns (foreign call) w reply w') : Within Coursed Paced w₀ w' := by
  have stance : Within Stance Steadfast w w' :=
    (keeps_call hf hp hc).returns hr (.ofCoursed hw.sound)
  have marks : milestones (w.after (.called call)).history = milestones w.history := by
    rw [World.history_after, milestones_called, quiet]
    rfl
  have closing : isClosing (w.after (.called call)).history = isClosing w.history := by simp [hc]
  have made : Coursed (⟨.called call, w.process⟩ :: w.history) w.process := by
    refine ⟨?_, hw.sound.now.concluded.cons rfl, fun calm => ?_⟩
    · exact hw.sound.now.stance.congr (.refl _) (by simp [hp]) closing rfl
        (shutRuntimes_called hc _ _)
    · refine (hw.sound.now.course calm).congr (.refl _) marks closing fun quiet => ?_
      rw [isTender_called, Bool.or_eq_false_iff] at quiet
      exact quiet.2
  obtain ⟨reply', w₁, hr', hw₁⟩ := hJ call w (.called made hw.sound.before)
  cases hr.symm.trans hr'
  have replied : milestones (w₁.after (.replied call reply)).history = milestones w₁.history := by
    rw [milestones_replied hw₁.since.frames, silent]
    rfl
  have frames := stance.since.frames
  refine ⟨⟨⟨stance.sound.now, hw₁.sound.now.concluded.cons rfl, fun calm => ?_⟩,
    hw₁.sound.replied call reply⟩, hw.since.trans ⟨stance.since, ?_, fun held calm => ?_⟩⟩
  · by_cases tender : call.isTender = true
    · -- The runtimes are where they were when the call was made.
      have held : IsHeld (w.after (.called call)).history := .inr (.inr (by simp [tender]))
      obtain ⟨hosting, same⟩ := hw₁.since.same held calm
      have before : isCalm w.history = true := isCalm_of_suffix
        ((List.suffix_cons _ _).trans hw₁.since.grown) calm
      refine (hw.sound.now.course before).congr hosting (replied.trans (same.trans marks))
        (isClosing_congr frames) ?_
      rw [isTender_congr frames]
      exact id
    · refine (hw₁.sound.now.course calm).congr (.refl _) replied ?_ ?_
      · rw [isClosing_congr frames, isClosing_congr hw₁.since.frames, closing]
      · rw [isTender_congr frames, isTender_congr hw₁.since.frames]
        intro quiet
        simp [tender, quiet]
  · exact (List.suffix_cons _ _).trans (hw₁.since.grown.trans (List.suffix_cons _ _))
  · obtain ⟨hosting, same⟩ := hw₁.since.same (held.called call w.process) calm
    exact ⟨hosting, replied.trans (same.trans marks)⟩

/-- A change of the process that leaves the runtimes alone. -/
theorem coursed_put (hw : Within Coursed Paced w₀ w) {p : Process}
    (hs : SameHosting w.process p) : Within Coursed Paced w₀ (w.put p) :=
  ⟨⟨⟨hw.sound.now.stance.congr hs rfl rfl rfl rfl, hw.sound.now.concluded,
      fun calm => (hw.sound.now.course calm).congr hs rfl rfl id⟩, hw.sound.before⟩,
    hw.since.trans ⟨⟨rfl, fun _ => ⟨hs, rfl, rfl⟩⟩, List.suffix_rfl, fun _ _ => ⟨hs, rfl⟩⟩⟩

theorem coursed_alike (hw : Within Coursed Paced w₀ w) (ha : Alike w w') :
    Within Coursed Paced w₀ w' := by
  obtain ⟨hp, hh, -, -⟩ := ha
  refine ⟨⟨?_, ?_⟩, ⟨?_, ?_⟩, ?_, ?_⟩
  · rw [hp, hh]; exact hw.sound.now
  · rw [hh]; exact hw.sound.before
  · rw [hh]; exact hw.since.frames
  · rw [hp, hh]; exact hw.since.still
  · rw [hh]; exact hw.since.grown
  · rw [hp, hh]; exact hw.since.same

theorem steady_coursed (hf : Respects Stance Steadfast foreign)
    (hJ : Respects Coursed Paced foreign) (w₀ : World) :
    Steady foreign (Within Coursed Paced w₀) where
  change _ _ hc hw := coursed_put hw hc.hosting
  write _ _ hw := coursed_alike hw ⟨rfl, rfl, rfl, rfl⟩
  remember _ _ hw := coursed_alike hw ⟨rfl, rfl, rfl, rfl⟩
  native id signature args _ hw :=
    coursed_call hf hJ (.native id signature args) rfl rfl rfl hw (fun _ => rfl) rfl

/-- An operation that is no load asks for methods that do not count. -/
theorem steady_calls_coursed (hf : Respects Stance Steadfast foreign)
    (hJ : Respects Coursed Paced foreign) (other : innermostLoad (underway w₀.history) = none) :
    SteadyCalls foreign (Within Coursed Paced w₀) where
  toSteady := steady_coursed hf hJ w₀
  createDelegate host started assembly typeName method w hw := by
    refine coursed_call hf hJ (.createDelegate host started assembly typeName method) rfl rfl rfl
      hw (fun reply => ?_) rfl
    rw [hw.since.frames, other]
    rfl
  imported b id address signature cells _ hw :=
    coursed_call hf hJ (.managed (.imported b id) address signature cells) rfl rfl rfl hw
      (fun _ => rfl) rfl

end ManagedHost
