import ManagedHost.Proofs.HostingSteps
import ManagedHost.Proofs.Milestones
import ManagedHost.Proofs.Stance
import Mathlib.Logic.Relation

/-! # What goes on while the place for a runtime is held

While a load has no runtime yet, or a bridge gives its runtime up, nobody can bring a runtime up or
tear one down: a load is refused, and a teardown finds nothing to tear down. All that happens to the
process then are the steps of the operations that were asked for (`Aside`), and the same is true
while a method is looked up, unless somebody loads or tears down meanwhile (`Lull`). Every call
grants this, whatever code outside does (`answer_interlude`). -/

namespace ManagedHost

open ManagedHost.Action Relation

/-! ## Histories only grow -/

/-- Whatever holds. -/
abbrev whatever : Claim := fun _ _ => True

/-- Nothing that happened is forgotten. -/
abbrev Grown : Guarantee := fun w w' => w.history <:+ w'.history

theorem Within.grown {w₀ w : World} (h : w₀.history <:+ w.history) : Within whatever Grown w₀ w :=
  ⟨⟨trivial, fun _ _ _ => trivial⟩, h⟩

section

variable {foreign : Foreign} {w₀ : World}

theorem grown_call (hf : Respects whatever Grown foreign) (call : ForeignCall) :
    Keeps (Grown w₀) (foreign call) := by
  intro w hw
  obtain ⟨reply, w₁, hr, hw₁⟩ := hf call w ⟨trivial, fun _ _ _ => trivial⟩
  rw [hr]
  have called : w.history <:+ w₁.history := (List.suffix_cons _ _).trans hw₁.since
  exact List.IsSuffix.trans hw (called.trans (List.suffix_cons _ _))

theorem grown_steady (hf : Respects whatever Grown foreign) : SteadyCalls foreign (Grown w₀) where
  change _ _ _ hw := hw
  write _ _ hw := hw
  remember _ _ hw := hw
  native _ _ _ := grown_call hf _
  createDelegate _ _ _ _ _ := grown_call hf _
  imported _ _ _ _ _ := grown_call hf _

theorem Operation.perform_grows (hf : Respects whatever Grown foreign) (operation : Operation) :
    Keeps (Grown w₀) (operation.perform foreign) := by
  cases hosts : operation.hosts with
  | false => exact operation.perform_keeps (grown_steady hf) hosts
  | true =>
    refine operation.perform_hosting ?_ hosts
    constructor
    · intro w p _ hw
      exact hw
    · rintro w w' ⟨-, same, -⟩ hw
      change w₀.history <:+ w'.history
      rw [same]
      exact hw
    · exact grown_call hf

theorem grown_disciplined (hf : Respects whatever Grown foreign) :
    Disciplined whatever Grown foreign := by
  constructor
  · intro operation w₀ w hw
    refine .grown (hw.since.trans ?_)
    obtain ⟨result, w₁, hr, hrun⟩ := operation.run_eq foreign w
    rw [hrun]
    have done : w.history <:+ w₁.history :=
      (operation.perform_grows hf).returns hr (List.suffix_cons _ _)
    exact done.trans (List.suffix_cons _ _)
  · intro id adapter cells w₀ w hw
    have entered := (grown_steady hf).enterAdapter id adapter cells w (List.suffix_refl _)
    exact .grown (hw.since.trans entered)

end

theorem answer_grows (outside : Outside) (depth : Nat) :
    Respects whatever Grown (outside.answer depth) :=
  answer_respects (fun _ => List.suffix_refl _) (fun _ => grown_disciplined) depth

/-! ## What may happen in between -/

/-- A call by which a runtime is brought up, told the bindings or torn down. -/
def ForeignCall.handlesRuntime : ForeignCall → Bool
  | managed (.load _) _ _ _ => true
  | call => call.prepares || call.closes

/-- The event is such a call or its answer. -/
def Event.handlesRuntime : Event → Bool
  | .called call => call.handlesRuntime
  | .replied call _ => call.handlesRuntime
  | _ => false

/-- If this is the end of a load, the place for a runtime was taken; if it is the end of a teardown,
there was nothing to tear down. -/
def Event.IsVain : Event → Prop
  | .ended (.load _ _) result => result = .error .hostAlreadyLoaded
  | .ended (.teardown _) result => result = false
  | .ended .runExitTeardown result => result = false
  | _ => True

/-- A step of an operation that began, other than bringing a runtime up or tearing one down, or of
the entry of a binding. -/
inductive Aside (since : List Moment) (p : Process) : Process → Prop
  | effect {operation : Operation} {q p' : Process} (began : ⟨.began operation, q⟩ ∈ since)
      (h : Effect operation p p') : Aside since p p'
  | entered {address : Address} {cells : List Cell} {p' : Process}
      (h : Effect (.enter address cells) p p') : Aside since p p'
  | expect {b : BridgeId} {q : Process} (began : ⟨.began (.registerExit b), q⟩ ∈ since) :
      Aside since p (p.expect b)
  | release {b : BridgeId} {q : Process} (began : ⟨.began (.releaseExit b), q⟩ ∈ since) :
      Aside since p (p.release b)
  | expectNone {q : Process} (began : ⟨.began .runExitTeardown, q⟩ ∈ since) :
      Aside since p p.expectNone

/-- A call by which a runtime is asked for a method. -/
def ForeignCall.looksUp : ForeignCall → Bool
  | createDelegate _ _ _ _ _ => true
  | _ => false

/-- Whether a method is being looked up. -/
def isLookingUp (h : List Moment) : Bool := (underway h).any (endsWithCall ForeignCall.looksUp)

/-- Nobody loads or tears down while a method is looked up. -/
abbrev looksUpCalmly (h : List Moment) : Bool := isUndisturbed ForeignCall.looksUp h

/-- The place for a runtime is held without a live bridge. -/
def IsVacant (h : List Moment) : Prop := isPreparing h = true ∨ isClosing h = true

/-- The place is held, or a method is being looked up and nobody has disturbed that until later. -/
def IsStill (h later : List Moment) : Prop :=
  IsVacant h ∨ isLookingUp h = true ∧ looksUpCalmly later = true

/-- Since then loads and teardowns were asked for in vain, and the process has changed by asides
only. -/
structure Restrained (since : List Moment) (p p' : Process) : Prop where
  vain : ∀ moment ∈ since, moment.event.IsVain
  steps : ReflTransGen (Aside since) p p'

/-- Nor was any call made that handles a runtime. -/
structure Uneventful (since : List Moment) (p p' : Process) : Prop
    extends Restrained since p p' where
  idle : ∀ moment ∈ since, moment.event.handlesRuntime = false

/-- If nothing can be brought up or torn down meanwhile, what goes on is uneventful. -/
def Lull (w w' : World) : Prop :=
  ∃ since, w'.history = since ++ w.history ∧
    (IsStill w.history w'.history → Uneventful since w.process w'.process)

/-- A lull that leaves the same things under way. -/
structure Interlude (w w' : World) : Prop where
  frames : underway w'.history = underway w.history
  lull : Lull w w'

theorem Aside.mono {since since' : List Moment} (more : since ⊆ since') {p p' : Process}
    (h : Aside since p p') : Aside since' p p' := by
  cases h with
  | effect began step => exact .effect (more began) step
  | entered step => exact .entered step
  | expect began => exact .expect (more began)
  | release began => exact .release (more began)
  | expectNone began => exact .expectNone (more began)

theorem Aside.hosting {since : List Moment} {p p' : Process} (h : Aside since p p') :
    SameHosting p p' := by
  cases h with
  | effect _ step => exact step.change.hosting
  | entered step => exact step.change.hosting
  | expect => exact .expect _ _
  | release => exact .release _ _
  | expectNone => exact .expectNone _

namespace Restrained

variable {earlier later since : List Moment} {p q r : Process}

theorem refl (p : Process) : Restrained [] p p :=
  ⟨fun _ member => absurd member List.not_mem_nil, .refl⟩

theorem hosting (h : Restrained since p q) : SameHosting p q := by
  obtain ⟨-, steps⟩ := h
  induction steps with
  | refl => exact .refl _
  | tail _ step ih => exact ih.trans step.hosting

theorem append (h : Restrained earlier p q) (h' : Restrained later q r) :
    Restrained (later ++ earlier) p r := by
  constructor
  · intro moment member
    rcases List.mem_append.mp member with member | member
    · exact h'.vain moment member
    · exact h.vain moment member
  · have first : ReflTransGen (Aside (later ++ earlier)) p q :=
      ReflTransGen.mono (fun _ _ => Aside.mono (List.subset_append_right _ _)) _ _ h.steps
    have second : ReflTransGen (Aside (later ++ earlier)) q r :=
      ReflTransGen.mono (fun _ _ => Aside.mono (List.subset_append_left _ _)) _ _ h'.steps
    exact first.trans second

theorem cons (h : Restrained since p q) {moment : Moment} (vain : moment.event.IsVain) :
    Restrained (moment :: since) p q := by
  have alone : Restrained [moment] q q :=
    ⟨fun other member => List.mem_singleton.mp member ▸ vain, .refl⟩
  exact h.append alone

end Restrained

theorem Uneventful.append {earlier later : List Moment} {p q r : Process}
    (h : Uneventful earlier p q) (h' : Uneventful later q r) :
    Uneventful (later ++ earlier) p r := by
  refine ⟨h.toRestrained.append h'.toRestrained, fun moment member => ?_⟩
  rcases List.mem_append.mp member with member | member
  · exact h'.idle moment member
  · exact h.idle moment member

section

variable {h h' later : List Moment}

theorem IsStill.congr (same : underway h' = underway h) (still : IsStill h later) :
    IsStill h' later := by
  rw [IsStill, IsVacant, isPreparing_congr same, isClosing_congr same, isLookingUp, same]
  exact still

theorem IsStill.called (still : IsStill h later) (call : ForeignCall) (p : Process) :
    IsStill (⟨.called call, p⟩ :: h) later := by
  rcases still with (preparing | closing) | ⟨lookingUp, calm⟩
  · exact .inl (.inl (by simp [preparing]))
  · exact .inl (.inr (by simp [closing]))
  · refine .inr ⟨?_, calm⟩
    rw [isLookingUp, underway_called, List.any_cons, show (underway h).any _ = true from lookingUp,
      Bool.or_true]

theorem IsStill.of_suffix (still : IsStill h later) (shorter : h' <:+ later) : IsStill h h' :=
  still.imp_right fun ⟨lookingUp, calm⟩ => ⟨lookingUp, isUndisturbed_of_suffix shorter calm⟩

end

namespace Lull

variable {u v w : World}

theorem refl (w : World) : Lull w w :=
  ⟨[], rfl, fun _ => ⟨.refl _, fun _ member => absurd member List.not_mem_nil⟩⟩

theorem trans (h : Lull u v) (h' : Lull v w)
    (held : ∀ later, IsStill u.history later → IsStill v.history later) : Lull u w := by
  obtain ⟨earlier, grown, course⟩ := h
  obtain ⟨later, grown', course'⟩ := h'
  refine ⟨later ++ earlier, by rw [grown', grown, List.append_assoc], fun still => ?_⟩
  have before : v.history <:+ w.history := grown' ▸ List.suffix_append _ _
  exact (course (still.of_suffix before)).append (course' (held _ still))

theorem alike (h : Lull u v) (same : Alike v w) : Lull u w := by
  obtain ⟨hp, hh, -, -⟩ := same
  obtain ⟨since, grown, course⟩ := h
  refine ⟨since, hh.trans grown, fun still => ?_⟩
  rw [hh] at still
  rw [hp]
  exact course still

theorem after (h : Lull u v) (event : Event) (vain : event.IsVain)
    (idle : event.handlesRuntime = false) : Lull u (v.after event) := by
  obtain ⟨since, grown, course⟩ := h
  refine ⟨⟨event, v.process⟩ :: since, by rw [World.history_after, grown, List.cons_append], ?_⟩
  intro still
  have before := course (still.of_suffix (List.suffix_cons _ _))
  refine ⟨before.toRestrained.cons vain, fun moment member => ?_⟩
  rcases List.mem_cons.mp member with rfl | earlier
  · exact idle
  · exact before.idle moment earlier

theorem step (h : Lull u v) {p : Process}
    (aside : ∀ since, v.history = since ++ u.history → Aside since v.process p) :
    Lull u (v.put p) := by
  obtain ⟨since, grown, course⟩ := h
  refine ⟨since, grown, fun still => ?_⟩
  have before := course still
  exact ⟨⟨before.vain, before.steps.tail (aside since grown)⟩, before.idle⟩

end Lull

namespace Interlude

variable {u v w : World}

theorem refl (w : World) : Interlude w w := ⟨rfl, .refl w⟩

theorem trans (h : Interlude u v) (h' : Interlude v w) : Interlude u w :=
  ⟨h'.frames.trans h.frames, h.lull.trans h'.lull fun _ still => still.congr h.frames⟩

end Interlude

/-- The event that an operation began is among those since. -/
theorem mem_of_began {w v : World} {event : Event} {since : List Moment}
    (began : (w.after event).history <:+ v.history) (grown : v.history = since ++ w.history) :
    ⟨event, w.process⟩ ∈ since := by
  obtain ⟨later, split⟩ := began
  rw [grown, World.history_after, List.append_cons] at split
  rw [← List.append_cancel_right split]
  exact List.mem_append_right later (List.mem_singleton_self _)

/-! ## Calls -/

theorem ForeignCall.holds_nothing {call : ForeignCall} (idle : call.handlesRuntime = false) :
    call.prepares = false ∧ call.closes = false := by
  unfold handlesRuntime at idle
  split at idle
  · cases idle
  · simpa using idle

/-- How a call goes on, from the moment when it is made to the moment before it is answered. -/
theorem Respects.course {foreign : Foreign} (hf : Respects Stance Interlude foreign) {w w' : World}
    {call : ForeignCall} (made : Stance (⟨.called call, w.process⟩ :: w.history) w.process)
    (before : Recorded Stance w.history) {reply : call.Reply}
    (ran : Returns (foreign call) w reply w') :
    ∃ (w₁ : World) (since : List Moment), w' = w₁.after (.replied call reply) ∧
      w₁.history = since ++ (w.after (.called call)).history ∧
      underway w₁.history = underway (w.after (.called call)).history ∧
      (IsStill (w.after (.called call)).history w₁.history →
        Uneventful since w.process w₁.process) := by
  obtain ⟨reply', w₁, ran', between⟩ := hf call w (.called made before)
  cases ran.symm.trans ran'
  obtain ⟨since, grown, course⟩ := between.since.lull
  exact ⟨w₁, since, rfl, grown, between.since.frames, course⟩

section

variable {foreign : Foreign} {w₀ w w' : World}
  (stance : Respects Stance Steadfast foreign) (hf : Respects Stance Interlude foreign)

include stance hf

/-- A call that handles no runtime is an interlude. -/
theorem interlude_call {call : ForeignCall} (idle : call.handlesRuntime = false)
    (sound : Sound Stance w) {reply : call.Reply} (ran : Returns (foreign call) w reply w') :
    Sound Stance w' ∧ Interlude w w' := by
  obtain ⟨prepares, closes⟩ := ForeignCall.holds_nothing idle
  have kept := (keeps_call stance prepares closes).returns ran ⟨sound, .refl w⟩
  have made : Stance (⟨.called call, w.process⟩ :: w.history) w.process :=
    sound.now.congr (.refl _) (by simp [prepares]) (by simp [closes]) rfl
      (shutRuntimes_called closes _ _)
  obtain ⟨w₁, since, rfl, grown, -, course⟩ := hf.course made sound.before ran
  have called : Lull w (w.after (.called call)) := (Lull.refl w).after _ trivial idle
  have answered := called.trans ⟨since, grown, course⟩ fun _ still => still.called _ _
  exact ⟨kept.sound, kept.since.frames, answered.after (.replied call reply) trivial idle⟩

/-! ## Operations -/

/-- All that an operation does is part of the lull, from before it began. -/
structure Busy (operation : Operation) (w v : World) : Prop where
  kept : Within Stance Steadfast (w.after (.began operation)) v
  lull : Lull w v
  began : (w.after (.began operation)).history <:+ v.history

theorem busy_call {operation : Operation} {call : ForeignCall}
    (idle : call.handlesRuntime = false) : Keeps (Busy operation w) (foreign call) := by
  intro v hv
  obtain ⟨sound, between⟩ := interlude_call stance hf idle hv.kept.sound (.intro (foreign call) v)
  obtain ⟨prepares, closes⟩ := ForeignCall.holds_nothing idle
  refine ⟨keeps_call stance prepares closes v hv.kept, ?_, ?_⟩
  · refine hv.lull.trans between.lull fun later still => ?_
    have began : IsStill (w.after (.began operation)).history later := still
    exact began.congr hv.kept.since.frames
  · obtain ⟨since, grown, -⟩ := between.lull
    rw [grown]
    exact hv.began.trans (List.suffix_append _ _)

theorem busy_steady (operation : Operation) (w : World) :
    SteadyCallsIn operation foreign (Busy operation w) where
  effect v p step _ hv := by
    have kept := (steady_stance stance _).change v p step.change hv.kept
    have lull := hv.lull.step fun since grown => .effect (mem_of_began hv.began grown) step
    exact ⟨kept, lull, hv.began⟩
  write v log hv := ⟨within_alike hv.kept ⟨rfl, rfl, rfl, rfl⟩,
    hv.lull.alike ⟨rfl, rfl, rfl, rfl⟩, hv.began⟩
  remember v notes hv := ⟨within_alike hv.kept ⟨rfl, rfl, rfl, rfl⟩,
    hv.lull.alike ⟨rfl, rfl, rfl, rfl⟩, hv.began⟩
  native _ _ _ := busy_call stance hf rfl
  createDelegate _ _ _ _ _ := busy_call stance hf rfl
  imported _ _ _ _ _ := busy_call stance hf rfl

/-- A binding that is entered does nothing but what is part of an interlude. -/
theorem enter_interlude (id : AdapterId) (adapter : Adapter) (cells : List Cell) (w₀ : World) :
    Keeps (Within Stance Interlude w₀) (enterAdapter foreign id adapter cells) := by
  have steady : SteadyIn (.enter (Adapter.address id) cells) foreign
      (Within Stance Interlude w₀) :=
    { effect := fun w p step _ hw => by
        refine ⟨⟨hw.sound.now.congr step.change.hosting rfl rfl rfl rfl, hw.sound.before⟩, ?_⟩
        exact ⟨hw.since.frames, hw.since.lull.step fun _ _ => .entered step⟩
      write := fun w _ hw => ⟨⟨hw.sound.now, hw.sound.before⟩,
        hw.since.frames, hw.since.lull.alike ⟨rfl, rfl, rfl, rfl⟩⟩
      remember := fun w _ hw => ⟨⟨hw.sound.now, hw.sound.before⟩,
        hw.since.frames, hw.since.lull.alike ⟨rfl, rfl, rfl, rfl⟩⟩
      native := fun id signature args w hw => by
        have idle : (ForeignCall.native id signature args).handlesRuntime = false := rfl
        obtain ⟨sound, between⟩ := interlude_call stance hf idle hw.sound (.intro (foreign _) w)
        exact ⟨sound, hw.since.trans between⟩ }
  exact steady.enterAdapter id adapter cells

end

/-! ## Loads and teardowns -/

section

variable {foreign : Foreign} {w w₁ w' : World} {operation : Operation} {result : operation.Result}

/-- A load or a teardown that is asked for while the place is held comes to nothing. -/
theorem Lull.restarting (restarts : operation.restarts = true)
    (grown : (w.after (.began operation)).history <:+ w₁.history)
    (held : IsVacant w.history → w₁.history = (w.after (.began operation)).history ∧
      (Event.ended operation result).IsVain ∧
        ReflTransGen (Aside [⟨.began operation, w.process⟩]) w.process w₁.process) :
    Lull w (w₁.after (.ended operation result)) := by
  obtain ⟨later, split⟩ := grown
  refine ⟨⟨.ended operation result, w₁.process⟩ ::
    (later ++ [⟨.began operation, w.process⟩]), ?_, ?_⟩
  · rw [World.history_after, ← split]
    simp
  · rintro (vacant | ⟨lookingUp, calm⟩)
    · obtain ⟨same, vain, steps⟩ := held vacant
      obtain rfl : later = [] := List.append_left_eq_self.mp (split.trans same)
      have begun : Restrained [⟨.began operation, w.process⟩] w.process w₁.process := by
        refine ⟨fun moment member => ?_, steps⟩
        rw [List.mem_singleton.mp member]
        trivial
      refine ⟨begun.cons vain, fun moment member => ?_⟩
      rcases List.mem_cons.mp member with rfl | began
      · rfl
      · rw [List.mem_singleton.mp began]
        rfl
    · have before : looksUpCalmly (w.after (.began operation)).history = true := by
        have grown : (w.after (.began operation)).history <:+ w₁.history := ⟨later, split⟩
        exact isUndisturbed_of_suffix (grown.trans (List.suffix_cons _ _)) calm
      rw [isLookingUp, not_underway_of_began before restarts] at lookingUp
      cases lookingUp

theorem Stance.claimed_of_vacant {h : List Moment} {p : Process} (stance : Stance h p)
    (vacant : IsVacant h) : p.isClaimed = true := by
  cases claimed : p.isClaimed with
  | true => rfl
  | false =>
    obtain ⟨-, preparing, closing, -⟩ := stance.idle_of_unclaimed claimed
    rw [IsVacant, preparing, closing] at vacant
    simp at vacant

/-- While the place is held, there is nothing to tear down. -/
theorem Action.TearsDown.vacant {b : BridgeId} {result : Bool} {h : List Moment} {p : Process}
    (down : TearsDown foreign b w result w') (stance : Stance h p) (vacant : IsVacant h)
    (same : SameHosting p w.process) : result = false ∧ w' = w := by
  have dead : (w.process.bridge b).isLive = false := by
    rw [same.live]
    exact (stance.down_of_held vacant b).1
  cases down with
  | idle => exact ⟨rfl, rfl⟩
  | bare isLive | down isLive =>
    rw [dead] at isLive
    cases isLive

variable (stance : Respects Stance Steadfast foreign) (hf : Respects Stance Interlude foreign)
  (grows : Respects whatever Grown foreign)

include stance hf grows

/-- From its beginning to its end an operation is a lull. -/
theorem lull_run (sound : Sound Stance w) (ran : Returns (operation.run foreign) w result w') :
    Lull w w' := by
  obtain ⟨result', w₁, performed, whole⟩ := operation.run_eq foreign w
  cases ran.symm.trans whole
  have grown : (w.after (.began operation)).history <:+ w₁.history :=
    (operation.perform_grows grows).returns performed (List.suffix_refl _)
  have begun : Lull w (w.after (.began operation)) := (Lull.refl w).after _ trivial rfl
  -- Its own steps are taken after it began.
  have stepped : ∀ {p : Process}, Aside [⟨.began operation, w.process⟩] w.process p →
      Alike ((w.after (.began operation)).put p) w₁ → Lull w w₁ := by
    intro p aside same
    refine (begun.step fun since since_eq => ?_).alike same
    obtain rfl : since = [⟨.began operation, w.process⟩] :=
      List.append_cancel_right since_eq.symm
    exact aside
  cases operation with
  | load b loader =>
    refine .restarting rfl grown fun vacant => ?_
    have claimed := sound.now.claimed_of_vacant vacant
    cases Returns.load performed with
    | refused => exact ⟨rfl, rfl, .refl⟩
    | unprepared free | failed free | loaded free =>
      exact absurd claimed (by rw [show w.process.isClaimed = false from free]; nofun)
  | teardown b =>
    refine .restarting rfl grown fun vacant => ?_
    obtain ⟨none, same⟩ := (Returns.teardown performed).vacant sound.now vacant (.refl _)
    rw [same]
    exact ⟨rfl, none, .refl⟩
  | runExitTeardown =>
    refine .restarting rfl grown fun vacant => ?_
    rcases Returns.runExitTeardown performed with ⟨-, none, same⟩ | ⟨b, -, down⟩
    · rw [same]
      exact ⟨rfl, none, .refl⟩
    · obtain ⟨none, same⟩ := down.vacant sound.now vacant (.expectNone _)
      rw [same]
      exact ⟨rfl, none, .single (.expectNone (List.mem_singleton_self _))⟩
  | registerExit b =>
    have expected := stepped (.expect (List.mem_singleton_self _)) (Returns.registerExit performed)
    exact expected.after _ trivial rfl
  | releaseExit b =>
    have released := stepped (.release (List.mem_singleton_self _)) (Returns.releaseExit performed)
    exact released.after _ trivial rfl
  | _ =>
    have busy := (Operation.perform_steady (busy_steady stance hf _ w) rfl).returns performed
      ⟨⟨.began (sound.now.congr (.refl _) rfl rfl rfl rfl) sound.before, .refl _⟩, begun,
        List.suffix_refl _⟩
    exact busy.lull.after _ trivial rfl

theorem interlude_disciplined : Disciplined Stance Interlude foreign := by
  constructor
  · intro operation w₀ w hw
    have kept := run_within stance operation w w ⟨hw.sound, .refl w⟩
    have lull := lull_run stance hf grows hw.sound (.intro (operation.run foreign) w)
    exact ⟨kept.sound, hw.since.trans ⟨kept.since.frames, lull⟩⟩
  · exact enter_interlude stance hf

end

/-- Every call is an interlude for what goes on in it. -/
theorem answer_interlude (outside : Outside) (depth : Nat) :
    Respects Stance Interlude (outside.answer depth) :=
  answer_respects .refl (fun depth hf =>
    interlude_disciplined (answer_stance outside depth) hf (answer_grows outside depth)) depth

end ManagedHost
