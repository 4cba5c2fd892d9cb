import ManagedHost.Proofs.Keeps

/-! # What a history tells

A history lists what happened, the newest first. From it can be read which calls and operations are
under way (`underway`), which runtimes were started (`startedRuntimes`) and which were passed on to
be shut down (`shutRuntimes`). `Recorded` says that a property of histories and states held at every
moment of a history: between operations, and inside every call of code outside the program, up to
the moment of its reply. -/

namespace ManagedHost

/-- What is under way after the moments of a history, the innermost first: each time its beginning
and everything before. -/
def underway : List Moment → List (List Moment)
  | [] => []
  | ⟨.called call, p⟩ :: earlier => (⟨.called call, p⟩ :: earlier) :: underway earlier
  | ⟨.began operation, p⟩ :: earlier => (⟨.began operation, p⟩ :: earlier) :: underway earlier
  | ⟨.replied _ _, _⟩ :: earlier => (underway earlier).tail
  | ⟨.ended _ _, _⟩ :: earlier => (underway earlier).tail

/-- The call is one that a load makes while it holds the place for a runtime and has none. -/
def ForeignCall.prepares : ForeignCall → Bool
  | listRuntimes _ | runLauncher _ | openFile _ | openSupplied _ _ | startUp _ _ _ => true
  | _ => false

/-- The call is one that tearing a bridge down makes. -/
def ForeignCall.closes : ForeignCall → Bool
  | managed (.unload _) _ _ _ | shutDown _ _ => true
  | _ => false

/-- A history ends with a call of a kind. -/
def endsWithCall (kind : ForeignCall → Bool) : List Moment → Bool
  | ⟨.called call, _⟩ :: _ => kind call
  | _ => false

/-- Whether a load holds the place for a runtime without having one. -/
def isPreparing (history : List Moment) : Bool :=
  (underway history).any (endsWithCall ForeignCall.prepares)

/-- Whether a bridge is being torn down. -/
def isClosing (history : List Moment) : Bool :=
  (underway history).any (endsWithCall ForeignCall.closes)

/-- The runtime that an event is the successful start of, with its hosting library. -/
def Event.started? : Event → Option (HostId × HostInstance)
  | .replied (.startUp host _ _) (.ok started) => some (host, started)
  | _ => none

/-- The runtime that an event passes on to be shut down, with its hosting library. -/
def Event.shut? : Event → Option (HostId × HostInstance)
  | .called (.shutDown host started) => some (host, started)
  | _ => none

/-- The runtimes that were started, the last one first. -/
def startedRuntimes (history : List Moment) : List (HostId × HostInstance) :=
  history.filterMap (·.event.started?)

/-- The runtimes that were passed on to be shut down, the last one first. -/
def shutRuntimes (history : List Moment) : List (HostId × HostInstance) :=
  history.filterMap (·.event.shut?)

/-- The history by which the state at a moment is judged. A call is under way until its reply is
there, so the reply itself does not count yet. -/
def Moment.known (moment : Moment) (earlier : List Moment) : List Moment :=
  match moment.event with
  | .replied _ _ => earlier
  | _ => moment :: earlier

/-- At every moment of a history the property held. -/
def Recorded (J : List Moment → Process → Prop) (history : List Moment) : Prop :=
  ∀ moment earlier, moment :: earlier <:+ history → J (moment.known earlier) moment.process

/-- The property holds now and held at every moment before. -/
structure Sound (J : List Moment → Process → Prop) (w : World) : Prop where
  now : J w.history w.process
  before : Recorded J w.history

section

variable {J : List Moment → Process → Prop}

theorem Recorded.nil : Recorded J [] := by
  intro moment earlier h
  cases List.suffix_nil.mp h

theorem Recorded.cons {moment : Moment} {earlier : List Moment}
    (hm : J (moment.known earlier) moment.process) (he : Recorded J earlier) :
    Recorded J (moment :: earlier) := by
  intro m before h
  rcases List.suffix_cons_iff.mp h with h | h
  · cases h
    exact hm
  · exact he m before h

theorem Recorded.mono {J' : List Moment → Process → Prop} {h : List Moment} (hr : Recorded J h)
    (hJ : ∀ h p, J h p → J' h p) : Recorded J' h :=
  fun moment earlier hm => hJ _ _ (hr moment earlier hm)

theorem Sound.called {w : World} {call : ForeignCall}
    (h : J (⟨.called call, w.process⟩ :: w.history) w.process) (hr : Recorded J w.history) :
    Sound J (w.after (.called call)) :=
  ⟨h, .cons h hr⟩

theorem Sound.began {w : World} {operation : Operation}
    (h : J (⟨.began operation, w.process⟩ :: w.history) w.process) (hr : Recorded J w.history) :
    Sound J (w.after (.began operation)) :=
  ⟨h, .cons h hr⟩

theorem Sound.ended {w : World} {operation : Operation} {result : operation.Result}
    (h : J (⟨.ended operation result, w.process⟩ :: w.history) w.process)
    (hr : Recorded J w.history) : Sound J (w.after (.ended operation result)) :=
  ⟨h, .cons h hr⟩

theorem Sound.and {K : List Moment → Process → Prop} {w : World} (hJ : Sound J w) (hK : Sound K w) :
    Sound (fun h p => J h p ∧ K h p) w :=
  ⟨⟨hJ.now, hK.now⟩, fun moment earlier h =>
    ⟨hJ.before moment earlier h, hK.before moment earlier h⟩⟩

theorem Sound.left {K : List Moment → Process → Prop} {w : World}
    (both : Sound (fun h p => J h p ∧ K h p) w) : Sound J w :=
  ⟨both.now.1, both.before.mono fun _ _ now => now.1⟩

theorem Sound.right {K : List Moment → Process → Prop} {w : World}
    (both : Sound (fun h p => J h p ∧ K h p) w) : Sound K w :=
  ⟨both.now.2, both.before.mono fun _ _ now => now.2⟩

theorem Sound.replied {w : World} (hw : Sound J w) (call : ForeignCall) (reply : call.Reply) :
    Recorded J (w.after (.replied call reply)).history :=
  .cons hw.now hw.before

end

@[simp] theorem underway_called (call : ForeignCall) (p : Process) (h : List Moment) :
    underway (⟨.called call, p⟩ :: h) = (⟨.called call, p⟩ :: h) :: underway h := rfl

@[simp] theorem underway_replied (call : ForeignCall) (reply : call.Reply) (p : Process)
    (h : List Moment) : underway (⟨.replied call reply, p⟩ :: h) = (underway h).tail := rfl

@[simp] theorem underway_ended (operation : Operation) (result : operation.Result) (p : Process)
    (h : List Moment) : underway (⟨.ended operation result, p⟩ :: h) = (underway h).tail := rfl

theorem isPreparing_congr {h h' : List Moment} (he : underway h' = underway h) :
    isPreparing h' = isPreparing h := by
  rw [isPreparing, isPreparing, he]

theorem isClosing_congr {h h' : List Moment} (he : underway h' = underway h) :
    isClosing h' = isClosing h := by
  rw [isClosing, isClosing, he]

@[simp] theorem isPreparing_called (call : ForeignCall) (p : Process) (h : List Moment) :
    isPreparing (⟨.called call, p⟩ :: h) = (call.prepares || isPreparing h) := rfl

@[simp] theorem isClosing_called (call : ForeignCall) (p : Process) (h : List Moment) :
    isClosing (⟨.called call, p⟩ :: h) = (call.closes || isClosing h) := rfl

end ManagedHost
