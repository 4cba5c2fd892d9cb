import ManagedHost.Proofs.History

/-! # What a bridge does about a runtime

A bridge starts a runtime, looks its entry points up, calls the load method, later the unload
method, and shuts the runtime down. These are the `milestones` of a history. What belongs to one
runtime is a `Life`; milestones are `Paired` if they are one finished life after another, with at
most one that still goes on. Nothing of this can be said when a load is disturbed: when somebody
loads or tears down during a call that starts a runtime, looks a method up or tells a runtime the
bindings (`isCalm`). -/

namespace ManagedHost

/-- A call that a load makes while it brings a runtime up, or one that looks a method up. -/
def ForeignCall.isTender : ForeignCall → Bool
  | startUp _ _ _ | createDelegate _ _ _ _ _ | managed (.load _) _ _ _ => true
  | _ => false

/-- An operation that may bring a runtime up or tear one down. -/
def Operation.restarts : Operation → Bool
  | load _ _ | teardown _ | runExitTeardown => true
  | _ => false

/-- Whether a tender call is under way. -/
def isTender (history : List Moment) : Bool :=
  (underway history).any (endsWithCall ForeignCall.isTender)

/-- Nobody loads or tears down during a tender call. -/
def isCalm : List Moment → Bool
  | [] => true
  | ⟨.began operation, _⟩ :: earlier => isCalm earlier && !(operation.restarts && isTender earlier)
  | _ :: earlier => isCalm earlier

/-- Nobody loads or tears down while a call of a kind is under way. -/
def isUndisturbed (kind : ForeignCall → Bool) : List Moment → Bool
  | [] => true
  | ⟨.began operation, _⟩ :: earlier =>
    isUndisturbed kind earlier &&
      !(operation.restarts && (underway earlier).any (endsWithCall kind))
  | _ :: earlier => isUndisturbed kind earlier

/-- Something that a bridge does about a runtime. -/
inductive Milestone where
  /-- A runtime was started, by a load if there is one. -/
  | started (load : Option (BridgeId × Loader)) (runtime : HostId × HostInstance)
  /-- A load asked a runtime for a method. -/
  | lookedUp (runtime : HostId × HostInstance) (assembly typeName method : String)
      (reply : Except Int32 Address)
  /-- The load method is called. -/
  | loading (b : BridgeId) (address : Address)
  /-- The unload method is called. -/
  | unloading (b : BridgeId) (address : Address)
  | shut (runtime : HostId × HostInstance)

/-- The load that is the innermost operation of what is under way. -/
def innermostLoad : List (List Moment) → Option (BridgeId × Loader)
  | (⟨.began (.load b loader), _⟩ :: _) :: _ => some (b, loader)
  | _ => none

/-- What an event is for a runtime, given the load that it is about. Other look-ups than those of a
load do not count. -/
def Event.milestone? (load : Option (BridgeId × Loader)) : Event → Option Milestone
  | .replied (.startUp host _ _) (.ok started) => some (.started load (host, started))
  | .replied (.createDelegate host started assembly typeName method) reply =>
    load.map fun _ => .lookedUp (host, started) assembly typeName method reply
  | .called (.managed (.load b) address _ _) => some (.loading b address)
  | .called (.managed (.unload b) address _ _) => some (.unloading b address)
  | .called (.shutDown host started) => some (.shut (host, started))
  | _ => none

/-- What bridges did about runtimes, the last thing first. When a call is answered, the call is the
first thing under way, and the load that made it the second. -/
def milestones : List Moment → List Milestone
  | [] => []
  | moment :: earlier =>
    (moment.event.milestone? (innermostLoad (underway earlier).tail)).toList ++ milestones earlier

/-! ## Lives -/

/-- A runtime named an entry point to a load. -/
def Milestone.found (loader : Loader) (runtime : HostId × HostInstance) (method : String)
    (address : Address) : Milestone :=
  lookedUp runtime loader.identity loader.entryType method (.ok address)

/-- A runtime did not name an entry point to a load, or could not be asked because the names hold a
NUL. -/
inductive Missed (loader : Loader) (runtime : HostId × HostInstance) (method : String) :
    List Milestone → Prop
  | unasked (unaskable :
      (isPassable loader.identity && isPassable loader.entryType && isPassable method) = false) :
      Missed loader runtime method []
  | refused {reply : Except Int32 Address}
      (useless : ∀ address, reply = .ok address → address = 0) :
      Missed loader runtime method
        [.lookedUp runtime loader.identity loader.entryType method reply]

/-- An entry point could not be resolved. -/
inductive Unresolved (loader : Loader) (runtime : HostId × HostInstance) : List Milestone → Prop
  | load {missed : List Milestone} (miss : Missed loader runtime loader.loadMethod missed) :
      Unresolved loader runtime missed
  | unload {missed : List Milestone} {onLoad : Address}
      (miss : Missed loader runtime loader.unloadMethod missed) (named : onLoad ≠ 0) :
      Unresolved loader runtime (missed ++ [.found loader runtime loader.loadMethod onLoad])

/-- Both entry points were resolved, the load method first. -/
def entryPoints (loader : Loader) (runtime : HostId × HostInstance) (onLoad onUnload : Address) :
    List Milestone :=
  [.found loader runtime loader.unloadMethod onUnload,
    .found loader runtime loader.loadMethod onLoad]

/-- What a bridge did about one runtime that it loaded, the last thing first, up to some moment. -/
inductive Life (b : BridgeId) (loader : Loader) (runtime : HostId × HostInstance) :
    List Milestone → Prop
  | entering {lookUps : List Milestone}
      (found : lookUps = [] ∨
        ∃ onLoad, onLoad ≠ 0 ∧ lookUps = [.found loader runtime loader.loadMethod onLoad]) :
      Life b loader runtime (lookUps ++ [.started (some (b, loader)) runtime])
  /-- Both methods are called in their turn, and then the runtime is shut down. -/
  | told {onLoad onUnload : Address} {deeds : List Milestone} (named : onLoad ≠ 0 ∧ onUnload ≠ 0)
      (inTurn : deeds <:+ [.shut runtime, .unloading b onUnload, .loading b onLoad]) :
      Life b loader runtime (deeds ++ entryPoints loader runtime onLoad onUnload ++
        [.started (some (b, loader)) runtime])
  /-- Neither method is called. -/
  | missed {lookUps deeds : List Milestone} (unresolved : Unresolved loader runtime lookUps)
      (inTurn : deeds <:+ [.shut runtime]) :
      Life b loader runtime (deeds ++ lookUps ++ [.started (some (b, loader)) runtime])

/-- What a bridge did about a runtime whose load method was called. -/
def toldLife (b : BridgeId) (loader : Loader) (runtime : HostId × HostInstance)
    (onLoad onUnload : Address) : List Milestone :=
  .loading b onLoad :: entryPoints loader runtime onLoad onUnload ++
    [.started (some (b, loader)) runtime]

/-- A life that is over. -/
inductive WholeLife (b : BridgeId) (loader : Loader) (runtime : HostId × HostInstance) :
    List Milestone → Prop
  | told {onLoad onUnload : Address} (named : onLoad ≠ 0 ∧ onUnload ≠ 0) :
      WholeLife b loader runtime
        (.shut runtime :: .unloading b onUnload :: toldLife b loader runtime onLoad onUnload)
  | missed {lookUps : List Milestone} (unresolved : Unresolved loader runtime lookUps) :
      WholeLife b loader runtime
        (.shut runtime :: lookUps ++ [.started (some (b, loader)) runtime])

/-- One life after another, all of them over. -/
inductive Lives : List Milestone → Prop
  | none : Lives []
  | after {b : BridgeId} {loader : Loader} {runtime : HostId × HostInstance}
      {life rest : List Milestone} (whole : WholeLife b loader runtime life) (before : Lives rest) :
      Lives (life ++ rest)

/-- One life after another, of which the last one may still go on. -/
inductive Paired : List Milestone → Prop
  | finished {lives : List Milestone} (before : Lives lives) : Paired lives
  | goesOn {b : BridgeId} {loader : Loader} {runtime : HostId × HostInstance}
      {life rest : List Milestone} (now : Life b loader runtime life) (before : Lives rest) :
      Paired (life ++ rest)

/-! ## Whatever comes first comes first at every earlier moment -/

section

variable {b : BridgeId} {loader : Loader} {runtime : HostId × HostInstance}
  {life lives earlier later : List Milestone}

theorem WholeLife.isLife (h : WholeLife b loader runtime life) : Life b loader runtime life := by
  cases h with
  | told named => exact .told named List.suffix_rfl
  | missed unresolved => exact .missed unresolved List.suffix_rfl

theorem Life.ne_nil (h : Life b loader runtime life) : life ≠ [] := by
  cases h <;> simp

/-- A runtime that was asked in vain was asked while its load was entering. -/
theorem Unresolved.entering (h : Unresolved loader runtime life) {first : Milestone}
    {rest : List Milestone} (same : life = first :: rest) :
    rest = [] ∨ ∃ onLoad, onLoad ≠ 0 ∧ rest = [.found loader runtime loader.loadMethod onLoad] := by
  cases h with
  | load miss =>
    cases miss with
    | unasked => cases same
    | refused =>
      cases same
      exact .inl rfl
  | unload miss named =>
    cases miss with
    | unasked =>
      cases same
      exact .inl rfl
    | refused =>
      cases same
      exact .inr ⟨_, named, rfl⟩

/-- Without its last milestone a life is a life still, or nothing. -/
theorem Life.tail {last : Milestone} {rest : List Milestone}
    (h : Life b loader runtime (last :: rest)) : rest = [] ∨ Life b loader runtime rest := by
  generalize same : last :: rest = life at h
  cases h with
  | entering found =>
    rcases found with rfl | ⟨onLoad, -, rfl⟩
    · cases same
      exact .inl rfl
    · cases same
      exact .inr (.entering (.inl rfl))
  | @told onLoad onUnload deeds named inTurn =>
    cases deeds with
    | nil =>
      cases same
      exact .inr (.entering (.inr ⟨onLoad, named.1, rfl⟩))
    | cons deed deeds =>
      cases same
      exact .inr (.told named ((List.suffix_cons _ _).trans inTurn))
  | @missed lookUps deeds unresolved inTurn =>
    cases deeds with
    | nil =>
      cases lookUps with
      | nil =>
        cases same
        exact .inl rfl
      | cons lookUp lookUps =>
        cases same
        exact .inr (.entering (unresolved.entering rfl))
    | cons deed deeds =>
      cases same
      exact .inr (.missed unresolved ((List.suffix_cons _ _).trans inTurn))

theorem Paired.tail {last : Milestone} (h : Paired (last :: earlier)) : Paired earlier := by
  have drop : ∀ {b loader runtime life rest}, Life b loader runtime life → Lives rest →
      last :: earlier = life ++ rest → Paired earlier := by
    intro b loader runtime life rest now before same
    cases life with
    | nil => exact absurd rfl now.ne_nil
    | cons first life =>
      cases same
      rcases now.tail with rfl | shorter
      · exact .finished before
      · exact .goesOn shorter before
  generalize same : last :: earlier = lives at h
  cases h with
  | finished before =>
    cases before with
    | none => cases same
    | after whole before => exact drop whole.isLife before same
  | goesOn now before => exact drop now before same

/-- What is paired was so at every earlier moment. -/
theorem Paired.of_suffix (h : Paired later) (suffix : earlier <:+ later) : Paired earlier := by
  induction later with
  | nil =>
    obtain rfl := List.suffix_nil.mp suffix
    exact h
  | cons last later ih =>
    rcases List.suffix_cons_iff.mp suffix with rfl | suffix
    · exact h
    · exact ih h.tail suffix

end

section

variable {h h' : List Moment}

theorem milestones_of_suffix (suffix : h <:+ h') : milestones h <:+ milestones h' := by
  induction h' with
  | nil =>
    obtain rfl := List.suffix_nil.mp suffix
    exact List.suffix_rfl
  | cons moment later ih =>
    rcases List.suffix_cons_iff.mp suffix with rfl | suffix
    · exact List.suffix_rfl
    · exact (ih suffix).trans (List.suffix_append _ _)

theorem isUndisturbed_tail {kind : ForeignCall → Bool} {moment : Moment}
    (calm : isUndisturbed kind (moment :: h) = true) : isUndisturbed kind h = true := by
  obtain ⟨event, p⟩ := moment
  cases event with
  | began operation => exact (Bool.and_eq_true_iff.mp calm).1
  | _ => exact calm

theorem isUndisturbed_of_suffix {kind : ForeignCall → Bool} (suffix : h <:+ h')
    (calm : isUndisturbed kind h' = true) : isUndisturbed kind h = true := by
  induction h' with
  | nil =>
    obtain rfl := List.suffix_nil.mp suffix
    exact calm
  | cons moment later ih =>
    rcases List.suffix_cons_iff.mp suffix with rfl | suffix
    · exact calm
    · exact ih suffix (isUndisturbed_tail calm)

/-- Where nobody disturbs such calls, a load or a teardown does not begin during one. -/
theorem not_underway_of_began {kind : ForeignCall → Bool} {operation : Operation} {p : Process}
    (calm : isUndisturbed kind (⟨.began operation, p⟩ :: h) = true)
    (restarts : operation.restarts = true) : (underway h).any (endsWithCall kind) = false := by
  rw [isUndisturbed, restarts, Bool.true_and, Bool.and_eq_true] at calm
  simpa using calm.2

theorem isCalm_eq (h : List Moment) : isCalm h = isUndisturbed ForeignCall.isTender h := by
  induction h with
  | nil => rfl
  | cons moment earlier ih =>
    obtain ⟨event, p⟩ := moment
    cases event with
    | began operation =>
      rw [isCalm, ih]
      rfl
    | _ => exact ih

theorem isCalm_of_suffix (suffix : h <:+ h') (calm : isCalm h' = true) : isCalm h = true := by
  rw [isCalm_eq] at calm ⊢
  exact isUndisturbed_of_suffix suffix calm

theorem isCalm_tail {moment : Moment} (calm : isCalm (moment :: h) = true) : isCalm h = true :=
  isCalm_of_suffix (List.suffix_cons _ _) calm

theorem not_tender_of_began {operation : Operation} {p : Process}
    (calm : isCalm (⟨.began operation, p⟩ :: h) = true) (restarts : operation.restarts = true) :
    isTender h = false := by
  rw [isCalm_eq] at calm
  exact not_underway_of_began calm restarts

theorem isTender_congr (he : underway h' = underway h) : isTender h' = isTender h := by
  rw [isTender, isTender, he]

@[simp] theorem isTender_called (call : ForeignCall) (p : Process) (h : List Moment) :
    isTender (⟨.called call, p⟩ :: h) = (call.isTender || isTender h) := rfl

end

end ManagedHost
