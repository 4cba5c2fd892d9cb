import ManagedHost.Proofs.ConnectEvents
import ManagedHost.Proofs.SeatHolders
import ManagedHost.Proofs.Sparing
import ManagedHost.Proofs.UnrelatedDeath

/-! # Runs in which players come and go

A run (`Runs`) is all that happens in a process from its start: code outside has operations carried
out, clients are seated by connect events, and the program itself makes shared values and shares
them. It leaves marks, from which the turns of every lobby can be read, whoever asked for them and
however deep inside of other calls (`turns`). A lobby that was made empty tells its turns at every
moment of every run (`Meets.seatedBy`). The operations can do more than that to no lobby, because of
the steps that they are made of only joining and leaving move anybody (`HeapStep.staySeated`). -/

namespace ManagedHost

open ManagedHost.Action

/-! ## What a run shows -/

/-- Something that is known of a run. -/
inductive Mark where
  | happened (moment : Moment)
  /-- The program itself made a shared value. -/
  | made (id : ObjectId) (datum : Datum)
  /-- A connect event gave a client a seat of a lobby. -/
  | seated (lobby : ObjectId) (seat : UInt8)

/-- The turn of a lobby, if this is one. -/
def Mark.turn? (id : ObjectId) : Mark → Option Turn
  | .happened ⟨.ended (.join lobby) (some seat), _⟩ =>
    if lobby = id then some (.joined seat) else none
  | .happened ⟨.ended (.leave lobby seat) (), _⟩ => if lobby = id then some (.left seat) else none
  | .seated lobby seat => if lobby = id then some (.joined seat) else none
  | _ => none

/-- The turns of a lobby, the newest first. -/
def turns (id : ObjectId) (marks : List Mark) : List Turn := marks.filterMap (·.turn? id)

/-- An empty lobby is made. -/
def Mark.Opens (id : ObjectId) : Mark → Prop
  | .happened ⟨.ended (.create _ datum) created, _⟩ => datum = .lobby {} ∧ created = some id
  | .made created datum => datum = .lobby {} ∧ created = id
  | _ => False

/-- A lobby was made, and was empty then. -/
def WasOpened (id : ObjectId) (marks : List Mark) : Prop := ∃ mark ∈ marks, mark.Opens id

theorem turns_cons (id : ObjectId) (mark : Mark) (marks : List Mark) :
    turns id (mark :: marks) = (mark.turn? id).toList ++ turns id marks := by
  rw [turns, List.filterMap_cons]
  cases mark.turn? id <;> rfl

/-- The mark has nothing to do with lobbies. -/
structure Mark.IsPlain (mark : Mark) : Prop where
  turn? : ∀ id, mark.turn? id = none
  opens : ∀ id, ¬ mark.Opens id

/-- The mark is a turn of just this lobby. -/
structure Mark.IsTurn (mark : Mark) (id : ObjectId) (turn : Turn) : Prop where
  turn? : ∀ other, mark.turn? other = if id = other then some turn else none
  opens : ∀ other, ¬ mark.Opens other

theorem wasOpened_cons {id : ObjectId} {mark : Mark} {marks : List Mark} :
    WasOpened id (mark :: marks) ↔ mark.Opens id ∨ WasOpened id marks := by
  simp [WasOpened]

theorem WasOpened.earlier {id : ObjectId} {mark : Mark} {marks : List Mark}
    (opened : WasOpened id (mark :: marks)) (other : ¬ mark.Opens id) : WasOpened id marks :=
  (wasOpened_cons.mp opened).resolve_left other

/-! ## Shared values -/

namespace Heap

variable {heap heap' : Heap} {id : ObjectId} {lobby lobby' : Lobby}

theorem lobby?_of_datum? (there : heap.datum? id = some (.lobby lobby)) :
    heap.lobby? id = some lobby := by
  rw [lobby?, there]

theorem lt_nextId (there : heap.lobby? id = some lobby) : id < heap.nextId := by
  obtain ⟨allocation, found, -⟩ := Option.map_eq_some_iff.mp (datum?_of_lobby? there)
  exact (List.getElem?_eq_some_iff.mp found).1

theorem nextId_write (heap : Heap) (id : ObjectId) (datum : Datum) :
    (heap.write id datum).nextId = heap.nextId := List.length_modify ..

theorem lobby?_write_of_ne {other : ObjectId} (differs : other ≠ id) (new : Datum) :
    (heap.write id new).lobby? other = heap.lobby? other := by
  rw [lobby?, lobby?, datum?_write_of_ne differs]

/-- In every lobby everybody sits where they sat. -/
structure StaySeated (heap heap' : Heap) : Prop where
  grown : heap.nextId ≤ heap'.nextId
  tells : ∀ {id lobby turns}, heap.lobby? id = some lobby → lobby.Tells turns →
    ∃ lobby', heap'.lobby? id = some lobby' ∧ lobby'.Tells turns

theorem StaySeated.refl (heap : Heap) : StaySeated heap heap :=
  ⟨Nat.le_refl _, fun there tells => ⟨_, there, tells⟩⟩

/-- Where no value changes nobody moves. -/
theorem staySeated_of_datum? (grown : heap.nextId ≤ heap'.nextId)
    (stays : ∀ id datum, heap.datum? id = some datum → heap'.datum? id = some datum) :
    StaySeated heap heap' :=
  ⟨grown, fun there tells =>
    ⟨_, lobby?_of_datum? (stays _ _ (datum?_of_lobby? there)), tells⟩⟩

theorem staySeated_allocate (heap : Heap) (address : Address) (datum : Datum) :
    StaySeated heap (heap.allocate address datum) := by
  refine staySeated_of_datum? ?_ fun id value there => ?_
  · simp [nextId, allocate]
  · obtain ⟨allocation, found, rfl⟩ := Option.map_eq_some_iff.mp there
    exact Option.map_eq_some_iff.mpr ⟨allocation, get?_allocate found address datum, rfl⟩

/-- Nobody moves when owners come and go. -/
theorem staySeated_change (heap : Heap) (id : ObjectId) {f : Allocation → Allocation}
    (stays : ∀ allocation, (f allocation).datum = allocation.datum) :
    StaySeated heap (heap.change id f) := by
  refine staySeated_of_datum? ?_ fun other datum there => ?_
  · simp [nextId, change]
  · obtain ⟨allocation, found, rfl⟩ := Option.map_eq_some_iff.mp there
    rw [datum?, get?_change, found, Option.map_map]
    refine congrArg some ?_
    change (if id = other then f allocation else allocation).datum = _
    split
    · exact stays allocation
    · rfl

theorem staySeated_kick {seat : UInt8} (there : heap.lobby? id = some lobby)
    (kicked : lobby.kick? seat = some lobby') :
    StaySeated heap (heap.write id (.lobby lobby')) := by
  refine ⟨(nextId_write ..).ge, fun {other found turns} there' tells => ?_⟩
  by_cases same : other = id
  · subst same
    cases there.symm.trans there'
    exact ⟨lobby', lobby?_write_lobby there lobby', tells.kicked kicked⟩
  · exact ⟨found, by rwa [lobby?_write_of_ne same], tells⟩

/-- No lobby is where a connection is. -/
theorem staySeated_client {client : Client} (there : heap.client? id = some client)
    (new : Client) : StaySeated heap (heap.write id (.connection new)) := by
  refine ⟨(nextId_write ..).ge, fun {other found turns} there' tells => ?_⟩
  have differs : other ≠ id := by
    rintro rfl
    cases (datum?_of_client? there).symm.trans (datum?_of_lobby? there')
  exact ⟨found, by rwa [lobby?_write_of_ne differs], tells⟩

end Heap

/-- The end of the operation tells more than that it has ended: somebody may have joined or left, or
a lobby may have been made. -/
def Operation.concernsLobbies : Operation → Bool
  | join _ | leave _ _ | create _ _ => true
  | _ => false

/-- Only joining and leaving move anybody. -/
theorem HeapStep.staySeated {operation : Operation} {heap heap' : Heap}
    (other : operation.concernsLobbies = false) (step : HeapStep operation heap heap') :
    heap.StaySeated heap' := by
  cases step with
  | none => exact .refl heap
  | made | joined | left => cases other
  | owned _ value => exact Heap.staySeated_change heap value fun _ => rfl
  | disowned _ value => exact Heap.staySeated_change heap value fun _ => rfl
  | kicked there kicked => exact Heap.staySeated_kick there kicked

theorem HostingStep.heap {p p' : Process} (step : HostingStep p p') : p'.heap = p.heap := by
  cases step with
  | empty b => exact Process.heap_setRegistry _ (.bridge b) []
  | _ => rfl

theorem Effect.entered {operation : Operation} {p p' : Process} (step : Effect operation p p')
    (entered : p.Entered) : p'.Entered := Process.entered_kept p p' (.change step.change) entered

theorem HostingStep.entered {p p' : Process} (step : HostingStep p p') (entered : p.Entered) :
    p'.Entered :=
  Process.entered_kept.lasting.host (h := []) step entered

/-! ## What holds of the lobbies -/

/-- Every lobby that was made empty tells its turns, and every binding has its entry. -/
structure SeatedBy (marks : List Mark) (p : Process) : Prop where
  entered : p.Entered
  /-- Nobody joins a lobby that is not made yet. -/
  unmade : ∀ id, p.heap.nextId ≤ id → headcount (turns id marks) = 0
  lobby : ∀ id, WasOpened id marks → ∃ lobby, p.heap.lobby? id = some lobby ∧
    lobby.Tells (turns id marks)

namespace SeatedBy

variable {marks : List Mark} {mark : Mark} {p p' : Process} {id : ObjectId} {turn : Turn}
  {lobby lobby' : Lobby}

theorem start : SeatedBy [] {} where
  entered := Process.entered_start
  unmade _ _ := rfl
  lobby _ opened := by simp [WasOpened] at opened

theorem put (seated : SeatedBy marks p) (entered : p'.Entered) (stay : p.heap.StaySeated p'.heap) :
    SeatedBy marks p' where
  entered := entered
  unmade id late := seated.unmade id (stay.grown.trans late)
  lobby id opened := by
    obtain ⟨lobby, there, tells⟩ := seated.lobby id opened
    exact stay.tells there tells

theorem heap (seated : SeatedBy marks p) {heap : Heap} (stay : p.heap.StaySeated heap) :
    SeatedBy marks { p with heap } :=
  seated.put (seated.entered.fewer rfl fun _ _ member => member) stay

theorem plain (seated : SeatedBy marks p) (plain : mark.IsPlain) : SeatedBy (mark :: marks) p where
  entered := seated.entered
  unmade id late := by
    rw [turns_cons, plain.turn?]
    exact seated.unmade id late
  lobby id opened := by
    rw [turns_cons, plain.turn?]
    exact seated.lobby id (opened.earlier (plain.opens id))

/-- A player joins or leaves a lobby. -/
theorem takes (seated : SeatedBy marks p) (isTurn : mark.IsTurn id turn)
    (there : p.heap.lobby? id = some lobby)
    (turns : ∀ turns, lobby.Tells turns → lobby'.Tells (turn :: turns)) :
    SeatedBy (mark :: marks) { p with heap := p.heap.write id (.lobby lobby') } := by
  refine ⟨seated.entered.fewer rfl fun _ _ member => member, fun other late => ?_,
    fun other opened => ?_⟩
  · rw [Heap.nextId_write] at late
    have differs : id ≠ other := Nat.ne_of_lt (Nat.lt_of_lt_of_le (Heap.lt_nextId there) late)
    rw [turns_cons, isTurn.turn?, if_neg differs]
    exact seated.unmade other late
  · obtain ⟨found, there', tells⟩ := seated.lobby other (opened.earlier (isTurn.opens other))
    rw [turns_cons, isTurn.turn?]
    by_cases same : id = other
    · subst same
      cases there.symm.trans there'
      rw [if_pos rfl]
      exact ⟨lobby', Heap.lobby?_write_lobby there lobby', turns _ tells⟩
    · rw [if_neg same]
      exact ⟨found, (Heap.lobby?_write_of_ne (Ne.symm same) _).trans there', tells⟩

/-- Who leaves no lobby was in none. -/
theorem leftNowhere (seated : SeatedBy marks p) {seat : UInt8}
    (isTurn : mark.IsTurn id (.left seat)) (nowhere : p.heap.lobby? id = none) :
    SeatedBy (mark :: marks) p := by
  refine ⟨seated.entered, fun other late => ?_, fun other opened => ?_⟩
  · have before := seated.unmade other late
    rw [turns_cons, isTurn.turn?]
    split
    · exact before
    · exact before
  · obtain ⟨found, there, tells⟩ := seated.lobby other (opened.earlier (isTurn.opens other))
    have differs : id ≠ other := by
      rintro rfl
      cases nowhere.symm.trans there
    rw [turns_cons, isTurn.turn?, if_neg differs]
    exact ⟨found, there, tells⟩

/-- A value is made; it may be an empty lobby. -/
theorem made (seated : SeatedBy marks p) (address : Address) {datum : Datum}
    (silent : ∀ id, mark.turn? id = none)
    (opens : ∀ id, mark.Opens id → datum = .lobby {} ∧ p.heap.nextId = id) :
    SeatedBy (mark :: marks) { p with heap := p.heap.allocate address datum } := by
  have stayed := seated.heap (Heap.staySeated_allocate p.heap address datum)
  refine ⟨stayed.entered, fun id late => ?_, fun id opened => ?_⟩
  · rw [turns_cons, silent]
    exact stayed.unmade id late
  · rw [turns_cons, silent]
    rcases wasOpened_cons.mp opened with isNew | earlier
    · obtain ⟨rfl, rfl⟩ := opens id isNew
      refine ⟨{}, Heap.lobby?_of_datum? ?_, .empty (seated.unmade _ (Nat.le_refl _))⟩
      rw [Heap.datum?, Heap.get?_allocate_eq, if_pos rfl]
      rfl
    · exact stayed.lobby id earlier

end SeatedBy

/-- So it was at every moment. -/
def SeatedThroughout : List Mark → Prop
  | [] => True
  | .happened moment :: earlier =>
    SeatedBy (.happened moment :: earlier) moment.process ∧ SeatedThroughout earlier
  | _ :: earlier => SeatedThroughout earlier

theorem SeatedThroughout.of_append {later earlier : List Mark}
    (throughout : SeatedThroughout (later ++ earlier)) : SeatedThroughout earlier := by
  induction later with
  | nil => exact throughout
  | cons mark later ih =>
    cases mark with
    | happened => exact ih throughout.2
    | made | seated => exact ih throughout

/-- All lobbies have told their turns until now. -/
structure Sits (marks : List Mark) (p : Process) : Prop where
  now : SeatedBy marks p
  before : SeatedThroughout marks

/-- From one world to a later one the lobbies go on telling their turns. -/
def Seating (w w' : World) : Prop :=
  ∃ since, w'.history = since ++ w.history ∧ ∀ marks, Sits marks w.process →
    Sits (since.map .happened ++ marks) w'.process

namespace Seating

variable {u v w w' : World}

theorem refl (w : World) : Seating w w := ⟨[], rfl, fun _ sits => sits⟩

theorem trans (first : Seating u v) (second : Seating v w) : Seating u w := by
  obtain ⟨since, grown, sits⟩ := first
  obtain ⟨since', grown', sits'⟩ := second
  refine ⟨since' ++ since, by rw [grown', grown, List.append_assoc], fun marks before => ?_⟩
  rw [List.map_append, List.append_assoc]
  exact sits' _ (sits marks before)

theorem put {p : Process} (entered : w.process.Entered → p.Entered)
    (stay : w.process.heap.StaySeated p.heap) : Seating w (w.put p) :=
  ⟨[], rfl, fun _ sits => ⟨sits.now.put (entered sits.now.entered) stay, sits.before⟩⟩

theorem of_alike (alike : Alike w w') : Seating w w' := by
  obtain ⟨process, history, -, -⟩ := alike
  exact ⟨[], history, fun _ sits => by rwa [process]⟩

/-- Something happens that has nothing to do with lobbies. -/
theorem after (w : World) {event : Event} (plain : ∀ p, (Mark.happened ⟨event, p⟩).IsPlain) :
    Seating w (w.after event) := by
  refine ⟨[⟨event, w.process⟩], rfl, fun marks sits => ?_⟩
  have seated := sits.now.plain (plain w.process)
  exact ⟨seated, seated, sits.before⟩

/-- The process is changed, and then an operation ends; it is known what this means. -/
theorem ended {operation : Operation} {result : operation.Result}
    (history : w'.history = w.history)
    (seated : ∀ marks, SeatedBy marks w.process →
      SeatedBy (.happened ⟨.ended operation result, w'.process⟩ :: marks) w'.process) :
    Seating w (w'.after (.ended operation result)) := by
  refine ⟨[⟨.ended operation result, w'.process⟩], by rw [World.history_after, history]; rfl,
    fun marks sits => ?_⟩
  have now := seated marks sits.now
  exact ⟨now, now, sits.before⟩

end Seating

/-! ## Every operation goes on with it -/

theorem Mark.isPlain_called (call : ForeignCall) (p : Process) :
    (happened ⟨.called call, p⟩).IsPlain := ⟨fun _ => rfl, fun _ opens => opens⟩

theorem Mark.isPlain_replied (call : ForeignCall) (reply : call.Reply) (p : Process) :
    (happened ⟨.replied call reply, p⟩).IsPlain := ⟨fun _ => rfl, fun _ opens => opens⟩

theorem Mark.isPlain_began (operation : Operation) (p : Process) :
    (happened ⟨.began operation, p⟩).IsPlain := ⟨fun _ => rfl, fun _ opens => opens⟩

theorem Mark.isPlain_ended {operation : Operation} (other : operation.concernsLobbies = false)
    (result : operation.Result) (p : Process) :
    (happened ⟨.ended operation result, p⟩).IsPlain := by
  cases operation with
  | join | leave | create => cases other
  | _ => exact ⟨fun _ => rfl, fun _ opens => opens⟩

theorem Mark.isTurn_joined (id : ObjectId) (seat : UInt8) (p : Process) :
    (happened ⟨.ended (.join id) (some seat), p⟩).IsTurn id (.joined seat) :=
  ⟨fun _ => rfl, fun _ opens => opens⟩

theorem Mark.isTurn_left (id : ObjectId) (seat : UInt8) (p : Process) :
    (happened ⟨.ended (.leave id seat) (), p⟩).IsTurn id (.left seat) :=
  ⟨fun _ => rfl, fun _ opens => opens⟩

theorem Mark.isTurn_seated (id : ObjectId) (seat : UInt8) :
    (seated id seat).IsTurn id (.joined seat) := ⟨fun _ => rfl, fun _ opens => opens⟩

section

variable {foreign : Foreign} {w₀ w w' : World} (hf : Respects whatever Seating foreign)
include hf

theorem seating_call (call : ForeignCall) : Keeps (Seating w₀) (foreign call) := by
  intro w since
  obtain ⟨reply, w₁, ran, answered⟩ := hf call w ⟨trivial, fun _ _ _ => trivial⟩
  rw [ran]
  have called : Seating w (w.after (.called call)) := .after w (Mark.isPlain_called call)
  exact since.trans (called.trans (answered.since.trans (.after w₁ (Mark.isPlain_replied _ reply))))

theorem seating_steady {operation : Operation} (other : operation.concernsLobbies = false) :
    SteadyCallsIn operation foreign (Seating w₀) where
  effect _ _ step values since :=
    since.trans (.put step.entered (values.staySeated other))
  write _ _ since := since.trans (.of_alike ⟨rfl, rfl, rfl, rfl⟩)
  remember _ _ since := since.trans (.of_alike ⟨rfl, rfl, rfl, rfl⟩)
  native _ _ _ := seating_call hf _
  createDelegate _ _ _ _ _ := seating_call hf _
  imported _ _ _ _ _ := seating_call hf _

theorem seating_hosting : SteadyHosting foreign (Seating w₀) where
  step w p step since := by
    refine since.trans (.put step.entered ?_)
    rw [step.heap]
    exact .refl _
  alike _ _ alike since := since.trans (.of_alike alike)
  call := seating_call hf

omit hf in
/-- A player joins, if there is a lobby with a free seat. -/
theorem Action.Returns.joinEnds {id : ObjectId} {given : Option UInt8}
    (ran : Returns (Action.join id) w given w') :
    Seating w (w'.after (.ended (.join id) given)) := by
  rcases ran.joins with ⟨lobby, seat, lobby', there, joined, rfl, rfl⟩ | ⟨-, rfl, rfl⟩
  · refine .ended rfl fun marks seated => ?_
    refine seated.takes (Mark.isTurn_joined ..) there fun turns tells => ?_
    exact tells.joined (Lobby.admits_of_join joined)
  · exact .ended rfl fun marks seated => seated.plain ⟨fun _ => rfl, fun _ opens => opens⟩

omit hf in
theorem Action.Returns.leaves {id : ObjectId} {seat : UInt8}
    (ran : Returns (Action.leave id seat) w () w') :
    (∃ lobby, w.process.heap.lobby? id = some lobby ∧ w' = w.put { w.process with
      heap := w.process.heap.write id (.lobby (lobby.leave seat)) }) ∨
    w.process.heap.lobby? id = none ∧ w' = w := by
  obtain ⟨found, w₁, looked, ran⟩ := Returns.bind ran
  cases looked
  split at ran
  · next lobby there => exact .inl ⟨lobby, there, ran.updateProcess⟩
  · next nowhere =>
    obtain ⟨-, rfl⟩ := Returns.pure ran
    exact .inr ⟨Option.eq_none_iff_forall_ne_some.mpr nowhere, rfl⟩

omit hf in
theorem Action.Returns.leaveEnds {id : ObjectId} {seat : UInt8}
    (ran : Returns (Action.leave id seat) w () w') :
    Seating w (w'.after (.ended (.leave id seat) ())) := by
  rcases ran.leaves with ⟨lobby, there, rfl⟩ | ⟨nowhere, rfl⟩
  · refine .ended rfl fun marks seated => ?_
    refine seated.takes (Mark.isTurn_left ..) there fun turns tells => ?_
    exact tells.left (lobby.releases_leave seat)
  · exact .ended rfl fun marks seated =>
      seated.leftNowhere (Mark.isTurn_left ..) nowhere

omit hf in
theorem Action.Returns.createEnds {address : Address} {datum : Datum} {made : Option ObjectId}
    (ran : Returns (Action.create address datum) w made w') (history : w'.history = w.history) :
    Seating w (w'.after (.ended (.create address datum) made)) := by
  refine .ended history fun marks seated => ?_
  rcases ran.create with ⟨rfl, same⟩ | ⟨rfl, allocated⟩
  · rw [same]
    exact seated.plain ⟨fun _ => rfl, fun _ => nofun⟩
  · rw [allocated]
    exact seated.made address (fun _ => rfl) fun id opens => ⟨opens.1, Option.some.inj opens.2⟩

theorem seating_run (operation : Operation) {result : operation.Result}
    (ran : Returns (operation.run foreign) w result w') : Seating w w' := by
  obtain ⟨w₁, performed, rfl⟩ := ran.run
  have began : Seating w (w.after (.began operation)) := .after w (Mark.isPlain_began operation)
  refine began.trans ?_
  cases other : operation.concernsLobbies with
  | true =>
    cases operation with
    | join id => exact Returns.joinEnds performed
    | leave id seat => exact Returns.leaveEnds performed
    | create address datum =>
      exact Returns.createEnds performed (Operation.history_perform_silent rfl performed)
    | _ => cases other
  | false =>
    have ends : Seating w₁ (w₁.after (.ended operation result)) :=
      .after w₁ (Mark.isPlain_ended other result)
    refine Seating.trans ?_ ends
    cases hosts : operation.hosts with
    | true =>
      exact (operation.perform_hosting (seating_hosting hf) hosts).returns performed (.refl _)
    | false =>
      exact (Operation.perform_steady (seating_steady hf other) hosts).returns performed (.refl _)

theorem seating_disciplined : Disciplined whatever Seating foreign where
  run operation w₀ w within :=
    within_whatever (within.since.trans (seating_run hf operation (.intro _ w)))
  enter id adapter cells w₀ w within := by
    have steady : SteadyCallsIn (.enter (Adapter.address id) cells) foreign (Seating w₀) :=
      seating_steady hf rfl
    exact within_whatever (steady.enterAdapter id adapter cells w within.since)

end

theorem answer_seating (outside : Outside) (depth : Nat) :
    Respects whatever Seating (outside.answer depth) :=
  answer_respects .refl (fun _ => seating_disciplined) depth

theorem Conduct.seating {ρ : Type} {outside : Outside} {depth : Nat} {conduct : Conduct ρ}
    {w w' : World} {reply : ρ} (ran : Returns (conduct.run (outside.answer depth)) w reply w') :
    Seating w w' :=
  (((seating_disciplined (answer_seating outside depth)).conduct w conduct).returns ran
    (within_whatever (.refl w))).since

/-! ## Runs -/

/-- A run from the start of a process up to a world, with the marks that it leaves, the newest
first. -/
inductive Runs : List Mark → World → Prop
  | start (files : FileSystem) (directory : Place) : Runs [] { files, directory }
  /-- Code outside has operations carried out: native code or managed code, the handlers of a
  connect event or anybody else. -/
  | conducted {marks : List Mark} {w w' : World} (run : Runs marks w) {outside : Outside}
      {depth : Nat} {ρ : Type} {conduct : Conduct ρ} {reply : ρ}
      (ran : Returns (conduct.run (outside.answer depth)) w reply w') {since : List Moment}
      (grown : w'.history = since ++ w.history) : Runs (since.map .happened ++ marks) w'
  /-- The default logic of a connect event gives a client a seat. -/
  | seated {marks : List Mark} {w w' : World} (run : Runs marks w) {id : ObjectId}
      {client : Client} {seat : UInt8} (found : w.process.heap.client? id = some client)
      (ran : Returns (Connection.seatClient id) w true w') (given : w'.seat? id = some seat) :
      Runs (.seated client.lobby seat :: marks) w'
  /-- The program makes a shared value. -/
  | made {marks : List Mark} {w : World} (run : Runs marks w) (address : Address) (datum : Datum) :
      Runs (.made w.process.heap.nextId datum :: marks)
        (w.put { w.process with heap := w.process.heap.allocate address datum })
  | owned {marks : List Mark} {w : World} (run : Runs marks w) (id : ObjectId) :
      Runs marks (w.put { w.process with heap := w.process.heap.own id })
  /-- The program drops a shared value. -/
  | disowned {marks : List Mark} {w : World} (run : Runs marks w) (id : ObjectId) :
      Runs marks (w.put { w.process with heap := w.process.heap.disown id })
  | logged {marks : List Mark} {w w' : World} (run : Runs marks w) (alike : Alike w w') :
      Runs marks w'

/-- The default logic of a connect event seats its client in the lobby as everybody else. -/
theorem SeatedBy.client {marks : List Mark} {w w' : World} {id : ObjectId} {client : Client}
    {seat : UInt8} (seated : SeatedBy marks w.process)
    (found : w.process.heap.client? id = some client)
    (ran : Returns (Connection.seatClient id) w true w') (given : w'.seat? id = some seat) :
    SeatedBy (.seated client.lobby seat :: marks) w'.process := by
  obtain ⟨given', seats, isSome⟩ := ran.seats
  have kept := seats.seat?
  cases seats with
  | refused => cases isSome
  | @seated client' lobby lobby' seat' found' there joined =>
    cases found.symm.trans found'
    obtain rfl : seat = seat' := Option.some.inj (given.symm.trans kept)
    have turned : SeatedBy (.seated client.lobby seat :: marks)
        { w.process with heap := w.process.heap.write client.lobby (.lobby lobby') } :=
      seated.takes (Mark.isTurn_seated ..) there fun turns tells =>
        tells.joined (Lobby.admits_of_join joined)
    have there' : (w.process.heap.write client.lobby (.lobby lobby')).client? id = some client :=
      (Heap.client?_write_lobby there lobby' id).trans found
    exact turned.heap (Heap.staySeated_client there' _)

theorem Runs.sits {marks : List Mark} {w : World} (run : Runs marks w) : Sits marks w.process := by
  induction run with
  | start => exact ⟨.start, trivial⟩
  | conducted run ran grown ih =>
    obtain ⟨since, grown', sits⟩ := Conduct.seating ran
    obtain rfl := List.append_cancel_right (grown.symm.trans grown')
    exact sits _ ih
  | seated run found ran given ih => exact ⟨ih.now.client found ran given, ih.before⟩
  | made run address datum ih =>
    exact ⟨ih.now.made address (fun _ => rfl) fun id opens => opens, ih.before⟩
  | owned run id ih =>
    exact ⟨ih.now.heap (Heap.staySeated_change _ id fun _ => rfl), ih.before⟩
  | disowned run id ih =>
    exact ⟨ih.now.heap (Heap.staySeated_change _ id fun _ => rfl), ih.before⟩
  | logged run alike ih => exact alike.1 ▸ ih

/-- A world as somebody may find it in a run, with the marks until then: between the parts of the
run, or inside of one, at any moment of the history. -/
inductive Meets : List Mark → World → Prop
  | between {marks : List Mark} {w : World} (run : Runs marks w) : Meets marks w
  | within {later earlier : List Mark} {moment : Moment} {w w' : World}
      (run : Runs (later ++ .happened moment :: earlier) w') (now : w.process = moment.process) :
      Meets (.happened moment :: earlier) w

theorem Meets.seatedBy {marks : List Mark} {w : World} (meets : Meets marks w) :
    SeatedBy marks w.process := by
  cases meets with
  | between run => exact run.sits.now
  | within run now =>
    rw [now]
    exact run.sits.before.of_append.1

end ManagedHost
