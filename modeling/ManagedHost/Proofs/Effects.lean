import ManagedHost.Proofs.Keeps

/-! # What one operation can do to a process

An operation that neither brings a runtime up nor tears one down is a sequence of steps that change
the process, lines of the log, notes and calls of code outside the program. `Effect` lists the steps
that such an operation can take; most of them only one operation can take. `HeapStep` says of each
step what it does to the shared values. So the operation keeps every property that its own steps
keep (`perform_steady`). Only the entry of a binding puts a text into a buffer, so for all others
the steps that change no buffer are enough (`perform_textless`). -/

namespace ManagedHost

/-- The operation is about tracked objects, or makes, shares or drops a value. -/
def Operation.isAboutObjects : Operation → Bool
  | create _ _ | own _ | disown _ | track _ _ _ | untrack _ _ _ | untrackName _ _ | find _ _ _
  | sweep _ | clearObjects _ => true
  | _ => false

/-- The bridge whose bindings, imports or tracked objects an operation changes. -/
def Operation.subject? : Operation → Option BridgeId
  | register (.bridge b) _ _ _ | clear (.bridge b) | declare b _ _ _ _ | track b _ _
  | untrack b _ _ | untrackName b _ | find b _ _ | sweep b | clearObjects b => some b
  | call imported _ => some imported.bridge
  | _ => none

/-- One step by which an operation changes the process. -/
inductive Effect : Operation → Process → Process → Prop
  /-- A function is bound. -/
  | bound {p p' : Process} {holder : Holder} {name : String} {signature : Signature}
      {function : NativeFunction} {binding : Binding}
      (h : p.register holder name signature function = .ok (p', binding)) :
      Effect (.register holder name signature function) p p'
  /-- The bindings of a holder are removed. -/
  | cleared (p : Process) (holder : Holder) : Effect (.clear holder) p (p.clearRegistry holder)
  /-- An adapter keeps a text that it returns. -/
  | kept (operation : Operation) (p : Process) (id : AdapterId) (content : List UInt8) :
      Effect operation p (p.keepText id content).1
  /-- The players of a lobby change. -/
  | seated (operation : Operation) (p : Process) (id : ObjectId) (lobby : Lobby) :
      Effect operation p { p with heap := p.heap.write id (.lobby lobby) }
  /-- An import is declared. -/
  | declared (p : Process) (b : BridgeId) (name : String) (target : ImportTarget)
      (signature : Signature) (typed : Option Signature) :
      Effect (.declare b name target signature typed) p
        (p.updateBridge b fun bridge => { bridge with nextImport := bridge.nextImport + 1 })
  /-- The address of an import is kept. -/
  | resolved (p : Process) (imported : Import) (args : List Value) (address : Address) :
      Effect (.call imported args) p (p.updateBridge imported.bridge fun bridge =>
        { bridge with
          imports := (imported.id, address) :: bridge.imports.filter (·.1 ≠ imported.id) })
  /-- Shared values are made, owned or given up. -/
  | heap {operation : Operation} (about : operation.isAboutObjects = true) (p : Process)
      (heap : Heap) : Effect operation p { p with heap }
  /-- The tracked objects of a bridge change. -/
  | objects {operation : Operation} (about : operation.isAboutObjects = true) {b : BridgeId}
      (subject : operation.subject? = some b) (p : Process) (objects : ObjectTable) :
      Effect operation p (p.updateBridge b fun bridge => { bridge with objects })

/-- What one step of an operation does to the shared values, if anything. -/
inductive HeapStep : Operation → Heap → Heap → Prop
  | none {operation : Operation} {heap : Heap} : HeapStep operation heap heap
  | made (heap : Heap) (address : Address) (datum : Datum) :
      HeapStep (.create address datum) heap (heap.allocate address datum)
  | owned (heap : Heap) (id : ObjectId) : HeapStep (.own id) heap (heap.own id)
  | disowned (heap : Heap) (id : ObjectId) : HeapStep (.disown id) heap (heap.disown id)
  | joined {heap : Heap} {id : ObjectId} {lobby lobby' : Lobby} {seat : UInt8}
      (there : heap.lobby? id = some lobby) (joined : lobby.join = some (seat, lobby')) :
      HeapStep (.join id) heap (heap.write id (.lobby lobby'))
  | left {heap : Heap} {id : ObjectId} {lobby : Lobby} (there : heap.lobby? id = some lobby)
      (seat : UInt8) : HeapStep (.leave id seat) heap (heap.write id (.lobby (lobby.leave seat)))
  | kicked {operation : Operation} {heap : Heap} {id : ObjectId} {lobby lobby' : Lobby}
      {seat : UInt8} (there : heap.lobby? id = some lobby)
      (kicked : lobby.kick? seat = some lobby') :
      HeapStep operation heap (heap.write id (.lobby lobby'))

namespace Process

theorem buffers_setRegistry (p : Process) (holder : Holder) (registry : Registry) :
    (p.setRegistry holder registry).buffers = p.buffers := by
  cases holder <;> rfl

theorem heap_setRegistry (p : Process) (holder : Holder) (registry : Registry) :
    (p.setRegistry holder registry).heap = p.heap := by
  cases holder <;> rfl

/-- A registration makes a new adapter for a binding that is accepted for its function. -/
theorem register_adds {p p' : Process} {holder : Holder} {name : String} {signature : Signature}
    {function : NativeFunction} {binding : Binding}
    (h : p.register holder name signature function = .ok (p', binding)) :
    signature.checkAgainst function.signature name = .ok () ∧
      binding = ⟨name, signature, function, p.adapters.length⟩ ∧
      p' = ({ p with adapters := p.adapters ++ [⟨name, signature, function, none⟩] } :
        Process).setRegistry holder ((p.registry holder).insert binding) := by
  unfold register at h
  cases checked : signature.checkAgainst function.signature name with
  | error e =>
    rw [checked] at h
    cases h
  | ok u =>
    rw [checked] at h
    simp only [bind, Except.bind] at h
    split at h
    · cases h
    · cases h
      exact ⟨rfl, rfl, rfl⟩

theorem buffers_register {p p' : Process} {holder : Holder} {name : String} {signature : Signature}
    {function : NativeFunction} {binding : Binding}
    (h : p.register holder name signature function = .ok (p', binding)) :
    p'.buffers = p.buffers := by
  obtain ⟨-, -, rfl⟩ := register_adds h
  exact buffers_setRegistry _ _ _

theorem heap_register {p p' : Process} {holder : Holder} {name : String} {signature : Signature}
    {function : NativeFunction} {binding : Binding}
    (h : p.register holder name signature function = .ok (p', binding)) : p'.heap = p.heap := by
  obtain ⟨-, -, rfl⟩ := register_adds h
  exact heap_setRegistry _ _ _

end Process

/-- A step that does nothing to the shared values. -/
theorem HeapStep.of_eq {operation : Operation} {heap heap' : Heap} (same : heap' = heap) :
    HeapStep operation heap heap' := same ▸ .none

namespace Action

variable {operation : Operation} {foreign : Foreign} {I : World → Prop}

/-- A property of worlds that the steps of an operation keep that change no buffer, whatever native
functions do that it calls. -/
structure TextlessIn (operation : Operation) (foreign : Foreign) (I : World → Prop) : Prop where
  effect : ∀ w p, Effect operation w.process p → HeapStep operation w.process.heap p.heap →
    p.buffers = w.process.buffers → I w → I (w.put p)
  write : ∀ (w : World) log, I w → I { w with log }
  remember : ∀ (w : World) notes, I w → I { w with notes }
  native : ∀ id signature args, Keeps I (foreign (.native id signature args))

/-- Such a property that the calls for imports keep too. -/
structure TextlessCallsIn (operation : Operation) (foreign : Foreign) (I : World → Prop) : Prop
    extends TextlessIn operation foreign I where
  createDelegate : ∀ host started assembly typeName method,
    Keeps I (foreign (.createDelegate host started assembly typeName method))
  imported : ∀ b id address signature cells,
    Keeps I (foreign (.managed (.imported b id) address signature cells))

/-- A property of worlds that every step of an operation keeps, whatever native functions do that
it calls. -/
structure SteadyIn (operation : Operation) (foreign : Foreign) (I : World → Prop) : Prop where
  effect : ∀ w p, Effect operation w.process p → HeapStep operation w.process.heap p.heap → I w →
    I (w.put p)
  write : ∀ (w : World) log, I w → I { w with log }
  remember : ∀ (w : World) notes, I w → I { w with notes }
  native : ∀ id signature args, Keeps I (foreign (.native id signature args))

/-- A steady property that the calls for imports keep too. -/
structure SteadyCallsIn (operation : Operation) (foreign : Foreign) (I : World → Prop) : Prop
    extends SteadyIn operation foreign I where
  createDelegate : ∀ host started assembly typeName method,
    Keeps I (foreign (.createDelegate host started assembly typeName method))
  imported : ∀ b id address signature cells,
    Keeps I (foreign (.managed (.imported b id) address signature cells))

theorem SteadyIn.textless (hI : SteadyIn operation foreign I) : TextlessIn operation foreign I where
  effect w p step values _ := hI.effect w p step values
  write := hI.write
  remember := hI.remember
  native := hI.native

theorem SteadyCallsIn.textless (hI : SteadyCallsIn operation foreign I) :
    TextlessCallsIn operation foreign I where
  toTextlessIn := hI.toSteadyIn.textless
  createDelegate := hI.createDelegate
  imported := hI.imported

namespace TextlessIn

section

variable (hI : TextlessIn operation foreign I)
include hI

theorem log (level : LogLevel) (source : LogSource) (message : String) :
    Keeps I (log level source message) := fun w h => hI.write w _ h

theorem note (topic text : String) : Keeps I (note topic text) :=
  fun w h => hI.remember w _ h

theorem updateProcess {f : Process → Process} (hf : ∀ p, Effect operation p (f p))
    (values : ∀ p, HeapStep operation p.heap (f p).heap) (same : ∀ p, (f p).buffers = p.buffers) :
    Keeps I (updateProcess f) :=
  fun w h => hI.effect w _ (hf _) (values _) (same _) h

theorem updateHeap (about : operation.isAboutObjects = true) {f : Heap → Heap}
    (values : ∀ heap, HeapStep operation heap (f heap)) : Keeps I (updateHeap f) :=
  hI.updateProcess (fun p => .heap about p _) (fun _ => values _) fun _ => rfl

theorem setObjects (about : operation.isAboutObjects = true) {b : BridgeId}
    (subject : operation.subject? = some b) (objects : ObjectTable) :
    Keeps I (setObjects b objects) :=
  hI.updateProcess (fun p => .objects about subject p objects) (fun _ => .none) fun _ => rfl

/-! ## Native functions -/

/-- Who is disconnected sits in the lobby as it is when that is written. -/
theorem disconnectAt {w : World} (h : I w) {id : ObjectId} {lobby : Lobby}
    (there : w.process.heap.lobby? id = some lobby) (seat : UInt8) :
    I ((disconnectAt id lobby seat).run w).2 := by
  unfold Action.disconnectAt
  cases found : lobby.kick? seat with
  | none => exact h
  | some kicked =>
    exact hI.effect _ _ (.seated operation _ id kicked) (.kicked there found) rfl
      (hI.write w _ h)

theorem kick (id : ObjectId) (seat : UInt8) : Keeps I (kick id seat) := by
  refine .of_process fun w h => ?_
  dsimp only
  split
  · next lobby _ there =>
    split
    · exact hI.disconnectAt (hI.log .info .exports _ w h) there seat
    · exact h
  · exact hI.write w _ h

theorem runFunction : ∀ (function : NativeFunction) (args : Arguments function.signature.params),
    Keeps I (runFunction foreign function args)
  | .report, (_, ()) => .bind (hI.log _ _ _) fun _ => .pure _
  | .kick lobby, (seat, ()) => .bind (hI.kick lobby seat) fun _ => .pure _
  | .supplied id signature, args => hI.native id signature args

theorem callFunction (name : String) (function : NativeFunction) (args : List Value) :
    Keeps I (callFunction foreign name function args) := by
  unfold Action.callFunction
  cases Arguments.ofValues name function.signature.params args with
  | error e => exact .pure _
  | ok typed =>
    refine .bind (hI.runFunction function typed) fun result => ?_
    cases result <;> exact .pure _

theorem invoke (holder : Holder) (name : String) (args : List Value) :
    Keeps I (invoke foreign holder name args) := by
  refine .bind .process fun p => ?_
  cases (p.registry holder).get? name with
  | none => exact .pure _
  | some binding =>
    simp only [callBinding]
    cases binding.signature.checkArguments binding.name args with
    | error e => exact .pure _
    | ok u => exact hI.callFunction _ _ _

/-! ## Objects -/

theorem sweep (about : operation.isAboutObjects = true) {b : BridgeId}
    (subject : operation.subject? = some b) : Keeps I (sweep b) := by
  refine .bind (.bridge b) fun found => .bind .process fun p => ?_
  refine .bind (hI.setObjects about subject _) fun _ => ?_
  dsimp only
  split
  · exact .bind (hI.log _ _ _) fun _ => .pure _
  · exact .pure _

theorem track (about : operation.isAboutObjects = true) {b : BridgeId}
    (subject : operation.subject? = some b) (id : ObjectId) (name : Option String) :
    Keeps I (track b id name) := by
  refine .bind (.discard (hI.sweep about subject)) fun _ => .bind .process fun p =>
    .bind (.bridge b) fun found => ?_
  cases found.objects.insert p.heap id name with
  | none => exact .pure _
  | some objects =>
    exact .bind (hI.setObjects about subject objects) fun _ => .bind (hI.log _ _ _) fun _ => .pure _

theorem untrack (about : operation.isAboutObjects = true) {b : BridgeId}
    (subject : operation.subject? = some b) (address : Address) (alsoNames : Bool) :
    Keeps I (untrack b address alsoNames) :=
  .bind (.discard (hI.sweep about subject)) fun _ => .bind (.bridge b) fun _ =>
    .bind (hI.setObjects about subject _) fun _ => .pure _

theorem untrackName (about : operation.isAboutObjects = true) {b : BridgeId}
    (subject : operation.subject? = some b) (name : String) :
    Keeps I (untrackName b name) :=
  .bind (.discard (hI.sweep about subject)) fun _ => .bind (.bridge b) fun _ =>
    .bind (hI.setObjects about subject _) fun _ => .pure _

theorem find (about : operation.isAboutObjects = true) {b : BridgeId}
    (subject : operation.subject? = some b) (name : String) (kind : Kind) :
    Keeps I (find b name kind) :=
  .bind (.bridge b) fun _ => .bind .process fun _ =>
    .bind (hI.setObjects about subject _) fun _ => .pure _

theorem disconnect (lobby : ObjectId) (seat : UInt8) : Keeps I (disconnect lobby seat) := by
  refine .of_lobby? fun w h => ?_
  cases there : w.process.heap.lobby? lobby with
  | none => exact h
  | some found => exact hI.disconnectAt h there seat

end

theorem create {address : Address} {datum : Datum}
    (hI : TextlessIn (.create address datum) foreign I) : Keeps I (create address datum) := by
  refine .bind .process fun p => ?_
  split
  · exact .pure _
  · exact .bind (hI.updateHeap rfl fun heap => .made heap address datum) fun _ => .pure _

theorem join {lobby : ObjectId} (hI : TextlessIn (.join lobby) foreign I) :
    Keeps I (join lobby) := by
  refine .of_lobby? fun w h => ?_
  cases seated : (w.process.heap.lobby? lobby).bind Lobby.join with
  | none => exact h
  | some joined =>
    obtain ⟨found, there, joins⟩ := Option.bind_eq_some_iff.mp seated
    exact hI.effect w _ (.seated _ _ lobby joined.2) (.joined there joins) rfl h

theorem leave {lobby : ObjectId} {seat : UInt8} (hI : TextlessIn (.leave lobby seat) foreign I) :
    Keeps I (leave lobby seat) := by
  refine .of_lobby? fun w h => ?_
  cases there : w.process.heap.lobby? lobby with
  | none => exact h
  | some found => exact hI.effect w _ (.seated _ _ lobby _) (.left there seat) rfl h

/-! ## Bindings -/

theorem register {holder : Holder} {name : String} {signature : Signature}
    {function : NativeFunction}
    (hI : TextlessIn (.register holder name signature function) foreign I) :
    Keeps I (register holder name signature function) := by
  unfold Action.register
  cases holder
  case' bridge b =>
    refine .bind (.bridge b) fun found => ?_
    by_cases hl : found.isLive = true
    case' pos =>
      simp only [if_pos hl]
      refine .bind (hI.log _ _ _) fun _ => ?_
    case' neg => simp only [if_neg hl]
  all_goals
    refine .of_process fun w h => ?_
    cases hr : w.process.register _ name signature function with
    | error e => exact h
    | ok done =>
      exact hI.write _ _ (hI.effect w _ (.bound hr) (.of_eq (Process.heap_register hr))
        (Process.buffers_register hr) h)

theorem clearRegistry {holder : Holder} (hI : TextlessIn (.clear holder) foreign I) :
    Keeps I (clearRegistry holder) := by
  have clears : Keeps I (Action.updateProcess (·.clearRegistry holder)) :=
    hI.updateProcess (fun p => .cleared p holder) (fun _ => .of_eq (Process.heap_setRegistry _ _ _))
      fun _ => Process.buffers_setRegistry _ _ _
  refine .bind .process fun p => ?_
  by_cases he : (p.registry holder).isEmpty = true
  · simp only [if_pos he]
    exact clears
  · simp only [if_neg he]
    exact .bind (hI.log _ _ _) fun _ => clears

/-! ## Imports -/

theorem declare {b : BridgeId} {name : String} {target : ImportTarget} {signature : Signature}
    {typed : Option Signature}
    (hI : TextlessIn (.declare b name target signature typed) foreign I) :
    Keeps I (declare b name target signature typed) := by
  unfold Action.declare
  cases signature.validate name with
  | error e => exact .pure _
  | ok u =>
    refine .of_bridge fun w h => ?_
    have counted := hI.effect w _ (.declared _ b name target signature typed) .none rfl h
    cases typed with
    | none => exact hI.write _ _ counted
    | some typed => exact hI.write _ _ counted

end TextlessIn

namespace TextlessCallsIn

section

variable (hI : TextlessCallsIn operation foreign I)
include hI

theorem lookUp (host : HostId) (started : HostInstance) (assembly typeName method : String) :
    Keeps I (Action.createDelegate foreign host started assembly typeName method) := by
  unfold Action.createDelegate
  dsimp only
  split
  · exact .pure _
  · refine .bind (hI.createDelegate host started assembly typeName method) fun reply => ?_
    cases reply with
    | error status => exact .pure _
    | ok address =>
      dsimp only
      split
      · exact .pure _
      · exact .bind (hI.log _ _ _) fun _ => .pure _

theorem resolve (b : BridgeId) (typeName method : String) (assembly : Option String) :
    Keeps I (resolve foreign b typeName method assembly) := by
  refine .bind (.bridge b) fun found => ?_
  cases found.host with
  | none => exact .pure _
  | some live => exact hI.lookUp _ _ _ _ _

end

theorem resolveImport {imported : Import} {args : List Value}
    (hI : TextlessCallsIn (.call imported args) foreign I) :
    Keeps I (resolveImport foreign imported) := by
  refine .bind (.bridge _) fun found => ?_
  cases found.imports.lookup imported.id with
  | some address => exact .pure _
  | none =>
    refine .bind (hI.resolve _ _ _ _) fun result => ?_
    cases result with
    | error e => exact .pure _
    | ok address =>
      exact .bind (hI.updateProcess (fun p => .resolved p imported args address) (fun _ => .none)
        fun _ => rfl) fun _ => .pure _

theorem call {imported : Import} {args : List Value}
    (hI : TextlessCallsIn (.call imported args) foreign I) :
    Keeps I (call foreign imported args) := by
  unfold Action.call
  cases imported.signature.checkArguments imported.name args with
  | error e => exact .pure _
  | ok u =>
    refine .bind hI.resolveImport fun result => ?_
    cases result with
    | error e => exact .pure _
    | ok address =>
      simp only [callAddress]
      cases Cell.ofValues imported.name args with
      | error e => exact .pure _
      | ok cells => exact .bind (hI.imported _ _ _ _ _) fun _ => .bind .process fun _ => .pure _

end TextlessCallsIn

/-! ## The entry of a binding -/

namespace SteadyIn

variable (hI : SteadyIn operation foreign I)
include hI

theorem toResultCell (id : AdapterId) (adapter : Adapter) (result : Value) :
    Keeps I (toResultCell id adapter result) := by
  unfold Action.toResultCell
  split
  · exact .pure _
  · cases result with
    | text text =>
      dsimp only
      split
      · exact .bind (hI.textless.log _ _ _) fun _ => .pure _
      · exact .of_process fun w h => hI.effect w _ (.kept _ _ id _) .none h
    | _ => exact .pure _

theorem enterAdapter (id : AdapterId) (adapter : Adapter) (cells : List Cell) :
    Keeps I (enterAdapter foreign id adapter cells) := by
  refine .bind .process fun p => ?_
  cases Cell.toArguments p.buffer? adapter.name adapter.signature.params cells
  case' error e => refine .bind (.pure _) fun reaction => ?_
  case' ok args => refine .bind (hI.textless.callFunction _ _ _) fun reaction => ?_
  all_goals
    cases reaction with
    | returned result => exact hI.toResultCell id adapter result
    | failed e => exact .bind (hI.textless.log _ _ _) fun _ => .pure _
    | panicked => exact .bind (hI.textless.log _ _ _) fun _ => .pure _

theorem enter (address : Address) (cells : List Cell) : Keeps I (enter foreign address cells) := by
  refine .bind .process fun p => ?_
  cases p.adapterAt? address with
  | none => exact .pure _
  | some found => exact hI.enterAdapter _ _ _

end SteadyIn

theorem SteadyCallsIn.resolve (hI : SteadyCallsIn operation foreign I) (b : BridgeId)
    (typeName method : String) (assembly : Option String) :
    Keeps I (Action.resolve foreign b typeName method assembly) :=
  hI.textless.resolve b typeName method assembly

end Action

/-- Whether an operation brings a runtime up or tears one down, or says which one is to be torn
down at the end of the process. -/
def Operation.hosts : Operation → Bool
  | load _ _ | teardown _ | registerExit _ | releaseExit _ | runExitTeardown => true
  | _ => false

/-- Whether an operation is a call of the entry of a binding. -/
def Operation.enters : Operation → Bool
  | enter _ _ => true
  | _ => false

/-- Every other operation that calls no entry keeps what its steps keep that change no buffer. -/
theorem Operation.perform_textless {foreign : Foreign} {I : World → Prop} {operation : Operation}
    (hI : Action.TextlessCallsIn operation foreign I) (hosts : operation.hosts = false)
    (enters : operation.enters = false) : Action.Keeps I (operation.perform foreign) := by
  cases operation with
  | register holder name signature function => exact hI.register
  | invoke holder name args => exact hI.invoke _ _ _
  | clear holder => exact hI.clearRegistry
  | declare b name target signature typed => exact hI.declare
  | call imported args => exact hI.call
  | resolve b typeName method assembly => exact hI.resolve _ _ _ _
  | create address datum => exact hI.create
  | own id => exact hI.updateHeap rfl fun heap => .owned heap id
  | disown id => exact hI.updateHeap rfl fun heap => .disowned heap id
  | track b id name => exact hI.track rfl rfl _ _
  | untrack b address alsoNames => exact hI.untrack rfl rfl _ _
  | untrackName b name => exact hI.untrackName rfl rfl _
  | find b name kind => exact hI.find rfl rfl _ _
  | sweep b => exact hI.sweep rfl rfl
  | clearObjects b => exact hI.setObjects rfl rfl _
  | join lobby => exact hI.join
  | leave lobby seat => exact hI.leave
  | disconnect lobby seat => exact hI.disconnect _ _
  | note topic text => exact hI.note _ _
  | enter => cases enters
  | load | teardown | registerExit | releaseExit | runExitTeardown => cases hosts

/-- Every other operation keeps what its steps keep. -/
theorem Operation.perform_steady {foreign : Foreign} {I : World → Prop} {operation : Operation}
    (hI : Action.SteadyCallsIn operation foreign I) (h : operation.hosts = false) :
    Action.Keeps I (operation.perform foreign) := by
  cases enters : operation.enters with
  | false => exact operation.perform_textless hI.textless h enters
  | true =>
    cases operation with
    | enter address cells => exact hI.enter _ _
    | _ => cases enters

end ManagedHost
