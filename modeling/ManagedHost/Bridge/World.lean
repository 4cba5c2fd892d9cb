import ManagedHost.Bridge.Loader
import ManagedHost.Bridge.State
import ManagedHost.Launcher.Outcome
import ManagedHost.Log

/-!
The bridge among others. What is not part of the program is reached by a `ForeignCall`, whose reply
has the type that fits the call: the launcher, the hosting library, managed methods and native
functions that were supplied. While it is called, such code may carry out any `Operation` of the
program before it replies. The `World` is the state in which all this happens, with a history of
every call and every operation and of the state of the process at that moment.
-/

namespace ManagedHost

/-- The managed method that an import points at. -/
structure ImportTarget where
  /-- The identity of the assembly, or none for the bootstrap assembly. -/
  assembly : Option String
  typeName : String
  method : String
deriving DecidableEq

def ImportTarget.display (target : ImportTarget) : String :=
  target.typeName ++ "." ++ target.method

/-- A managed method that native code may call. -/
structure Import where
  bridge : BridgeId
  id : ImportId
  name : String
  target : ImportTarget
  signature : Signature
deriving DecidableEq

/-- Why a managed method is called. -/
inductive Purpose where
  | load (b : BridgeId)
  | unload (b : BridgeId)
  | imported (b : BridgeId) (id : ImportId)
deriving DecidableEq

/-- A call of code that is not part of the program. -/
inductive ForeignCall where
  /-- Asks a supplied catalog for the installed runtimes. -/
  | listRuntimes (catalog : Nat)
  | runLauncher (path : String)
  | openFile (path : String)
  | openSupplied (opener : Nat) (path : String)
  | startUp (host : HostId) (domain : String) (properties : List (String × String))
  | createDelegate (host : HostId) (started : HostInstance) (assembly typeName method : String)
  | shutDown (host : HostId) (started : HostInstance)
  | managed (purpose : Purpose) (address : Address) (signature : Signature) (cells : List Cell)
  | native (id : Nat) (signature : Signature) (args : Arguments signature.params)

/-- What comes back from a foreign call. A native function that panics gives nothing back. -/
@[reducible] def ForeignCall.Reply : ForeignCall → Type
  | listRuntimes _ => Except BridgeError (List Runtime)
  | runLauncher _ => LauncherOutcome
  | openFile _ => Except BridgeError HostId
  | openSupplied _ _ => Except BridgeError HostId
  | startUp _ _ _ => Except Int32 HostInstance
  | createDelegate _ _ _ _ _ => Except Int32 Address
  | shutDown _ _ => Except Int32 Unit
  | managed _ _ _ _ => Cell
  | native _ signature _ => Option signature.returns.Carrier

def ForeignCall.host? : ForeignCall → Option HostId
  | startUp host _ _ => some host
  | createDelegate host _ _ _ _ => some host
  | shutDown host _ => some host
  | _ => none

inductive Reaction where
  | returned (value : Value)
  | failed (error : BridgeError)
  | panicked
deriving DecidableEq

/-- What can be asked of the program, from outside it or by code that it calls. -/
inductive Operation where
  | register (holder : Holder) (name : String) (signature : Signature) (function : NativeFunction)
  /-- Calls a binding from native code. -/
  | invoke (holder : Holder) (name : String) (args : List Value)
  | clear (holder : Holder)
  /-- Calls the entry of a binding, as managed code does. -/
  | enter (address : Address) (cells : List Cell)
  | load (b : BridgeId) (loader : Loader)
  | teardown (b : BridgeId)
  | registerExit (b : BridgeId)
  | releaseExit (b : BridgeId)
  | runExitTeardown
  /-- Declares an import, for given Lean types if there are any. -/
  | declare (b : BridgeId) (name : String) (target : ImportTarget) (signature : Signature)
      (typed : Option Signature)
  | call (imported : Import) (args : List Value)
  | resolve (b : BridgeId) (typeName method : String) (assembly : Option String)
  | create (address : Address) (datum : Datum)
  | own (id : ObjectId)
  | disown (id : ObjectId)
  | track (b : BridgeId) (id : ObjectId) (name : Option String)
  | untrack (b : BridgeId) (address : Address) (alsoNames : Bool)
  | untrackName (b : BridgeId) (name : String)
  | find (b : BridgeId) (name : String) (kind : Kind)
  | sweep (b : BridgeId)
  | clearObjects (b : BridgeId)
  | join (lobby : ObjectId)
  | leave (lobby : ObjectId) (seat : UInt8)
  | disconnect (lobby : ObjectId) (seat : UInt8)
  | note (topic text : String)

@[reducible] def Operation.Result : Operation → Type
  | register _ _ _ _ => Except BridgeError Binding
  | invoke _ _ _ => Reaction
  | clear _ => Unit
  | enter _ _ => Cell
  | load _ _ => Except BridgeError Unit
  | teardown _ => Bool
  | registerExit _ => Unit
  | releaseExit _ => Unit
  | runExitTeardown => Bool
  | declare _ _ _ _ _ => Except BridgeError Import
  | call _ _ => Except BridgeError Value
  | resolve _ _ _ _ => Except BridgeError Address
  | create _ _ => Option ObjectId
  | own _ => Unit
  | disown _ => Unit
  | track _ _ _ => Bool
  | untrack _ _ _ => Bool
  | untrackName _ _ => Bool
  | find _ _ _ => Option ObjectId
  | sweep _ => Nat
  | clearObjects _ => Unit
  | join _ => Option UInt8
  | leave _ _ => Unit
  | disconnect _ _ => Bool
  | note _ _ => Unit

inductive Event where
  | called (call : ForeignCall)
  | replied (call : ForeignCall) (reply : call.Reply)
  | began (operation : Operation)
  | ended (operation : Operation) (result : operation.Result)

/-- Something that happened, and the state of the process right then. -/
structure Moment where
  event : Event
  process : Process

/-- A text that foreign code wanted to remember. -/
structure Note where
  topic : String
  text : String
deriving DecidableEq

/-- The state of everything. Lists of what happened have the newest first. -/
structure World where
  process : Process := {}
  files : FileSystem := {}
  directory : Place := []
  history : List Moment := []
  log : List LogLine := []
  notes : List Note := []

/-- The foreign calls so far, the oldest first. -/
def World.foreignCalls (world : World) : List ForeignCall :=
  world.history.reverse.filterMap fun moment =>
    match moment.event with
    | .called call => some call
    | _ => none

abbrev Action := StateM World

abbrev Foreign := (call : ForeignCall) → Action call.Reply

namespace Action

def log (level : LogLevel) (source : LogSource) (message : String) : Action Unit :=
  modify fun world => { world with log := ⟨level, source, message⟩ :: world.log }

def emit {α : Type} (logged : Logged α) : Action α := do
  modify fun world => { world with log := logged.lines.reverse ++ world.log }
  return logged.value

def record (event : Event) : Action Unit :=
  modify fun world => { world with history := ⟨event, world.process⟩ :: world.history }

def process : Action Process := return (← get).process

def updateProcess (change : Process → Process) : Action Unit :=
  modify fun world => { world with process := change world.process }

def bridge (b : BridgeId) : Action Bridge := return (← process).bridge b

def updateBridge (b : BridgeId) (change : Bridge → Bridge) : Action Unit :=
  updateProcess (·.updateBridge b change)

end Action

end ManagedHost
