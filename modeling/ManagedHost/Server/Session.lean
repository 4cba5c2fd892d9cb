import ManagedHost.Server.Exports

/-!
A session: a bridge with a runtime, to which a lobby and a connection are attached. Both are
tracked by the bridge under their names. If the runtime cannot be brought up, nothing is left of
the session.
-/

namespace ManagedHost

namespace Heap

/-- The lowest address at which shared values are put. -/
def base : Address := 0x550000000000

/-- An address above those of all values so far. -/
def freshAddress (heap : Heap) : Address :=
  (heap.allocations.map (·.address)).foldl max base + 16

end Heap

namespace Action

def createFresh (datum : Datum) : Action ObjectId := do
  let heap := (← process).heap
  updateHeap (·.allocate heap.freshAddress datum)
  return heap.nextId

/-- Tracks a value under a name, and tells the log when that is refused. -/
def trackNamed (foreign : Foreign) (b : BridgeId) (id : ObjectId) (name : String) :
    Action Unit := do
  unless ← (Operation.track b id (some name)).run foreign do
    log .warn .application ("Failed to track " ++ name ++ ": value already tracked or name taken")

end Action

/-- A bridge with a runtime and what is attached to it. -/
structure Session where
  bridge : BridgeId
  events : EventImports
  lobby : ObjectId
  connection : ObjectId

namespace Session

def clientAddress : String := "127.0.0.1"

def attach (foreign : Foreign) (b : BridgeId) (settings : Settings.Imports) (lobby : ObjectId) :
    Action (Except BridgeError Session) := do
  match ← EventImports.declare foreign b settings with
  | .error e => return .error e
  | .ok events =>
    Action.updateHeap (·.own lobby)
    let connection ← Action.createFresh (.connection { address := clientAddress, lobby })
    Action.trackNamed foreign b connection "connection"
    Action.trackNamed foreign b lobby "protocol"
    return .ok { bridge := b, events, lobby, connection }

/-- Binds the functions for scripts, brings the runtime up and attaches the rest. -/
def tryStart (foreign : Foreign) (b : BridgeId) (settings : Settings.Imports) (loader : Loader)
    (lobby : ObjectId) : Action (Except BridgeError Session) := do
  match ← Action.registerExports foreign b lobby with
  | .error e => return .error e
  | .ok () =>
    match ← (Operation.load b loader).run foreign with
    | .error e => return .error e
    | .ok () => attach foreign b settings lobby

/-- Starts a session on a bridge of its own. -/
def start (foreign : Foreign) (b : BridgeId) (settings : Settings.Imports) (loader : Loader) :
    Action (Except BridgeError Session) := do
  let lobby ← Action.createFresh (.lobby {})
  match ← tryStart foreign b settings loader lobby with
  | .ok session => return .ok session
  | .error e =>
    Action.updateHeap (·.disown lobby)
    (Operation.clear (.bridge b)).run foreign
    return .error e

def selfTest (foreign : Foreign) (session : Session) : Action (Except BridgeError String) :=
  Action.callTyped foreign session.events.testString ()

/-- Tears the runtime down. Tells whether it was up. -/
def shutdown (foreign : Foreign) (session : Session) : Action Bool :=
  (Operation.teardown session.bridge).run foreign

def bridgedConnection (foreign : Foreign) (session : Session) : Connection :=
  Connection.bridged (session.events.hooks foreign)
    (Connection.ofClient clientAddress session.connection)

end Session

end ManagedHost
