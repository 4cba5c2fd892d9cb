import ManagedHost.Bridge.Operation

/-!
Connect events. A connection admits a client or does not; a bridged connection asks a handler
before and after. The handler before may refuse or admit outright, and then nothing else is done;
the handler after is asked when the client has a seat, and may overrule the outcome. A handler that
fails has no opinion.
-/

namespace ManagedHost

inductive Verdict where
  | deny | allow
  /-- No opinion. -/
  | pass
deriving DecidableEq

namespace Verdict

/-- The verdict that a number stands for. An unknown number is no opinion. -/
def ofRaw (raw : UInt8) : Logged Verdict :=
  if raw = 0 then pure deny
  else if raw = 1 then pure allow
  else if raw = 2 then pure pass
  else do
    Logged.write .warn .connection
      ("Unknown connect verdict " ++ toString raw.toNat ++ ", treating as pass")
    return pass

def toRaw : Verdict → UInt8
  | deny => 0
  | allow => 1
  | pass => 2

end Verdict

structure Hooks where
  /-- Is asked about an address before the connection is handled. -/
  before : String → Action (Except BridgeError Verdict)
  /-- Is asked about an address and a seat after the connection was handled. -/
  after : String → UInt8 → Action (Except BridgeError Verdict)

structure Connection where
  address : String
  /-- Handles the connect event, and tells whether the client is admitted. -/
  connect : Action Bool
  seat : Action (Option UInt8)

namespace Connection

/-- The verdict of a handler, which is no opinion when the handler fails. -/
def verdict (event address : String) : Except BridgeError Verdict → Action Verdict
  | .ok verdict => return verdict
  | .error e => do
    Action.log .warn .connection
      (event ++ " handler failed for " ++ address ++ ": " ++ e.message)
    return .pass

/-- Handles a connect event and asks the handler after it, if the client has a seat. -/
def connectAsking (hooks : Hooks) (inner : Connection) : Action Bool := do
  let admitted ← inner.connect
  match ← inner.seat with
  | none => return admitted
  | some seat =>
    match ← verdict "post-connect" inner.address (← hooks.after inner.address seat) with
    | .deny => return false
    | .allow => return true
    | .pass => return admitted

/-- A connection whose connect event handlers take part in. -/
def bridged (hooks : Hooks) (inner : Connection) : Connection where
  address := inner.address
  connect := do
    match ← verdict "pre-connect" inner.address (← hooks.before inner.address) with
    | .deny =>
      Action.log .info .connection
        ("Connection from " ++ inner.address ++ " denied before connect")
      return false
    | .allow =>
      Action.log .debug .connection
        ("Connection from " ++ inner.address ++ " allowed before connect")
      return true
    | .pass => connectAsking hooks inner
  seat := inner.seat

/-- Seats a client in its lobby, if there is room. -/
def seatClient (id : ObjectId) : Action Bool := do
  match (← Action.process).heap.client? id with
  | none => return false
  | some client =>
    match ← Action.join client.lobby with
    | none => return false
    | some seat =>
      Action.updateHeap (·.write id (.connection { client with seat := some seat }))
      return true

/-- The connection that admits a client wherever its lobby has room. -/
def ofClient (address : String) (id : ObjectId) : Connection where
  address
  connect := seatClient id
  seat := return ((← Action.process).heap.client? id).bind (·.seat)

end Connection

end ManagedHost
