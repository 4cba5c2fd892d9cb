import ManagedHost.Bridge.Load
import ManagedHost.Bridge.Objects

/-!
Carrying out operations. An operation is entered in the history when it begins and when it ends;
how the foreign calls that it makes are answered is left open.
-/

namespace ManagedHost

namespace Action

/-- Disconnects the player at a seat of a lobby. Tells whether there was one. -/
def disconnect (id : ObjectId) (seat : UInt8) : Action Bool := do
  match ← lobby? id with
  | some lobby => disconnectAt id lobby seat
  | none => return false

def note (topic text : String) : Action Unit :=
  modify fun world => { world with notes := ⟨topic, text⟩ :: world.notes }

end Action

namespace Operation

def perform (foreign : Foreign) : (operation : Operation) → Action operation.Result
  | register holder name signature function => Action.register holder name signature function
  | invoke holder name args => Action.invoke foreign holder name args
  | clear holder => Action.clearRegistry holder
  | enter address cells => Action.enter foreign address cells
  | load b loader => Action.load foreign b loader
  | teardown b => Action.teardown foreign b
  | registerExit b => Action.registerExit b
  | releaseExit b => Action.releaseExit b
  | runExitTeardown => Action.runExitTeardown foreign
  | declare b name target signature typed => Action.declare b name target signature typed
  | call imported args => Action.call foreign imported args
  | resolve b typeName method assembly => Action.resolve foreign b typeName method assembly
  | create address datum => Action.create address datum
  | own id => Action.updateHeap (·.own id)
  | disown id => Action.updateHeap (·.disown id)
  | track b id name => Action.track b id name
  | untrack b address alsoNames => Action.untrack b address alsoNames
  | untrackName b name => Action.untrackName b name
  | find b name kind => Action.find b name kind
  | sweep b => Action.sweep b
  | clearObjects b => Action.clearObjects b
  | join lobby => Action.join lobby
  | leave lobby seat => Action.leave lobby seat
  | disconnect lobby seat => Action.disconnect lobby seat
  | note topic text => Action.note topic text

/-- Carries out an operation and enters it in the history. -/
def run (foreign : Foreign) (operation : Operation) : Action operation.Result := do
  Action.record (.began operation)
  let result ← operation.perform foreign
  Action.record (.ended operation result)
  return result

end Operation

end ManagedHost
