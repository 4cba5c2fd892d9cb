import ManagedHost.Bridge.World

/-!
The objects that a bridge tracks, and the shared values they are. A change of the table removes
the entries of dead values first.
-/

namespace ManagedHost.Action

def setObjects (b : BridgeId) (objects : ObjectTable) : Action Unit :=
  updateBridge b fun bridge => { bridge with objects }

def updateHeap (change : Heap → Heap) : Action Unit :=
  updateProcess fun p => { p with heap := change p.heap }

/-- Makes a shared value at an address, unless the address is in use. -/
def create (address : Address) (datum : Datum) : Action (Option ObjectId) := do
  let p ← process
  if p.isPinned address then return none
  else
    updateHeap (·.allocate address datum)
    return some p.heap.nextId

/-- Removes the entries of dead values. Tells how many values that were. -/
def sweep (b : BridgeId) : Action Nat := do
  let (objects, removed) := (← bridge b).objects.sweep (← process).heap
  setObjects b objects
  if removed ≠ 0 then
    log .debug .objects ("Swept " ++ toString removed ++ " dead tracked objects")
  return removed

/-- Tracks a value, if it is not tracked and the name is free. -/
def track (b : BridgeId) (id : ObjectId) (name : Option String) : Action Bool := do
  discard (sweep b)
  let heap := (← process).heap
  match (← bridge b).objects.insert heap id name with
  | none => return false
  | some objects =>
    setObjects b objects
    let shown := match name with
      | some name => "Some(" ++ Text.quoted name ++ ")"
      | none => "None"
    log .debug .objects
      ("Tracking object 0x" ++ Text.hexDigits (heap.address id) ++ " as " ++ shown)
    return true

def untrack (b : BridgeId) (address : Address) (alsoNames : Bool) : Action Bool := do
  discard (sweep b)
  let (objects, removed) := (← bridge b).objects.erase address alsoNames
  setObjects b objects
  return removed

/-- Forgets a name and stops tracking what it stands for. -/
def untrackName (b : BridgeId) (name : String) : Action Bool := do
  discard (sweep b)
  let (objects, removed) := (← bridge b).objects.eraseName name
  setObjects b objects
  return removed

/-- The value tracked under a name, if it is alive and of the given type. -/
def find (b : BridgeId) (name : String) (kind : Kind) : Action (Option ObjectId) := do
  let (objects, found) := (← bridge b).objects.find (← process).heap name kind
  setObjects b objects
  return found

def clearObjects (b : BridgeId) : Action Unit := setObjects b {}

def lobby? (id : ObjectId) : Action (Option Lobby) := return (← process).heap.lobby? id

/-- A new player takes the lowest free seat of a lobby. -/
def join (id : ObjectId) : Action (Option UInt8) := do
  match (← lobby? id).bind Lobby.join with
  | none => return none
  | some (seat, lobby) =>
    updateHeap (·.write id (.lobby lobby))
    return some seat

def leave (id : ObjectId) (seat : UInt8) : Action Unit := do
  if let some lobby ← lobby? id then updateHeap (·.write id (.lobby (lobby.leave seat)))

end ManagedHost.Action
