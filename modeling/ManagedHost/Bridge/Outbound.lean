import ManagedHost.Bridge.World

/-!
Native functions for managed code. Registering checks a function against its declared types, makes
an adapter for it and adds it to the registry; a refused registration changes nothing. A binding is
called in two ways: directly with values, which are checked first, and through its address with
cells, where any failure ends in the zero of the result type. Adapters outlive the registry, so an
address stays callable when its binding is gone.
-/

namespace ManagedHost

/-- What is seen of a binding. -/
structure BindingInfo where
  name : String
  address : Address
  signature : Signature
deriving DecidableEq

def Binding.info (binding : Binding) : BindingInfo :=
  ⟨binding.name, binding.address, binding.signature⟩

namespace Process

/-- Adds a binding with a new adapter to the registry of a holder, or tells why not. -/
def register (process : Process) (holder : Holder) (name : String) (signature : Signature)
    (function : NativeFunction) : Except BridgeError (Process × Binding) := do
  signature.checkAgainst function.signature name
  if ((process.registry holder).get? name).isSome then .error (.duplicateBinding name)
  else
    let binding : Binding := ⟨name, signature, function, process.adapters.length⟩
    let adapter : Adapter := ⟨name, signature, function, none⟩
    let added := { process with adapters := process.adapters ++ [adapter] }
    return (added.setRegistry holder ((process.registry holder).insert binding), binding)

/-- Removes all bindings of a holder. Their adapters are retired. -/
def clearRegistry (process : Process) (holder : Holder) : Process :=
  let retired := (process.registry holder).map (·.adapter)
  { process with retired := process.retired ++ retired }.setRegistry holder []

end Process

namespace Lobby

def kick? (lobby : Lobby) (seat : UInt8) : Option Lobby :=
  (lobby.player? seat).map lobby.disconnect

end Lobby

namespace Action

def register (holder : Holder) (name : String) (signature : Signature)
    (function : NativeFunction) : Action (Except BridgeError Binding) := do
  if let .bridge b := holder then
    if (← bridge b).isLive then
      log .warn .bridge
        ("Binding " ++ name ++ " registered after load; managed code will not see it")
  match (← process).register holder name signature function with
  | .error e => return .error e
  | .ok (changed, binding) =>
    updateProcess fun _ => changed
    log .debug .outbound ("Registered binding " ++ name ++ " at 0x" ++
      Text.hexDigits binding.address ++ " " ++ signature.display)
    return .ok binding

def clearRegistry (holder : Holder) : Action Unit := do
  let registry := (← process).registry holder
  unless registry.isEmpty do
    log .debug .outbound ("Retiring " ++ toString registry.length ++ " binding adapters")
  updateProcess (·.clearRegistry holder)

/-- Disconnects the player at a seat of a lobby. Tells whether there was one. -/
def disconnectAt (lobbyId : ObjectId) (lobby : Lobby) (seat : UInt8) : Action Bool := do
  match lobby.kick? seat with
  | none => return false
  | some kicked =>
    log .debug .connection "Stand-in player disconnected (Kicked)"
    updateProcess fun p => { p with heap := p.heap.write lobbyId (.lobby kicked) }
    return true

/-- Kicks the player at a seat of a lobby that is not owned here. -/
def kick (lobbyId : ObjectId) (seat : UInt8) : Action Unit := do
  let heap := (← process).heap
  match heap.isAlive lobbyId, heap.lobby? lobbyId with
  | true, some lobby =>
    if (lobby.player? seat).isSome then
      log .info .exports ("Kicking player " ++ toString seat.toNat)
      discard (disconnectAt lobbyId lobby seat)
  | _, _ =>
    log .debug .exports
      ("Kick of player " ++ toString seat.toNat ++ " ignored: protocol is gone")

def reportResult : Int32 := 123

/-- Runs a native function. Nothing comes back when it panics. -/
def runFunction (foreign : Foreign) : (function : NativeFunction) →
    Arguments function.signature.params → Action (Option function.signature.returns.Carrier)
  | .report, (text, ()) => do
    log .info .exports ("(.NET to native) " ++ text)
    return some reportResult
  | .kick lobby, (seat, ()) => do
    kick lobby seat
    return some ()
  | .supplied id signature, args => foreign (.native id signature args)

def callFunction (foreign : Foreign) (name : String) (function : NativeFunction)
    (args : List Value) : Action Reaction := do
  match Arguments.ofValues name function.signature.params args with
  | .error e => return .failed e
  | .ok typed =>
    match ← runFunction foreign function typed with
    | some result => return .returned (Value.ofCarrier _ result)
    | none => return .panicked

/-- Calls a binding with values that are checked first. -/
def callBinding (foreign : Foreign) (binding : Binding) (args : List Value) : Action Reaction :=
  match binding.signature.checkArguments binding.name args with
  | .error e => return .failed e
  | .ok () => callFunction foreign binding.name binding.function args

def invoke (foreign : Foreign) (holder : Holder) (name : String) (args : List Value) :
    Action Reaction := do
  match ((← process).registry holder).get? name with
  | none => return .failed (.unknownBinding name)
  | some binding => callBinding foreign binding args

/-- The cell for the result of a binding. A text with a NUL cannot be returned; any other is kept
in the buffer of the adapter. -/
def toResultCell (id : AdapterId) (adapter : Adapter) (result : Value) : Action Cell := do
  if result.wireType ≠ adapter.signature.returns then
    return Cell.ofFailure adapter.signature.returns
  else
    match result with
    | .void => return .word 0
    | .text text =>
      if '\x00' ∈ text.toList then
        log .warn .outbound
          ("Binding " ++ adapter.name ++ " returned a string with an interior NUL")
        return .text .null
      else
        let (kept, buffer) := (← process).keepText id (Text.Utf8.encode text)
        updateProcess fun _ => kept
        return .text (.buffer buffer)
    | number =>
      match Cell.ofValue adapter.name number with
      | .ok cell => return cell
      | .error _ => return .word 0

def enterAdapter (foreign : Foreign) (id : AdapterId) (adapter : Adapter) (cells : List Cell) :
    Action Cell := do
  let reaction ←
    match Cell.toArguments (← process).buffer? adapter.name adapter.signature.params cells with
    | .error e => pure (.failed e)
    | .ok args => callFunction foreign adapter.name adapter.function args
  match reaction with
  | .returned result => toResultCell id adapter result
  | .failed e =>
    log .error .outbound ("Binding " ++ adapter.name ++ " failed: " ++ e.message)
    return Cell.ofFailure adapter.signature.returns
  | .panicked =>
    log .error .outbound ("Binding " ++ adapter.name ++ " panicked")
    return Cell.ofFailure adapter.signature.returns

/-- Calls the entry of a binding by its address. Where there is none, nothing happens. -/
def enter (foreign : Foreign) (address : Address) (cells : List Cell) : Action Cell := do
  match (← process).adapterAt? address with
  | some (id, adapter) => enterAdapter foreign id adapter cells
  | none => return .word 0

end Action

end ManagedHost
