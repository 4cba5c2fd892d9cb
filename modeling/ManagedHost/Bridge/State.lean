import ManagedHost.Binding.Registry
import ManagedHost.Objects.Tracking
import ManagedHost.Table

/-!
The state that bridges share and keep. Within one process at most one bridge may have a runtime:
the claim on that place, the bridge to be torn down at the end of the process, the adapters and the
buffers belong to the process, everything else belongs to a bridge.
-/

namespace ManagedHost

abbrev BridgeId := Nat

/-- The number of an import, which no other import of the bridge has. -/
abbrev ImportId := Nat

abbrev HostId := String

/-- A runtime that was started, as its hosting library knows it. -/
structure HostInstance where
  handle : UInt64
  domain : UInt32
deriving DecidableEq

/-- A runtime that belongs to a bridge. -/
structure LiveHost where
  host : HostId
  started : HostInstance
  /-- The assembly in which methods are looked up when no other is named. -/
  defaultAssembly : String
  runtimeDirectory : String
  /-- The method to be called before the runtime is shut down, once there is one. -/
  unload : Option (String × Address) := none
deriving DecidableEq

structure Bridge where
  isLive : Bool := false
  host : Option LiveHost := none
  outbound : Registry := []
  /-- The text in which the managed side was told the bindings. -/
  bindingsJson : Option String := none
  imports : List (ImportId × Address) := []
  nextImport : ImportId := 1
  objects : ObjectTable := {}
deriving DecidableEq, Inhabited

def Bridge.display (bridge : Bridge) : String :=
  "Bridge \x7b loaded: " ++ toString bridge.isLive ++ ", bindings: " ++
    toString bridge.outbound.length ++ ", resolved_imports: " ++ toString bridge.imports.length ++
    " \x7d"

def Bridge.displayResolver (bridge : Bridge) : String :=
  "Resolver \x7b live: " ++ toString bridge.isLive ++ " \x7d"

/-- Who holds a registry: a bridge, or nobody but the one who made it. -/
inductive Holder where
  | bridge (id : BridgeId)
  | alone (id : Nat)
deriving DecidableEq

structure Process where
  /-- Whether the one place for a runtime is taken. -/
  isClaimed : Bool := false
  exitTarget : Option BridgeId := none
  /-- Whether the end of the process has been told to tear the exit target down. -/
  hasExitHook : Bool := false
  bridges : Table Bridge := {}
  /-- Registries that no bridge holds. -/
  registries : Table Registry := {}
  /-- The entries of all bindings ever registered, by their numbers. -/
  adapters : List Adapter := []
  /-- The entries whose bindings are gone. -/
  retired : List AdapterId := []
  /-- The buffers for returned texts, by their numbers. One that was given back is empty. -/
  buffers : List (Option (List UInt8)) := []
  heap : Heap := {}
deriving Inhabited

namespace Process

def bridge (process : Process) (b : BridgeId) : Bridge := process.bridges.row b

def updateBridge (process : Process) (b : BridgeId) (change : Bridge → Bridge) : Process :=
  { process with bridges := process.bridges.put b (change (process.bridge b)) }

def registry (process : Process) : Holder → Registry
  | .bridge b => (process.bridge b).outbound
  | .alone r => process.registries.row r

def setRegistry (process : Process) (holder : Holder) (registry : Registry) : Process :=
  match holder with
  | .bridge b => process.updateBridge b fun bridge => { bridge with outbound := registry }
  | .alone r => { process with registries := process.registries.put r registry }

def adapter? (process : Process) (id : AdapterId) : Option Adapter := process.adapters[id]?

def adapterAt? (process : Process) (address : Address) : Option (AdapterId × Adapter) := do
  let id ← Adapter.ofAddress? address
  return (id, ← process.adapter? id)

def buffer? (process : Process) (id : BufferId) : Option (List UInt8) :=
  (process.buffers[id]?).join

/-- Puts a text into a fresh buffer of an adapter and gives back the one it had before. -/
def keepText (process : Process) (id : AdapterId) (content : List UInt8) : Process × BufferId :=
  let fresh := process.buffers.length
  let released := match (process.adapter? id).bind (·.buffer) with
    | some old => process.buffers.set old none
    | none => process.buffers
  ({ process with
      buffers := released ++ [some content]
      adapters := process.adapters.modify id fun a => { a with buffer := some fresh } }, fresh)

/-- Whether an address cannot be given to a new value: a value there is owned, or tracked by some
bridge. -/
def isPinned (process : Process) (address : Address) : Bool :=
  process.heap.allocations.any (fun a => a.address == address && 0 < a.owners) ||
    process.bridges.rows.any fun (_, bridge) => (bridge.objects.object? address).isSome

end Process

end ManagedHost
