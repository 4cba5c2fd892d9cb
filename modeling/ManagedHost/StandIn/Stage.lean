import ManagedHost.Server.Session
import ManagedHost.StandIn.Handlers
import ManagedHost.StandIn.Scene

/-!
A stage on which bridges are tried. Everything on it has a label by which it is called for; some
things are made when they are first called for. The stage also keeps how much of what happened was
asked for already.
-/

namespace ManagedHost.StandIn

/-- A shared value under a label: its allocation, and whether the label still owns it. -/
structure Owned where
  id : ObjectId
  isOwner : Bool

structure Staged where
  /-- The topic of the notes that its handlers take. -/
  topic : String
  connection : Foreign → Connection
  bridges : List BridgeId := []
  /-- The client that it is for, if it owns one. -/
  client : Option ObjectId := none

structure Stage where
  world : World
  scene : Scene := {}
  made : Nat := 0
  bridges : List (String × BridgeId) := []
  hosts : List (String × String) := []
  registries : List (String × Nat) := []
  imports : List (String × Import) := []
  resolvers : List (String × BridgeId) := []
  objects : List (String × Owned) := []
  lobbies : List (String × ObjectId) := []
  events : List (String × EventImports) := []
  connections : List (String × Staged) := []
  sessions : List (String × Session) := []
  asked : List (String × Nat) := []

/-- A computation on a stage. It fails with the label that stands for nothing. -/
abbrev Play := StateT Stage (Except String)

namespace Stage

def bind {α : Type} (entries : List (String × α)) (label : String) (value : α) :
    List (String × α) :=
  (label, value) :: entries.filter (·.1 ≠ label)

def look {α : Type} (entries : Stage → List (String × α)) (label : String) : Play α := do
  match (entries (← get)).lookup label with
  | some a => return a
  | none => throw label

def act {α : Type} (action : Foreign → Action α) : Play α := do
  let stage ← get
  let (a, world) := (action stage.scene.foreign).run stage.world
  set { stage with world }
  return a

def operate (operation : Operation) : Play operation.Result := act operation.run

def process : Play Process := return (← get).world.process

def bridgeState (b : BridgeId) : Play Bridge := return (← process).bridge b

def fresh : Play Nat := do
  let stage ← get
  set { stage with made := stage.made + 1 }
  return stage.made

/-- The bridge of a label, made when it is first called for. -/
def bridge (label : String) : Play BridgeId := do
  match (← get).bridges.lookup label with
  | some b => return b
  | none =>
    let b ← fresh
    modify fun s => { s with bridges := bind s.bridges label b }
    return b

def putHost (label : String) (host : ScriptedHost) : Play String := do
  let name := label ++ " " ++ toString (← fresh)
  modify fun s => { s with
    scene := { s.scene with hosts := (name, host) :: s.scene.hosts }
    hosts := bind s.hosts label name }
  return name

def host (label : String) : Play String := do
  match (← get).hosts.lookup label with
  | some name => return name
  | none => putHost label { delegates := ScriptedHost.preset }

def lobby (label : String) : Play ObjectId := do
  match (← get).lobbies.lookup label with
  | some id => return id
  | none =>
    let id ← act fun _ => Action.createFresh (.lobby {})
    modify fun s => { s with lobbies := bind s.lobbies label id }
    return id

/-- Gives up the lobby of a label. Tells whether there was one. -/
def dropLobby (label : String) : Play Bool := do
  match (← get).lobbies.lookup label with
  | none => return false
  | some id =>
    operate (.disown id)
    modify fun s => { s with lobbies := s.lobbies.filter (·.1 ≠ label) }
    return true

def registry (label : String) : Play Nat := do
  match (← get).registries.lookup label with
  | some r => return r
  | none =>
    let r ← fresh
    modify fun s => { s with registries := bind s.registries label r }
    return r

def dropRegistry (label : String) : Play Bool := do
  match (← get).registries.lookup label with
  | none => return false
  | some r =>
    operate (.clear (.alone r))
    modify fun s => { s with registries := s.registries.filter (·.1 ≠ label) }
    return true

/-- Binds a routine on the bridge of a label, and remembers its address for the hosts. -/
def register (label name : String) (signature : Signature) (routine : BridgeId → Routine) :
    Play (Except BridgeError Binding) := do
  let b ← bridge label
  let result ← operate (.register (.bridge b) name signature (routine b).toFunction)
  if let .ok binding := result then
    modify fun s => { s with
      scene := { s.scene with bound := ((label, name), binding.address) :: s.scene.bound } }
  return result

/-- Whether anything refers to a bridge. A routine that turns to one does so for good, for the
entries of bindings are never freed. -/
def isHeld (stage : Stage) (b : BridgeId) : Bool :=
  let process := stage.world.process
  process.exitTarget == some b || stage.bridges.any (·.2 == b) || stage.resolvers.any (·.2 == b) ||
    stage.imports.any (·.2.bridge == b) || stage.sessions.any (·.2.bridge == b) ||
    stage.events.any (·.2.testString.untyped.bridge == b) ||
    stage.connections.any (·.2.bridges.contains b) ||
    process.adapters.any fun adapter =>
      match adapter.function with
      | .supplied n _ => (Routine.ofNumber n).bridge? == some b
      | _ => false

/-- Removes the bindings of the bridges that nothing refers to any more. -/
def settle : Play Unit := do
  let stage ← get
  for (b, bridge) in stage.world.process.bridges.rows do
    unless bridge.outbound.isEmpty || stage.isHeld b do operate (.clear (.bridge b))

/-- The notes of a topic since they were last asked for. -/
def notes (topic : String) : Play (List String) := do
  let stage ← get
  let taken := (stage.world.notes.filter (·.topic == topic)).reverse
  set { stage with asked := bind stage.asked topic taken.length }
  return (taken.drop ((stage.asked.lookup topic).getD 0)).map (·.text)

def calls : Play (List ForeignCall) := return (← get).world.foreignCalls

def hostCalls (label : String) : Play (List ForeignCall) := do
  let name ← host label
  let stage ← get
  let made := stage.world.foreignCalls.filter fun call =>
    call.host? = some (Stand.scripted name).id
  let topic := "host " ++ name
  set { stage with asked := bind stage.asked topic made.length }
  return made.drop ((stage.asked.lookup topic).getD 0)

def delegate? (label typeName method : String) : Play (Option Delegate) := do
  let name ← host label
  return ((← get).scene.host name).delegates.lookup (typeName ++ "." ++ method)

def supply (catalogs : List (Except BridgeError (List Runtime))) (openers : List (Option String)) :
    Play Unit :=
  modify fun s => { s with scene := { s.scene with catalogs, openers } }

/-- Loads a bridge and puts its resolver under a label. Gives the foreign calls since the last time
that a bridge was loaded in this way. -/
def load (b : BridgeId) (resolver : String) (loader : Loader) :
    Play (Except BridgeError Bool × List ForeignCall) := do
  let result ← operate (.load b loader)
  if result.isOk then
    modify fun s => { s with resolvers := bind s.resolvers resolver b }
  let live := (← bridgeState b).isLive
  let made ← calls
  let reported := ((← get).asked.lookup "load").getD 0
  modify fun s => { s with asked := bind s.asked "load" made.length }
  return (result.map fun _ => live, made.drop reported)

/-- The alphabetically first label of the values at an address. -/
def labelOf (address : Address) : Play (Option String) := do
  let stage ← get
  let heap := stage.world.process.heap
  let labels := (stage.objects.filter fun (_, o) => heap.address o.id == address).map (·.1)
  return (labels.mergeSort (· ≤ ·)).head?

/-- Puts an owned value under a label; the value before loses an owner. -/
def putObject (label : String) (id : ObjectId) : Play Unit := do
  if let some old := (← get).objects.lookup label then
    if old.isOwner then operate (.disown old.id)
  modify fun s => { s with objects := bind s.objects label ⟨id, true⟩ }

/-- Takes the ownership from a label. Tells whether it had it. -/
def dropObject (label : String) : Play Bool := do
  match (← get).objects.lookup label with
  | none => return false
  | some o =>
    if o.isOwner then
      operate (.disown o.id)
      modify fun s => { s with objects := bind s.objects label ⟨o.id, false⟩ }
    return o.isOwner

def objectAddress (label : String) : Play Address := do
  return (← process).heap.address (← look Stage.objects label).id

/-- A value that was found: its label and the value. It may be kept under another label. -/
def found (id : ObjectId) (keep : Option String) : Play (Option String × Option Datum) := do
  let heap := (← process).heap
  let label ← labelOf (heap.address id)
  if let some keep := keep then
    operate (.own id)
    putObject keep id
  return (label, heap.datum? id)

def player? (id : ObjectId) (seat : UInt8) : Play (Option Player) := do
  return ((← process).heap.lobby? id).bind fun l => (l.player? seat).bind l.record?

/-- A connection of a client that takes a seat in a lobby. -/
def clientConnection (address : String) (lobby : ObjectId) : Play Staged := do
  operate (.own lobby)
  let id ← act fun _ => Action.createFresh (.connection { address, lobby })
  return { topic := "", connection := fun _ => Connection.ofClient address id, client := some id }

def freshTopic : Play String := return "calls " ++ toString (← fresh)

/-- The managed methods under a label as handlers, with the bridge that they belong to. -/
def eventHooks (label : String) : Play ((Foreign → Hooks) × List BridgeId) := do
  let events ← look Stage.events label
  return (fun foreign => events.hooks foreign, [events.testString.untyped.bridge])

/-- Puts a bridged connection under a label. A client that no connection is for any more leaves its
lobby to the other owners. -/
def putConnection (label topic : String) (hooks : (Foreign → Hooks) × List BridgeId)
    (inner : Staged) : Play Unit := do
  let old := ((← get).connections.lookup label).bind (·.client)
  modify fun s => { s with
    connections := bind s.connections label
      { inner with
        topic
        connection := fun foreign => Connection.bridged (hooks.1 foreign) (inner.connection foreign)
        bridges := hooks.2 ++ inner.bridges } }
  if let some id := old then
    unless (← get).connections.any (·.2.client == some id) do
      if let some client := (← process).heap.client? id then operate (.disown client.lobby)

/-- A connect event: whether the client was admitted, its seat and its address. -/
def connect (connection : Foreign → Connection) : Play (Bool × Option UInt8 × String) := do
  let admitted ← act fun foreign => (connection foreign).connect
  let seat ← act fun foreign => (connection foreign).seat
  return (admitted, seat, (connection (← get).scene.foreign).address)

def startSession (label bridge : String) (imports : Settings.Imports) (loader : Loader) :
    Play (Except BridgeError Unit) := do
  let b ← fresh
  match ← act fun foreign => Session.start foreign b imports loader with
  | .error e => return .error e
  | .ok session =>
    modify fun s => { s with
      sessions := bind s.sessions label session
      bridges := bind s.bridges bridge b }
    return .ok ()

/-- What the names of a session stand for: whether the connection and the lobby have theirs, whether
the lobby is found by its name, whether the connection is found as a text, and whether the method
that returns a text was looked up. -/
def sessionNames (session : Session) : Play (List Bool) := do
  let heap := (← process).heap
  let bridge ← bridgeState session.bridge
  let found ← operate (.find session.bridge "protocol" .lobby)
  let wrong ← operate (.find session.bridge "connection" .text)
  return [bridge.objects.addressOf? "connection" = some (heap.address session.connection),
    bridge.objects.addressOf? "protocol" = some (heap.address session.lobby),
    found = some session.lobby, wrong.isSome,
    (bridge.imports.lookup session.events.testString.untyped.id).isSome]

end Stage

end ManagedHost.StandIn
