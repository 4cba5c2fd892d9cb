import ManagedHost.Bridge.Typed
import ManagedHost.Server.Connection
import ManagedHost.Settings.Basic

/-!
What the server and its managed scripts know of each other: two native functions that the scripts
may call, and three managed methods that the server calls.
-/

namespace ManagedHost

namespace Action

/-- Binds the native functions that scripts may call. The lobby is not owned by them. -/
def registerExports (foreign : Foreign) (b : BridgeId) (lobby : ObjectId) :
    Action (Except BridgeError Unit) := do
  match ← (Operation.register (.bridge b) "my_pythonic_function" NativeFunction.report.signature
      .report).run foreign with
  | .error e => return .error e
  | .ok _ =>
    let bound ← (Operation.register (.bridge b) "cplayer_kick_by_id"
      (NativeFunction.kick lobby).signature (.kick lobby)).run foreign
    return bound.map fun _ => ()

end Action

structure EventImports where
  testString : TypedImport ⟨.utf8String, []⟩
  preConnect : TypedImport ⟨.uint8, [.utf8String]⟩
  postConnect : TypedImport ⟨.uint8, [.utf8String, .uint8]⟩

namespace EventImports

def declareMethod (foreign : Foreign) (types : Signature) (b : BridgeId)
    (settings : Settings.Imports) (method : String) :
    Action (Except BridgeError (TypedImport types)) :=
  Action.declareTyped foreign types b method
    ⟨some settings.assemblyIdentity, settings.eventType, method⟩ types

def declare (foreign : Foreign) (b : BridgeId) (settings : Settings.Imports) :
    Action (Except BridgeError EventImports) := do
  match ← declareMethod foreign _ b settings "GetTestString" with
  | .error e => return .error e
  | .ok testString =>
    match ← declareMethod foreign _ b settings "OnPrePlayerConnect" with
    | .error e => return .error e
    | .ok preConnect =>
      match ← declareMethod foreign _ b settings "OnPostPlayerConnect" with
      | .error e => return .error e
      | .ok postConnect => return .ok { testString, preConnect, postConnect }

def toVerdict : Except BridgeError UInt8 → Action (Except BridgeError Verdict)
  | .error e => return .error e
  | .ok raw => return .ok (← Action.emit (Verdict.ofRaw raw))

def hooks (foreign : Foreign) (events : EventImports) : Hooks where
  before address := do toVerdict (← Action.callTyped foreign events.preConnect (address, ()))
  after address seat := do
    toVerdict (← Action.callTyped foreign events.postConnect (address, seat, ()))

end EventImports

end ManagedHost
