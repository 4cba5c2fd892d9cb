import ManagedHost.Server.Connection

/-!
Connections and handlers to try connect events with. They note every call, a connection's own
handling as an event without an address.
-/

namespace ManagedHost.StandIn

/-- A handler that always answers with the same number, or fails. -/
def fixedAnswer (raw : Option UInt8) : Action (Except BridgeError Verdict) := do
  match raw with
  | some raw => return .ok (← Action.emit (Verdict.ofRaw raw))
  | none => return .error .hostNotLoaded

inductive Noted where
  | before (address : String)
  | after (address : String) (seat : UInt8)
  | ownHandling
deriving DecidableEq

def Noted.toText : Noted → String
  | before address => "pre " ++ address
  | after address seat => "post " ++ toString seat.toNat ++ " " ++ address
  | ownHandling => "default"

def Noted.ofText (text : String) : Noted :=
  match text.toList with
  | 'p' :: 'r' :: 'e' :: ' ' :: address => before (String.ofList address)
  | 'p' :: 'o' :: 's' :: 't' :: ' ' :: rest =>
    let digits := rest.takeWhile (· ≠ ' ')
    after (String.ofList ((rest.drop digits.length).drop 1))
      (UInt8.ofNat ((String.ofList digits).toNat?.getD 0))
  | _ => ownHandling

/-- Handlers that answer with fixed numbers and note under a topic that they were asked. -/
def scriptedHooks (topic : String) (before after : Option UInt8) : Hooks where
  before address := do
    Action.note topic (Noted.before address).toText
    fixedAnswer before
  after address seat := do
    Action.note topic (Noted.after address seat).toText
    fixedAnswer after

/-- A connection that always answers in the same way and notes under a topic that it was asked. -/
def fixedConnection (topic address : String) (admits : Bool) (seat : Option UInt8) :
    Connection where
  address
  connect := do
    Action.note topic Noted.ownHandling.toText
    return admits
  seat := return seat

end ManagedHost.StandIn
