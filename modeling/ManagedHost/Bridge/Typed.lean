import ManagedHost.Bridge.Operation

/-!
Imports with Lean types. Declaring one compares the declared types with the Lean types, so that a
call with a tuple of those types has the right number and types of arguments, and its result has
the Lean type too.
-/

namespace ManagedHost

/-- An import that was declared for the given types. -/
structure TypedImport (types : Signature) where
  untyped : Import

namespace Action

def declareTyped (foreign : Foreign) (types : Signature) (b : BridgeId) (name : String)
    (target : ImportTarget) (signature : Signature) :
    Action (Except BridgeError (TypedImport types)) := do
  let declared ← (Operation.declare b name target signature (some types)).run foreign
  return declared.map fun imported => ⟨imported⟩

def callTyped (foreign : Foreign) {types : Signature} (imported : TypedImport types)
    (args : Arguments types.params) : Action (Except BridgeError types.returns.Carrier) := do
  match ← (Operation.call imported.untyped (args.toValues types.params)).run foreign with
  | .error e => return .error e
  | .ok value => return value.expect types.returns imported.untyped.name

end Action

end ManagedHost
