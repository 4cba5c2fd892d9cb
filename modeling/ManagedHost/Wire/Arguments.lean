import ManagedHost.Wire.Signature

/-!
Typed arguments. For a list of parameter types there is a Lean type of argument tuples; a list of
values becomes such a tuple exactly when it has as many values, each of the type at its place.
-/

namespace ManagedHost

/-- Tuples with one element of each type. -/
@[reducible] def Arguments : List WireType → Type
  | [] => Unit
  | type :: types => type.Carrier × Arguments types

namespace Arguments

def toValues : (types : List WireType) → Arguments types → List Value
  | [], () => []
  | type :: types, (first, rest) => Value.ofCarrier type first :: toValues types rest

def takeEach (name : String) (count : Nat) :
    (types : List WireType) → List Value → Except BridgeError (Arguments types)
  | [], _ => .ok ()
  | _ :: types, [] => .error (.argumentCount name (count + types.length + 1) count)
  | type :: types, value :: values => do
    let first ← value.expect type name
    let rest ← takeEach name (count + 1) types values
    return (first, rest)

/-- The tuple that a list of values is. Their number is looked at first. -/
def ofValues (name : String) (types : List WireType) (values : List Value) :
    Except BridgeError (Arguments types) :=
  if values.length ≠ types.length then
    .error (.argumentCount name types.length values.length)
  else takeEach name 0 types values

end Arguments

end ManagedHost
