import ManagedHost.Error

/-!
Signatures. A signature lists the types of the parameters and the type of the result. `validate`
refuses a parameter of type void, and `checkArguments` accepts exactly the argument lists that
have the declared types, one for one.
-/

namespace ManagedHost

structure Signature where
  returns : WireType
  params : List WireType
deriving DecidableEq, Repr

namespace Signature

def arity (signature : Signature) : Nat := signature.params.length

def display (signature : Signature) : String :=
  "Signature \x7b returns: " ++ signature.returns.name ++ ", params: [" ++
    ", ".intercalate (signature.params.map WireType.name) ++ "] \x7d"

/-- Reads a signature such as `(Int8,Utf8String)->Void`. The result may also be a pair of brackets,
for void. -/
def ofText? (text : String) : Option Signature := do
  match text.splitOn "->" with
  | [params, returns] =>
    let names := (String.ofList (params.toList.drop 1).dropLast).splitOn ","
    let types ← (names.filter (· ≠ "")).mapM WireType.ofName?
    return ⟨← if returns = "()" then some .void else WireType.ofName? returns, types⟩
  | _ => none

/-- Refuses void as a parameter. -/
def validate (signature : Signature) (name : String) : Except BridgeError Unit :=
  if .void ∈ signature.params then .error (.voidParameter name) else .ok ()

/-- The first position at which two lists of types differ, as the pair of types there. Types
beyond the end of the shorter list do not count. -/
def firstMismatch : (expected actual : List WireType) → Option (WireType × WireType)
  | e :: expected, a :: actual => if e = a then firstMismatch expected actual else some (e, a)
  | _, _ => none

/-- Accepts the arguments of a call when their number and their types are as declared. The number
is looked at first; of the types the first that differs is reported. -/
def checkArguments (signature : Signature) (name : String) (args : List Value) :
    Except BridgeError Unit :=
  if args.length ≠ signature.params.length then
    .error (.argumentCount name signature.params.length args.length)
  else
    match firstMismatch signature.params (args.map Value.wireType) with
    | some (expected, actual) => .error (.typeMismatch name expected actual)
    | none => .ok ()

/-- Accepts a declared signature for a function with the given parameter and result types. Void
parameters are refused first, then a different number of parameters, then the first parameter that
differs, then a different result. -/
def checkAgainst (declared actual : Signature) (name : String) : Except BridgeError Unit :=
  if .void ∈ declared.params then .error (.voidParameter name)
  else if declared.arity ≠ actual.arity then
    .error (.arityMismatch name declared.arity actual.arity)
  else
    match firstMismatch declared.params actual.params with
    | some (expected, got) => .error (.typeMismatch name expected got)
    | none =>
      if declared.returns ≠ actual.returns then
        .error (.typeMismatch name declared.returns actual.returns)
      else .ok ()

end Signature

namespace Value

/-- The element of a type that a value is, or the error that names both types. -/
def expect (type : WireType) (name : String) (value : Value) : Except BridgeError type.Carrier :=
  match toCarrier? type value with
  | some v => .ok v
  | none => .error (.typeMismatch name type value.wireType)

end Value

end ManagedHost
