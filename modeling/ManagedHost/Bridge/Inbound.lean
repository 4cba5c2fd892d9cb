import ManagedHost.Bridge.Outbound

/-!
Managed methods for native code. An import is declared with its method and its types, and its
address is looked up when it is first called and kept until the runtime is torn down. A call with
the wrong number or types of arguments reaches neither the runtime nor the method.
-/

namespace ManagedHost

namespace Import

def display (imported : Import) : String :=
  let assembly := match imported.target.assembly with
    | some assembly => "Some(" ++ Text.quoted assembly ++ ")"
    | none => "None"
  "Import \x7b name: " ++ Text.quoted imported.name ++ ", target: ImportTarget \x7b assembly: " ++
    assembly ++ ", type_name: " ++ Text.quoted imported.target.typeName ++ ", method: " ++
    Text.quoted imported.target.method ++ " \x7d, signature: " ++ imported.signature.display ++
    " \x7d"

end Import

namespace Signature

/-- Accepts a declared signature for given Lean types. Its number of parameters is looked at
first, then the first parameter that differs, then the result. -/
def checkTyped (declared typed : Signature) (name : String) : Except BridgeError Unit :=
  if declared.arity ≠ typed.arity then .error (.arityMismatch name declared.arity typed.arity)
  else
    match firstMismatch declared.params typed.params with
    | some (expected, actual) => .error (.typeMismatch name expected actual)
    | none =>
      if declared.returns ≠ typed.returns then
        .error (.typeMismatch name declared.returns typed.returns)
      else .ok ()

end Signature

/-- Whether a text can be passed on as it is, for it holds no NUL. -/
def isPassable (text : String) : Bool := !text.toList.contains '\x00'

namespace Action

/-- Declares an import. With given types, the declared ones have to be the same; the number of a
refused import is not used again. -/
def declare (b : BridgeId) (name : String) (target : ImportTarget) (signature : Signature)
    (typed : Option Signature) : Action (Except BridgeError Import) := do
  match signature.validate name with
  | .error e => return .error e
  | .ok () =>
    let id := (← bridge b).nextImport
    updateBridge b fun bridge => { bridge with nextImport := id + 1 }
    log .debug .bridge
      ("Declared import " ++ name ++ " -> " ++ target.display ++ " " ++ signature.display)
    let imported : Import := ⟨b, id, name, target, signature⟩
    match typed with
    | none => return .ok imported
    | some typed => return (signature.checkTyped typed name).map fun () => imported

/-- Asks a runtime for the address of a method. Names that hold a NUL are not passed on, and a
null address is an error too. -/
def createDelegate (foreign : Foreign) (host : HostId) (started : HostInstance)
    (assembly typeName method : String) : Action (Except BridgeError Address) := do
  let name := typeName ++ "." ++ method
  if !(isPassable assembly && isPassable typeName && isPassable method) then
    return .error (.interiorNul name)
  else
    match ← foreign (.createDelegate host started assembly typeName method) with
    | .error status => return .error (.createDelegate typeName method status)
    | .ok address =>
      if address = 0 then return .error (.nullDelegate typeName method)
      else
        log .debug .resolver
          ("Resolved " ++ name ++ " in [" ++ assembly ++ "] at 0x" ++ Text.hexDigits address)
        return .ok address

def resolve (foreign : Foreign) (b : BridgeId) (typeName method : String)
    (assembly : Option String) : Action (Except BridgeError Address) := do
  match (← bridge b).host with
  | none => return .error .hostNotLoaded
  | some live =>
    createDelegate foreign live.host live.started (assembly.getD live.defaultAssembly) typeName
      method

/-- The address of an import, looked up unless it is known. -/
def resolveImport (foreign : Foreign) (imported : Import) :
    Action (Except BridgeError Address) := do
  match (← bridge imported.bridge).imports.lookup imported.id with
  | some address => return .ok address
  | none =>
    match ← resolve foreign imported.bridge imported.target.typeName imported.target.method
        imported.target.assembly with
    | .error e => return .error e
    | .ok address =>
      updateBridge imported.bridge fun bridge =>
        { bridge with
          imports := (imported.id, address) :: bridge.imports.filter (·.1 ≠ imported.id) }
      return .ok address

/-- Calls the function at an address that a runtime handed out. -/
def callAddress (foreign : Foreign) (purpose : Purpose) (name : String) (signature : Signature)
    (address : Address) (args : List Value) : Action (Except BridgeError Value) := do
  match Cell.ofValues name args with
  | .error e => return .error e
  | .ok cells =>
    let result ← foreign (.managed purpose address signature cells)
    return result.toResult (← process).buffer? name signature.returns

def call (foreign : Foreign) (imported : Import) (args : List Value) :
    Action (Except BridgeError Value) := do
  match imported.signature.checkArguments imported.name args with
  | .error e => return .error e
  | .ok () =>
    match ← resolveImport foreign imported with
    | .error e => return .error e
    | .ok address =>
      callAddress foreign (.imported imported.bridge imported.id) imported.name
        imported.signature address args

end Action

end ManagedHost
