import ManagedHost.StandIn.Method

/-!
Hosts to try a bridge with. A scripted host answers as it was told to; a stand-in library is a file
of the file system whose variant says which functions it has and how they answer.
-/

namespace ManagedHost.StandIn

/-- What a scripted host hands out for a method. -/
inductive Delegate where
  | method (name : String)
  | null
  | status (code : Int32)
  | raw (address : Address)
  /-- The address of a binding, by its bridge and its name. -/
  | binding (bridge name : String)
deriving DecidableEq

def unknownMethod : Int32 := -2146233054

structure ScriptedHost where
  startUpStatus : Int32 := 0
  shutDownStatus : Int32 := 0
  handle : UInt64 := 12648430
  domain : UInt32 := 1
  /-- What is handed out for the full name of a method. -/
  delegates : List (String × Delegate) := []

namespace ScriptedHost

/-- What a host hands out without being told. -/
def preset : List (String × Delegate) :=
  [("Spadecs.Bootstrapper.OnLoad", .method "on_load"),
    ("Spadecs.Bootstrapper.OnUnload", .method "on_unload"),
    ("Spadecs.EventManager.GetTestString", .method "get_test_string"),
    ("Spadecs.EventManager.OnPrePlayerConnect", .method "pre_connect"),
    ("Spadecs.EventManager.OnPostPlayerConnect", .method "post_connect")]

def startUp (host : ScriptedHost) : Except Int32 HostInstance :=
  if host.startUpStatus = 0 then .ok ⟨host.handle, host.domain⟩ else .error host.startUpStatus

def shutDown (host : ScriptedHost) : Except Int32 Unit :=
  if host.shutDownStatus = 0 then .ok () else .error host.shutDownStatus

def createDelegate (host : ScriptedHost) (bound : List ((String × String) × Address))
    (typeName method : String) : Except Int32 Address :=
  match host.delegates.lookup (typeName ++ "." ++ method) with
  | none => .error unknownMethod
  | some (.method name) =>
    match Method.named.lookup name with
    | some found => .ok found.address
    | none => .error unknownMethod
  | some .null => .ok 0
  | some (.status code) => if code = 0 then .ok 0 else .error code
  | some (.raw address) => .ok address
  | some (.binding bridge name) => .ok ((bound.lookup (bridge, name)).getD 0)

end ScriptedHost

end ManagedHost.StandIn

namespace ManagedHost.LibraryVariant

open StandIn

def named : List (String × LibraryVariant) :=
  [("full", full), ("no_initialize", noStartUp), ("no_create_delegate", noCreateDelegate),
    ("no_shutdown", noShutDown), ("init_fail", failingStartUp),
    ("delegate_fail", failingDelegates), ("delegate_null", nullDelegates),
    ("shutdown_fail", failingShutDown)]

def name (variant : LibraryVariant) : String :=
  match named.find? (·.2 == variant) with
  | some (name, _) => name
  | none => ""

/-- The first function that a library of a variant lacks. -/
def missing? : LibraryVariant → Option String
  | noStartUp => some "coreclr_initialize"
  | noCreateDelegate => some "coreclr_create_delegate"
  | noShutDown => some "coreclr_shutdown"
  | _ => none

def startUp : LibraryVariant → Except Int32 HostInstance
  | failingStartUp => .error (-2147467259)
  | _ => .ok ⟨12648430, 7⟩

def createDelegate (variant : LibraryVariant) (method : String) : Except Int32 Address :=
  match variant with
  | failingDelegates => .error unknownMethod
  | nullDelegates => .ok 0
  | _ =>
    match Method.exported.lookup method with
    | some found => .ok found.address
    | none => .error unknownMethod

def shutDown : LibraryVariant → Except Int32 Unit
  | failingShutDown => .error (-1)
  | _ => .ok ()

end ManagedHost.LibraryVariant
