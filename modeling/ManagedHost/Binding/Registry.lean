import ManagedHost.Binding.Function
import ManagedHost.Wire.Cell

/-!
Bindings: native functions under the names by which the managed side calls them. A registry holds
at most one binding for a name, in ascending order of the names. For every binding that was ever
registered there is an adapter, which is never freed and whose address never changes.
-/

namespace ManagedHost

abbrev AdapterId := Nat

/-- The callable entry of one binding. -/
structure Adapter where
  name : String
  signature : Signature
  function : NativeFunction
  /-- The buffer with the last text that was returned through the entry. -/
  buffer : Option BufferId := none
deriving DecidableEq

namespace Adapter

def base : Address := 0x7f0000000000

def stride : Nat := 16

def address (id : AdapterId) : Address := base + stride * id

def ofAddress? (address : Address) : Option AdapterId :=
  if base ≤ address && (address - base) % stride = 0 then some ((address - base) / stride)
  else none

theorem ofAddress?_address (id : AdapterId) : ofAddress? (address id) = some id := by
  simp [ofAddress?, address, base, stride]

end Adapter

structure Binding where
  name : String
  signature : Signature
  function : NativeFunction
  adapter : AdapterId
deriving DecidableEq

/-- The address by which managed code calls the binding. -/
def Binding.address (binding : Binding) : Address := Adapter.address binding.adapter

def Binding.display (binding : Binding) : String :=
  "OutboundBinding \x7b name: " ++ Text.quoted binding.name ++ ", signature: " ++
    binding.signature.display ++ ", address: 0x" ++ Text.hexDigits binding.address ++ " \x7d"

/-- Bindings in ascending order of their names. -/
abbrev Registry := List Binding

namespace Registry

def get? (registry : Registry) (name : String) : Option Binding :=
  registry.find? (·.name == name)

def insert : Registry → Binding → Registry
  | [], binding => [binding]
  | first :: rest, binding =>
    if binding.name < first.name then binding :: first :: rest else first :: insert rest binding

def names (registry : Registry) : List String := registry.map (·.name)

def display (registry : Registry) : String :=
  let entries := registry.map fun binding => Text.quoted binding.name ++ ": " ++ binding.display
  "OutboundRegistry \x7b bindings: \x7b" ++ ", ".intercalate entries ++ "\x7d \x7d"

def snapshot (registry : Registry) : List (String × Address) :=
  registry.map fun binding => (binding.name, binding.address)

end Registry

end ManagedHost
