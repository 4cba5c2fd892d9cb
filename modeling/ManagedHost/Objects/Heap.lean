import ManagedHost.Server.Lobby

/-!
Shared values. A value lives in an allocation with an address and a number of owners, and is alive
as long as somebody owns it. Allocations are numbered and never renumbered, so that two of them
can be told apart even where the second one reuses the address of the first.
-/

namespace ManagedHost

abbrev Address := Nat

abbrev ObjectId := Nat

inductive Kind where
  | text | number | flag | bytes | unit
  | lobby
  /-- A connection whose events the managed side takes part in. -/
  | connection
deriving DecidableEq

def Kind.typeName : Kind → String
  | text => "alloc::string::String"
  | number => "i32"
  | flag => "bool"
  | bytes => "alloc::vec::Vec<u8>"
  | unit => "()"
  | lobby => "spadecs::connection::StandInProtocol"
  | connection =>
    "spadecs::connection::BridgedConnection<spadecs::connection::StandInConnection>"

/-- A client connection that admits everybody and seats them in a lobby. -/
structure Client where
  address : String
  lobby : ObjectId
  seat : Option UInt8 := none
deriving DecidableEq

inductive Datum where
  | text (v : String)
  | number (v : Int32)
  | flag (v : Bool)
  | bytes (v : List UInt8)
  | unit
  | lobby (v : Lobby)
  | connection (v : Client)
deriving DecidableEq

def Datum.kind : Datum → Kind
  | text _ => .text
  | number _ => .number
  | flag _ => .flag
  | bytes _ => .bytes
  | unit => .unit
  | lobby _ => .lobby
  | connection _ => .connection

structure Allocation where
  address : Address
  datum : Datum
  owners : Nat
deriving DecidableEq

/-- All allocations ever made, by their numbers. -/
structure Heap where
  allocations : List Allocation := []

namespace Heap

def get? (heap : Heap) (id : ObjectId) : Option Allocation := heap.allocations[id]?

/-- Whether somebody owns the value. -/
def isAlive (heap : Heap) (id : ObjectId) : Bool :=
  match heap.get? id with
  | some allocation => 0 < allocation.owners
  | none => false

def address (heap : Heap) (id : ObjectId) : Address :=
  match heap.get? id with
  | some allocation => allocation.address
  | none => 0

/-- The number that the next allocation gets. -/
def nextId (heap : Heap) : ObjectId := heap.allocations.length

/-- Puts a value with one owner at an address. -/
def allocate (heap : Heap) (address : Address) (datum : Datum) : Heap :=
  ⟨heap.allocations ++ [⟨address, datum, 1⟩]⟩

def own (heap : Heap) (id : ObjectId) : Heap :=
  ⟨heap.allocations.modify id fun a => { a with owners := a.owners + 1 }⟩

def disown (heap : Heap) (id : ObjectId) : Heap :=
  ⟨heap.allocations.modify id fun a => { a with owners := a.owners - 1 }⟩

def write (heap : Heap) (id : ObjectId) (datum : Datum) : Heap :=
  ⟨heap.allocations.modify id fun a => { a with datum }⟩

def datum? (heap : Heap) (id : ObjectId) : Option Datum := (heap.get? id).map (·.datum)

def lobby? (heap : Heap) (id : ObjectId) : Option Lobby :=
  match heap.datum? id with
  | some (.lobby lobby) => some lobby
  | _ => none

def client? (heap : Heap) (id : ObjectId) : Option Client :=
  match heap.datum? id with
  | some (.connection client) => some client
  | _ => none

end Heap

end ManagedHost
