import ManagedHost.Objects.Heap

/-!
Tracked objects. A table knows values by the addresses of their allocations, which it does not
own, and knows some of these addresses by name. A value that nobody owns any more is not found;
its entries are removed at the latest by the next change of the table.
-/

namespace ManagedHost

/-- What a name stands for. -/
structure NameEntry where
  address : Address
  /-- The type of the value that was tracked under the name. -/
  typeName : String
deriving DecidableEq

/-- Tracked values by address and addresses by name. -/
structure ObjectTable where
  objects : List (Address × ObjectId) := []
  names : List (String × NameEntry) := []
deriving DecidableEq

namespace ObjectTable

def object? (table : ObjectTable) (address : Address) : Option ObjectId :=
  table.objects.lookup address

def entry? (table : ObjectTable) (name : String) : Option NameEntry := table.names.lookup name

def addressOf? (table : ObjectTable) (name : String) : Option Address :=
  (table.entry? name).map (·.address)

def typeNameOf? (table : ObjectTable) (name : String) : Option String :=
  (table.entry? name).map (·.typeName)

/-- The number of addresses in the table, those of dead values included. -/
def size (table : ObjectTable) : Nat := table.objects.length

def display (table : ObjectTable) : String :=
  "ObjectTable \x7b objects: " ++ toString table.size ++ ", names: " ++
    toString table.names.length ++ " \x7d"

/-- Whether a value tracked at the address is alive. -/
def isTracked (heap : Heap) (table : ObjectTable) (address : Address) : Bool :=
  match table.object? address with
  | some id => heap.isAlive id
  | none => false

/-- Removes dead values and, if there were any, the names that stand for no tracked address. Tells
how many dead values there were. -/
def sweep (heap : Heap) (table : ObjectTable) : ObjectTable × Nat :=
  let live := table.objects.filter fun (_, id) => heap.isAlive id
  let removed := table.objects.length - live.length
  if removed = 0 then ({ table with objects := live }, 0)
  else
    ({ objects := live
       names := table.names.filter fun (_, entry) => live.any (·.1 == entry.address) }, removed)

/-- Tracks a value, if it is not tracked and the name is free. -/
def insert (heap : Heap) (table : ObjectTable) (id : ObjectId) (name : Option String) :
    Option ObjectTable := do
  let ⟨address, datum, _⟩ ← heap.get? id
  if (table.object? address).isSome then none
  else
    match name with
    | none => return { table with objects := (address, id) :: table.objects }
    | some name =>
      if (table.entry? name).isSome then none
      else
        return { objects := (address, id) :: table.objects
                 names := (name, ⟨address, datum.kind.typeName⟩) :: table.names }

/-- Stops tracking what is at an address and, if asked to, forgets the names that stand for it. -/
def erase (table : ObjectTable) (address : Address) (alsoNames : Bool) : ObjectTable × Bool :=
  let objects := table.objects.filter (·.1 ≠ address)
  let names :=
    if alsoNames then table.names.filter (·.2.address ≠ address) else table.names
  (⟨objects, names⟩,
    (table.object? address).isSome || names.length ≠ table.names.length)

/-- Forgets a name and stops tracking what is at the address it stands for. -/
def eraseName (table : ObjectTable) (name : String) : ObjectTable × Bool :=
  match table.entry? name with
  | none => (table, false)
  | some entry =>
    (⟨table.objects.filter (·.1 ≠ entry.address), table.names.filter (·.1 ≠ name)⟩, true)

/-- The value tracked at an address, if it is alive and of the given type. -/
def get? (heap : Heap) (table : ObjectTable) (address : Address) (kind : Kind) :
    Option ObjectId := do
  let id ← table.object? address
  let allocation ← heap.get? id
  if 0 < allocation.owners && allocation.datum.kind = kind then some id else none

/-- The value tracked under a name, if it is alive and of the given type. A name whose value is
dead is removed. -/
def find (heap : Heap) (table : ObjectTable) (name : String) (kind : Kind) :
    ObjectTable × Option ObjectId :=
  match table.addressOf? name with
  | none => (table, none)
  | some address =>
    if table.isTracked heap address then (table, table.get? heap address kind)
    else
      (⟨table.objects.filter (·.1 ≠ address), table.names.filter (·.1 ≠ name)⟩, none)

end ObjectTable

end ManagedHost
