import ManagedHost.Json.Reader
import ManagedHost.Json.Writer
import ManagedHost.Version
import ManagedHost.Wire.Signature

/-!
Versions, signatures and address maps as JSON. A version and a signature are written as objects
with their fields in order; both are also read from a list of their fields, and members of other
names do not matter. An address map is an object with a natural number under each name.
-/

namespace ManagedHost.Json

def writeVersion (v : RuntimeVersion) : String :=
  writeObject [("major", toString v.major.toNat), ("minor", toString v.minor.toNat),
    ("build", toString v.build.toNat)]

def readComponent : Reader UInt32 := do
  return UInt32.ofNat (← Reader.natBelow (Nat.pow 2 32))

def versionReader : Reader RuntimeVersion :=
  Reader.record (none, none, none)
    (fun (major, minor, build) key => do
      match key with
      | "major" => return (← Reader.once major readComponent, minor, build)
      | "minor" => return (major, ← Reader.once minor readComponent, build)
      | "build" => return (major, minor, ← Reader.once build readComponent)
      | _ =>
        Reader.ignore
        return (major, minor, build))
    (fun (major, minor, build) => do
      return ⟨← Reader.required major, ← Reader.required minor, ← Reader.required build⟩)
    (do
      let major ← Reader.element true readComponent
      let minor ← Reader.element false readComponent
      let build ← Reader.element false readComponent
      return ⟨major, minor, build⟩)

def readVersion (text : String) : Except Fault RuntimeVersion :=
  Reader.readAll versionReader text

def writeSignature (signature : Signature) : String :=
  writeObject [("returns", writeString signature.returns.name),
    ("params", writeList (signature.params.map fun type => writeString type.name))]

def readWireType : Reader WireType := Reader.choice WireType.ofName?

def signatureReader : Reader Signature :=
  Reader.record (none, none)
    (fun (returns, params) key => do
      match key with
      | "returns" => return (← Reader.once returns readWireType, params)
      | "params" => return (returns, ← Reader.once params (Reader.list readWireType))
      | _ =>
        Reader.ignore
        return (returns, params))
    (fun (returns, params) => do
      return ⟨← Reader.required returns, ← Reader.required params⟩)
    (do
      let returns ← Reader.element true readWireType
      let params ← Reader.element false (Reader.list readWireType)
      return ⟨returns, params⟩)

def readSignature (text : String) : Except Fault Signature :=
  Reader.readAll signatureReader text

/-- The map from names to addresses as a JSON object, in the given order. -/
def writeAddresses (addresses : List (String × Nat)) : String :=
  writeObject (addresses.map fun (name, address) => (name, toString address))

/-- Reads an object of natural numbers below 2^64, in its order. -/
def addressesReader : Reader (List (String × Nat)) := do
  match ← Reader.peekToken with
  | none => Reader.fail .unfinished
  | some '{' =>
    Reader.advance
    let entries ← Reader.members
      (fun entries key => do
        Reader.colon
        return (key, ← Reader.natBelow (Nat.pow 2 64)) :: entries)
      ((← get).length + 1) true []
    return entries.reverse
  | some _ => Reader.wrongShape

def readAddresses (text : String) : Except Fault (List (String × Nat)) :=
  Reader.readAll addressesReader text

end ManagedHost.Json
