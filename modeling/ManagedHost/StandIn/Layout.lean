import ManagedHost.FileSystem
import ManagedHost.Text.Utf8

/-!
File systems to try the program on. A layout lists what is there, in order; directories on the way
are made as needed, and a relative path starts at a given place.
-/

namespace ManagedHost.StandIn

inductive LayoutItem where
  | put (path : String) (entry : Entry)
  | remove (path : String)
  /-- An installation with two runtimes and an application. -/
  | installation
deriving DecidableEq

namespace LayoutItem

def place (base : Place) (path : String) : Place :=
  let names := (Path.components path).filter (· ≠ ".")
  if Path.isAbsolute path then names else base ++ names

/-- Puts an entry at a path. A directory that is there stays as it is. -/
def putAt (base : Place) (files : FileSystem) (path : String) (entry : Entry) : FileSystem :=
  let place := place base path
  let files := files.makeParents place
  if entry = .directory && (files.entryAt? place).isSome then files else files.put place entry

def installationFiles : List String :=
  let names := ["System.Runtime.dll", "System.Private.CoreLib.dll", "libcoreclr.so"]
  (["5.0.3/", "5.0.11/"].flatMap fun version =>
    names.map fun name => "dotnet/shared/Microsoft.NETCore.App/" ++ version ++ name) ++
    ["app/Spadecs.Boot.dll", "app/Spadecs.dll"]

def add (base : Place) (files : FileSystem) : LayoutItem → FileSystem
  | put path entry => putAt base files path entry
  | remove path => files.remove (place base path)
  | installation =>
    installationFiles.foldl (fun files path => putAt base files path (.file [] false)) files

end LayoutItem

def usualDirectories : List Place :=
  [["bin"], ["dev"], ["etc"], ["home"], ["lib"], ["opt"], ["proc"], ["root"], ["sbin"], ["tmp"],
    ["usr"], ["usr", "bin"], ["usr", "lib"], ["usr", "local"], ["usr", "share"], ["var"]]

def filesOfLayout (base : Place) (items : List LayoutItem) : FileSystem :=
  let bare : FileSystem :=
    usualDirectories.foldl (fun files place => files.put place .directory) { home := some "/root" }
  items.foldl (LayoutItem.add base) ((bare.makeParents base).put base .directory)

/-- The bytes that pairs of hexadecimal digits stand for. -/
def bytesOfHex : List Char → List UInt8
  | a :: b :: rest => UInt8.ofNat (16 * digit a + digit b) :: bytesOfHex rest
  | _ => []
where
  digit (c : Char) : Nat :=
    if c.isDigit then c.toNat - 48
    else if 'a' ≤ c && c ≤ 'f' then c.toNat - 87
    else c.toNat - 55

end ManagedHost.StandIn
