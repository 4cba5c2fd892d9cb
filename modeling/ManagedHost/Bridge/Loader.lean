import ManagedHost.Runtime.Root
import ManagedHost.Version

/-!
What a bridge needs to be told to bring a runtime up: the bootstrap assembly and its entry points,
which runtimes will do, and where the list of installed runtimes and the hosting library come from.
-/

namespace ManagedHost

/-- Where the list of installed runtimes comes from. -/
inductive Catalog where
  /-- The launcher of the installation. -/
  | installed
  | launcher (path : String)
  /-- A list from outside the program. -/
  | supplied (id : Nat)
deriving DecidableEq

inductive Opener where
  | file
  | supplied (id : Nat)
deriving DecidableEq

/-- Everything needed to bring a runtime up and to tell its managed side about the bindings. -/
structure Loader where
  assembly : String
  /-- The identity of the bootstrap assembly, by which methods are looked up in it. -/
  identity : String
  entryType : String
  minVersion : RuntimeVersion := RuntimeVersion.lowest
  loadMethod : String := "OnLoad"
  unloadMethod : String := "OnUnload"
  domainName : String := "DefaultDomain"
  environment : Environment := {}
  catalog : Catalog := .installed
  opener : Opener := .file

namespace Loader

def libraryFileName (name : String) : String := "lib" ++ name ++ ".so"

def libraryName : String := libraryFileName "coreclr"

/-- The property that tells a runtime which assemblies it may load. -/
def trustedAssemblies : String := "TRUSTED_PLATFORM_ASSEMBLIES"

def loadName (loader : Loader) : String := loader.entryType ++ "." ++ loader.loadMethod

def unloadName (loader : Loader) : String := loader.entryType ++ "." ++ loader.unloadMethod

end Loader

end ManagedHost
