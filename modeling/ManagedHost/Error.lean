import ManagedHost.Text.Number
import ManagedHost.Text.Quoted
import ManagedHost.Wire.Basic

/-!
What can go wrong while a runtime is located, loaded, called into or torn down. Each constructor
is one cause, and `BridgeError.message` is its wording.
-/

namespace ManagedHost

inductive BridgeError where
  /-- No directory of an installation could be found. -/
  | runtimeNotInstalled
  /-- No installed runtime is as new as `floor`. -/
  | runtimeVersionTooLow (floor : String)
  | runtimeListing (launcher reason : String)
  | invalidVersion (text : String)
  | assemblyMissing (path : String)
  | hostLibraryMissing (path : String)
  | hostLibraryLoad (path : String)
  | missingExport (symbol : String)
  /-- Another host holds the process. -/
  | hostAlreadyLoaded
  | hostNotLoaded
  | startUpFailed (status : Int32)
  /-- The runtime refused to hand out a method. -/
  | createDelegate (typeName method : String) (status : Int32)
  /-- The runtime handed out nothing for a method. -/
  | nullDelegate (typeName method : String)
  /-- A declared signature and a function differ in their number of parameters. -/
  | arityMismatch (name : String) (declared actual : Nat)
  /-- A call and a signature differ in their number of arguments. -/
  | argumentCount (name : String) (expected actual : Nat)
  | typeMismatch (name : String) (expected actual : WireType)
  | voidParameter (name : String)
  | invalidString (name : String)
  | interiorNul (what : String)
  | duplicateBinding (name : String)
  | unknownBinding (name : String)
  /-- A callable entry for a binding, or a host for a library, could not be made. -/
  | adapter (name : String)
  | io (path reason : String)
deriving DecidableEq, Repr

def BridgeError.message : BridgeError → String
  | runtimeNotInstalled => ".NET Core is not installed (no runtime root could be located)"
  | runtimeVersionTooLow floor =>
    ".NET Core runtime version is not sufficient, must be v" ++ floor ++ " or higher"
  | runtimeListing launcher reason =>
    "Failed to list installed runtimes with " ++ launcher ++ ": " ++ reason
  | invalidVersion text =>
    "Invalid runtime version " ++ Text.quoted text ++ ", expected major.minor.build"
  | assemblyMissing path => "Bootstrap assembly is missing (" ++ path ++ ")"
  | hostLibraryMissing path => "Core CLR library is missing (" ++ path ++ ")"
  | hostLibraryLoad path => "Failed to load Core CLR library " ++ path
  | missingExport symbol => "Core CLR library does not export " ++ symbol
  | hostAlreadyLoaded => "A runtime host is already loaded in this process"
  | hostNotLoaded => "No runtime host is loaded (was the runtime shut down?)"
  | startUpFailed status =>
    "Core CLR initialization failed (code=" ++ Text.statusCode status ++ ")"
  | createDelegate typeName method status =>
    "Failed to create " ++ typeName ++ "." ++ method ++ " delegate (code=" ++
      Text.statusCode status ++ ")"
  | nullDelegate typeName method =>
    "Failed to create " ++ typeName ++ "." ++ method ++
      " delegate: runtime returned a null pointer"
  | arityMismatch name declared actual =>
    "Binding " ++ name ++ " declares " ++ toString declared ++
      " parameter types but its function takes " ++ toString actual ++ " arguments"
  | argumentCount name expected actual =>
    "Invalid number of arguments for " ++ name ++ ": expected " ++ toString expected ++
      ", got " ++ toString actual
  | typeMismatch name expected actual =>
    "Type mismatch in " ++ name ++ ": expected " ++ expected.name ++ ", got " ++ actual.name
  | voidParameter name => Text.quoted name ++ " is only valid as a return type"
  | invalidString name => "Invalid UTF-8 string crossing the boundary in " ++ name
  | interiorNul what => "String argument for " ++ what ++ " contains an interior NUL byte"
  | duplicateBinding name => "Binding " ++ name ++ " is already registered"
  | unknownBinding name => "No binding named " ++ name ++ " is registered"
  | adapter name => "Failed to create native call adapter for " ++ name
  | io path reason => "I/O error on " ++ path ++ ": " ++ reason

end ManagedHost
