import ManagedHost.Path
import ManagedHost.Text.Blank

/-!
The launcher's listing of installed runtimes. Each line is `name version [path]` with single
spaces between; the path may hold anything but a line feed. A line with fewer than two spaces is
passed over, blanks at the end of a line do not count, and the directory of a runtime is its path
with the version appended.
-/

namespace ManagedHost

structure Runtime where
  /-- The family of the runtime. -/
  name : String
  version : String
  directory : String
deriving DecidableEq, Repr

namespace Runtime

def splitLines : List Char → List (List Char)
  | [] => [[]]
  | '\n' :: rest => [] :: splitLines rest
  | c :: rest =>
    match splitLines rest with
    | [] => [[c]]
    | line :: lines => (c :: line) :: lines

/-- The characters before the first space and those after it. -/
def splitSpace : List Char → Option (List Char × List Char)
  | [] => none
  | ' ' :: rest => some ([], rest)
  | c :: rest => (splitSpace rest).map fun (before, after) => (c :: before, after)

/-- The path without one pair of brackets around it. A single bracket stays. -/
def stripBrackets : List Char → List Char
  | '[' :: rest =>
    match rest.reverse with
    | ']' :: inner => inner.reverse
    | _ => '[' :: rest
  | path => path

def ofLine? (line : List Char) : Option Runtime := do
  let (name, rest) ← splitSpace (Text.trimRight line)
  let (version, path) ← splitSpace rest
  let version := String.ofList version
  return ⟨String.ofList name, version, Path.join (String.ofList (stripBrackets path)) version⟩

def ofListing (listing : String) : List Runtime :=
  (splitLines listing.toList).filterMap ofLine?

end Runtime

end ManagedHost
