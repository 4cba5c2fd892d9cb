import ManagedHost.Path

/-!
A file system with symbolic links. Every entry has its place, the list of names from the root;
a path is walked name by name from the root or from the current directory, a link sends the walk
on to its target, and two dots lead to the parent of the directory reached so far. Walking fails
with the error a caller would be told.
-/

namespace ManagedHost

inductive FileError where
  | noEntry
  | execFormat
  | accessDenied
  | notDirectory
  | isDirectory
  | nameTooLong
  | tooManyLinks
  | nulInPath
  | notText
deriving DecidableEq, Repr

def FileError.message : FileError → String
  | noEntry => "No such file or directory (os error 2)"
  | execFormat => "Exec format error (os error 8)"
  | accessDenied => "Permission denied (os error 13)"
  | notDirectory => "Not a directory (os error 20)"
  | isDirectory => "Is a directory (os error 21)"
  | nameTooLong => "File name too long (os error 36)"
  | tooManyLinks => "Too many levels of symbolic links (os error 40)"
  | nulInPath => "file name contained an unexpected NUL byte"
  | notText => "stream did not contain valid UTF-8"

/-- Which of its three functions a stand-in hosting library offers and how they answer. -/
inductive LibraryVariant where
  | full
  | noStartUp
  | noCreateDelegate
  | noShutDown
  | failingStartUp
  | failingDelegates
  | nullDelegates
  | failingShutDown
deriving DecidableEq, Repr

inductive Entry where
  | directory
  | file (content : List UInt8) (executable : Bool)
  | link (target : String)
  | hostingLibrary (variant : LibraryVariant)
deriving DecidableEq, Repr

/-- The names from the root to an entry. -/
abbrev Place := List String

/-- A file system: the entries below the root, each at its place. -/
structure FileSystem where
  entries : List (Place × Entry) := []
  /-- The home directory of whoever runs the program, if there is one. -/
  home : Option String := none

namespace FileSystem

def maxLinks : Nat := 40

def maxNameBytes : Nat := 255

def maxPathBytes : Nat := 4095

/-- The entry at a place. The root is a directory. -/
def entryAt? (fs : FileSystem) : Place → Option Entry
  | [] => some .directory
  | place => fs.entries.lookup place

/-- How far a walk got before it ended or met a link. -/
inductive Progress where
  | reached (place : Place)
  | atLink (directory : Place) (target : String) (rest : List String)
  | missing (directory : Place) (name : String) (rest : List String)

/-- Walks from a place until the names are used up, a link is met or a name is missing. -/
def advance (fs : FileSystem) : Place → List String → Except FileError Progress
  | place, [] => .ok (.reached place)
  | place, name :: rest =>
    match fs.entryAt? place with
    | some .directory =>
      if name = "." then advance fs place rest
      else if name = ".." then advance fs place.dropLast rest
      else if maxNameBytes < name.utf8ByteSize then .error .nameTooLong
      else
        match fs.entryAt? (place ++ [name]) with
        | none => .ok (.missing place name rest)
        | some (.link target) => .ok (.atLink place target rest)
        | some _ => advance fs (place ++ [name]) rest
    | _ => .error .notDirectory

def startOf (directory : Place) (path : String) : Place :=
  if Path.isAbsolute path then [] else directory

def follow (fs : FileSystem) : (links : Nat) → Place → List String → Except FileError Progress
  | 0, place, names =>
    match fs.advance place names with
    | .ok (.atLink ..) => .error .tooManyLinks
    | other => other
  | links + 1, place, names =>
    match fs.advance place names with
    | .ok (.atLink directory target rest) =>
      follow fs links (startOf directory target) (Path.steps target ++ rest)
    | other => other

def walk (fs : FileSystem) (directory : Place) (path : String) : Except FileError Progress :=
  if path.toList.contains '\x00' then .error .nulInPath
  else if path.isEmpty then .error .noEntry
  else if maxPathBytes < path.utf8ByteSize then .error .nameTooLong
  else fs.follow maxLinks (startOf directory path) (Path.steps path)

def resolve (fs : FileSystem) (directory : Place) (path : String) : Except FileError Place :=
  match fs.walk directory path with
  | .ok (.reached place) => .ok place
  | .ok _ => .error .noEntry
  | .error e => .error e

/-- The entry that a path leads to, links followed. -/
def entry? (fs : FileSystem) (directory : Place) (path : String) : Option Entry :=
  match fs.resolve directory path with
  | .ok place => fs.entryAt? place
  | .error _ => none

def isPresent (fs : FileSystem) (directory : Place) (path : String) : Bool :=
  (fs.entry? directory path).isSome

def isDirectory (fs : FileSystem) (directory : Place) (path : String) : Bool :=
  fs.entry? directory path == some .directory

def isFile (fs : FileSystem) (directory : Place) (path : String) : Bool :=
  match fs.entry? directory path with
  | some (.file ..) | some (.hostingLibrary _) => true
  | _ => false

/-- Whether a path leads to a regular file that may be run. -/
def isExecutable (fs : FileSystem) (directory : Place) (path : String) : Bool :=
  match fs.entry? directory path with
  | some (.file _ executable) => executable
  | _ => false

def Place.toPath (place : Place) : String :=
  if place.isEmpty then "/" else String.join (place.map ("/" ++ ·))

/-- The absolute path without links and dots that a path stands for. -/
def canonical (fs : FileSystem) (directory : Place) (path : String) : Except FileError String :=
  (fs.resolve directory path).map Place.toPath

/-- The names directly below a directory. -/
def names (fs : FileSystem) (directory : Place) (path : String) : Except FileError (List String) := do
  let place ← fs.resolve directory path
  match fs.entryAt? place with
  | some .directory =>
    return fs.entries.filterMap fun (at_, _) =>
      if at_.dropLast = place then at_.getLast? else none
  | _ => .error .notDirectory

def read (fs : FileSystem) (directory : Place) (path : String) : Except FileError (List UInt8) := do
  let place ← fs.resolve directory path
  match fs.entryAt? place with
  | some (.file content _) => return content
  | some (.hostingLibrary _) => return [0x7f, 0x45, 0x4c, 0x46, 0x80]
  | some .directory => .error .isDirectory
  | _ => .error .noEntry

/-- Puts an entry at a place, in the stead of what was there. -/
def put (fs : FileSystem) (place : Place) (entry : Entry) : FileSystem :=
  { fs with entries := fs.entries.filter (·.1 ≠ place) ++ [(place, entry)] }

def remove (fs : FileSystem) (place : Place) : FileSystem :=
  { fs with entries := fs.entries.filter (·.1 ≠ place) }

/-- Makes every directory on the way to a place that is not there yet. -/
def makeParents (fs : FileSystem) (place : Place) : FileSystem :=
  (List.range place.length).foldl (fun fs n =>
    match n with
    | 0 => fs
    | n => if (fs.entryAt? (place.take n)).isSome then fs else fs.put (place.take n) .directory) fs

/-- Writes a file through a path: an existing file keeps its permission, a missing last name makes
a new file that cannot be run. -/
def write (fs : FileSystem) (directory : Place) (path : String) (content : List UInt8) :
    Except FileError FileSystem := do
  match ← fs.walk directory path with
  | .reached place =>
    match fs.entryAt? place with
    | some (.file _ executable) => return fs.put place (.file content executable)
    | some (.hostingLibrary _) => return fs.put place (.file content false)
    | _ => .error .isDirectory
  | .missing directory name [] => return fs.put (directory ++ [name]) (.file content false)
  | .missing _ _ ["."] => .error .isDirectory
  | _ => .error .noEntry

end FileSystem

end ManagedHost
