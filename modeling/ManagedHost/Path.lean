/-!
Paths as text. A path that starts with a slash is absolute and replaces whatever it is joined to;
any other is appended with one slash between. The parent of a path is the path without its last
component, where repeated slashes and single dots after the first component do not count.
-/

namespace ManagedHost.Path

def isAbsolute (path : String) : Bool := path.toList.head? == some '/'

def join (base path : String) : String :=
  if isAbsolute path || base.isEmpty then path
  else if base.toList.getLast? == some '/' then base ++ path
  else base ++ "/" ++ path

def splitSlash : List Char → List (List Char)
  | [] => [[]]
  | '/' :: rest => [] :: splitSlash rest
  | c :: rest =>
    match splitSlash rest with
    | [] => [[c]]
    | part :: parts => (c :: part) :: parts

theorem splitSlash_eq_splitOn (cs : List Char) : splitSlash cs = cs.splitOn '/' := by
  induction cs with
  | nil => rfl
  | cons c cs ih =>
    rw [List.splitOn_cons_eq_if_modifyHead, ← ih]
    by_cases slash : c = '/'
    · simp [slash, splitSlash]
    · obtain ⟨part, parts, same⟩ := List.exists_cons_of_ne_nil (List.splitOn_ne_nil '/' cs)
      rw [← ih] at same
      simp [splitSlash, same, slash]

/-- No piece of a list holds what the list was cut at. -/
theorem notMem_of_mem_splitOn {sep : Char} {cs part : List Char} (h : part ∈ cs.splitOn sep) :
    sep ∉ part := by
  induction cs generalizing part with
  | nil => simp_all
  | cons c cs ih =>
    rw [List.splitOn_cons_eq_if_modifyHead] at h
    split at h
    · rcases List.mem_cons.mp h with rfl | later
      · simp
      · exact ih later
    · next other =>
      obtain ⟨first, parts, same⟩ := List.exists_cons_of_ne_nil (List.splitOn_ne_nil sep cs)
      rw [same] at h ih
      rcases List.mem_cons.mp h with rfl | later
      · have plain := ih List.mem_cons_self
        simpa [Ne.symm (show c ≠ sep by simpa using other)] using plain
      · exact ih (List.mem_cons_of_mem _ later)

/-- The names on the way through a path, one for each piece between slashes. A piece that is empty
asks for a directory just as a single dot does. -/
def steps (path : String) : List String :=
  (splitSlash path.toList).map fun part => if part.isEmpty then "." else String.ofList part

/-- The components of a path: its pieces without the empty ones and without single dots, a single
dot in front of a relative path excepted. -/
def components (path : String) : List String :=
  match (splitSlash path.toList).map String.ofList with
  | [] => []
  | first :: rest =>
    let kept := rest.filter fun part => part ≠ "" && part ≠ "."
    if first = "" then kept else first :: kept

/-- Drops what does not belong to the last component from a path that is written backwards. -/
def dropTail : List Char → List Char
  | '/' :: rest => dropTail rest
  | '.' :: '/' :: rest => dropTail rest
  | cs => cs

/-- The path without its last component, or none for the root and the empty path. -/
def parent? (path : String) : Option String :=
  match dropTail path.toList.reverse with
  | [] => none
  | last =>
    match dropTail (last.dropWhile (· ≠ '/')) with
    | [] => some (if isAbsolute path then "/" else "")
    | rest => some (String.ofList rest.reverse)

/-- The last component of a path, if it is a name. -/
def fileName? (path : String) : Option String :=
  match (components path).getLast? with
  | some name => if name = "." || name = ".." then none else some name
  | none => none

/-- What follows the last dot of a file name, unless that dot starts the name. -/
def extension? (name : String) : Option String :=
  let backwards := name.toList.reverse
  let tail := backwards.takeWhile (· ≠ '.')
  match backwards.drop tail.length with
  | [] | ['.'] => none
  | _ => some (String.ofList tail.reverse)

/-- Whether a file name has the extension `dll` in any letter case. -/
def isManagedName (name : String) : Bool :=
  match extension? name with
  | some text => text.toLower == "dll"
  | none => false

/-- A path made absolute: a relative one is walked from `directory`, component by component. -/
def absoluteFrom (directory path : String) : String :=
  if isAbsolute path then path
  else ((components path).dropWhile (· == ".")).foldl join directory

/-- A path with the home directory in the stead of a `~` in front. Where there is no home directory,
the `~` is a name like any other. -/
def expandHome (home : Option String) (path : String) : String :=
  match home, components path with
  | some home, "~" :: below => if isAbsolute path then path else below.foldl join home
  | _, _ => path

def searchEntries (text : String) : List String :=
  (go text.toList).map String.ofList
where
  go : List Char → List (List Char)
    | [] => [[]]
    | ':' :: rest => [] :: go rest
    | c :: rest =>
      match go rest with
      | [] => [[c]]
      | part :: parts => (c :: part) :: parts

end ManagedHost.Path
