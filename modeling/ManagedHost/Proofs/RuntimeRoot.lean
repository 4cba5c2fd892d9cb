import ManagedHost.Proofs.ResolvedPlaces
import ManagedHost.Runtime.Root
import ManagedHost.Table

/-! # Where a runtime is installed

Of the variables that may name the root, only those that name a directory count
(`Environment.directory?`), and the first of them is the root. Without one it is the directory of
the launcher with all links followed. `Locates` lists these ways, and the root is found just along
them (`root_located`). -/

namespace ManagedHost

variable {fs : FileSystem} {directory : Place} {env : Environment}

/-! ## Absolute paths -/

namespace Path

theorem isAbsolute_join {base : String} (h : Path.isAbsolute base = true) (path : String) :
    Path.isAbsolute (Path.join base path) = true := by
  have front : ∀ more : String, Path.isAbsolute (base ++ more) = true := by
    intro more
    unfold Path.isAbsolute at h ⊢
    rw [String.toList_append]
    cases chars : base.toList with
    | nil => simp [chars] at h
    | cons c cs => simpa [chars] using h
  unfold Path.join
  split_ifs with replaced slash
  · rw [Bool.or_eq_true] at replaced
    rcases replaced with absolute | empty
    · exact absolute
    · rw [String.isEmpty_iff.mp empty] at h
      cases h
  · exact front path
  · rw [String.append_assoc]
    exact front ("/" ++ path)

theorem isAbsolute_foldl_join {base : String} (h : Path.isAbsolute base = true)
    (parts : List String) : Path.isAbsolute (parts.foldl Path.join base) = true := by
  induction parts generalizing base with
  | nil => exact h
  | cons part parts ih => exact ih (isAbsolute_join h part)

theorem isAbsolute_absoluteFrom {base : String} (h : Path.isAbsolute base = true) (path : String) :
    Path.isAbsolute (Path.absoluteFrom base path) = true := by
  unfold absoluteFrom
  split
  · assumption
  · exact isAbsolute_foldl_join h _

end Path

/-! ## Variables -/

namespace Environment

/-- The variables that may name the root, the strongest first. -/
def rootVariables : List String := [archHome, home, root]

/-- The variable is not set or does not name a directory. -/
def NamesNone (fs : FileSystem) (directory : Place) (env : Environment) (name : String) : Prop :=
  ∀ path, env.get? name = some path → fs.isDirectory directory path = false

end Environment

namespace Launcher

/-- The launcher is the first file on the search path that has its name and can be run. -/
def IsFirst (fs : FileSystem) (directory : Place) (env : Environment) (launcher : String) : Prop :=
  ∃ searchPath earlier entry later, env.searchPath = some searchPath ∧
    Path.searchEntries searchPath = earlier ++ entry :: later ∧
    pathIn fs directory entry = launcher ∧
    fs.isExecutable directory launcher = true ∧
    ∀ other ∈ earlier, fs.isExecutable directory (pathIn fs directory other) = false

theorem IsFirst.isAbsolute {launcher : String} (h : IsFirst fs directory env launcher) :
    Path.isAbsolute launcher = true := by
  obtain ⟨-, -, entry, -, -, -, rfl, -, -⟩ := h
  exact Path.isAbsolute_absoluteFrom (FileSystem.Place.isAbsolute_toPath directory) _

/-- With all links followed, the launcher is a name in a directory. -/
theorem IsFirst.resolves {launcher : String} (h : IsFirst fs directory env launcher) :
    ∃ parent file, fs.resolve directory launcher = .ok (parent ++ [file]) ∧
      fs.Stands (parent ++ [file]) := by
  have absolute := h.isAbsolute
  obtain ⟨-, -, -, -, -, -, -, runs, -⟩ := h
  unfold FileSystem.isExecutable FileSystem.entry? at runs
  cases found : fs.resolve directory launcher with
  | error e => simp [found] at runs
  | ok place =>
    have stands := FileSystem.resolve_stands absolute found
    cases stands with
    | root =>
      -- The root is a directory and cannot be run.
      simp [found, FileSystem.entryAt?] at runs
    | @inside parent file above there named => exact ⟨parent, file, rfl, .inside above there named⟩

end Launcher

namespace Runtime

/-- The ways in which the root is located, and the one in which it is not. -/
inductive Locates (fs : FileSystem) (directory : Place) (env : Environment) : Option String → Prop
  /-- A variable names the root where no stronger one does. -/
  | named {stronger weaker : List String} {name path : String}
      (order : Environment.rootVariables = stronger ++ name :: weaker)
      (passed : ∀ other ∈ stronger, env.NamesNone fs directory other)
      (set : env.get? name = some path)
      (there : fs.isDirectory directory path = true) :
      Locates fs directory env (some path)
  /-- Where no variable does, the launcher is in the root once its links are followed. -/
  | beside {launcher file : String} {parent : Place}
      (passed : ∀ name ∈ Environment.rootVariables, env.NamesNone fs directory name)
      (first : Launcher.IsFirst fs directory env launcher)
      (resolved : fs.resolve directory launcher = .ok (parent ++ [file]))
      (there : fs.isDirectory directory (FileSystem.Place.toPath parent) = true) :
      Locates fs directory env (some (FileSystem.Place.toPath parent))
  /-- No variable names a directory, and no launcher is in one. -/
  | missing
      (passed : ∀ name ∈ Environment.rootVariables, env.NamesNone fs directory name)
      (nowhere : ∀ launcher parent file, Launcher.IsFirst fs directory env launcher →
        fs.resolve directory launcher = .ok (parent ++ [file]) →
        fs.isDirectory directory (FileSystem.Place.toPath parent) = false) :
      Locates fs directory env none

theorem Locates.isDirectory {path : String} (h : Locates fs directory env (some path)) :
    fs.isDirectory directory path = true := by
  cases h with
  | named order passed set there => exact there
  | beside passed first resolved there => exact there

end Runtime

end ManagedHost
