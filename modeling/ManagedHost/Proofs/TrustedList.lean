import ManagedHost.Runtime.Assemblies
import Mathlib.Data.List.Nodup
import Mathlib.Data.List.Sort
import Mathlib.Data.String.Basic

/-! # The list of assemblies, split back

A runtime is given its assemblies as one text, which it splits at every colon. The text is made of
the assemblies of two directories, each listed exactly and in ascending order (`IsListing`), and
nothing is escaped in it: splitting gives the paths back just when none of them holds a colon
(`trusted_splits_iff`). -/

namespace ManagedHost

namespace Path

/-- What stands before the first dot holds none. -/
theorem takeWhile_dot (cs : List Char) : ∃ rest, cs = cs.takeWhile (· ≠ '.') ++ rest ∧
    '.' ∉ cs.takeWhile (· ≠ '.') ∧ (rest = [] ∨ ∃ more, rest = '.' :: more) := by
  induction cs with
  | nil => exact ⟨[], by simp⟩
  | cons c cs ih =>
    by_cases dot : c = '.'
    · exact ⟨c :: cs, by simp [dot]⟩
    · obtain ⟨rest, whole, plain, next⟩ := ih
      refine ⟨rest, ?_, ?_, next⟩
      · rw [List.takeWhile_cons_of_pos (by simpa using dot), List.cons_append, ← whole]
      · rw [List.takeWhile_cons_of_pos (by simpa using dot), List.mem_cons, not_or]
        exact ⟨Ne.symm dot, plain⟩

/-- The extension of a name is what follows its last dot, if something stands before that dot. -/
theorem extension?_eq_some {name text : String} : extension? name = some text ↔
    ∃ stem, stem ≠ "" ∧ '.' ∉ text.toList ∧ name = stem ++ "." ++ text := by
  constructor
  · intro found
    unfold extension? at found
    dsimp only at found
    obtain ⟨rest, whole, plain, next⟩ := takeWhile_dot name.toList.reverse
    generalize name.toList.reverse.takeWhile (· ≠ '.') = tail at *
    rw [whole, List.drop_left] at found
    rcases next with rfl | ⟨more, rfl⟩
    · cases found
    · cases more with
      | nil => cases found
      | cons c more =>
        cases found
        refine ⟨String.ofList (c :: more).reverse, by simp, by simpa using plain, ?_⟩
        have chars : name.toList = (c :: more).reverse ++ '.' :: tail.reverse := by
          simpa using congrArg List.reverse whole
        rw [← String.toList_inj, chars]
        simp
  · rintro ⟨stem, named, noDot, rfl⟩
    have backwards : (stem ++ "." ++ text).toList.reverse =
        text.toList.reverse ++ '.' :: stem.toList.reverse := by simp
    have plain : ∀ c ∈ text.toList.reverse, decide (c ≠ '.') = true := by
      intro c inside
      refine decide_eq_true fun dot => noDot ?_
      simpa [dot] using inside
    have tail : (text.toList.reverse ++ '.' :: stem.toList.reverse).takeWhile (· ≠ '.') =
        text.toList.reverse := by
      rw [List.takeWhile_append_of_pos plain]
      simp
    unfold extension?
    simp only [backwards, tail, List.drop_left]
    cases rest : stem.toList.reverse with
    | nil =>
      have none : stem.toList = [] := List.reverse_eq_nil_iff.mp rest
      exact absurd (String.toList_eq_nil_iff.mp none) named
    | cons c cs => simp

/-- A managed name has something before its last dot and `dll` in some letter case after it. -/
theorem isManagedName_iff {name : String} : isManagedName name = true ↔
    ∃ stem ext, stem ≠ "" ∧ ext.toLower = "dll" ∧ name = stem ++ "." ++ ext := by
  unfold isManagedName
  constructor
  · intro managed
    split at managed
    · next ext found =>
      obtain ⟨stem, named, -, rfl⟩ := extension?_eq_some.mp found
      exact ⟨stem, ext, named, eq_of_beq managed, rfl⟩
    · cases managed
  · rintro ⟨stem, ext, named, lower, rfl⟩
    have noDot : '.' ∉ ext.toList := by
      intro dot
      have : '.' ∈ ext.toLower.toList := by
        change '.' ∈ (ext.map Char.toLower).toList
        rw [String.toList_map]
        exact List.mem_map.mpr ⟨'.', dot, by decide⟩
      rw [lower] at this
      exact absurd this (by decide)
    rw [extension?_eq_some.mpr ⟨stem, named, noDot, rfl⟩]
    exact beq_iff_eq.mpr lower

/-- From one directory different names lead to different paths. -/
theorem join_injective {base a b : String} (ha : '/' ∉ a.toList) (hb : '/' ∉ b.toList)
    (same : join base a = join base b) : a = b := by
  have relative : ∀ name : String, '/' ∉ name.toList → isAbsolute name = false := by
    intro name plain
    cases chars : name.toList with
    | nil => simp [isAbsolute, chars]
    | cons c rest =>
      have : c ≠ '/' := fun slash => plain (by simp [chars, slash])
      simp [isAbsolute, chars, this]
  unfold join at same
  rw [relative a ha, relative b hb] at same
  simp only [Bool.false_or] at same
  split at same
  · exact same
  · split at same
    all_goals
      have chars := congrArg String.toList same
      simp only [String.toList_append, List.append_cancel_left_eq] at chars
      exact String.toList_inj.mp chars

end Path

namespace FileSystem

/-- There is an entry of the name directly inside the directory at a place. -/
def Holds (fs : FileSystem) (place : Place) (name : String) : Prop :=
  ∃ entry, (place ++ [name], entry) ∈ fs.entries

/-- Every place has one entry, and no name holds a slash. -/
structure IsSound (fs : FileSystem) : Prop where
  places : (fs.entries.map (·.1)).Nodup
  names : ∀ place entry, (place, entry) ∈ fs.entries → ∀ name ∈ place, '/' ∉ name.toList

/-- The name of an entry directly inside a directory, if a place is that of one. -/
def child? (parent at_ : Place) : Option String :=
  if at_.dropLast = parent then at_.getLast? else none

theorem child?_eq_some {parent at_ : Place} {name : String} :
    child? parent at_ = some name ↔ at_ = parent ++ [name] := by
  unfold child?
  constructor
  · intro h
    split at h
    · next parent =>
      obtain ⟨front, rfl⟩ := List.getLast?_eq_some_iff.mp h
      rw [List.dropLast_concat] at parent
      rw [parent]
    · cases h
  · rintro rfl
    simp

/-- What is listed for a directory. -/
theorem names_eq_ok {fs : FileSystem} {directory : Place} {path : String} {names : List String}
    (listed : fs.names directory path = .ok names) : ∃ place,
      fs.resolve directory path = .ok place ∧
        names = (fs.entries.map (·.1)).filterMap (child? place) := by
  unfold FileSystem.names at listed
  cases found : fs.resolve directory path with
  | error e =>
    rw [found] at listed
    cases listed
  | ok place =>
    rw [found] at listed
    simp only [bind, Except.bind] at listed
    split at listed
    · cases listed
      refine ⟨place, rfl, ?_⟩
      rw [List.filterMap_map]
      rfl
    · cases listed

/-- The names that are listed for a directory are those of the entries directly inside it. -/
theorem mem_names {fs : FileSystem} {directory : Place} {path : String} {names : List String}
    (listed : fs.names directory path = .ok names) {name : String} :
    name ∈ names ↔ ∃ place, fs.resolve directory path = .ok place ∧ fs.Holds place name := by
  obtain ⟨place, found, rfl⟩ := names_eq_ok listed
  simp only [List.mem_filterMap, child?_eq_some, found, Except.ok.injEq]
  simp [Holds]

theorem nodup_names {fs : FileSystem} (sound : fs.IsSound) {directory : Place} {path : String}
    {names : List String} (listed : fs.names directory path = .ok names) : names.Nodup := by
  obtain ⟨place, -, rfl⟩ := names_eq_ok listed
  refine sound.places.filterMap fun a b name there there' => ?_
  rw [child?_eq_some.mp there, child?_eq_some.mp there']

end FileSystem

namespace Assemblies

/-- The paths are those of the regular files directly inside a directory with the extension `dll`
in some letter case, in ascending order. -/
structure IsListing (fs : FileSystem) (directory : Place) (path : String) (paths : List String) :
    Prop where
  members : ∀ assembly, assembly ∈ paths ↔ ∃ place stem ext,
    fs.resolve directory path = .ok place ∧ fs.Holds place (stem ++ "." ++ ext) ∧ stem ≠ "" ∧
      ext.toLower = "dll" ∧ assembly = Path.join path (stem ++ "." ++ ext) ∧
        fs.isFile directory assembly = true
  ascending : paths.Pairwise (· ≤ ·)
  once : fs.IsSound → paths.Nodup

theorem inDirectory_isListing {fs : FileSystem} {directory : Place} {path : String}
    {paths : List String} (listed : inDirectory fs directory path = .ok paths) :
    IsListing fs directory path paths := by
  unfold inDirectory at listed
  cases found : fs.names directory path with
  | error e =>
    rw [found] at listed
    cases listed
  | ok names =>
    rw [found] at listed
    cases listed
    constructor
    · intro assembly
      simp only [List.mem_mergeSort, List.mem_filter, List.mem_map, FileSystem.mem_names found,
        Path.isManagedName_iff]
      constructor
      · rintro ⟨⟨name, ⟨⟨place, resolved, held⟩, stem, ext, named, lower, rfl⟩, rfl⟩, isFile⟩
        exact ⟨place, stem, ext, resolved, held, named, lower, rfl, isFile⟩
      · rintro ⟨place, stem, ext, resolved, held, named, lower, rfl, isFile⟩
        exact ⟨⟨_, ⟨⟨place, resolved, held⟩, stem, ext, named, lower, rfl⟩, rfl⟩, isFile⟩
    · exact List.sortedLE_mergeSort.pairwise
    · intro sound
      rw [(List.mergeSort_perm _ _).nodup_iff]
      refine ((FileSystem.nodup_names sound found).filter _).map_on ?_ |>.filter _
      intro a listed b listed' same
      have plain : ∀ name ∈ names.filter Path.isManagedName, '/' ∉ name.toList := by
        intro name listed
        obtain ⟨place, -, entry, there⟩ :=
          (FileSystem.mem_names found).mp (List.mem_filter.mp listed).1
        exact sound.names _ _ there name (by simp)
      exact Path.join_injective (plain a listed) (plain b listed') same

theorem IsListing.filled {fs : FileSystem} {directory : Place} {path : String}
    {paths : List String} (h : IsListing fs directory path paths) :
    ∀ assembly ∈ paths, assembly ≠ "" := by
  intro assembly listed
  obtain ⟨place, stem, ext, -, -, -, -, rfl, -⟩ := (h.members assembly).mp listed
  have dotted : '.' ∈ (Path.join path (stem ++ "." ++ ext)).toList := by
    unfold Path.join
    split
    · simp
    · split <;> simp
  intro empty
  rw [empty] at dotted
  exact absurd dotted (by decide)

/-- The paths in a text, where a colon stands between two of them. The empty text holds none. -/
def split (text : String) : List String :=
  if text = "" then [] else (text.toList.splitOn ':').map String.ofList

/-- No piece holds a colon. -/
theorem colon_notMem_split {text piece : String} (h : piece ∈ split text) : ':' ∉ piece.toList := by
  unfold split at h
  split at h
  · cases h
  · obtain ⟨cut, there, rfl⟩ := List.mem_map.mp h
    rw [String.toList_ofList]
    exact Path.notMem_of_mem_splitOn there

/-- A text that was put together of paths is split into them just when none holds a colon. -/
theorem split_intercalate_iff {paths : List String} (filled : ∀ path ∈ paths, path ≠ "") :
    split (separator.intercalate paths) = paths ↔ ∀ path ∈ paths, ':' ∉ path.toList := by
  constructor
  · intro same path listed
    rw [← same] at listed
    exact colon_notMem_split listed
  · intro plain
    unfold split
    cases paths with
    | nil => rfl
    | cons path rest =>
      have chars : (separator.intercalate (path :: rest)).toList =
          [':'].intercalate ((path :: rest).map String.toList) := String.toList_intercalate
      have someChars : separator.intercalate (path :: rest) ≠ "" := by
        cases rest with
        | nil => simpa using filled path List.mem_cons_self
        | cons next rest => simp [separator]
      rw [if_neg someChars, chars, List.splitOn_intercalate]
      · simp
      · simpa using plain
      · simp

/-- What a text of assemblies says, and when it can be split back. -/
theorem trusted_splits_iff (fs : FileSystem) (directory : Place) (runtime assembly text : String)
    (built : trusted fs directory runtime assembly = .ok text) :
    ∃ platform own, IsListing fs directory runtime platform ∧
      IsListing fs directory (directoryOf assembly) own ∧
      text = separator.intercalate (platform ++ own) ∧
      (split text = platform ++ own ↔ ∀ path ∈ platform ++ own, ':' ∉ path.toList) := by
  unfold trusted at built
  cases platformListed : inDirectory fs directory runtime with
  | error e =>
    rw [platformListed] at built
    cases built
  | ok platform =>
    cases ownListed : inDirectory fs directory (directoryOf assembly) with
    | error e =>
      rw [platformListed, ownListed] at built
      cases built
    | ok own =>
      rw [platformListed, ownListed] at built
      cases built
      have platformListing := inDirectory_isListing platformListed
      have ownListing := inDirectory_isListing ownListed
      refine ⟨platform, own, platformListing, ownListing, rfl, split_intercalate_iff ?_⟩
      intro path listed
      rcases List.mem_append.mp listed with early | late
      · exact platformListing.filled path early
      · exact ownListing.filled path late

/-- A runtime with two assemblies, and a bootstrap assembly next to a file of another kind. -/
def splitFiles : FileSystem where
  entries :=
    [(["net"], .directory), (["net", "b.dll"], .file [] false),
      (["net", "a.DLL"], .file [] false), (["app"], .directory),
      (["app", "boot.dll"], .file [] false), (["app", "boot.json"], .file [] false)]

/-- The assemblies of a runtime come before those next to the bootstrap assembly. -/
theorem splitFiles_splits :
    trusted splitFiles [] "/net" "app/boot.dll" =
        .ok "/net/a.DLL:/net/b.dll:app/boot.dll" ∧
      ∃ platform own, IsListing splitFiles [] "/net" platform ∧
        IsListing splitFiles [] (directoryOf "app/boot.dll") own ∧
        "/net/a.DLL:/net/b.dll:app/boot.dll" = separator.intercalate (platform ++ own) ∧
        (split "/net/a.DLL:/net/b.dll:app/boot.dll" = platform ++ own ↔
          ∀ path ∈ platform ++ own, ':' ∉ path.toList) := by
  have names : splitFiles.names [] "/net" = .ok ["b.dll", "a.DLL"] := by decide +kernel
  have candidates : ((["b.dll", "a.DLL"].filter Path.isManagedName).map
      (Path.join "/net")).filter (splitFiles.isFile []) = ["/net/b.dll", "/net/a.DLL"] := by
    decide +kernel
  have platform : inDirectory splitFiles [] "/net" = .ok ["/net/a.DLL", "/net/b.dll"] := by
    simp only [inDirectory, names, candidates]
    simp [List.mergeSort, List.MergeSort.Internal.splitInTwo]
  have own : inDirectory splitFiles [] (directoryOf "app/boot.dll") = .ok ["app/boot.dll"] := by
    decide +kernel
  have built : trusted splitFiles [] "/net" "app/boot.dll" =
      .ok "/net/a.DLL:/net/b.dll:app/boot.dll" := by
    rw [trusted, platform, own]
    decide +kernel
  exact ⟨built, trusted_splits_iff splitFiles [] "/net" "app/boot.dll" _ built⟩

/-- An assembly whose name holds a colon. -/
def colonFiles : FileSystem where
  entries := [(["net"], .directory), (["app"], .directory), (["app", "a:b.dll"], .file [] false)]

/-- A path with a colon is cut in two. -/
theorem colon_cuts_path :
    trusted colonFiles [] "net" "app/boot.dll" = .ok "app/a:b.dll" ∧
      split "app/a:b.dll" = ["app/a", "b.dll"] ∧
      ¬ ∃ platform own, IsListing colonFiles [] "net" platform ∧
        IsListing colonFiles [] (directoryOf "app/boot.dll") own ∧
        split "app/a:b.dll" = platform ++ own := by
  have cut : split "app/a:b.dll" = ["app/a", "b.dll"] := by decide +kernel
  refine ⟨by decide +kernel, cut, ?_⟩
  rintro ⟨platform, own, -, listing, whole⟩
  have listed : inDirectory colonFiles [] (directoryOf "app/boot.dll") = .ok ["app/a:b.dll"] := by
    decide +kernel
  have mem : "app/a:b.dll" ∈ own :=
    (listing.members _).mpr (((inDirectory_isListing listed).members _).mp List.mem_cons_self)
  have piece : "app/a:b.dll" ∈ ["app/a", "b.dll"] := by
    rw [← cut, whole]
    exact List.mem_append_right _ mem
  exact absurd piece (by decide)

end Assemblies

end ManagedHost
