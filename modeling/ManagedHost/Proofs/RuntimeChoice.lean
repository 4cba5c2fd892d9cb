import ManagedHost.Proofs.Lifecycle
import Mathlib.Data.List.Induction
import Mathlib.Data.Prod.Lex

/-! # Which runtime is chosen

A pinned version whose directory exists is taken and nothing is listed. Otherwise the runtimes are
listed once, and the first of the newest that qualify decides (`Runtime.IsNewest`). The scan of a
listing keeps the best runtime so far; what it knows after some of the listing is `Scanned`, which
one more runtime keeps (`Scanned.better`). The ways through the selection are those of `Selects`. -/

namespace ManagedHost

open ManagedHost.Action

namespace RuntimeVersion

/-- The numbers of a version, compared from the first to the last. -/
def key (v : RuntimeVersion) : ℕ ×ₗ ℕ ×ₗ ℕ :=
  toLex (v.major.toNat, toLex (v.minor.toNat, v.build.toNat))

theorem key_injective {a b : RuntimeVersion} (same : a.key = b.key) : a = b := by
  cases a
  cases b
  simpa [key, UInt32.toNat_inj] using same

theorem before_iff (a b : RuntimeVersion) : a.before b = true ↔ a.key < b.key := by
  simp only [before, compare, beq_iff_eq, Ordering.then_eq_lt, Nat.compare_eq_lt,
    Nat.compare_eq_eq, key, Prod.Lex.toLex_lt_toLex]

end RuntimeVersion

namespace Runtime

/-! ## The newest runtime of a listing -/

/-- The runtime is one of the family, and its version can be read and is at least the floor. -/
structure Qualifies (family : String) (floor : RuntimeVersion) (runtime : Runtime)
    (version : RuntimeVersion) : Prop where
  named : runtime.name = family
  written : RuntimeVersion.ofPrefix? runtime.version = some version
  above : floor.key ≤ version.key

/-- No runtime that qualifies is newer, and none that is listed earlier is as new. -/
structure IsNewest (family : String) (floor : RuntimeVersion) (runtimes : List Runtime)
    (runtime : Runtime) (version : RuntimeVersion) : Prop where
  qualifies : runtime.Qualifies family floor version
  first : ∃ earlier later, runtimes = earlier ++ runtime :: later ∧
    (∀ other ∈ earlier, ∀ v, other.Qualifies family floor v → v.key < version.key) ∧
    ∀ other ∈ later, ∀ v, other.Qualifies family floor v → v.key ≤ version.key

variable {family : String} {floor : RuntimeVersion} {runtimes : List Runtime} {runtime : Runtime}
  {version : RuntimeVersion}

theorem IsNewest.mem (h : IsNewest family floor runtimes runtime version) :
    runtime ∈ runtimes := by
  obtain ⟨earlier, later, rfl, -, -⟩ := h.first
  exact List.mem_append_right _ List.mem_cons_self

theorem IsNewest.greatest (h : IsNewest family floor runtimes runtime version) {other : Runtime}
    (listed : other ∈ runtimes) {v : RuntimeVersion} (q : other.Qualifies family floor v) :
    v.key ≤ version.key := by
  obtain ⟨earlier, later, rfl, older, atMost⟩ := h.first
  rcases List.mem_append.mp listed with before | there
  · exact (older other before v q).le
  · rcases List.mem_cons.mp there with rfl | after
    · cases q.written.symm.trans h.qualifies.written
      exact le_rfl
    · exact atMost other after v q

/-- One more runtime that is not newer changes nothing. -/
theorem IsNewest.append (h : IsNewest family floor runtimes runtime version) {next : Runtime}
    (notNewer : ∀ v, next.Qualifies family floor v → v.key ≤ version.key) :
    IsNewest family floor (runtimes ++ [next]) runtime version := by
  obtain ⟨earlier, later, rfl, older, atMost⟩ := h.first
  refine ⟨h.qualifies, earlier, later ++ [next], by simp, older, fun other listed v q => ?_⟩
  rcases List.mem_append.mp listed with before | last
  · exact atMost other before v q
  · cases List.mem_singleton.mp last
    exact notNewer v q

/-- What is known after some of a listing, given the best version and the runtime chosen so far. -/
def Scanned (family : String) (floor : RuntimeVersion) (runtimes : List Runtime)
    (best : RuntimeVersion × Option Runtime) : Prop :=
  match best.2 with
  | none => best.1 = floor ∧ ∀ other ∈ runtimes, ∀ v, ¬ other.Qualifies family floor v
  | some runtime => IsNewest family floor runtimes runtime best.1

theorem Scanned.older {best : RuntimeVersion × Option Runtime}
    (h : Scanned family floor runtimes best) {other : Runtime} (listed : other ∈ runtimes)
    {v : RuntimeVersion} (q : other.Qualifies family floor v) : v.key ≤ best.1.key := by
  obtain ⟨bestVersion, chosen⟩ := best
  cases chosen with
  | none => exact absurd q (h.2 other listed v)
  | some runtime => exact IsNewest.greatest h listed q

theorem Scanned.floor_le {best : RuntimeVersion × Option Runtime}
    (h : Scanned family floor runtimes best) : floor.key ≤ best.1.key := by
  obtain ⟨bestVersion, chosen⟩ := best
  cases chosen with
  | none => exact le_of_eq (congrArg RuntimeVersion.key h.1.symm)
  | some runtime => exact (show IsNewest _ _ _ _ _ from h).qualifies.above

/-- A runtime that does not qualify is passed over. -/
theorem Scanned.skip {best : RuntimeVersion × Option Runtime}
    (h : Scanned family floor runtimes best) {next : Runtime}
    (unfit : ∀ v, ¬ next.Qualifies family floor v) :
    Scanned family floor (runtimes ++ [next]) best := by
  obtain ⟨bestVersion, chosen⟩ := best
  cases chosen with
  | none =>
    refine ⟨h.1, fun other listed v => ?_⟩
    rcases List.mem_append.mp listed with before | last
    · exact h.2 other before v
    · cases List.mem_singleton.mp last
      exact unfit v
  | some runtime => exact IsNewest.append h fun v q => absurd q (unfit v)

/-- One more runtime of the family is compared with the best so far. -/
theorem Scanned.better {best : RuntimeVersion × Option Runtime}
    (h : Scanned family floor runtimes best) {next : Runtime} (named : next.name = family) :
    Scanned family floor (runtimes ++ [next]) (better best next) := by
  unfold Runtime.better
  cases written : RuntimeVersion.ofPrefix? next.version with
  | none => exact h.skip fun v q => nomatch written.symm.trans q.written
  | some v =>
    have read : ∀ v', next.Qualifies family floor v' → v' = v :=
      fun v' q => Option.some.inj (q.written.symm.trans written)
    dsimp only
    split
    · next replaces =>
      -- The next runtime is newer than all before, or the first one, as new as the floor.
      have newer : best.1.key < v.key ∨ v = best.1 ∧ best.2 = none := by
        simpa [RuntimeVersion.before_iff] using replaces
      have atLeast : best.1.key ≤ v.key := by
        rcases newer with above | ⟨rfl, -⟩
        · exact above.le
        · exact le_rfl
      refine ⟨⟨named, written, h.floor_le.trans atLeast⟩, runtimes, [], rfl, ?_, nofun⟩
      intro other listed v' q
      rcases newer with above | ⟨-, none⟩
      · exact (h.older listed q).trans_lt above
      · obtain ⟨bestVersion, chosen⟩ := best
        obtain rfl : chosen = .none := none
        exact absurd q (h.2 other listed v')
    · next keeps =>
      obtain ⟨notNewer, taken⟩ : ¬ best.1.key < v.key ∧ (v = best.1 → best.2 ≠ none) := by
        simpa [RuntimeVersion.before_iff] using keeps
      obtain ⟨bestVersion, chosen⟩ := best
      cases chosen with
      | none =>
        refine h.skip fun v' q => ?_
        cases read v' q
        obtain rfl : bestVersion = floor := h.1
        have same : v.key = bestVersion.key := le_antisymm (not_lt.mp notNewer) q.above
        exact taken (RuntimeVersion.key_injective same) rfl
      | some runtime =>
        refine IsNewest.append h fun v' q => ?_
        cases read v' q
        exact not_lt.mp notNewer

theorem scanned (family : String) (floor : RuntimeVersion) (runtimes : List Runtime) :
    Scanned family floor runtimes
      ((runtimes.filter (·.name == family)).foldl better (floor, none)) := by
  induction runtimes using List.reverseRecOn with
  | nil => exact ⟨rfl, nofun⟩
  | append_singleton runtimes next ih =>
    rw [List.filter_append, List.foldl_append]
    by_cases named : next.name = family
    · simpa [named] using ih.better named
    · simpa [named] using ih.skip fun v q => named q.named

/-- Only one runtime of a listing is the newest. -/
theorem IsNewest.unique {other : Runtime} {v : RuntimeVersion}
    (h : IsNewest family floor runtimes runtime version)
    (h' : IsNewest family floor runtimes other v) : runtime = other := by
  have same : version.key = v.key :=
    le_antisymm (h'.greatest h.mem h.qualifies) (h.greatest h'.mem h'.qualifies)
  obtain ⟨earlier, later, split, older, -⟩ := h.first
  obtain ⟨earlier', later', split', older', -⟩ := h'.first
  -- Of two different places one is earlier, and what is listed there is older.
  rcases List.append_eq_append_iff.mp (split.symm.trans split') with
    ⟨between, rfl, rest⟩ | ⟨between, rfl, rest⟩
  · cases between with
    | nil => exact (List.cons.inj rest).1
    | cons first between =>
      obtain ⟨rfl, -⟩ := List.cons.inj rest
      exact absurd same (older' runtime (by simp) version h.qualifies).ne
  · cases between with
    | nil => exact (List.cons.inj rest).1.symm
    | cons first between =>
      obtain ⟨rfl, -⟩ := List.cons.inj rest
      exact absurd same.symm (older other (by simp) v h'.qualifies).ne

theorem pickLatest_cases (runtimes : List Runtime) (family : String) (floor : RuntimeVersion) :
    (pickLatest runtimes family floor = none ∧
      ∀ other ∈ runtimes, ∀ v, ¬ other.Qualifies family floor v) ∨
    ∃ runtime version, pickLatest runtimes family floor = some runtime ∧
      IsNewest family floor runtimes runtime version := by
  have h := scanned family floor runtimes
  unfold pickLatest
  generalize (runtimes.filter (·.name == family)).foldl better (floor, none) = best at h
  obtain ⟨version, chosen⟩ := best
  cases chosen with
  | none => exact .inl ⟨rfl, h.2⟩
  | some runtime => exact .inr ⟨runtime, version, rfl, h⟩

theorem pickLatest_eq_none_iff : pickLatest runtimes family floor = none ↔
    ∀ other ∈ runtimes, ∀ v, ¬ other.Qualifies family floor v := by
  rcases pickLatest_cases runtimes family floor with ⟨none, nothing⟩ | ⟨other, v, some, newest⟩
  · exact iff_of_true none nothing
  · rw [some]
    exact iff_of_false nofun fun nothing => nothing other newest.mem v newest.qualifies

theorem pickLatest_eq_some_iff : pickLatest runtimes family floor = some runtime ↔
    ∃ version, IsNewest family floor runtimes runtime version := by
  rcases pickLatest_cases runtimes family floor with ⟨none, nothing⟩ | ⟨other, v, some, newest⟩
  · rw [none]
    refine iff_of_false nofun ?_
    rintro ⟨v, newest⟩
    exact nothing runtime newest.mem v newest.qualifies
  · rw [some]
    refine ⟨fun same => Option.some.inj same ▸ ⟨v, newest⟩, ?_⟩
    rintro ⟨v', newest'⟩
    rw [newest.unique newest']

/-- Of two runtimes as new as the floor the first is picked, and older ones, unreadable ones and
other families are passed over. -/
example : pickLatest
    [⟨"Other", "9.0.0", "/a"⟩, ⟨"Net", "4.9.9", "/b"⟩, ⟨"Net", "5.0", "/c"⟩, ⟨"Net", "5.0.1", "/d"⟩,
      ⟨"Net", "05.0.1-rc", "/e"⟩] "Net" ⟨5, 0, 1⟩ = some ⟨"Net", "5.0.1", "/d"⟩ := by
  decide +kernel

/-- The version of the runtime that is picked from a listing. -/
def pickedVersion (runtimes : List Runtime) (family : String) (floor : RuntimeVersion) :
    Option RuntimeVersion :=
  (pickLatest runtimes family floor).bind fun runtime => RuntimeVersion.ofPrefix? runtime.version

theorem pickedVersion_perm {other : List Runtime} (same : runtimes.Perm other) (family : String)
    (floor : RuntimeVersion) :
    pickedVersion runtimes family floor = pickedVersion other family floor := by
  unfold pickedVersion
  cases picked : pickLatest runtimes family floor with
  | none =>
    cases picked' : pickLatest other family floor with
    | none => rfl
    | some runtime' =>
      obtain ⟨v', newest'⟩ := pickLatest_eq_some_iff.mp picked'
      exact absurd newest'.qualifies
        (pickLatest_eq_none_iff.mp picked _ (same.mem_iff.mpr newest'.mem) v')
  | some runtime =>
    obtain ⟨v, newest⟩ := pickLatest_eq_some_iff.mp picked
    cases picked' : pickLatest other family floor with
    | none =>
      exact absurd newest.qualifies
        (pickLatest_eq_none_iff.mp picked' _ (same.mem_iff.mp newest.mem) v)
    | some runtime' =>
      obtain ⟨v', newest'⟩ := pickLatest_eq_some_iff.mp picked'
      have keys : v.key = v'.key :=
        le_antisymm (newest'.greatest (same.mem_iff.mp newest.mem) newest.qualifies)
          (newest.greatest (same.mem_iff.mpr newest'.mem) newest'.qualifies)
      rw [Option.bind_some, Option.bind_some, newest.qualifies.written,
        newest'.qualifies.written, RuntimeVersion.key_injective keys]

/-! ## The directory of a runtime -/

/-- The directory of a listed runtime: the one of its version below the root, else the one that it
was installed to, whichever exists. -/
def installedAt (fs : FileSystem) (directory : Place) (root : String) (runtime : Runtime) :
    Option String :=
  if fs.isDirectory directory (Path.join (sharedDirectory root) runtime.version) then
    some (Path.join (sharedDirectory root) runtime.version)
  else if fs.isDirectory directory runtime.directory then some runtime.directory
  else none

/-- The path is the directory of the version that the environment pins, and exists. -/
def PinnedAt (fs : FileSystem) (directory : Place) (root : String) (env : Environment)
    (path : String) : Prop :=
  ∃ pin, env.get? Environment.runtimeVersion = some pin ∧ pin ≠ "" ∧
    path = Path.join (sharedDirectory root) pin ∧ fs.isDirectory directory path = true

theorem pinnedDirectory_eq_some {fs : FileSystem} {directory : Place} {root : String}
    {env : Environment} {path : String} :
    (pinnedDirectory fs directory root env).value = some path ↔
      PinnedAt fs directory root env path := by
  have pinned : ∀ pin, env.pinnedVersion = some pin ↔
      env.get? Environment.runtimeVersion = some pin ∧ pin ≠ "" := by
    intro pin
    simp [Environment.pinnedVersion, Option.filter_eq_some_iff]
  unfold pinnedDirectory
  cases found : env.pinnedVersion with
  | none =>
    refine iff_of_false nofun ?_
    rintro ⟨pin, set, filled, -, -⟩
    rw [(pinned pin).mpr ⟨set, filled⟩] at found
    cases found
  | some pin =>
    obtain ⟨set, filled⟩ := (pinned pin).mp found
    have only : ∀ path, PinnedAt fs directory root env path ↔
        path = Path.join (sharedDirectory root) pin ∧ fs.isDirectory directory path = true := by
      intro path
      refine ⟨?_, fun there => ⟨pin, set, filled, there⟩⟩
      rintro ⟨pin', set', -, there⟩
      cases set.symm.trans set'
      exact there
    rw [only]
    cases there : fs.isDirectory directory (Path.join (sharedDirectory root) pin) with
    | true =>
      simp only [there, if_true, Logged.value_bind, Logged.value_pure, Option.some.injEq]
      exact ⟨fun same => same ▸ ⟨rfl, there⟩, fun found => found.1.symm⟩
    | false =>
      simp only [there, Bool.false_eq_true, if_false, Logged.value_bind, Logged.value_pure]
      refine iff_of_false nofun ?_
      rintro ⟨rfl, exists_⟩
      rw [there] at exists_
      cases exists_

theorem value_listedDirectory (fs : FileSystem) (directory : Place) (root : String)
    (floor : RuntimeVersion) (runtimes : List Runtime) :
    (listedDirectory fs directory root floor runtimes).value =
      (pickLatest runtimes Runtime.family floor).bind (installedAt fs directory root) := by
  unfold listedDirectory
  rw [Logged.value_bind]
  cases pickLatest runtimes Runtime.family floor with
  | none => rfl
  | some runtime =>
    simp only [Option.bind_some, installedAt]
    split
    · rfl
    · split <;> rfl

end Runtime

/-! ## The ways through the selection -/

namespace Action

variable {foreign : Foreign} {root : String} {floor : RuntimeVersion} {environment : Environment}
  {w w' : World}

/-- One call by which a catalog lists the installed runtimes. -/
inductive Lists (foreign : Foreign) (root : String) (environment : Environment) (w : World) :
    Catalog → Except BridgeError (List Runtime) → World → Prop
  | supplied {id : Nat} {reply : Except BridgeError (List Runtime)} {w' : World}
      (call : Returns (foreign (.listRuntimes id)) w reply w') :
      Lists foreign root environment w (.supplied id) reply w'
  | launcher {path : String} {outcome : LauncherOutcome} {w' : World}
      (call : Returns (foreign (.runLauncher path)) w outcome w') :
      Lists foreign root environment w (.launcher path) (outcome.runtimes path) w'
  /-- The launcher of the installation is run. -/
  | installed {path : String} {outcome : LauncherOutcome} {w' : World}
      (found : path = Launcher.forRoot w.files w.directory root environment)
      (call : Returns (foreign (.runLauncher path)) w outcome w') :
      Lists foreign root environment w .installed (outcome.runtimes path) w'

theorem Returns.listing {catalog : Catalog} {listed : Except BridgeError (List Runtime)}
    (h : Returns (listing foreign root environment catalog) w listed w') :
    Lists foreign root environment w catalog listed w' := by
  cases catalog with
  | supplied id => exact .supplied h
  | launcher path =>
    obtain ⟨outcome, w₁, call, h⟩ := Returns.bind h
    obtain ⟨rfl, rfl⟩ := Returns.pure h
    exact .launcher call
  | installed =>
    obtain ⟨world, w₁, got, h⟩ := Returns.bind h
    cases got
    obtain ⟨outcome, w₂, call, h⟩ := Returns.bind h
    obtain ⟨rfl, rfl⟩ := Returns.pure h
    exact .installed rfl call

theorem Returns.emit {α : Type} {logged : Logged α} {a : α} (h : Returns (emit logged) w a w') :
    a = logged.value ∧ Alike w w' := by
  cases h
  exact ⟨rfl, rfl, rfl, rfl, rfl⟩

/-- The ways through the selection of the directory of a runtime. -/
inductive Selects (foreign : Foreign) (root : String) (floor : RuntimeVersion)
    (environment : Environment) (catalog : Catalog) (w : World) :
    Except BridgeError (Option String) → World → Prop
  /-- The pinned version is installed, and nothing is listed. -/
  | pinned {path : String} {w' : World}
      (pin : Runtime.PinnedAt w.files w.directory root environment path) (unasked : Alike w w') :
      Selects foreign root floor environment catalog w (.ok (some path)) w'
  /-- The installed runtimes could not be listed. -/
  | refused {e : BridgeError} {w₁ w' : World}
      (unpinned : ∀ path, ¬ Runtime.PinnedAt w.files w.directory root environment path)
      (before : Alike w w₁)
      (listed : Lists foreign root environment w₁ catalog (.error e) w') :
      Selects foreign root floor environment catalog w (.error e) w'
  /-- No listed runtime qualifies. -/
  | unqualified {runtimes : List Runtime} {w₁ w₂ w' : World}
      (unpinned : ∀ path, ¬ Runtime.PinnedAt w.files w.directory root environment path)
      (before : Alike w w₁)
      (listed : Lists foreign root environment w₁ catalog (.ok runtimes) w₂)
      (nothing : ∀ other ∈ runtimes, ∀ v, ¬ other.Qualifies Runtime.family floor v)
      (after : Alike w₂ w') :
      Selects foreign root floor environment catalog w (.ok none) w'
  /-- The newest of the listed runtimes decides. -/
  | decided {runtimes : List Runtime} {runtime : Runtime} {version : RuntimeVersion}
      {w₁ w₂ w' : World}
      (unpinned : ∀ path, ¬ Runtime.PinnedAt w.files w.directory root environment path)
      (before : Alike w w₁)
      (listed : Lists foreign root environment w₁ catalog (.ok runtimes) w₂)
      (newest : Runtime.IsNewest Runtime.family floor runtimes runtime version)
      (after : Alike w₂ w') :
      Selects foreign root floor environment catalog w
        (.ok (runtime.installedAt w.files w.directory root)) w'

theorem Returns.selectRuntime {catalog : Catalog} {result : Except BridgeError (Option String)}
    (h : Returns (selectRuntime foreign root floor environment catalog) w result w') :
    Selects foreign root floor environment catalog w result w' := by
  obtain ⟨world, w₀, got, h⟩ := Returns.bind h
  cases got
  obtain ⟨pin, w₁, emitted, h⟩ := Returns.bind h
  obtain ⟨same, before⟩ := emitted.emit
  cases pin with
  | some path =>
    obtain ⟨rfl, rfl⟩ := Returns.pure h
    exact .pinned (Runtime.pinnedDirectory_eq_some.mp same.symm) before
  | none =>
    have unpinned : ∀ path, ¬ Runtime.PinnedAt w.files w.directory root environment path :=
      fun path there => nomatch same.trans (Runtime.pinnedDirectory_eq_some.mpr there)
    obtain ⟨listed, w₂, hl, h⟩ := Returns.bind h
    cases listed with
    | error e =>
      obtain ⟨rfl, rfl⟩ := Returns.pure h
      exact .refused unpinned before hl.listing
    | ok runtimes =>
      obtain ⟨selected, w₃, emitted, h⟩ := Returns.bind h
      obtain ⟨rfl, rfl⟩ := Returns.pure h
      obtain ⟨rfl, after⟩ := emitted.emit
      rw [Runtime.value_listedDirectory]
      cases picked : Runtime.pickLatest runtimes Runtime.family floor with
      | none =>
        exact .unqualified unpinned before hl.listing
          (Runtime.pickLatest_eq_none_iff.mp picked) after
      | some runtime =>
        obtain ⟨version, newest⟩ := Runtime.pickLatest_eq_some_iff.mp picked
        exact .decided unpinned before hl.listing newest after

end Action

/-- The selection goes one of its ways, and the order of a listing has no influence on the version
that is picked. -/
theorem selection_takes_newest (foreign : Foreign) (root : String) (floor : RuntimeVersion)
    (environment : Environment) (catalog : Catalog) (w : World) :
    (∃ result w', Returns (selectRuntime foreign root floor environment catalog) w result w' ∧
      Selects foreign root floor environment catalog w result w') ∧
    ∀ runtimes reordered : List Runtime, runtimes.Perm reordered →
      Runtime.pickedVersion runtimes Runtime.family floor =
        Runtime.pickedVersion reordered Runtime.family floor := by
  refine ⟨?_, fun runtimes reordered same => Runtime.pickedVersion_perm same _ _⟩
  obtain ⟨result, w', selected⟩ :=
    Returns.exists (selectRuntime foreign root floor environment catalog) w
  exact ⟨result, w', selected, selected.selectRuntime⟩

end ManagedHost
