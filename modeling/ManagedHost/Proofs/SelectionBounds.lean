import ManagedHost.Proofs.RuntimeChoice

/-! # Where a selected runtime lies

The directory of a pinned version, and that of the newest listed one, is reached from the directory
of the family below the root by a text that somebody else wrote. A path is resolved by taking its
names one by one, where two dots take the last name back or climb above the start (`Path.Trail`).
Two walks one after the other are one walk (`Trail.foldl_step`), so it can be read off the text
alone whether it leads further down, out of the directory, or out of it and back in
(`Path.liesBelow_join_iff`). -/

namespace ManagedHost

open ManagedHost.Action

namespace Path

/-! ## Paths with their dots resolved -/

/-- Where a walk by names ends: how often it climbed above its start, and the names from there
down. -/
structure Trail where
  climbs : Nat := 0
  names : List String := []
deriving DecidableEq

namespace Trail

/-- One more name. Two dots take the last name back, and climb where there is none. -/
def step (trail : Trail) (name : String) : Trail :=
  if name = "." then trail
  else if name ≠ ".." then { trail with names := trail.names ++ [name] }
  else if trail.names = [] then { trail with climbs := trail.climbs + 1 }
  else { trail with names := trail.names.dropLast }

/-- The walk along names. -/
def along (names : List String) : Trail := names.foldl step {}

/-- One walk, and then another from where the first one ended. -/
def andThen (first second : Trail) : Trail where
  climbs := first.climbs + (second.climbs - first.names.length)
  names := first.names.take (first.names.length - second.climbs) ++ second.names

theorem andThen_empty (first : Trail) : first.andThen {} = first := by
  simp [andThen]

theorem andThen_step (first second : Trail) (name : String) :
    first.andThen (second.step name) = (first.andThen second).step name := by
  unfold step
  by_cases dot : name = "."
  · simp [dot]
  by_cases down : name = ".."
  case neg => simp [dot, down, andThen]
  by_cases taken : second.names = []
  case neg => simp [down, taken, andThen, List.dropLast_append_of_ne_nil]
  -- The second walk climbs, which takes a name of the first one back, if one is left.
  by_cases left : second.climbs < first.names.length
  · have more : first.names.take (first.names.length - second.climbs) ≠ [] := by
      intro none
      have lengths := congrArg List.length none
      simp at lengths
      omega
    have back : (first.names.take (first.names.length - second.climbs)).dropLast =
        first.names.take (first.names.length - (second.climbs + 1)) := by
      rw [List.dropLast_eq_take, List.length_take, List.take_take]
      congr 1
      omega
    simp [down, taken, andThen, more, back]
    omega
  · have none : first.names.length - second.climbs = 0 := by omega
    have none' : first.names.length - (second.climbs + 1) = 0 := by omega
    simp [down, taken, andThen, none, none']
    omega

theorem foldl_step (first : Trail) (names : List String) :
    names.foldl step first = first.andThen (along names) := by
  induction names using List.reverseRecOn with
  | nil => exact (andThen_empty first).symm
  | append_singleton names name ih => simp only [along, List.foldl_append, List.foldl_cons,
      List.foldl_nil, andThen_step] at ih ⊢; rw [ih]

end Trail

/-- A path with its dots resolved, and whether it starts at the root. What is above the root is the
root again. -/
def resolved (path : String) : Bool × Trail :=
  let trail := Trail.along (steps path)
  if isAbsolute path then (true, { trail with climbs := 0 }) else (false, trail)

/-- With all dots resolved, the path goes on below a directory by at least one name. -/
def LiesBelow (path directory : String) : Prop :=
  ∃ name rest, resolved path = ((resolved directory).1,
    { (resolved directory).2 with names := (resolved directory).2.names ++ name :: rest })

/-- A text leads below a directory when it comes back down through the very directories that it
climbs out of, and goes on by at least one name. -/
def LeadsBelow (directory text : String) : Prop :=
  let whole := (resolved directory).2.names
  let trail := Trail.along (steps text)
  (isAbsolute directory = true ∨ trail.climbs ≤ whole.length) ∧
    ∃ name rest, trail.names = whole.drop (whole.length - trail.climbs) ++ name :: rest

/-! ## A text below a directory -/

/-- The directory is written without a slash at its end. -/
structure IsPlain (directory : String) : Prop where
  filled : directory ≠ ""
  last : directory.toList.getLast? ≠ some '/'

variable {directory text : String}

theorem IsPlain.join_eq (plain : IsPlain directory) (relative : isAbsolute text = false) :
    join directory text = directory ++ "/" ++ text := by
  simp [join, relative, plain.filled, plain.last]

theorem IsPlain.steps_join (plain : IsPlain directory) (relative : isAbsolute text = false) :
    steps (join directory text) = steps directory ++ steps text := by
  rw [plain.join_eq relative]
  simp [steps, splitSlash_eq_splitOn, List.splitOn_append_cons_self]

theorem IsPlain.isAbsolute_join (plain : IsPlain directory) (relative : isAbsolute text = false) :
    isAbsolute (join directory text) = isAbsolute directory := by
  have some : directory.toList ≠ [] := by simpa using plain.filled
  obtain ⟨c, cs, same⟩ := List.exists_cons_of_ne_nil some
  rw [plain.join_eq relative]
  simp [isAbsolute, same]

theorem take_append_eq_iff {α : Type} (n : ℕ) (whole more further : List α) :
    whole.take n ++ more = whole ++ further ↔ more = whole.drop n ++ further := by
  conv_lhs => rhs; rw [← List.take_append_drop n whole]
  rw [List.append_assoc, List.append_right_inj]

/-- Whether a text leads below a directory is seen from the text and the names of the directory. -/
theorem liesBelow_join_iff (plain : IsPlain directory) (relative : isAbsolute text = false) :
    LiesBelow (join directory text) directory ↔ LeadsBelow directory text := by
  have trail : Trail.along (steps (join directory text)) =
      (Trail.along (steps directory)).andThen (Trail.along (steps text)) := by
    rw [plain.steps_join relative, Trail.along, List.foldl_append, Trail.foldl_step]
    rfl
  simp only [LiesBelow, LeadsBelow, resolved, plain.isAbsolute_join relative, trail]
  cases isAbsolute directory with
  | true => simp [Trail.andThen, take_append_eq_iff]
  | false =>
    simp [Trail.andThen, take_append_eq_iff]
    omega

theorem Trail.along_forward {names : List String} (forward : ∀ name ∈ names, name ≠ "..") :
    along names = ⟨0, names.filter (· ≠ ".")⟩ := by
  induction names using List.reverseRecOn with
  | nil => rfl
  | append_singleton names name ih =>
    have before := ih fun other there => forward other (List.mem_append_left _ there)
    have last := forward name (by simp)
    by_cases dot : name = "."
    · simpa [along, step, dot] using before
    · simp only [along] at before
      simp [along, step, dot, last, before]

/-- What is known of a directory with a text appended: whether it lies below, and that it does if
the text has a name and never goes up. -/
structure Bounded (directory text : String) : Prop where
  exact : LiesBelow (join directory text) directory ↔ LeadsBelow directory text
  forward : (∀ name ∈ steps text, name ≠ "..") → (∃ name ∈ steps text, name ≠ ".") →
    LiesBelow (join directory text) directory

theorem IsPlain.bounded (plain : IsPlain directory) (relative : isAbsolute text = false) :
    Bounded directory text := by
  have exact := liesBelow_join_iff plain relative
  refine ⟨exact, fun forward named => exact.mpr ?_⟩
  obtain ⟨name, there, named⟩ := named
  have kept : (steps text).filter (· ≠ ".") ≠ [] :=
    List.ne_nil_of_mem (List.mem_filter.mpr ⟨there, by simpa using named⟩)
  obtain ⟨first, rest, same⟩ := List.exists_cons_of_ne_nil kept
  unfold LeadsBelow
  rw [Trail.along_forward forward]
  exact ⟨.inr (Nat.zero_le _), first, rest, by simpa using same⟩

/-- A text may leave the directory and come back. -/
example : LeadsBelow "/net/shared" "../shared/5.0.1" ∧ ¬ LeadsBelow "/net/shared" "5.0.1/.." := by
  constructor
  · exact ⟨.inl (by decide), "5.0.1", [], by decide +kernel⟩
  · rintro ⟨-, name, rest, same⟩
    have none : (Trail.along (steps "5.0.1/..")).names = [] := by decide +kernel
    simp [none] at same

end Path

/-! ## The texts that a selection appends -/

namespace Runtime

theorem isPlain_sharedDirectory (root : String) : Path.IsPlain (sharedDirectory root) := by
  have ends : ∀ base, (Path.join base family).toList.getLast? = some 'p' := by
    intro base
    have relative : Path.isAbsolute family = false := by decide
    unfold Path.join
    rw [relative]
    split
    · decide
    · split <;> simp [family]
  have last := ends (Path.join root "shared")
  constructor
  · intro none
    rw [sharedDirectory] at none
    rw [none] at last
    cases last
  · rw [sharedDirectory, last]
    decide

/-- A text that carries a version starts with a digit. -/
theorem relative_of_written {text : String} {version : RuntimeVersion}
    (written : RuntimeVersion.ofPrefix? text = some version) : Path.isAbsolute text = false := by
  unfold Path.isAbsolute
  cases chars : text.toList with
  | nil => rfl
  | cons c cs =>
    by_cases slash : c = '/'
    · simp [RuntimeVersion.ofPrefix?, RuntimeVersion.ofPrefixChars, RuntimeVersion.takeNumber,
        chars, slash, Text.isDigit] at written
    · simp [slash]

end Runtime

namespace Action

variable {foreign : Foreign} {root : String} {floor : RuntimeVersion} {environment : Environment}
  {catalog : Catalog} {w w' : World}

/-- Where the path of a selected runtime comes from, with the text that was appended to the
directory of the family, if one was. -/
inductive Selected (foreign : Foreign) (root : String) (floor : RuntimeVersion)
    (environment : Environment) (catalog : Catalog) (w : World) : String → Option String → Prop
  | pinned {pin : String} (set : environment.get? Environment.runtimeVersion = some pin)
      (filled : pin ≠ "") :
      Selected foreign root floor environment catalog w
        (Path.join (Runtime.sharedDirectory root) pin) (some pin)
  /-- The version of the listed runtime that was picked is appended. -/
  | versioned {runtimes : List Runtime} {runtime : Runtime} {version : RuntimeVersion}
      {w₁ w₂ : World} (before : Alike w w₁)
      (listed : Lists foreign root environment w₁ catalog (.ok runtimes) w₂)
      (newest : Runtime.IsNewest Runtime.family floor runtimes runtime version)
      (relative : Path.isAbsolute runtime.version = false) :
      Selected foreign root floor environment catalog w
        (Path.join (Runtime.sharedDirectory root) runtime.version) (some runtime.version)
  /-- The listed runtime that was picked is where it was installed to. -/
  | installed {runtimes : List Runtime} {runtime : Runtime} {version : RuntimeVersion}
      {w₁ w₂ : World} (before : Alike w w₁)
      (listed : Lists foreign root environment w₁ catalog (.ok runtimes) w₂)
      (newest : Runtime.IsNewest Runtime.family floor runtimes runtime version) :
      Selected foreign root floor environment catalog w runtime.directory none

theorem Selects.selected {path : String}
    (h : Selects foreign root floor environment catalog w (.ok (some path)) w') :
    ∃ text, Selected foreign root floor environment catalog w path text := by
  generalize result : (Except.ok (some path) : Except BridgeError (Option String)) = r at h
  cases h with
  | pinned pin _ =>
    cases result
    obtain ⟨pin, set, filled, rfl, -⟩ := pin
    exact ⟨some pin, .pinned set filled⟩
  | refused => cases result
  | unqualified => cases result
  | @decided runtimes runtime version _ _ _ _ before listed newest _ =>
    have place := Except.ok.inj result
    unfold Runtime.installedAt at place
    split at place
    · cases place
      exact ⟨_, .versioned before listed newest
        (Runtime.relative_of_written newest.qualifies.written)⟩
    · split at place
      · cases place
        exact ⟨none, .installed before listed newest⟩
      · cases place

end Action

/-- A selected directory is where the picked runtime was installed to, or the directory of the
family with a text appended, and unless that text is an absolute path it can be seen from the text
whether the directory lies below. -/
theorem selection_bounded (foreign : Foreign) (root : String) (floor : RuntimeVersion)
    (environment : Environment) (catalog : Catalog) (w : World) :
    ∃ result w', Returns (selectRuntime foreign root floor environment catalog) w result w' ∧
      ∀ path, result = .ok (some path) →
        ∃ text, Selected foreign root floor environment catalog w path text ∧
          ∀ appended, text = some appended →
            path = Path.join (Runtime.sharedDirectory root) appended ∧
            (Path.isAbsolute appended = false →
              Path.Bounded (Runtime.sharedDirectory root) appended) := by
  obtain ⟨result, w', ran⟩ :=
    Returns.exists (selectRuntime foreign root floor environment catalog) w
  refine ⟨result, w', ran, fun path found => ?_⟩
  subst found
  obtain ⟨text, selected⟩ := ran.selectRuntime.selected
  refine ⟨text, selected, fun appended same => ⟨?_, fun relative => ?_⟩⟩
  · subst same
    cases selected <;> rfl
  · exact (Runtime.isPlain_sharedDirectory root).bounded relative

/-- An installation without runtimes, and a directory that does not belong to it. -/
def outsideFiles : FileSystem where
  entries :=
    [(["net"], .directory), (["net", "shared"], .directory),
      (["net", "shared", "Microsoft.NETCore.App"], .directory), (["etc"], .directory)]

/-- An environment that pins a text which climbs out of the installation. -/
def climbingPin : Environment := ⟨[(Environment.runtimeVersion, "../../../etc")], none⟩

/-- A pinned text that climbs is followed wherever it leads. -/
theorem climbing_pin_selected :
    let foreign : Foreign := fun call => pure call.inertReply
    let path := "/net/shared/Microsoft.NETCore.App/../../../etc"
    ((selectRuntime foreign "/net" .lowest climbingPin (.supplied 0)).run
        { files := outsideFiles }).1 = .ok (some path) ∧
      Path.resolved path = (true, ⟨0, ["etc"]⟩) ∧
      ¬ (Selected foreign "/net" .lowest climbingPin (.supplied 0) { files := outsideFiles } path
          none ∨
        Path.LiesBelow path (Runtime.sharedDirectory "/net")) := by
  intro foreign path
  have place : Path.resolved path = (true, ⟨0, ["etc"]⟩) := by decide +kernel
  have family : Path.resolved (Runtime.sharedDirectory "/net") =
      (true, ⟨0, ["net", "shared", "Microsoft.NETCore.App"]⟩) := by decide +kernel
  -- The catalog lists nothing, so no listed runtime can have been picked.
  have nothing : ∀ {path text}, Selected foreign "/net" .lowest climbingPin (.supplied 0)
      { files := outsideFiles } path text → text ≠ none := by
    intro path text selected
    cases selected with
    | pinned => simp
    | versioned => simp
    | installed _ listed newest =>
      cases listed with
      | supplied call =>
        obtain ⟨same, -⟩ := Returns.pure call
        cases same
        exact absurd newest.mem (by simp)
  refine ⟨by decide +kernel, place, ?_⟩
  rintro (installed | ⟨name, rest, below⟩)
  · exact nothing installed rfl
  · rw [place, family] at below
    simp at below

end ManagedHost
