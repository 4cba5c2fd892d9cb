import ManagedHost.Runtime.Listing

/-! # A listing is read as it was printed

A launcher prints each runtime on a line of its own, with its path in brackets. Whatever the path
holds, blanks behind a line, either line ending and lines that are about no runtime, the listing is
read as the runtimes that were printed (`ofListing_print`). Texts that end with a line feed can be
read one by one (`ofListing_append`), so it is enough to look at one line. -/

namespace ManagedHost

namespace Listing

/-! ## How a listing is printed -/

/-- The text is not empty and is one word of one line. -/
structure IsWord (text : String) : Prop where
  filled : text ≠ ""
  spaceless : ' ' ∉ text.toList
  oneLine : '\n' ∉ text.toList

/-- What is printed of one runtime. -/
structure Item where
  name : String
  version : String
  /-- The directory in which the directory of the version lies. -/
  path : String
  isWord_name : IsWord name
  isWord_version : IsWord version
  oneLine : '\n' ∉ path.toList

namespace Item

def print (item : Item) : String :=
  item.name ++ " " ++ item.version ++ " [" ++ item.path ++ "]"

/-- The runtime that is listed. -/
def runtime (item : Item) : Runtime :=
  ⟨item.name, item.version, Path.join item.path item.version⟩

end Item

/-- A line without its ending. -/
inductive Line where
  /-- A runtime, with blanks behind it. -/
  | about (item : Item) (blanks : String)
      (blank : ∀ c ∈ blanks.toList, Text.isBlank c = true ∧ c ≠ '\n')
  /-- A line that has fewer than two spaces when blanks at its end do not count. -/
  | other (text : String) (oneLine : '\n' ∉ text.toList)
      (short : (Text.trimRight text.toList).count ' ' < 2)

namespace Line

def print : Line → String
  | about item blanks _ => item.print ++ blanks
  | other text _ _ => text

/-- The runtime that the line lists, if it lists one. -/
def runtime? : Line → Option Runtime
  | about item _ _ => some item.runtime
  | other _ _ _ => none

end Line

/-- How a line ends. -/
inductive Ending where
  | feed
  | returnFeed

def Ending.print : Ending → String
  | feed => "\n"
  | returnFeed => "\r\n"

end Listing

/-- What a launcher prints. -/
structure Listing where
  lines : List (Listing.Line × Listing.Ending)
  /-- A last line that has no ending. -/
  last : Option Listing.Line := none

namespace Listing

def print (listing : Listing) : String :=
  String.join (listing.lines.map fun (line, ending) => line.print ++ ending.print) ++
    (listing.last.map Line.print).getD ""

/-- The runtimes that are listed, in their order. -/
def runtimes (listing : Listing) : List Runtime :=
  listing.lines.filterMap (fun (line, _) => line.runtime?) ++
    (listing.last.bind Line.runtime?).toList

end Listing

namespace Runtime

/-! ## Lines -/

theorem splitLines_eq_splitOn (cs : List Char) : splitLines cs = cs.splitOn '\n' := by
  induction cs with
  | nil => rfl
  | cons c cs ih =>
    rw [List.splitOn_cons_eq_if_modifyHead, ← ih]
    by_cases feed : c = '\n'
    · simp [feed, splitLines]
    · obtain ⟨line, lines, same⟩ := List.exists_cons_of_ne_nil (List.splitOn_ne_nil '\n' cs)
      rw [← ih] at same
      simp [splitLines, same, feed]

theorem ofLine?_blank {line : List Char} (blank : ∀ c ∈ line, Text.isBlank c = true) :
    ofLine? line = none := by
  have none : Text.trimRight ([] ++ line) = [] := Text.dropTrailing_append_of_all blank
  rw [List.nil_append] at none
  rw [ofLine?, none]
  rfl

/-- A text that ends with a line feed is read apart from what follows it. -/
theorem ofListing_append {first : String} (ends : first = "" ∨ first.toList.getLast? = some '\n')
    (second : String) : ofListing (first ++ second) = ofListing first ++ ofListing second := by
  have empty : ofLine? [] = none := ofLine?_blank nofun
  rcases ends with rfl | ends
  · simp [ofListing, splitLines, empty]
  · obtain ⟨lines, same⟩ := List.getLast?_eq_some_iff.mp ends
    simp [ofListing, same, splitLines_eq_splitOn, List.splitOn_append_cons_self, empty]

/-! ## Fields -/

theorem splitSpace_eq_some_iff {cs before after : List Char} :
    splitSpace cs = some (before, after) ↔ ' ' ∉ before ∧ cs = before ++ ' ' :: after := by
  induction cs generalizing before with
  | nil => simp [splitSpace]
  | cons c cs ih =>
    by_cases space : c = ' '
    · subst space
      cases before with
      | nil => simp [splitSpace, eq_comm]
      | cons d before =>
        refine iff_of_false (by simp [splitSpace]) ?_
        rintro ⟨plain, same⟩
        obtain ⟨rfl, -⟩ := List.cons.inj same
        exact plain List.mem_cons_self
    · cases before with
      | nil => simp [splitSpace, space]
      | cons d before =>
        have later : splitSpace (c :: cs) = some (d :: before, after) ↔
            splitSpace cs = some (before, after) ∧ c = d := by
          simp [splitSpace]
        rw [later, ih]
        constructor
        · rintro ⟨⟨plain, rfl⟩, rfl⟩
          exact ⟨by simp [plain, Ne.symm space], rfl⟩
        · rintro ⟨plain, same⟩
          obtain ⟨rfl, rfl⟩ := List.cons.inj same
          exact ⟨⟨fun inside => plain (List.mem_cons_of_mem _ inside), rfl⟩, rfl⟩

theorem ofLine?_eq_some_iff {line : List Char} {runtime : Runtime} :
    ofLine? line = some runtime ↔ ∃ name version path, ' ' ∉ name ∧ ' ' ∉ version ∧
      Text.trimRight line = name ++ ' ' :: version ++ ' ' :: path ∧
      runtime = ⟨String.ofList name, String.ofList version,
        Path.join (String.ofList (stripBrackets path)) (String.ofList version)⟩ := by
  unfold ofLine?
  simp only [Option.bind_eq_bind, Option.bind_eq_some_iff, Prod.exists, splitSpace_eq_some_iff,
    Option.pure_def, Option.some.injEq]
  constructor
  · rintro ⟨name, _, ⟨plainName, trimmed⟩, version, path, ⟨plainVersion, rfl⟩, rfl⟩
    exact ⟨name, version, path, plainName, plainVersion, by simpa using trimmed, rfl⟩
  · rintro ⟨name, version, path, plainName, plainVersion, trimmed, rfl⟩
    exact ⟨name, _, ⟨plainName, by simpa using trimmed⟩, version, path, ⟨plainVersion, rfl⟩, rfl⟩

/-- A line with fewer than two spaces lists no runtime. -/
theorem ofLine?_short {line : List Char} (short : (Text.trimRight line).count ' ' < 2) :
    ofLine? line = none := by
  cases read : ofLine? line with
  | none => rfl
  | some runtime =>
    obtain ⟨name, version, path, -, -, trimmed, -⟩ := ofLine?_eq_some_iff.mp read
    rw [trimmed] at short
    simp at short
    omega

theorem stripBrackets_bracketed (path : List Char) :
    stripBrackets ('[' :: path ++ [']']) = path := by
  simp [stripBrackets]

theorem ofLine?_item (item : Listing.Item) {blanks : List Char}
    (blank : ∀ c ∈ blanks, Text.isBlank c = true) :
    ofLine? (item.print.toList ++ blanks) = some item.runtime := by
  have whole : item.print.toList = item.name.toList ++ ' ' :: item.version.toList ++
      ' ' :: ('[' :: item.path.toList ++ [']']) := by
    simp [Listing.Item.print]
  have trimmed : Text.trimRight (item.print.toList ++ blanks) = item.print.toList := by
    have ends : item.print.toList = item.name.toList ++ ' ' :: item.version.toList ++
        ' ' :: '[' :: item.path.toList ++ [']'] := by
      simp [whole]
    rw [Text.trimRight, Text.dropTrailing_append_of_all blank, ends,
      Text.dropTrailing_concat (by decide)]
  refine ofLine?_eq_some_iff.mpr ⟨_, _, _, item.isWord_name.spaceless,
    item.isWord_version.spaceless, trimmed.trans whole, ?_⟩
  rw [stripBrackets_bracketed]
  simp [Listing.Item.runtime]

/-! ## The whole listing -/

theorem ofLine?_print (line : Listing.Line) {blanks : List Char}
    (blank : ∀ c ∈ blanks, Text.isBlank c = true) :
    ofLine? (line.print.toList ++ blanks) = line.runtime? := by
  cases line with
  | about item behind allBlank =>
    rw [Listing.Line.print, String.toList_append, List.append_assoc]
    refine ofLine?_item item fun c inside => ?_
    exact (List.mem_append.mp inside).elim (fun early => (allBlank c early).1) (blank c)
  | other text oneLine short =>
    refine ofLine?_short ?_
    rwa [Text.trimRight, Listing.Line.print, Text.dropTrailing_append_of_all blank]

theorem feed_notMem_print (line : Listing.Line) : '\n' ∉ line.print.toList := by
  cases line with
  | about item blanks blank =>
    have plain : '\n' ∉ blanks.toList := fun feed => (blank '\n' feed).2 rfl
    simp [Listing.Line.print, Listing.Item.print, item.isWord_name.oneLine,
      item.isWord_version.oneLine, item.oneLine, plain]
  | other text oneLine short => exact oneLine

theorem ofListing_last (line : Listing.Line) : ofListing line.print = line.runtime?.toList := by
  have nothing : ∀ c ∈ ([] : List Char), Text.isBlank c = true := nofun
  have read := ofLine?_print line nothing
  rw [List.append_nil] at read
  rw [ofListing, splitLines_eq_splitOn, List.splitOn_eq_singleton (feed_notMem_print line)]
  cases runtime : line.runtime? <;> simp [read, runtime]

/-- A carriage return at the end of a line is blank like anything else that may stand there. -/
theorem ofListing_line (line : Listing.Line) (ending : Listing.Ending) :
    ofListing (line.print ++ ending.print) = line.runtime?.toList := by
  have behind : ∃ blanks, ending.print.toList = blanks ++ ['\n'] ∧
      (∀ c ∈ blanks, Text.isBlank c = true) ∧ '\n' ∉ blanks := by
    cases ending with
    | feed => exact ⟨[], rfl, nofun, nofun⟩
    | returnFeed => exact ⟨['\r'], rfl, List.forall_mem_singleton.mpr rfl, by decide⟩
  obtain ⟨blanks, same, blank, oneLine⟩ := behind
  have whole : (line.print ++ ending.print).toList = line.print.toList ++ blanks ++ '\n' :: [] := by
    simp [same]
  have plain : '\n' ∉ line.print.toList ++ blanks := by
    simp [feed_notMem_print line, oneLine]
  have none : ofLine? [] = none := ofLine?_blank nofun
  rw [ofListing, whole, splitLines_eq_splitOn, List.splitOn_append_cons_self,
    List.splitOn_eq_singleton plain]
  cases runtime : line.runtime? <;> simp [ofLine?_print line blank, runtime, none]

theorem ofListing_print (listing : Listing) : ofListing listing.print = listing.runtimes := by
  obtain ⟨lines, last⟩ := listing
  induction lines with
  | nil =>
    cases last with
    | none => rfl
    | some line => simpa [Listing.print, Listing.runtimes] using ofListing_last line
  | cons first lines ih =>
    obtain ⟨line, ending⟩ := first
    have split : Listing.print ⟨(line, ending) :: lines, last⟩ =
        (line.print ++ ending.print) ++ Listing.print ⟨lines, last⟩ := by
      simp [Listing.print, String.append_assoc]
    have ends : (line.print ++ ending.print).toList.getLast? = some '\n' := by
      cases ending <;> simp [Listing.Ending.print]
    rw [split, ofListing_append (.inr ends), ofListing_line, ih]
    cases runtime : line.runtime? <;> simp [Listing.runtimes, runtime]

/-- A listing is read as what was printed, and two listings one after the other are read one by
one. -/
theorem listing_round_trip :
    (∀ listing : Listing, ofListing listing.print = listing.runtimes) ∧
    ∀ first second : String, first = "" ∨ first.toList.getLast? = some '\n' →
      ofListing (first ++ second) = ofListing first ++ ofListing second :=
  ⟨ofListing_print, fun _ second ends => ofListing_append ends second⟩

/-- A listing with a path that holds spaces and brackets, a line that is about no runtime, and both
endings. -/
def awkwardListing : Listing where
  lines :=
    [(.about
      { name := "Net"
        version := "5.0.11"
        path := "/opt/a b] [c"
        isWord_name := ⟨by decide, by decide, by decide⟩
        isWord_version := ⟨by decide, by decide, by decide⟩
        oneLine := by decide } " \t" (by simp [Text.isBlank]), .returnFeed),
    (.other "nothing here  " (by decide) (by decide), .feed)]

/-- What follows an awkward listing is read as if it stood alone. -/
theorem awkwardListing_read :
    awkwardListing.print.toList.getLast? = some '\n' ∧
      ofListing (awkwardListing.print ++ "Net 6.0.0 [[/opt]]") =
        [⟨"Net", "5.0.11", "/opt/a b] [c/5.0.11"⟩, ⟨"Net", "6.0.0", "[/opt]/6.0.0"⟩] := by
  have ends : awkwardListing.print.toList.getLast? = some '\n' := by decide +kernel
  have last : ofListing "Net 6.0.0 [[/opt]]" = [⟨"Net", "6.0.0", "[/opt]/6.0.0"⟩] := by
    decide +kernel
  have runtimes : awkwardListing.runtimes = [⟨"Net", "5.0.11", "/opt/a b] [c/5.0.11"⟩] := by
    decide +kernel
  obtain ⟨read, append⟩ := listing_round_trip
  refine ⟨ends, ?_⟩
  rw [append _ _ (.inr ends), read, last, runtimes]
  rfl

end Runtime

end ManagedHost
