import ManagedHost.Version
import Mathlib.Data.List.TakeWhile

/-! # The grammar of versions

A text starts with a version just when it has the form of one (`StartsWith`): three runs of digits
with dots between, each a number below 2^32, and no digit after the last run. The reader takes each
run greedily, and of all runs that a text starts with, only the greedy one is not followed by a
digit (`takeNumber_eq_some_iff`). Where a text is stored as bytes the digits are counted as
characters and cut off as bytes; that never cuts a character in two, since a digit is one byte, and
reads the same (`run_cutPrefix`). -/

namespace ManagedHost

namespace Text

/-! ## Runs of characters -/

/-- No character of a kind comes first. -/
def NotFirst (p : Char → Bool) (cs : List Char) : Prop := ∀ c, cs.head? = some c → p c = false

variable {p : Char → Bool} {run rest : List Char}

theorem notFirst_cons {c : Char} {cs : List Char} : NotFirst p (c :: cs) ↔ p c = false := by
  simp [NotFirst]

theorem notFirst_dropWhile (p : Char → Bool) (cs : List Char) : NotFirst p (cs.dropWhile p) := by
  intro c first
  have none := List.head?_dropWhile_not p cs
  rwa [first] at none

theorem takeWhile_run (all : ∀ c ∈ run, p c = true) (ends : NotFirst p rest) :
    (run ++ rest).takeWhile p = run := by
  rw [List.takeWhile_append_of_pos all]
  cases rest with
  | nil => simp
  | cons c rest =>
    rw [List.takeWhile_cons_of_neg (by simpa using notFirst_cons.mp ends), List.append_nil]

theorem dropWhile_run (all : ∀ c ∈ run, p c = true) (ends : NotFirst p rest) :
    (run ++ rest).dropWhile p = rest := by
  rw [List.dropWhile_append_of_pos all]
  cases rest with
  | nil => rfl
  | cons c rest => rw [List.dropWhile_cons_of_neg (by simpa using notFirst_cons.mp ends)]

/-! ## Trimmed text -/

/-- The text is what is kept, with blanks around it, and what is kept has none at its ends. -/
def Trims (text kept : String) : Prop :=
  ∃ front back, text.toList = front ++ kept.toList ++ back ∧
    (∀ c ∈ front, isBlank c = true) ∧ (∀ c ∈ back, isBlank c = true) ∧
    NotFirst isBlank kept.toList ∧ NotFirst isBlank kept.toList.reverse

theorem trims_trimmed (text : String) : Trims text (trimmed text) := by
  have kept : (trimmed text).toList = trimRight (text.toList.dropWhile isBlank) := by
    rw [trimmed, String.toList_ofList, trimBoth]
  generalize middle : text.toList.dropWhile isBlank = cs at kept
  have whole : cs = trimRight cs ++ (cs.reverse.takeWhile isBlank).reverse := by
    rw [trimRight, dropTrailing, ← List.reverse_append, List.takeWhile_append_dropWhile,
      List.reverse_reverse]
  refine ⟨text.toList.takeWhile isBlank, (cs.reverse.takeWhile isBlank).reverse, ?_, ?_, ?_, ?_, ?_⟩
  · rw [kept, List.append_assoc, ← whole, ← middle, List.takeWhile_append_dropWhile]
  · exact fun c inside => List.mem_takeWhile_imp inside
  · exact fun c inside => List.mem_takeWhile_imp (List.mem_reverse.mp inside)
  · intro c first
    refine notFirst_dropWhile isBlank text.toList c ?_
    rw [middle, whole, List.head?_append, ← kept, first]
    rfl
  · rw [kept, trimRight, dropTrailing, List.reverse_reverse]
    exact notFirst_dropWhile isBlank _

theorem Trims.trimmed_eq {text kept : String} (h : Trims text kept) : trimmed text = kept := by
  obtain ⟨front, back, whole, blankFront, blankBack, first, last⟩ := h
  suffices trimBoth text.toList = kept.toList by rw [trimmed, this, String.ofList_toList]
  rw [whole, List.append_assoc]
  generalize kept.toList = cs at first last
  cases cs with
  | nil =>
    have all : ∀ c ∈ front ++ back, isBlank c = true := by
      intro c inside
      exact (List.mem_append.mp inside).elim (blankFront c) (blankBack c)
    rw [List.nil_append, trimBoth, List.dropWhile_eq_nil_iff.mpr all]
    rfl
  | cons c cs =>
    have stops : NotFirst isBlank (c :: cs ++ back) := notFirst_cons.mpr (notFirst_cons.mp first)
    rw [trimBoth, dropWhile_run blankFront stops, trimRight, dropTrailing_append_of_all blankBack,
      dropTrailing]
    have nothing : ∀ c ∈ ([] : List Char), isBlank c = true := by simp
    have none := dropWhile_run nothing last
    rw [List.nil_append] at none
    rw [none, List.reverse_reverse]

theorem not_isBlank_of_isDigit {c : Char} (digit : isDigit c = true) : isBlank c = false := by
  simp only [isDigit, Bool.and_eq_true, decide_eq_true_eq] at digit
  have low : 48 ≤ c.toNat := digit.1
  have high : c.toNat ≤ 57 := digit.2
  simp [isBlank]
  omega

/-! ## Texts cut at byte offsets -/

/-- The text in front of a byte offset and the text behind it. There is none where the offset is no
boundary between two characters. -/
def cut? (text : String) (offset : Nat) : Option (String × String) :=
  if h : (String.Pos.Raw.mk offset).IsValid text then
    some ((text.sliceTo (text.pos _ h)).copy, (text.sliceFrom (text.pos _ h)).copy)
  else none

theorem cut?_append (front back : String) :
    cut? (front ++ back) front.utf8ByteSize = some (front, back) := by
  have valid : (String.Pos.Raw.mk front.utf8ByteSize).IsValid (front ++ back) :=
    String.Pos.Raw.isValid_iff_exists_append.mpr ⟨front, back, rfl, rfl⟩
  have splits : ((front ++ back).pos _ valid).Splits front back := ⟨rfl, by simp; rfl⟩
  rw [cut?, dif_pos valid, splits.copy_sliceTo_eq, splits.copy_sliceFrom_eq]

theorem utf8Size_of_isDigit {c : Char} (digit : isDigit c = true) : c.utf8Size = 1 := by
  simp only [isDigit, Bool.and_eq_true, decide_eq_true_eq] at digit
  have high : c.toNat ≤ 57 := digit.2
  have low : c.val.toNat ≤ 127 := high.trans (by decide)
  exact Char.utf8Size_eq_one_iff.mpr low

/-- A run of digits takes as many bytes as it has characters. -/
theorem utf8ByteSize_digits (all : ∀ c ∈ run, isDigit c = true) :
    (String.ofList run).utf8ByteSize = run.length := by
  induction run with
  | nil => rfl
  | cons c run ih =>
    have one := utf8Size_of_isDigit (all c List.mem_cons_self)
    have more := ih fun d inside => all d (List.mem_cons_of_mem c inside)
    rw [String.ofList_cons, String.utf8ByteSize_append, String.utf8ByteSize_singleton, one, more,
      List.length_cons, Nat.add_comm]

/-- A text may be cut behind its first digits, at the offset that is their number. -/
theorem cut?_digits (text : String) :
    cut? text (text.toList.takeWhile isDigit).length =
      some (String.ofList (text.toList.takeWhile isDigit),
        String.ofList (text.toList.dropWhile isDigit)) := by
  have whole : text = String.ofList (text.toList.takeWhile isDigit) ++
      String.ofList (text.toList.dropWhile isDigit) := by
    rw [← String.ofList_append, List.takeWhile_append_dropWhile, String.ofList_toList]
  have digits : ∀ c ∈ text.toList.takeWhile isDigit, isDigit c = true :=
    fun c inside => List.mem_takeWhile_imp inside
  have bytes := utf8ByteSize_digits digits
  have cut := cut?_append (String.ofList (text.toList.takeWhile isDigit))
    (String.ofList (text.toList.dropWhile isDigit))
  rwa [bytes, ← whole] at cut

end Text

namespace RuntimeVersion

open Text

/-! ## The form of a version -/

/-- The run of digits, at least one, writes the number. Leading zeros are allowed. -/
structure Writes (digits : List Char) (number : UInt32) : Prop where
  filled : digits ≠ []
  all : ∀ c ∈ digits, isDigit c = true
  value : Nat.ofDigitChars 10 digits 0 = number.toNat

/-- The text is three runs of digits, which write the numbers of the version, with dots between,
and a rest that no digit starts. -/
def StartsWith (text : String) (version : RuntimeVersion) : Prop :=
  ∃ major minor build rest, text.toList = major ++ '.' :: minor ++ '.' :: build ++ rest ∧
    Writes major version.major ∧ Writes minor version.minor ∧ Writes build version.build ∧
    NotFirst isDigit rest

theorem writes_toDigits (number : UInt32) : Writes (Nat.toDigits 10 number.toNat) number where
  filled := Nat.toDigits_ne_nil
  all _ := isDigit_toDigits
  value := Nat.ofDigitChars_ten_toDigits

theorem takeNumber_eq_some_iff {cs rest : List Char} {number : UInt32} :
    takeNumber cs = some (number, rest) ↔
      ∃ digits, Writes digits number ∧ NotFirst isDigit rest ∧ cs = digits ++ rest := by
  unfold takeNumber
  constructor
  · intro taken
    dsimp only at taken
    split at taken
    · cases taken
    · next good =>
      cases taken
      simp only [Bool.or_eq_true, List.isEmpty_iff, decide_eq_true_eq, not_or, not_le] at good
      refine ⟨cs.takeWhile isDigit, ⟨good.1, fun c inside => List.mem_takeWhile_imp inside, ?_⟩,
        notFirst_dropWhile isDigit cs, List.takeWhile_append_dropWhile.symm⟩
      rw [← digitsValue_eq, UInt32.toNat_ofNat_of_lt' good.2]
  · rintro ⟨digits, written, ends, rfl⟩
    have fits : ¬ Nat.pow 2 32 ≤ number.toNat := not_le.mpr number.toNat_lt
    simp [takeWhile_run written.all ends, dropWhile_run written.all ends, digitsValue_eq,
      written.value, written.filled, fits]

theorem takeDot_eq_some_iff {cs rest : List Char} : takeDot cs = some rest ↔ cs = '.' :: rest := by
  unfold takeDot
  split
  · simp
  · next other =>
    simp only [reduceCtorEq, false_iff]
    exact other rest

theorem ofPrefix?_eq_some_iff {text : String} {version : RuntimeVersion} :
    ofPrefix? text = some version ↔ StartsWith text version := by
  have dotted : ∀ cs, NotFirst isDigit ('.' :: cs) := fun cs => notFirst_cons.mpr rfl
  unfold ofPrefix? ofPrefixChars
  simp only [Option.bind_eq_bind, Option.bind_eq_some_iff, Prod.exists, takeNumber_eq_some_iff,
    takeDot_eq_some_iff, Option.pure_def, Option.some.injEq]
  constructor
  · rintro ⟨_, _, ⟨major, writesMajor, -, whole⟩, _, rfl, _, _, ⟨minor, writesMinor, -, rfl⟩, _,
      rfl, _, rest, ⟨build, writesBuild, ends, rfl⟩, rfl⟩
    exact ⟨major, minor, build, rest, by simpa using whole, writesMajor, writesMinor, writesBuild,
      ends⟩
  · rintro ⟨major, minor, build, rest, whole, writesMajor, writesMinor, writesBuild, ends⟩
    exact ⟨_, _, ⟨major, writesMajor, dotted _, by simpa using whole⟩, _, rfl, _, _,
      ⟨minor, writesMinor, dotted _, rfl⟩, _, rfl, _, rest, ⟨build, writesBuild, ends, rfl⟩, rfl⟩

/-- The greatest number is read and the next one is not, and no digits but the ASCII ones are. -/
example : ofPrefix? "5.00.4294967295é" = some ⟨5, 0, 4294967295⟩ ∧
    ofPrefix? "5.0.4294967296" = none ∧ ofPrefix? "5.0.٣" = none := by
  decide +kernel

theorem toList_display (version : RuntimeVersion) :
    version.display.toList = Nat.toDigits 10 version.major.toNat ++
      '.' :: Nat.toDigits 10 version.minor.toNat ++ '.' :: Nat.toDigits 10 version.build.toNat := by
  simp [display]

theorem startsWith_display (version : RuntimeVersion) {rest : String}
    (ends : NotFirst isDigit rest.toList) : StartsWith (version.display ++ rest) version :=
  ⟨_, _, _, rest.toList, by rw [String.toList_append, toList_display], writes_toDigits _,
    writes_toDigits _, writes_toDigits _, ends⟩

/-- The display of a version starts and ends with a digit. -/
theorem trims_display (version : RuntimeVersion) {front back : String}
    (blankFront : isBlankText front = true) (blankBack : isBlankText back = true) :
    Trims (front ++ version.display ++ back) version.display := by
  have notBlank : ∀ {digits more : List Char}, digits ≠ [] → (∀ c ∈ digits, isDigit c = true) →
      NotFirst isBlank (digits ++ more) := by
    intro digits more filled all
    obtain ⟨c, cs, rfl⟩ := List.exists_cons_of_ne_nil filled
    exact notFirst_cons.mpr (not_isBlank_of_isDigit (all c List.mem_cons_self))
  refine ⟨front.toList, back.toList, by simp, List.all_eq_true.mp blankFront,
    List.all_eq_true.mp blankBack, ?_, ?_⟩
  · rw [toList_display, List.append_assoc]
    exact notBlank (writes_toDigits version.major).filled (writes_toDigits version.major).all
  · rw [toList_display, List.append_cons, List.reverse_append]
    have written := writes_toDigits version.build
    exact notBlank (by simp) (by simpa using written.all)

/-! ## Reading by byte offsets -/

/-- Passes over one dot of a text. -/
def cutDot (text : String) : OptionT Option String :=
  .mk (some ((takeDot text.toList).map String.ofList))

/-- The number of a run of digits, if it is below 2^32. -/
def number? (digits : String) : Option UInt32 :=
  let value := digitsValue digits.toList
  if Nat.pow 2 32 ≤ value then none else some (UInt32.ofNat value)

/-- Counts the digits in front and cuts the text at that many bytes. Of the two options, the outer
one is none where a character would be cut, and the inner one where there is no number. -/
def cutNumber (text : String) : OptionT Option (UInt32 × String) := do
  let count := (text.toList.takeWhile isDigit).length
  if count = 0 then failure
  else
    let (digits, rest) ← OptionT.lift (cut? text count)
    let number ← OptionT.mk (some (number? digits))
    return (number, rest)

/-- The version that a text starts with, read by byte offsets. -/
def cutPrefix (text : String) : OptionT Option RuntimeVersion := do
  let (major, text) ← cutNumber text
  let (minor, text) ← cutNumber (← cutDot text)
  let (build, _) ← cutNumber (← cutDot text)
  return ⟨major, minor, build⟩

/-- Nothing was cut in two so far, and the rest of the reading goes on from what was found. -/
theorem run_bind_of_run {α β : Type} {x : OptionT Option α} {found : Option α}
    (uncut : x.run = some found) (f : α → OptionT Option β) :
    (x >>= f).run = found.elim (some none) fun a => (f a).run := by
  rw [OptionT.run_bind, uncut]
  rfl

theorem run_cutNumber (text : String) : (cutNumber text).run =
    some ((takeNumber text.toList).map fun found => (found.1, String.ofList found.2)) := by
  unfold cutNumber takeNumber
  by_cases none : text.toList.takeWhile isDigit = []
  · simp [none]
  · have cut : (OptionT.lift (cut? text (text.toList.takeWhile isDigit).length)).run = some (some
        (String.ofList (text.toList.takeWhile isDigit),
          String.ofList (text.toList.dropWhile isDigit))) := by
      rw [cut?_digits, OptionT.run_lift]
      rfl
    dsimp only
    rw [if_neg (by simpa using none), run_bind_of_run cut]
    by_cases large : Nat.pow 2 32 ≤ digitsValue (text.toList.takeWhile isDigit)
    · simp [number?, large]
    · simp [number?, none, large]

theorem run_cutDot (cs : List Char) :
    (cutDot (String.ofList cs)).run = some ((takeDot cs).map String.ofList) := by
  rw [cutDot, String.toList_ofList]
  rfl

/-- No cut falls inside a character, and the version that is read is the same. -/
theorem run_cutPrefix (text : String) : (cutPrefix text).run = some (ofPrefix? text) := by
  have number : ∀ cs, (cutNumber (String.ofList cs)).run =
      some ((takeNumber cs).map fun found => (found.1, String.ofList found.2)) := by
    intro cs
    rw [run_cutNumber, String.toList_ofList]
  unfold cutPrefix ofPrefix? ofPrefixChars
  rw [run_bind_of_run (run_cutNumber text)]
  rcases takeNumber text.toList with _ | ⟨major, cs⟩
  · rfl
  dsimp only [Option.map_some, Option.elim_some, Option.bind_eq_bind, Option.bind_some]
  rw [run_bind_of_run (run_cutDot cs)]
  rcases takeDot cs with _ | cs
  · rfl
  dsimp only [Option.map_some, Option.elim_some, Option.bind_some]
  rw [run_bind_of_run (number cs)]
  rcases takeNumber cs with _ | ⟨minor, cs⟩
  · rfl
  dsimp only [Option.map_some, Option.elim_some, Option.bind_some]
  rw [run_bind_of_run (run_cutDot cs)]
  rcases takeDot cs with _ | cs
  · rfl
  dsimp only [Option.map_some, Option.elim_some, Option.bind_some]
  rw [run_bind_of_run (number cs)]
  rcases takeNumber cs with _ | ⟨build, cs⟩ <;> rfl

/-! ## What is read -/

theorem ofPrefix?_eq_none_iff {text : String} :
    ofPrefix? text = none ↔ ∀ version, ¬ StartsWith text version := by
  simp only [Option.eq_none_iff_forall_ne_some, ne_eq, ofPrefix?_eq_some_iff]

theorem parse_of_trims {text kept : String} (trims : Trims text kept) :
    (∀ version, parse text = .ok version ↔ StartsWith kept version) ∧
    ∀ e, parse text = .error e ↔
      e = .invalidVersion text ∧ ∀ version, ¬ StartsWith kept version := by
  unfold parse ofText?
  rw [trims.trimmed_eq]
  cases read : ofPrefix? kept with
  | some version =>
    have starts := ofPrefix?_eq_some_iff.mp read
    refine ⟨fun other => ?_, fun e => iff_of_false nofun fun failed => failed.2 version starts⟩
    rw [← ofPrefix?_eq_some_iff, read]
    simp
  | none =>
    have fails := ofPrefix?_eq_none_iff.mp read
    refine ⟨fun other => iff_of_false nofun (fails other), fun e => ?_⟩
    simp only [Except.error.injEq]
    exact ⟨fun same => ⟨same.symm, fails⟩, fun failed => failed.1.symm⟩

/-- Which texts are read as which versions, from their start and as a whole. -/
theorem version_grammar :
    (∀ text, (cutPrefix text).run = some (ofPrefix? text)) ∧
    (∀ text version, ofPrefix? text = some version ↔ StartsWith text version) ∧
    (∀ text, ofPrefix? text = none ↔ ∀ version, ¬ StartsWith text version) ∧
    (∀ version rest, NotFirst isDigit rest.toList →
      ofPrefix? (version.display ++ rest) = some version) ∧
    (∀ version front back, isBlankText front = true → isBlankText back = true →
      parse (front ++ version.display ++ back) = .ok version) ∧
    ∀ text, ∃ kept, Trims text kept ∧
      (∀ version, parse text = .ok version ↔ StartsWith kept version) ∧
      ∀ e, parse text = .error e ↔
        e = .invalidVersion text ∧ ∀ version, ¬ StartsWith kept version := by
  refine ⟨run_cutPrefix, fun _ _ => ofPrefix?_eq_some_iff, fun _ => ofPrefix?_eq_none_iff, ?_, ?_,
    fun text => ⟨trimmed text, trims_trimmed text, parse_of_trims (trims_trimmed text)⟩⟩
  · intro version rest ends
    exact ofPrefix?_eq_some_iff.mpr (startsWith_display version ends)
  · intro version front back blankFront blankBack
    have ends : NotFirst isDigit "".toList := nofun
    have starts : StartsWith version.display version := by
      simpa using startsWith_display version ends
    exact ((parse_of_trims (trims_display version blankFront blankBack)).1 version).mpr starts

/-- A preview version with zeros in front and wide blanks around it. -/
theorem preview_read :
    NotFirst isDigit "-preview.7".toList ∧
      ofPrefix? ((⟨6, 0, 100⟩ : RuntimeVersion).display ++ "-preview.7") = some ⟨6, 0, 100⟩ ∧
      isBlankText "\u3000\t" = true ∧ isBlankText "\r\n" = true ∧
      parse ("\u3000\t" ++ (⟨6, 0, 100⟩ : RuntimeVersion).display ++ "\r\n") =
        .ok ⟨6, 0, 100⟩ := by
  have ends : NotFirst isDigit "-preview.7".toList := notFirst_cons.mpr rfl
  have front : isBlankText "\u3000\t" = true := by decide
  have back : isBlankText "\r\n" = true := by decide
  obtain ⟨-, -, -, displayed, surrounded, -⟩ := version_grammar
  exact ⟨ends, displayed _ _ ends, front, back, surrounded _ _ _ front back⟩

end RuntimeVersion

end ManagedHost
