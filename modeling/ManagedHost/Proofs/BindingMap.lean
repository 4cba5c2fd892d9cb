import ManagedHost.Json.Records
import ManagedHost.Proofs.BindingText
import Mathlib.Data.Char
import Mathlib.Data.List.TakeWhile

/-! # The bindings can be read from their text

What is written as a JSON object of addresses is read as the same names and addresses in the same
order (`readAddresses_toJson`), whatever characters the names are made of. One round of the reader
of strings takes what was written for one character (`stringRest_writeChar`). -/

namespace ManagedHost

namespace Json

open Reader

/-- From the characters, the reader reads a value and leaves the rest. -/
def Reads {α : Type} (read : Reader α) (cs : List Char) (a : α) (rest : List Char) : Prop :=
  read cs = .ok (a, rest)

theorem Reads.bind_eq {α β : Type} {x : Reader α} {f : α → Reader β} {cs mid : List Char} {a : α}
    (first : Reads x cs a mid) : (x >>= f) cs = f a mid := by
  have split : (x >>= f) cs = x cs >>= fun result => f result.1 result.2 := rfl
  rw [split, show x cs = .ok (a, mid) from first]
  rfl

theorem Reads.bind {α β : Type} {x : Reader α} {f : α → Reader β} {cs mid rest : List Char} {a : α}
    {b : β} (first : Reads x cs a mid) (second : Reads (f a) mid b rest) :
    Reads (x >>= f) cs b rest := first.bind_eq.trans second

/-! ## Strings -/

theorem hexValue?_digitChar : ∀ k : Fin 16, hexValue? (Nat.digitChar k) = some k.val := by decide

theorem controlEscape_eq : ∀ n : Fin 32, controlEscape (Char.ofNat n) =
    ['\\', 'u', '0', '0', Nat.digitChar (n / 16), Nat.digitChar (n % 16)] := by decide

/-- The number of a control character is read as the character. -/
theorem unicodeEscape_control {n : Nat} (control : n < 32) (rest : List Char) :
    Reads unicodeEscape ('0' :: '0' :: Nat.digitChar (n / 16) :: Nat.digitChar (n % 16) :: rest)
      (Char.ofNat n) rest := by
  have high := hexValue?_digitChar ⟨n / 16, by omega⟩
  have low := hexValue?_digitChar ⟨n % 16, by omega⟩
  have zero : hexValue? '0' = some 0 := by decide
  have unit : Reads hexUnit
      ('0' :: '0' :: Nat.digitChar (n / 16) :: Nat.digitChar (n % 16) :: rest) n rest := by
    have value : n / 16 * 16 + n % 16 = n := by omega
    simp only [Reads, hexUnit, zero, high, low, Nat.zero_mul, Nat.zero_add, value]
  refine unit.bind ?_
  rw [if_neg (by simp; omega), if_neg (by simp; omega)]
  rfl

theorem stringRest_writeChar (rounds : Nat) (read : List Char) (c : Char) (rest : List Char) :
    stringRest (rounds + 1) read (writeChar c ++ rest) = stringRest rounds (c :: read) rest := by
  unfold writeChar
  split
  case h_6 quote backslash _ _ _ =>
    have back : Char.ofNat c.toNat = c := Char.ofNat_toNat c
    split_ifs with backspace feed control
    · rw [backspace] at back
      subst back
      rfl
    · rw [feed] at back
      subst back
      rfl
    · have escape := controlEscape_eq ⟨c.toNat, control⟩
      have number := unicodeEscape_control control rest
      rw [back] at escape number
      rw [escape]
      change (unicodeEscape >>= fun e => stringRest rounds (e :: read)) _ = _
      exact number.bind_eq
    · have one : Reads next (c :: rest) (some c) rest := rfl
      rw [List.singleton_append, stringRest, one.bind_eq]
      refine congrFun ?_ rest
      split
      · next none => cases none
      · next same => exact (quote (Option.some.inj same)).elim
      · next same => exact (backslash (Option.some.inj same)).elim
      · next same =>
        cases same
        exact if_neg control
  all_goals rfl

/-- What was written for characters is read as them, given rounds enough. -/
theorem stringRest_written (cs rest : List Char) (rounds : Nat) (read : List Char)
    (enough : cs.length < rounds) :
    Reads (stringRest rounds read) (cs.flatMap writeChar ++ '"' :: rest) (read.reverse ++ cs)
      rest := by
  induction cs generalizing rounds read with
  | nil =>
    obtain ⟨rounds, rfl⟩ : ∃ r, rounds = r + 1 := ⟨rounds - 1, by simp at enough; omega⟩
    rw [List.append_nil]
    rfl
  | cons c cs ih =>
    obtain ⟨rounds, rfl⟩ : ∃ r, rounds = r + 1 := ⟨rounds - 1, by simp at enough; omega⟩
    rw [Reads, List.flatMap_cons, List.append_assoc, stringRest_writeChar]
    have later := ih rounds (c :: read) (by simpa using enough)
    rwa [List.reverse_cons, List.append_assoc] at later

theorem length_writeChar_pos (c : Char) : 0 < (writeChar c).length := by
  unfold writeChar
  split
  case h_6 =>
    split_ifs <;> simp [controlEscape]
  all_goals simp

theorem stringBody_written (name : String) (rest : List Char) :
    Reads stringBody (name.toList.flatMap writeChar ++ '"' :: rest) name rest := by
  have enough : name.toList.length < (name.toList.flatMap writeChar ++ '"' :: rest).length + 1 := by
    have longer : ∀ cs : List Char, cs.length ≤ (cs.flatMap writeChar).length := by
      intro cs
      induction cs with
      | nil => simp
      | cons c cs ih =>
        have one := length_writeChar_pos c
        simp only [List.flatMap_cons, List.length_append, List.length_cons]
        omega
    have := longer name.toList
    simp only [List.length_append]
    omega
  refine Reads.bind (x := get) rfl ?_
  refine (stringRest_written name.toList rest _ [] enough).bind ?_
  rw [List.reverse_nil, List.nil_append, String.ofList_toList]
  rfl

/-! ## Numbers -/

/-- No number but zero is written with a zero first. -/
theorem head_toDigits {n : Nat} (positive : 0 < n) :
    ∃ first more, Nat.toDigits 10 n = first :: more ∧ first ≠ '0' := by
  induction n using Nat.strong_induction_on with
  | h n ih =>
    by_cases small : n < 10
    · refine ⟨n.digitChar, [], Nat.toDigits_of_lt_base small, ?_⟩
      have differs : ∀ k : Fin 10, 0 < k.val → k.val.digitChar ≠ '0' := by decide
      exact differs ⟨n, small⟩ positive
    · obtain ⟨first, more, digits, differs⟩ := ih (n / 10) (by omega) (by omega)
      refine ⟨first, more ++ [(n % 10).digitChar], ?_, differs⟩
      rw [Nat.toDigits_of_base_le (by decide) (by omega), digits, List.cons_append]

theorem not_isSpace_of_isDigit {c : Char} (digit : Text.isDigit c = true) : isSpace c = false := by
  cases space : isSpace c with
  | false => rfl
  | true =>
    simp only [isSpace, Bool.or_eq_true, beq_iff_eq] at space
    rcases space with ((rfl | rfl) | rfl) | rfl <;> cases digit

theorem peekToken_of {c : Char} (token : isSpace c = false) (rest : List Char) :
    Reads peekToken (c :: rest) (some c) (c :: rest) := by
  rw [Reads, peekToken, List.dropWhile_cons_of_neg (by simp [token])]
  rfl

/-- The character ends a number: it is none of those that may go on with one. -/
def EndsNumber (c : Char) : Prop := Text.isDigit c = false ∧ c ≠ '.' ∧ c ≠ 'e' ∧ c ≠ 'E'

theorem digits_toDigits (n : Nat) {stop : Char} (ends : EndsNumber stop) (rest : List Char) :
    Reads digits (Nat.toDigits 10 n ++ stop :: rest) (Nat.toDigits 10 n) (stop :: rest) := by
  have all : ∀ c ∈ Nat.toDigits 10 n, Text.isDigit c = true := fun _ => Text.isDigit_toDigits
  rw [Reads, digits, List.takeWhile_append_of_pos all, List.dropWhile_append_of_pos all,
    List.takeWhile_cons_of_neg (by simp [ends.1]), List.dropWhile_cons_of_neg (by simp [ends.1]),
    List.append_nil]

theorem number_toDigits {n : Nat} (fits : n < Nat.pow 2 64) {stop : Char}
    (ends : EndsNumber stop) (rest : List Char) :
    Reads (number true) (Nat.toDigits 10 n ++ stop :: rest) (.natural n) (stop :: rest) := by
  obtain ⟨first, more, written⟩ :=
    List.exists_cons_of_ne_nil (Nat.toDigits_ne_nil (n := n) (b := 10))
  have digit : Text.isDigit first = true := Text.isDigit_toDigits (n := n) (by rw [written]; simp)
  have canonical : ¬ (first = '0' ∧ 1 < (Nat.toDigits 10 n).length) := by
    rintro ⟨zero, long⟩
    rcases Nat.eq_zero_or_pos n with rfl | positive
    · simp at long
    · obtain ⟨other, _, written', differs⟩ := head_toDigits positive
      rw [written] at written'
      cases written'
      exact differs zero
  have peeked : Reads peek (Nat.toDigits 10 n ++ stop :: rest) (some first)
      (Nat.toDigits 10 n ++ stop :: rest) := by
    rw [written]
    rfl
  unfold number
  refine peeked.bind ?_
  dsimp only
  rw [digit, Bool.not_true, if_neg Bool.false_ne_true]
  refine (digits_toDigits n ends rest).bind ?_
  rw [if_neg (by simpa using canonical), Text.digitsValue_toDigits]
  refine Reads.bind (x := peek) (a := some stop) rfl ?_
  split
  · next same => exact (ends.2.1 (Option.some.inj same)).elim
  · next same => exact (ends.2.2.1 (Option.some.inj same)).elim
  · next same => exact (ends.2.2.2 (Option.some.inj same)).elim
  · rw [Bool.true_and, if_pos (decide_eq_true fits)]
    rfl

theorem natBelow_toDigits {n : Nat} (fits : n < Nat.pow 2 64) {stop : Char}
    (ends : EndsNumber stop) (rest : List Char) :
    Reads (natBelow (Nat.pow 2 64)) (Nat.toDigits 10 n ++ stop :: rest) n (stop :: rest) := by
  obtain ⟨first, more, written⟩ :=
    List.exists_cons_of_ne_nil (Nat.toDigits_ne_nil (n := n) (b := 10))
  have digit : Text.isDigit first = true := Text.isDigit_toDigits (n := n) (by rw [written]; simp)
  have token : Reads peekToken (Nat.toDigits 10 n ++ stop :: rest) (some first)
      (Nat.toDigits 10 n ++ stop :: rest) := by
    rw [written]
    exact peekToken_of (not_isSpace_of_isDigit digit) _
  refine token.bind ?_
  split
  · next none => cases none
  · next same =>
    cases same
    cases digit
  · next same =>
    cases same
    rw [if_pos digit]
    refine (number_toDigits fits ends rest).bind ?_
    dsimp only
    rw [if_pos fits]
    rfl

/-! ## Objects -/

/-- A member of an object of addresses, with what follows it. -/
def writeMember (entry : String × Nat) : List Char :=
  '"' :: entry.1.toList.flatMap writeChar ++ '"' :: ':' :: Nat.toDigits 10 entry.2

/-- The further members, each after a comma. -/
def writeMembers (entries : List (String × Nat)) : List Char :=
  entries.flatMap fun entry => ',' :: writeMember entry

/-- What an object of addresses does with the value of a member. -/
def addressStep (entries : List (String × Nat)) (key : String) : Reader (List (String × Nat)) := do
  colon
  return (key, ← natBelow (Nat.pow 2 64)) :: entries

theorem addressStep_written {entry : String × Nat} (fits : entry.2 < Nat.pow 2 64)
    (entries : List (String × Nat)) {stop : Char} (ends : EndsNumber stop) (rest : List Char) :
    Reads (addressStep entries entry.1) (':' :: Nat.toDigits 10 entry.2 ++ stop :: rest)
      (entry :: entries) (stop :: rest) := by
  have first : Reads colon (':' :: Nat.toDigits 10 entry.2 ++ stop :: rest) ()
      (Nat.toDigits 10 entry.2 ++ stop :: rest) := rfl
  exact first.bind ((natBelow_toDigits fits ends rest).bind rfl)

/-- After a number comes the next member or the end. -/
theorem writeMembers_stop (entries : List (String × Nat)) (rest : List Char) :
    ∃ stop more, writeMembers entries ++ '}' :: rest = stop :: more ∧ EndsNumber stop := by
  cases entries with
  | nil => exact ⟨'}', rest, rfl, by decide, by decide, by decide, by decide⟩
  | cons entry entries => exact ⟨',', _, rfl, by decide, by decide, by decide, by decide⟩

/-- One round takes one member. -/
theorem members_member {entry : String × Nat} (fits : entry.2 < Nat.pow 2 64)
    (read : List (String × Nat)) (rounds : Nat) (isFirst : Bool) {cs more : List Char} {stop : Char}
    (ends : EndsNumber stop)
    (goesOn : Reads (hasMember isFirst) cs true (writeMember entry ++ stop :: more)) :
    members addressStep (rounds + 1) isFirst read cs =
      members addressStep rounds false (entry :: read) (stop :: more) := by
  have opened : Reads advance (writeMember entry ++ stop :: more) ()
      (entry.1.toList.flatMap writeChar ++
        '"' :: (':' :: Nat.toDigits 10 entry.2 ++ stop :: more)) := by
    simp [Reads, advance, writeMember]
  rw [members, goesOn.bind_eq, if_pos rfl, opened.bind_eq, (stringBody_written _ _).bind_eq,
    (addressStep_written fits read ends more).bind_eq]

theorem members_written (entries : List (String × Nat))
    (fits : ∀ entry ∈ entries, entry.2 < Nat.pow 2 64) (read : List (String × Nat)) (rounds : Nat)
    (enough : entries.length < rounds) (rest : List Char) :
    Reads (members addressStep rounds false read) (writeMembers entries ++ '}' :: rest)
      (entries.reverse ++ read) rest := by
  induction entries generalizing read rounds with
  | nil =>
    obtain ⟨rounds, rfl⟩ : ∃ r, rounds = r + 1 := ⟨rounds - 1, by simp at enough; omega⟩
    rfl
  | cons entry entries ih =>
    obtain ⟨rounds, rfl⟩ : ∃ r, rounds = r + 1 := ⟨rounds - 1, by simp at enough; omega⟩
    obtain ⟨stop, more, written, ends⟩ := writeMembers_stop entries rest
    have goesOn : Reads (hasMember false) (writeMembers (entry :: entries) ++ '}' :: rest) true
        (writeMember entry ++ stop :: more) := by
      rw [← written, writeMembers, List.flatMap_cons, List.append_assoc]
      rfl
    rw [Reads, members_member (fits entry List.mem_cons_self) read rounds false ends goesOn,
      ← written]
    have later := ih (fun other member => fits other (List.mem_cons_of_mem _ member))
      (entry :: read) rounds (by simpa using enough)
    rwa [List.reverse_cons, List.append_assoc]

theorem intercalate_members (first : String × Nat) (entries : List (String × Nat)) :
    [','].intercalate ((first :: entries).map writeMember) =
      writeMember first ++ writeMembers entries := by
  induction entries generalizing first with
  | nil => simp [writeMembers]
  | cons second entries ih =>
    rw [List.map_cons, List.map_cons, List.intercalate_cons_cons, ← List.map_cons, ih second,
      List.append_assoc]
    rfl

theorem toList_writeAddresses (entries : List (String × Nat)) :
    (writeAddresses entries).toList =
      '{' :: ([','].intercalate (entries.map writeMember) ++ ['}']) := by
  have member : ∀ entry : String × Nat,
      (writeString entry.1 ++ ":" ++ toString entry.2).toList = writeMember entry := by
    intro entry
    simp [writeString, writeMember]
  have members : ((entries.map fun entry => (entry.1, toString entry.2)).map fun field =>
      writeString field.1 ++ ":" ++ field.2).map String.toList = entries.map writeMember := by
    rw [List.map_map, List.map_map]
    exact List.map_congr_left fun entry _ => member entry
  have opening : "\x7b".toList = ['{'] := rfl
  have closing : "\x7d".toList = ['}'] := rfl
  have comma : ",".toList = [','] := rfl
  rw [← members, writeAddresses, writeObject, String.toList_append, String.toList_append,
    String.toList_intercalate, opening, closing, comma]
  rfl

theorem length_writeMembers (entries : List (String × Nat)) :
    entries.length ≤ (writeMembers entries).length := by
  induction entries with
  | nil => simp
  | cons entry entries ih =>
    rw [writeMembers] at ih ⊢
    simp only [List.flatMap_cons, List.length_append, List.length_cons]
    omega

theorem object_written (entries : List (String × Nat))
    (fits : ∀ entry ∈ entries, entry.2 < Nat.pow 2 64) {cs : List Char}
    (same : cs = [','].intercalate (entries.map writeMember) ++ ['}']) :
    Reads (members addressStep (cs.length + 1) true []) cs entries.reverse [] := by
  subst same
  cases entries with
  | nil => rfl
  | cons first entries =>
    obtain ⟨stop, more, written, ends⟩ := writeMembers_stop entries []
    rw [intercalate_members, List.append_assoc, written]
    have goesOn : Reads (hasMember true) (writeMember first ++ stop :: more) true
        (writeMember first ++ stop :: more) := rfl
    rw [Reads, members_member (fits first List.mem_cons_self) [] _ true ends goesOn, ← written]
    have enough : entries.length <
        (writeMember first ++ (writeMembers entries ++ ['}'])).length := by
      have := length_writeMembers entries
      simp only [List.length_append, List.length_cons]
      omega
    have later := members_written entries
      (fun other member => fits other (List.mem_cons_of_mem _ member)) [first] _ enough []
    rwa [List.reverse_cons]

/-- An object of addresses is read as it was written. -/
theorem readAddresses_writeAddresses {entries : List (String × Nat)}
    (fits : ∀ entry ∈ entries, entry.2 < Nat.pow 2 64) :
    readAddresses (writeAddresses entries) = .ok entries := by
  have read : Reads addressesReader (writeAddresses entries).toList entries [] := by
    rw [toList_writeAddresses]
    refine Reads.bind (x := peekToken) rfl ?_
    refine Reads.bind (x := advance) rfl ?_
    refine Reads.bind (x := get) rfl ?_
    refine (object_written entries fits rfl).bind ?_
    rw [List.reverse_reverse]
    rfl
  rw [readAddresses, readAll, show addressesReader _ = _ from read]
  rfl

end Json

/-- The addresses of all entries are words. -/
def Process.Addressable (p : Process) : Prop :=
  ∀ id < p.adapters.length, Adapter.address id < UInt64.size

namespace Registry

theorem readAddresses_toJson {registry : Registry}
    (fits : ∀ binding ∈ registry, binding.address < UInt64.size) :
    Json.readAddresses registry.toJson = .ok registry.snapshot := by
  refine Json.readAddresses_writeAddresses fun entry member => ?_
  obtain ⟨binding, held, rfl⟩ := List.mem_map.mp member
  exact fits binding held

end Registry

end ManagedHost
