/-!
White space and trimming. A character is blank when it has the Unicode property White_Space;
trimming removes blank characters at the ends and nothing else.
-/

namespace ManagedHost.Text

/-- A character with the Unicode property White_Space. -/
def isBlank (c : Char) : Bool :=
  let n := c.toNat
  (0x9 ≤ n && n ≤ 0xd) || n == 0x20 || n == 0x85 || n == 0xa0 || n == 0x1680 ||
    (0x2000 ≤ n && n ≤ 0x200a) || n == 0x2028 || n == 0x2029 || n == 0x202f || n == 0x205f ||
    n == 0x3000

def dropTrailing {α : Type} (p : α → Bool) (xs : List α) : List α :=
  (xs.reverse.dropWhile p).reverse

def trimRight (cs : List Char) : List Char := dropTrailing isBlank cs

def trimBoth (cs : List Char) : List Char := trimRight (cs.dropWhile isBlank)

def trimmed (text : String) : String := String.ofList (trimBoth text.toList)

def isBlankText (text : String) : Bool := text.toList.all isBlank

/-- ASCII digits, the only digits that numbers of this library are written with. -/
def isDigit (c : Char) : Bool := '0' ≤ c && c ≤ '9'

/-- The number written by a list of ASCII digits, most significant first. -/
def digitsValue (digits : List Char) : Nat :=
  digits.foldl (fun value c => 10 * value + (c.toNat - '0'.toNat)) 0

theorem digitsValue_eq (digits : List Char) : digitsValue digits = Nat.ofDigitChars 10 digits 0 :=
  Nat.ofDigitChars_eq_foldl.symm

theorem isDigit_toDigits {n : Nat} {c : Char} (member : c ∈ Nat.toDigits 10 n) :
    isDigit c = true :=
  Nat.isDigit_of_mem_toDigits (by decide) (by decide) member

theorem digitsValue_toDigits (n : Nat) : digitsValue (Nat.toDigits 10 n) = n := by
  rw [digitsValue_eq, Nat.ofDigitChars_ten_toDigits]

theorem dropTrailing_append_of_all {α : Type} {p : α → Bool} {xs ys : List α}
    (h : ∀ y ∈ ys, p y = true) : dropTrailing p (xs ++ ys) = dropTrailing p xs := by
  have hr : ∀ zs : List α, (∀ z ∈ zs, p z = true) →
      (zs ++ xs.reverse).dropWhile p = xs.reverse.dropWhile p := by
    intro zs hz
    induction zs with
    | nil => rfl
    | cons z zs ih =>
      have hp : p z = true := hz z (by simp)
      simp [hp, ih fun w hw => hz w (by simp [hw])]
  simp [dropTrailing, hr ys.reverse (by simpa using h)]

theorem dropTrailing_concat {α : Type} {p : α → Bool} {x : α} (h : p x = false) (xs : List α) :
    dropTrailing p (xs ++ [x]) = xs ++ [x] := by
  simp [dropTrailing, h]

end ManagedHost.Text
